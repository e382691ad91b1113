import NetStream.Server.Panics
import NetStream.Server.Writers

/-!
# The commands of the application

The application's commands wait in an unbounded channel, which all actor handles share, until the
broker handles them one at a time. The handlers leave the channel alone, except that a panic closes
it (`Serves`). So what the broker has taken is an initial part of what was given
(`Run.takenCommands_isPrefix`), the channel is open exactly until the broker panics
(`Run.receiverAlive_iff`), and the replies to questions come in the order of the questions
(`Run.replies_eq`).

For one peer, the commands that address it are among these (`heardBy`), and they are what is
commanded to its connection while it is connected (`commandedBy_of_connected`).
-/

namespace NetStream.Server

variable {M : MessageTypes}

/-! ### What is given and what is taken -/

/-- The command that an action gives to the broker, if that still accepts any. -/
def givenCommand? (s : State M) : Action M → Option (Message M)
  | .env (.command msg) => if s.msgReceiver.receiverAlive then some msg else none
  | _ => none

/-- The command in an item. -/
def Incoming.command? : Incoming M → Option (Message M)
  | .actorMessage msg => some msg
  | _ => none

/-- The command that the broker handles in a step. -/
def takenCommand? (s : State M) (a : Action M) : Option (Message M) :=
  (s.incoming? a).bind Incoming.command?

/-- The commands given in a run, in order. -/
def givenCommands (hist : List (State M × Action M)) : List (Message M) :=
  hist.filterMap fun x ↦ givenCommand? x.1 x.2

/-- The commands handled in a run, in order. -/
def takenCommands (hist : List (State M × Action M)) : List (Message M) :=
  hist.filterMap fun x ↦ takenCommand? x.1 x.2

theorem givenCommands_append_singleton (hist : List (State M × Action M)) (s : State M)
    (a : Action M) :
    givenCommands (hist ++ [(s, a)]) = givenCommands hist ++ (givenCommand? s a).toList :=
  List.filterMap_append_singleton _ hist (s, a)

theorem takenCommands_append_singleton (hist : List (State M × Action M)) (s : State M)
    (a : Action M) :
    takenCommands (hist ++ [(s, a)]) = takenCommands hist ++ (takenCommand? s a).toList :=
  List.filterMap_append_singleton _ hist (s, a)

/-- The reply to a command, with the oneshot channel that it goes to. -/
def Message.reply? (peers : HashMap PeerUid Peer) : Message M → Option (ℕ × ℕ)
  | .getNumberOfConnectedPeers tx => some (tx, peers.len)
  | _ => none

/-- The reply that a step gives. -/
def reply? (s : State M) (a : Action M) : Option (ℕ × ℕ) :=
  (takenCommand? s a).bind fun msg ↦ msg.reply? s.peers

/-! ### What a handler does to the channels of the application -/

/-- The broker goes on with the channels as they are, or the last thing it does is to panic. It has
given these replies. -/
inductive Serves (s : State M) (replies : List (ℕ × ℕ)) : State M → Prop
  | goesOn {s' : State M} (hnot : ¬ s'.Panicked) (hmsgs : s'.msgReceiver = s.msgReceiver)
      (hevents : s'.eventSender.senderAlive = s.eventSender.senderAlive)
      (hreplies : s'.replies = s.replies ++ replies) : Serves s replies s'
  | panics {t : State M} (site : PanicSite) (hmsgs : t.msgReceiver = s.msgReceiver)
      (hreplies : t.replies = s.replies ++ replies) : Serves s replies (t.panic site)

namespace Serves

variable {s t : State M} {l : List (ℕ × ℕ)}

/-- Where the phase stays, the broker goes on. -/
theorem same (hnot : ¬ s.Panicked) (hphase : t.phase = s.phase)
    (hmsgs : t.msgReceiver = s.msgReceiver) (hevents : t.eventSender = s.eventSender)
    (hreplies : t.replies = s.replies) : Serves s [] t := by
  refine .goesOn ?_ hmsgs (by rw [hevents]) (by rw [hreplies, List.append_nil])
  rintro ⟨site, hp⟩
  exact hnot ⟨site, hphase ▸ hp⟩

theorem refl (hnot : ¬ s.Panicked) : Serves s [] s :=
  same hnot rfl rfl rfl rfl

theorem panic (s : State M) (site : PanicSite) : Serves s [] (s.panic site) :=
  .panics site rfl (List.append_nil _).symm

/-- An event is emitted last. -/
theorem emit (hnot : ¬ s.Panicked) (hphase : t.phase = s.phase)
    (hmsgs : t.msgReceiver = s.msgReceiver) (hevents : t.eventSender = s.eventSender)
    (hreplies : t.replies = s.replies) (ev : Event M) : Serves s [] (t.emit ev) := by
  unfold State.emit
  split
  · rename_i ch hsend
    obtain ⟨-, rfl⟩ := Channel.trySend_eq_ok_iff.1 hsend
    refine .goesOn ?_ hmsgs ?_ (by rw [List.append_nil]; exact hreplies)
    · rintro ⟨site, hp⟩
      exact hnot ⟨site, hphase ▸ hp⟩
    · show t.eventSender.senderAlive = s.eventSender.senderAlive
      rw [hevents]
  · exact .panics _ hmsgs (by rw [hreplies, List.append_nil])

theorem trans {r s t : State M} (h : Serves r [] s) (hnot : ¬ s.Panicked) (h' : Serves s [] t) :
    Serves r [] t := by
  cases h with
  | goesOn _ hmsgs hevents hreplies =>
    rw [List.append_nil] at hreplies
    cases h' with
    | goesOn hnot' hmsgs' hevents' hreplies' =>
      exact .goesOn hnot' (hmsgs'.trans hmsgs) (hevents'.trans hevents) (by rw [hreplies', hreplies])
    | panics site hmsgs' hreplies' =>
      exact .panics site (hmsgs'.trans hmsgs) (by rw [hreplies', hreplies])
  | panics site _ _ => exact absurd ⟨site, rfl⟩ hnot

theorem insertPeer (s : State M) (p : PeerUid) (peer : Peer) :
    (s.insertPeer p peer).msgReceiver = s.msgReceiver ∧
      (s.insertPeer p peer).replies = s.replies := by
  unfold State.insertPeer
  dsimp only
  split <;> exact ⟨rfl, rfl⟩

theorem announceTcp (hnot : ¬ s.Panicked) (order : List PeerUid) (msg : TcpFromServer M) :
    Serves s [] (Server.announceTcp s order msg) := by
  unfold Server.announceTcp
  induction order generalizing s with
  | nil => exact refl hnot
  | cons p order ih =>
    rw [List.foldl_cons]
    split
    · rename_i peer _
      have hsent : Serves s [] (s.sendTcp peer.tcpWriteActorHandle msg) :=
        same hnot rfl rfl rfl rfl
      exact hsent.trans hnot (ih hnot)
    · exact ih hnot

theorem handleActorMessage (hnot : ¬ s.Panicked) (msg : Message M) (order : List PeerUid)
    (schedule : List (List WriteActor.Step)) :
    Serves s (msg.reply? s.peers).toList (Server.handleActorMessage s msg order schedule) := by
  cases msg with
  | toPeerTcp p msg =>
    simp only [Server.handleActorMessage]
    split <;> exact same hnot rfl rfl rfl rfl
  | toPeerUdp p msg =>
    simp only [Server.handleActorMessage]
    repeat' split
    all_goals exact same hnot rfl rfl rfl rfl
  | announceTcp msg => exact announceTcp hnot order _
  | announceUdp msg => exact same hnot rfl rfl rfl rfl
  | getNumberOfConnectedPeers tx => exact .goesOn hnot rfl rfl rfl

theorem handleNewTcpConnection (hnot : ¬ s.Panicked) (tcpStream : TcpStream) (newV4 : Uuid) :
    Serves s [] (Server.handleNewTcpConnection s tcpStream newV4) := by
  obtain ⟨_ | addr⟩ := tcpStream
  · exact panic s _
  · simp only [Server.handleNewTcpConnection]
    split
    · exact refl hnot
    · split
      · exact panic s _
      · refine emit hnot ?_ ?_ ?_ ?_ _
        · exact State.phase_insertPeer _ _ _
        · exact (insertPeer _ _ _).1
        · exact State.eventSender_insertPeer _ _ _
        · exact (insertPeer _ _ _).2

theorem handleUdpReaderStreamItem (hnot : ¬ s.Panicked) (message : UdpToServer M)
    (addr : SocketAddr) : Serves s [] (Server.handleUdpReaderStreamItem s message addr) := by
  cases message with
  | hello uuid =>
    simp only [Server.handleUdpReaderStreamItem]
    repeat' split
    all_goals exact same hnot rfl rfl rfl rfl
  | applicationLogic m =>
    simp only [Server.handleUdpReaderStreamItem]
    split
    · exact refl hnot
    · exact emit hnot rfl rfl rfl rfl _

theorem handleEndOfStream (hnot : ¬ s.Panicked) (kind : IncomingKind) :
    Serves s [] (Server.handleEndOfStream s kind) := by
  have hassert : ∀ p : PeerUid, Serves s [] (s.assertNotConnected p) := by
    intro p
    unfold State.assertNotConnected
    split
    · exact panic s _
    · exact refl hnot
  rcases kind with _ | _ | ⟨p, (_ | _ | _ | _) | (_ | _)⟩ | ⟨p, (_ | _ | _) | (_ | _)⟩ |
    ⟨(_ | _ | _ | _) | (_ | _)⟩ | ⟨(_ | _ | _) | (_ | _)⟩
  all_goals first
    | exact same hnot rfl rfl rfl rfl
    | exact panic s _
    | exact hassert p

/-- **What the handling of an item does** to the channels of the application. -/
theorem handleIncoming (hnot : ¬ s.Panicked) (incoming : Incoming M) (choice : Choice) :
    Serves s (incoming.command?.bind fun msg ↦ msg.reply? s.peers).toList
      (Server.handleIncoming s incoming choice) := by
  rcases incoming with msg | (_ | tcpStream) | ⟨⟨_ | ⟨m⟩⟩, p⟩ | ⟨_ | msg, addr⟩ | _ | kind
  · exact handleActorMessage hnot msg _ _
  · exact refl hnot
  · exact handleNewTcpConnection hnot tcpStream _
  · exact same hnot rfl rfl rfl rfl
  · exact emit hnot rfl rfl rfl rfl _
  · simp only [Server.handleIncoming]
    split
    · exact same hnot rfl rfl rfl rfl
    · exact refl hnot
  · exact handleUdpReaderStreamItem hnot msg addr
  · exact same hnot rfl rfl rfl rfl
  · exact handleEndOfStream hnot kind

theorem dropPeer (hnot : ¬ s.Panicked) (p : PeerUid) (reason : DisconnectReason) :
    Serves s [] (Server.dropPeer s p reason) := by
  unfold Server.dropPeer
  split
  · exact refl hnot
  · dsimp only
    refine emit hnot ?_ ?_ ?_ ?_ _
    all_goals rfl

theorem dropPeers (hnot : ¬ s.Panicked) (drops : List (PeerUid × DisconnectReason)) :
    Serves s [] (Server.dropPeers s drops) := by
  induction drops generalizing s with
  | nil => exact refl hnot
  | cons x rest ih =>
    have hfirst := dropPeer hnot x.1 x.2
    rw [Server.dropPeers]
    split
    · exact hfirst
    · rename_i hgo
      have hnot' : ¬ (Server.dropPeer s x.1 x.2).Panicked := by
        rintro ⟨site, hp⟩
        exact hgo site hp
      exact hfirst.trans hnot' (ih hnot')

theorem loopTop (s : State M) : Serves s [] (Server.loopTop s) := by
  unfold Server.loopTop
  split
  · exact panic s _
  · have hwait : Serves s [] { s with peersToDrop := [], phase := .waiting } :=
      .goesOn (State.not_panicked_of_waiting rfl) rfl rfl (List.append_nil _).symm
    exact hwait.trans (State.not_panicked_of_waiting rfl)
      (dropPeers (State.not_panicked_of_waiting rfl) _)

variable {s' : State M}

theorem msgReceiver_eq (h : Serves s l s') (hnot : ¬ s'.Panicked) :
    s'.msgReceiver = s.msgReceiver := by
  cases h with
  | goesOn _ hmsgs _ _ => exact hmsgs
  | panics site _ _ => exact absurd ⟨site, rfl⟩ hnot

theorem sent_eq (h : Serves s l s') : s'.msgReceiver.sent = s.msgReceiver.sent := by
  cases h with
  | goesOn _ hmsgs _ _ => rw [hmsgs]
  | @panics t site hmsgs _ =>
    show t.msgReceiver.sent = _
    rw [hmsgs]

theorem taken_eq (h : Serves s l s') : s'.msgReceiver.taken = s.msgReceiver.taken := by
  cases h with
  | goesOn _ hmsgs _ _ => rw [hmsgs]
  | @panics t site hmsgs _ =>
    show t.msgReceiver.taken = _
    rw [hmsgs]

theorem senderAlive_eq (h : Serves s l s') :
    s'.msgReceiver.senderAlive = s.msgReceiver.senderAlive := by
  cases h with
  | goesOn _ hmsgs _ _ => rw [hmsgs]
  | @panics t site hmsgs _ =>
    show t.msgReceiver.senderAlive = _
    rw [hmsgs]

theorem replies_eq (h : Serves s l s') : s'.replies = s.replies ++ l := by
  cases h with
  | goesOn _ _ _ hreplies => exact hreplies
  | panics site _ hreplies => exact hreplies

end Serves

/-- The broker takes commands and emits events exactly as long as it has not panicked. -/
structure State.Serving (s : State M) : Prop where
  commands : s.msgReceiver.receiverAlive = true ↔ ¬ s.Panicked
  events : s.eventSender.senderAlive = true ↔ ¬ s.Panicked

theorem Serves.serving {s s' : State M} {l : List (ℕ × ℕ)} (h : Serves s l s')
    (hmsgs : s.msgReceiver.receiverAlive = true) (hevents : s.eventSender.senderAlive = true) :
    s'.Serving := by
  cases h with
  | goesOn hnot hmsgs' hevents' _ =>
    exact ⟨iff_of_true (by rw [hmsgs', hmsgs]) hnot, iff_of_true (hevents'.trans hevents) hnot⟩
  | @panics t site _ _ =>
    have hp : ¬ ¬ (t.panic site).Panicked := not_not_intro ⟨site, rfl⟩
    exact ⟨iff_of_false Bool.false_ne_true hp, iff_of_false Bool.false_ne_true hp⟩

/-! ### Steps -/

section Step

variable {s s' : State M}

/-- What is taken from the streams, beside a command. -/
theorem State.Taken.msgReceiver {t : State M} {incoming : Incoming M} (h : s.Taken incoming t) :
    t.msgReceiver.sent = s.msgReceiver.sent ∧
      t.msgReceiver.taken = s.msgReceiver.taken ++ incoming.command?.toList ∧
      t.msgReceiver.receiverAlive = s.msgReceiver.receiverAlive ∧
      t.msgReceiver.senderAlive = s.msgReceiver.senderAlive ∧ t.eventSender = s.eventSender ∧ t.replies = s.replies ∧
      t.peers = s.peers := by
  cases h with
  | actorMessage hrecv =>
    obtain ⟨-, htaken, hsent, halive, hsender⟩ := Channel.recv_spec hrecv
    exact ⟨hsent, htaken, halive, hsender, rfl, rfl, rfl⟩
  | actorMessageEnd | tcpListener _ | tcpReader _ _ | tcpReaderEnd _ _ | tcpWriterEnd _ _
  | udpReader _ | udpReaderEnd _ | udpWriterEnd _ | udpHeartbeat =>
    exact ⟨rfl, (List.append_nil _).symm, rfl, rfl, rfl, rfl, rfl⟩

/-- **A step and the application's channels**: what is given, what is taken, and what is replied. -/
structure CommandStep (s : State M) (a : Action M) (s' : State M) : Prop where
  sent : s'.msgReceiver.sent = s.msgReceiver.sent ++ (givenCommand? s a).toList
  taken : s'.msgReceiver.taken = s.msgReceiver.taken ++ (takenCommand? s a).toList
  replies : s'.replies = s.replies ++ (reply? s a).toList
  serving : s.Serving → s'.Serving
  /-- The handles are there as long as they are not dropped. -/
  senderAlive : a ≠ .env .dropHandles →
    s'.msgReceiver.senderAlive = s.msgReceiver.senderAlive

/-- Nothing happens to them. -/
theorem CommandStep.of_eq {a : Action M} (hgiven : givenCommand? s a = none)
    (htaken : takenCommand? s a = none) (hmsgs : s'.msgReceiver = s.msgReceiver)
    (hevents : s'.eventSender = s.eventSender) (hreplies : s'.replies = s.replies)
    (hphase : s'.phase = s.phase) : CommandStep s a s' where
  sent := by rw [hgiven, hmsgs, Option.toList_none, List.append_nil]
  taken := by rw [htaken, hmsgs, Option.toList_none, List.append_nil]
  replies := by rw [reply?, htaken, hreplies, Option.bind_none, Option.toList_none, List.append_nil]
  serving h := by
    have hp : s'.Panicked ↔ s.Panicked := by rw [State.Panicked, State.Panicked, hphase]
    exact ⟨by rw [hmsgs, hp]; exact h.commands, by rw [hevents, hp]; exact h.events⟩
  senderAlive _ := by rw [hmsgs]

theorem State.Serving.of_not_panicked (h : s.Serving) (hnot : ¬ s.Panicked) :
    s.msgReceiver.receiverAlive = true ∧ s.eventSender.senderAlive = true :=
  ⟨h.commands.2 hnot, h.events.2 hnot⟩

theorem commandStep_of_loopTop (hphase : s.phase = .top) :
    CommandStep s .loopTop (Server.loopTop s) where
  sent := by rw [(Serves.loopTop s).sent_eq]; exact (List.append_nil _).symm
  taken := by rw [(Serves.loopTop s).taken_eq]; exact (List.append_nil _).symm
  replies := (Serves.loopTop s).replies_eq
  serving h := by
    obtain ⟨hmsgs, hevents⟩ := h.of_not_panicked (State.not_panicked_of_top hphase)
    exact (Serves.loopTop s).serving hmsgs hevents
  senderAlive _ := (Serves.loopTop s).senderAlive_eq

theorem commandStep_of_next {source : Source} {choice : Choice} {incoming : Incoming M}
    {t : State M} (hphase : s.phase = .waiting) (hr : s.nextIncoming source = some (incoming, t)) :
    CommandStep s (.next source choice)
      (Server.handleIncoming { t with phase := .top } incoming choice) := by
  obtain ⟨hsent, htaken, halive, hsender, hevents, hreplies, hpeers⟩ :=
    (State.taken_of_nextIncoming hr).msgReceiver
  have hcmd : takenCommand? s (.next source choice) = incoming.command? := by
    simp only [takenCommand?, State.incoming?, hr, Option.map_some, Option.bind_some]
  have hserves := Serves.handleIncoming (s := { t with phase := .top })
    (State.not_panicked_of_top rfl) incoming choice
  refine ⟨?_, ?_, ?_, fun h ↦ ?_, fun _ ↦ hserves.senderAlive_eq.trans hsender⟩
  · rw [hserves.sent_eq]
    exact hsent.trans (List.append_nil _).symm
  · rw [hserves.taken_eq, hcmd]
    exact htaken
  · rw [hserves.replies_eq, reply?, hcmd, ← hpeers, ← hreplies]
  · obtain ⟨hmsgs, hev⟩ := h.of_not_panicked (State.not_panicked_of_waiting hphase)
    exact hserves.serving (halive.trans hmsgs) (by rw [← hev, ← hevents])

theorem commandStep_of_env {env : Env M} (hs : s.step (.env env) = some s') :
    CommandStep s (.env env) s' := by
  cases env with
  | command msg =>
    obtain ⟨-, ⟨⟩⟩ := Option.ite_none_right_eq_some.1 hs
    refine ⟨?_, ?_, (List.append_nil _).symm, fun h ↦ ?_, fun _ ↦ Channel.senderAlive_offer⟩
    · show (s.msgReceiver.offer msg).sent = _
      rw [Channel.sent_offer, givenCommand?]
      simp only [Channel.accepts_iff_of_unbounded]
      split
      · rfl
      · exact (List.append_nil _).symm
    · exact Channel.taken_offer.trans (List.append_nil _).symm
    · have halive : (s.msgReceiver.offer msg).receiverAlive = s.msgReceiver.receiverAlive :=
        Channel.receiverAlive_offer
      refine ⟨?_, h.events⟩
      show (s.msgReceiver.offer msg).receiverAlive = true ↔ _
      rw [halive]
      exact h.commands
  | tcpFrame c frame | tcpEnd c =>
    obtain ⟨conn, conn', -, -, rfl⟩ := State.updateConnection_eq_some_iff.1 hs
    exact .of_eq rfl rfl rfl rfl rfl rfl
  | datagram message addr =>
    obtain rfl := Option.some.inj hs
    exact .of_eq rfl rfl rfl rfl rfl rfl
  | dropHandles =>
    obtain rfl := Option.some.inj hs
    exact ⟨(List.append_nil _).symm, (List.append_nil _).symm, (List.append_nil _).symm,
      fun h ↦ ⟨h.commands, h.events⟩, fun hne ↦ absurd rfl hne⟩
  | closeEvents =>
    obtain rfl := Option.some.inj hs
    exact ⟨(List.append_nil _).symm, (List.append_nil _).symm, (List.append_nil _).symm,
      fun h ↦ ⟨h.commands, h.events⟩, fun _ ↦ rfl⟩

theorem State.commandStep {a : Action M} (hs : s.step a = some s') : CommandStep s a s' := by
  cases a with
  | loopTop =>
    obtain ⟨hphase, rfl⟩ := State.eq_loopTop_of_step hs
    exact commandStep_of_loopTop hphase
  | next source choice =>
    obtain ⟨hphase, -, incoming, t, hr, rfl⟩ := State.exists_taken_of_next hs
    exact commandStep_of_next hphase hr
  | task task =>
    cases task with
    | tcpReader c st | tcpWriter c st =>
      obtain ⟨conn, conn', -, -, rfl⟩ := State.updateConnection_eq_some_iff.1 hs
      exact .of_eq rfl rfl rfl rfl rfl rfl
    | udpReader st | udpWriter st =>
      obtain ⟨x, -, rfl⟩ := Option.map_eq_some_iff.1 hs
      exact .of_eq rfl rfl rfl rfl rfl rfl
  | env env => exact commandStep_of_env hs

/-- The event receiver is there as long as it is not closed. -/
theorem State.receiverAlive_of_step {a : Action M} (hs : s.step a = some s')
    (hne : a ≠ .env .closeEvents) : s'.eventSender.receiverAlive = s.eventSender.receiverAlive := by
  have hreg : s'.eventSender.receiverAlive = (s.registry.after (s.op a)).eventsOpen :=
    congrArg Registry.eventsOpen (State.registry_step hs)
  rw [hreg]
  cases hop : s.op a with
  | drop l => exact Registry.dropPeers_eventsOpen _ l
  | accept addr uuid next => exact Registry.emit_eventsOpen _ _
  | tcpMessage msg | udpMessage msg addr => exact Registry.emit_eventsOpen _ _
  | bind p peer uuid addr | idle => rfl
  | closeEvents =>
    refine absurd ?_ hne
    rcases a with _ | ⟨source, choice⟩ | task | env
    · rw [op] at hop
      split at hop <;> cases hop
    · simp only [op] at hop
      split at hop
      · cases hop
      · unfold Registry.incomingOp at hop
        repeat' split at hop
        all_goals cases hop
    · cases hop
    · cases env with
      | closeEvents => rfl
      | _ => cases hop

end Step

/-! ### Runs -/

section Run

variable {hist : List (State M × Action M)} {s : State M}

theorem State.serving_start (profile : Profile) (config : Config) :
    (start profile config : State M).Serving where
  commands := iff_of_true rfl (State.not_panicked_of_top rfl)
  events := iff_of_true rfl (State.not_panicked_of_top rfl)

/-- **The channels are open until the broker panics.** -/
theorem Run.serving (h : Run hist s) : s.Serving := by
  refine TransitionSystem.Run.invariant (T := system M) ?_ ?_ h
  · rintro s ⟨profile, config, rfl⟩
    exact State.serving_start profile config
  · exact fun s a s' hs hstep ↦ (State.commandStep hstep).serving hs

/-- The queue has been given what was given. -/
theorem Run.sent_msgReceiver (h : Run hist s) : s.msgReceiver.sent = givenCommands hist := by
  induction h with
  | start h =>
    obtain ⟨profile, config, rfl⟩ := h
    rfl
  | @next hist s s' a h hs ih =>
    rw [givenCommands_append_singleton, (State.commandStep hs).sent, ih]

/-- The broker has handled what it took. -/
theorem Run.taken_msgReceiver (h : Run hist s) : s.msgReceiver.taken = takenCommands hist := by
  induction h with
  | start h =>
    obtain ⟨profile, config, rfl⟩ := h
    rfl
  | @next hist s s' a h hs ih =>
    rw [takenCommands_append_singleton, (State.commandStep hs).taken, ih]

/-- **Commands are handled in the order in which they are given**, whichever handle they come
through, and each at most once. -/
theorem Run.givenCommands_eq (h : Run hist s) :
    givenCommands hist = takenCommands hist ++ s.msgReceiver.queue := by
  rw [← h.sent_msgReceiver, ← h.taken_msgReceiver, Channel.taken_append_queue]

end Run

/-! ### The commands for one peer -/

/-- The message over TCP that a command has for a peer. -/
def Message.heardBy (p : PeerUid) : Message M → Option M.TcpFromServer
  | .toPeerTcp q msg => if q = p then some msg else none
  | .announceTcp msg => some msg
  | _ => none

namespace Registry

variable {r : Registry M}

/-- A write handle of a connection belongs to the peer with the connection's number. -/
theorem Numbered.writerOf_eq_some_iff (hn : r.Numbered) {p : PeerUid} {c : ℕ} :
    r.writerOf p = some c ↔ p = .ofNat c ∧ r.writerOf (.ofNat c) = some c := by
  constructor
  · intro hp
    obtain ⟨peer, hpeer, rfl⟩ := Option.map_eq_some_iff.1 hp
    obtain ⟨c, -, rfl, -, hwrite⟩ := hn.handles p peer hpeer
    rw [hwrite] at hp ⊢
    exact ⟨rfl, hp⟩
  · rintro ⟨rfl, hc⟩
    exact hc

theorem Numbered.mem_filterMap_writerOf_iff (hn : r.Numbered) {c : ℕ} :
    c ∈ r.peers.keys.val.filterMap r.writerOf ↔ r.writerOf (.ofNat c) = some c := by
  rw [Multiset.mem_filterMap]
  constructor
  · rintro ⟨p, -, hp⟩
    exact (hn.writerOf_eq_some_iff.1 hp).2
  · intro hc
    obtain ⟨peer, hpeer, -⟩ := Option.map_eq_some_iff.1 hc
    exact ⟨_, HashMap.mem_keys_of_get? hpeer, hc⟩

/-- **The application's messages for a connection** are those that the handled command has for its
peer, while the peer is connected. What the broker says by itself is none of them. -/
theorem Numbered.filterMap_application?_commandsFor (hn : r.Numbered) (incoming : Incoming M)
    (newV4 : Uuid) (c : ℕ) : (r.commandsFor incoming newV4 c).filterMap TcpFromServer.application? =
      if r.writerOf (.ofNat c) = some c then
        (incoming.command?.bind (Message.heardBy (.ofNat c))).toList
      else [] := by
  have hquiet : ∀ {l : List (TcpFromServer M)} {m : Option M.TcpFromServer}, m = none →
      l.filterMap TcpFromServer.application? = [] → l.filterMap TcpFromServer.application? =
        if r.writerOf (.ofNat c) = some c then m.toList else [] := by
    rintro l m rfl hl
    rw [hl, Option.toList_none, ite_self]
  unfold commandsFor
  split
  · rename_i p msg
    simp only [Incoming.command?, Option.bind_some, Message.heardBy]
    by_cases hc : r.writerOf (.ofNat c) = some c
    · by_cases hp : p = .ofNat c
      · rw [hp, if_pos hc, if_pos hc, if_pos rfl]
        rfl
      · rw [if_neg fun h ↦ hp (hn.writerOf_eq_some_iff.1 h).1, if_pos hc, if_neg hp]
        rfl
    · rw [if_neg fun h ↦ hc (hn.writerOf_eq_some_iff.1 h).2, if_neg hc]
      rfl
  · rename_i msg
    simp only [hn.mem_filterMap_writerOf_iff, Incoming.command?, Option.bind_some, Message.heardBy]
    split <;> rfl
  · rename_i htcp hann
    refine hquiet ?_ ?_
    · cases incoming with
      | actorMessage msg =>
        cases msg with
        | toPeerTcp p msg => exact absurd rfl (htcp p msg)
        | announceTcp msg => exact absurd rfl (hann msg)
        | toPeerUdp p msg | announceUdp msg | getNumberOfConnectedPeers tx => rfl
      | _ => rfl
    · repeat' split
      all_goals rfl

/-- A peer that is gone is not connected again under its connection. -/
theorem writerOf_of_after {op : Op M} (he : r.Enabled op) {p : PeerUid}
    {c : ℕ} (hlt : c < r.connections.length) (hc : (r.after op).writerOf p = some c) :
    r.writerOf p = some c := by
  have hemit : ∀ (r : Registry M) ev, (r.emit ev).writerOf p = r.writerOf p := by
    intro r ev
    rw [writerOf, emit_peers, writerOf]
  cases op with
  | drop l =>
    refine dropPeers_induction (I := fun r' ↦ r'.writerOf p = some c → r.writerOf p = some c) ?_ id l
      hc
    intro r' q peer reason hr' _ hp
    rw [hemit] at hp
    obtain ⟨peer', hpeer', rfl⟩ := Option.map_eq_some_iff.1 hp
    refine hr' ?_
    rw [writerOf, (HashMap.get?_remove_eq_some_iff.1 hpeer').2, Option.map_some]
  | accept addr uuid next =>
    have hp := (hemit (r.register addr uuid next) _).symm.trans hc
    obtain ⟨peer', hpeer', heq⟩ := Option.map_eq_some_iff.1 hp
    rcases HashMap.get?_insert_eq_some_iff.1 hpeer' with ⟨-, rfl⟩ | ⟨-, hold⟩
    · exact absurd heq (Nat.ne_of_gt hlt)
    · rw [writerOf, hold, Option.map_some, heq]
  | bind q peer uuid addr =>
    obtain ⟨peer', hpeer', heq⟩ := Option.map_eq_some_iff.1 hc
    rcases HashMap.get?_insert_eq_some_iff.1 hpeer' with ⟨rfl, rfl⟩ | ⟨-, hold⟩
    · rw [writerOf, he.2, Option.map_some]
      exact congrArg some heq
    · rw [writerOf, hold, Option.map_some, heq]
  | tcpMessage msg | udpMessage msg addr => exact (hemit r _).symm.trans hc
  | closeEvents | idle => exact hc

end Registry

theorem State.writerOf_of_step {s s' : State M} {a : Action M} (hs : s.step a = some s')
    {p : PeerUid} {c : ℕ} (hlt : c < s.streams.length) (hc : s'.registry.writerOf p = some c) :
    s.registry.writerOf p = some c := by
  rw [State.registry_step hs] at hc
  exact Registry.writerOf_of_after (State.enabled_op hs) (s.length_connections.symm ▸ hlt) hc

/-- The application's messages for a connection, in a step of the server. -/
theorem filterMap_application?_commandedBy {s : State M} (hn : s.registry.Numbered) (a : Action M)
    (c : ℕ) : (commandedBy s a c).filterMap TcpFromServer.application? =
      if s.registry.writerOf (.ofNat c) = some c then
        ((takenCommand? s a).bind (Message.heardBy (.ofNat c))).toList
      else [] := by
  cases a with
  | next source choice =>
    simp only [commandedBy, takenCommand?, State.incoming?]
    cases s.nextIncoming source with
    | none => simp
    | some r => exact hn.filterMap_application?_commandsFor r.1 choice.newV4 c
  | loopTop | task task | env env => simp [commandedBy, takenCommand?, State.incoming?]

/-! ### The commands since a connection was accepted -/

/-- The commands handled before a connection was accepted. -/
def commandsBefore (hist : List (State M × Action M)) (c : ℕ) : List (Message M) :=
  takenCommands (hist.filter fun x ↦ x.1.streams.length ≤ c)

/-- The commands handled since a connection was accepted. -/
def commandsSince (hist : List (State M × Action M)) (c : ℕ) : List (Message M) :=
  takenCommands (hist.filter fun x ↦ c < x.1.streams.length)

section Since

variable {hist : List (State M × Action M)} {s : State M} {c : ℕ}

theorem commandsBefore_append_singleton (hist : List (State M × Action M)) (s : State M)
    (a : Action M) (c : ℕ) : commandsBefore (hist ++ [(s, a)]) c = commandsBefore hist c ++
      if s.streams.length ≤ c then (takenCommand? s a).toList else [] := by
  rw [commandsBefore, List.filter_append]
  by_cases hle : s.streams.length ≤ c
  · rw [List.filter_cons_of_pos (by simpa using hle), List.filter_nil, if_pos hle]
    exact takenCommands_append_singleton _ s a
  · rw [List.filter_cons_of_neg (by simpa using hle), List.filter_nil, if_neg hle, List.append_nil,
      List.append_nil]
    rfl

theorem commandsSince_append_singleton (hist : List (State M × Action M)) (s : State M)
    (a : Action M) (c : ℕ) : commandsSince (hist ++ [(s, a)]) c = commandsSince hist c ++
      if s.streams.length ≤ c then [] else (takenCommand? s a).toList := by
  rw [commandsSince, List.filter_append]
  by_cases hle : s.streams.length ≤ c
  · rw [List.filter_cons_of_neg (by simpa using hle), List.filter_nil, if_pos hle, List.append_nil,
      List.append_nil]
    rfl
  · rw [List.filter_cons_of_pos (by simpa using hle), List.filter_nil,
      if_neg hle]
    exact takenCommands_append_singleton _ s a

/-- Before its acceptance nothing is since then. -/
theorem Run.commandsSince_of_le (h : Run hist s) (hle : s.streams.length ≤ c) :
    commandsSince hist c = [] := by
  have hnone : hist.filter (fun x ↦ c < x.1.streams.length) = [] := by
    rw [List.filter_eq_nil_iff]
    rintro ⟨t, a⟩ hx
    have hmono := h.length_streams_le_of_visited (Or.inr ⟨a, hx⟩)
    simpa using Nat.le_trans hmono hle
  rw [commandsSince, hnone]
  rfl

theorem Run.takenCommands_eq (h : Run hist s) (c : ℕ) :
    takenCommands hist = commandsBefore hist c ++ commandsSince hist c := by
  induction h with
  | start h => rfl
  | @next hist s s' a h hs ih =>
    rw [takenCommands_append_singleton, commandsBefore_append_singleton,
      commandsSince_append_singleton, ih]
    split
    · rename_i hle
      rw [Run.commandsSince_of_le h hle, List.append_nil, List.append_nil, List.append_nil]
    · rw [List.append_nil, List.append_assoc]

/-- A message is commanded before it is handed to the sink, and none is left out where none meets a
full queue. -/
theorem Run.handed_isPrefix (h : Run hist s)
    (hroom : ∀ x ∈ hist, CommandsAdmitted WriteActor.HasRoom x.1 x.2) {c : ℕ} {conn : Connection M}
    (hconn : s.streams[c]? = some conn) : conn.writer.sink.handed <+: commanded hist c :=
  ((Run.writers h WriteActor.offerRule_follows hroom).related c conn hconn).handed_isPrefix

/-- **What the application's commands have for a peer is commanded to its connection**: those
handled since the connection was accepted, in order, until the peer is dropped. -/
theorem Run.application_commanded (h : Run hist s) (c : ℕ) :
    (commanded hist c).filterMap TcpFromServer.application? <+:
        (commandsSince hist c).filterMap (Message.heardBy (.ofNat c)) ∧
      (s.registry.writerOf (.ofNat c) = some c →
        (commanded hist c).filterMap TcpFromServer.application? =
          (commandsSince hist c).filterMap (Message.heardBy (.ofNat c))) := by
  induction h with
  | start h => exact ⟨List.prefix_rfl, fun _ ↦ rfl⟩
  | @next hist s s' a h hs ih =>
    obtain ⟨hinitial, hconnected⟩ := ih
    have hn := Run.numbered h
    rw [commanded_append_singleton, List.filterMap_append, filterMap_application?_commandedBy hn,
      commandsSince_append_singleton]
    by_cases hle : s.streams.length ≤ c
    · -- the connection does not exist yet
      have hnone : s.registry.writerOf (.ofNat c) ≠ some c := by
        intro hc
        have hlt := hn.writerOf_lt hc
        rw [State.length_connections] at hlt
        omega
      rw [if_neg hnone, if_pos hle, Run.commandsSince_of_le h hle, Run.commanded_of_le h hle]
      exact ⟨List.prefix_rfl, fun _ ↦ rfl⟩
    · have hnext : ∀ o : Option (Message M), o.toList.filterMap (Message.heardBy (.ofNat c)) =
          (o.bind (Message.heardBy (.ofNat c))).toList := by
        rintro (_ | msg)
        · rfl
        · exact List.filterMap_append_singleton _ [] msg
      rw [if_neg hle, List.filterMap_append, hnext]
      refine ⟨?_, fun hc ↦ ?_⟩
      · split
        · rename_i hc
          rw [hconnected hc]
        · rw [List.append_nil]
          exact hinitial.trans (List.prefix_append _ _)
      · have hc := State.writerOf_of_step hs (Nat.lt_of_not_le hle) hc
        rw [if_pos hc, hconnected hc]

end Since

end NetStream.Server
