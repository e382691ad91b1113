import NetStream.Client.Backpressure

/-!
# What the client sends over TCP

A message that a handle accepts waits among the commands, is forwarded by the actor, waits among the
commands of the TCP write actor, and is handed to the sink. Each of the two queues is first-in
first-out, so what the write actor was told to send is an initial part of what was accepted
(`Forwarding`), and a message is missing at its end only if it is still queued or if the actor
panicked on it.

When the last handle is gone, the actor takes the end of the commands, which comes after the last
command. From then on nothing is accepted, and all that was accepted has been forwarded
(`Run.items_sent_eq`). The write actor then drains its own queue before it ends, if its sink does
not fail (`Run.flushes`).
-/

namespace NetStream.Client

variable {M : MessageTypes}

/-- The message over TCP that a command is. -/
def Message.tcp? : Message M → Option M.TcpToServer
  | .tcpToServer msg => some msg
  | .udpToServer _ => none
  | .getStatus _ => none

/-- The sink of the TCP write actor fails in this step, or its task ends without having left the
loop. -/
def Action.tcpSinkFails : Action M → Bool
  | .task (.tcpWriter st) => st.fails
  | _ => false

namespace State

/-- The message for which a call of `send_message_tcp` returns `Ok` in a step. -/
def acceptsTcp? (s : State M) : Action M → Option M.TcpToServer
  | .env (.sendMessageTcp handle msg) =>
    match s.sendMessageTcp handle msg with
    | .ok _ => some msg
    | .error _ => none
  | _ => none

/-- What the actor has to forward over TCP of the commands that it has taken. -/
def forwardedTcp (s : State M) : List (TcpToServer M) :=
  (s.msgReceiver.taken.filterMap Message.tcp?).map .applicationLogic

/-- The task is over. -/
def isOver (s : State M) : Bool :=
  match s.phase with
  | .receiving | .sending _ _ | .flushing _ => false
  | .finished | .panicked _ => true

end State

/-- The messages for which `send_message_tcp` returned `Ok`, in that order. -/
def acceptedTcp (hist : List (State M × Action M)) : List M.TcpToServer :=
  hist.filterMap fun x ↦ x.1.acceptsTcp? x.2

theorem acceptedTcp_append_singleton (hist : List (State M × Action M)) (s : State M)
    (a : Action M) : acceptedTcp (hist ++ [(s, a)]) =
      acceptedTcp hist ++ (s.acceptsTcp? a).toList :=
  List.filterMap_append_singleton _ hist (s, a)

namespace State

variable {s s' : State M}

/-! ### The steps that forward nothing -/

/-- The actor goes on, or ends, without a message for its TCP write actor. -/
inductive Idles (s s' : State M) : Prop
  | goes (hcommands : s'.msgReceiver = s.msgReceiver) (hwriter : s'.tcpWriteActor = s.tcpWriteActor)
      (halive : s'.isOver = false)
  | ends (hcommands : s'.msgReceiver = s.msgReceiver.closeReceiver)
      (hwriter : s'.tcpWriteActor = s.tcpWriteActor.dropHandle) (hover : s'.isOver = true)

theorem Idles.of_eq {t : State M} (h : Idles t s') (hcommands : t.msgReceiver = s.msgReceiver)
    (hwriter : t.tcpWriteActor = s.tcpWriteActor) : Idles s s' := by
  rcases h with ⟨hcommands', hwriter', halive⟩ | ⟨hcommands', hwriter', hover⟩
  · exact .goes (hcommands'.trans hcommands) (hwriter'.trans hwriter) halive
  · exact .ends (hcommands ▸ hcommands') (hwriter ▸ hwriter') hover

theorem idles_leave (s : State M) : Idles s s.leave :=
  .ends rfl rfl rfl

theorem idles_panic (s : State M) (site : PanicSite) : Idles s (s.panic site) :=
  .ends rfl rfl rfl

theorem idles_handleUdpReaderItem (h : s.isOver = false) (item : Except UdpError (UdpFromServer M))
    (now : Instant) : Idles s (handleUdpReaderItem s item now) := by
  rcases item with _ | (_ | _ | _)
  · exact s.idles_panic _
  · exact .goes rfl rfl rfl
  all_goals exact .goes rfl rfl h

theorem idles_resume (s : State M) (next : Next M) (now : Instant) :
    Idles s (s.resume next now) := by
  cases next with
  | streams => exact .goes rfl rfl rfl
  | udpItem item => exact (idles_handleUdpReaderItem rfl item now).of_eq rfl rfl

theorem idles_sendFailed (s : State M) (ev : Event M) (next : Next M) (now : Instant) :
    Idles s (s.sendFailed ev next now) := by
  cases ev with
  | tcpMessage _ | udpMessage _ => exact s.idles_leave
  | canSendUdpMessages | canReceiveUdpMessages => exact s.idles_resume next now

/-- Only a message of a handle is forwarded. -/
theorem idles_handleIncoming (h : s.isOver = false) {incoming : Incoming M}
    (hi : ∀ msg, incoming ≠ .actorMessage msg) (now : Instant) :
    Idles s (handleIncoming s incoming now) := by
  rcases incoming with msg | ⟨_ | (_ | _ | _)⟩ | ⟨⟨item⟩⟩ | (_ | _ | _ | _ | _)
  · exact absurd rfl (hi msg)
  · exact s.idles_panic _
  · exact .goes rfl rfl rfl
  · exact .goes rfl rfl h
  · exact .goes rfl rfl rfl
  · show Idles s (handleUdpReader s item now)
    unfold handleUdpReader
    split
    · exact .goes rfl rfl rfl
    · exact idles_handleUdpReaderItem h item now
  · exact s.idles_leave
  all_goals exact .goes rfl rfl h

/-- What the handling of a command does: for a message over TCP the write actor gets it, or the
actor panics. -/
theorem handleActorMessage_cases (h : s.isOver = false) (msg : Message M) :
    (msg.tcp? = none ∧ Idles s (handleActorMessage s msg)) ∨
    ∃ m, msg.tcp? = some m ∧
      (s.tcpWriteActor.actorMsg.Accepts ∧ handleActorMessage s msg =
          { s with tcpWriteActor := s.tcpWriteActor.offer (.send (.applicationLogic m)) } ∨
        ∃ err, handleActorMessage s msg = s.panic (.tcpWriter err)) := by
  cases msg with
  | tcpToServer m =>
    refine Or.inr ⟨m, rfl, ?_⟩
    simp only [handleActorMessage]
    split
    · rename_i writer hsend
      obtain ⟨hacc, rfl⟩ := WriteActor.send_eq_ok_iff.1 hsend
      exact Or.inl ⟨hacc, rfl⟩
    · exact Or.inr ⟨_, rfl⟩
  | udpToServer m =>
    refine Or.inl ⟨rfl, ?_⟩
    simp only [handleActorMessage]
    split
    · exact .goes rfl rfl h
    · exact s.idles_panic _
  | getStatus tx => exact Or.inl ⟨rfl, .goes rfl rfl h⟩

/-! ### The steps beside the actor -/

/-- The actor does not move: the handles may, and then a message may be accepted. -/
structure Beside (s : State M) (a : Action M) (s' : State M) : Prop where
  writer : s'.tcpWriteActor = s.tcpWriteActor
  phase : s'.phase = s.phase
  taken : s'.msgReceiver.taken = s.msgReceiver.taken
  sent : s'.msgReceiver.sent.filterMap Message.tcp? =
    s.msgReceiver.sent.filterMap Message.tcp? ++ (s.acceptsTcp? a).toList
  /-- Without a handle nothing happens to the commands, and there will be no handle. -/
  handles : (∀ i, ¬ s.msgReceiver.HasSender i) →
    s'.msgReceiver.sent = s.msgReceiver.sent ∧ ∀ i, ¬ s'.msgReceiver.HasSender i

/-- The commands do not change at all. -/
theorem Beside.of_eq {a : Action M} (hwriter : s'.tcpWriteActor = s.tcpWriteActor)
    (hphase : s'.phase = s.phase) (hcommands : s'.msgReceiver = s.msgReceiver)
    (ha : s.acceptsTcp? a = none) : Beside s a s' where
  writer := hwriter
  phase := hphase
  taken := by rw [hcommands]
  sent := by rw [hcommands, ha, Option.toList_none, List.append_nil]
  handles hnone := by
    rw [hcommands]
    exact ⟨rfl, hnone⟩

/-- A call through a handle. -/
theorem Beside.called {α : Type} {a : Action M} {handle : ℕ} {msg : Message M} {back : α}
    (hhandle : s.msgReceiver.HasSender handle)
    (hmsg : s.acceptsTcp? a = if (s.trySend handle msg back).isOk then msg.tcp? else none) :
    Beside s a (s.called (s.trySend handle msg back)) := by
  have hsome : (∀ i, ¬ s.msgReceiver.HasSender i) → False := fun hnone ↦ hnone handle hhandle
  unfold trySend at hmsg ⊢
  split at hmsg
  · rename_i ch hsend
    obtain ⟨hsent, htaken, -⟩ := SharedChannel.trySend_spec hsend
    refine ⟨rfl, rfl, htaken, ?_, fun hnone ↦ (hsome hnone).elim⟩
    show ch.sent.filterMap Message.tcp? = _
    rw [hmsg, hsent]
    exact List.filterMap_append_singleton _ _ msg
  · exact .of_eq rfl rfl rfl hmsg
  · exact .of_eq rfl rfl rfl hmsg

theorem beside_envStep {env : Env M} (h : s.envStep env = some s') : Beside s (.env env) s' := by
  cases envMoves_of_envStep h with
  | sendMessageTcp hhandle =>
    refine .called hhandle ?_
    simp only [acceptsTcp?, sendMessageTcp]
    split <;> rename_i hcall <;> rw [hcall] <;> rfl
  | sendMessageUdp hhandle | getStatus hhandle => exact .called hhandle (ite_self none).symm
  | cloneHandle hhandle =>
    exact ⟨rfl, rfl, rfl, (List.append_nil _).symm, fun hnone ↦ absurd hhandle (hnone _)⟩
  | dropHandle =>
    exact ⟨rfl, rfl, rfl, (List.append_nil _).symm,
      fun hnone ↦ ⟨rfl, fun i hi ↦ hnone i hi.of_dropSender⟩⟩
  | tcpFrame _ | tcpEnd | datagram | takeEvent _ | closeEvents => exact .of_eq rfl rfl rfl rfl

/-! ### What a step forwards -/

/-- Taking an item other than a command leaves the commands alone. -/
theorem Taken.commands {incoming : Incoming M} {t : State M} (h : s.Taken incoming t) :
    (∃ msg ch, incoming = .actorMessage msg ∧ s.msgReceiver.recv = some (msg, ch) ∧
      t = { s with msgReceiver := ch }) ∨
    ((∀ msg, incoming ≠ .actorMessage msg) ∧ t.msgReceiver = s.msgReceiver ∧
      t.tcpWriteActor = s.tcpWriteActor ∧ t.isOver = s.isOver) := by
  cases h with
  | actorMessage hrecv => exact Or.inl ⟨_, _, rfl, hrecv, rfl⟩
  | _ =>
    refine Or.inr ⟨fun msg h ↦ ?_, rfl, rfl, rfl⟩
    cases h

/-- **What a step does to the commands and to the TCP write actor**: the actor takes a command, or
takes any other step; the write actor takes a step; or neither moves. -/
theorem forwarding_cases {a : Action M} (h : s.step a = some s') :
    (∃ msg ch, s.acceptsTcp? a = none ∧ s.phase = .receiving ∧
      s.msgReceiver.recv = some (msg, ch) ∧
      s' = handleActorMessage { s with msgReceiver := ch } msg) ∨
    (s.acceptsTcp? a = none ∧ s.isOver = false ∧ Idles s s') ∨
    (∃ st writer, a = .task (.tcpWriter st) ∧ s.tcpWriteActor.step st = some writer ∧
      s' = { s with tcpWriteActor := writer }) ∨
    Beside s a s' := by
  have hopen : ∀ {ph : Phase M}, s.phase = ph →
      ({ s with phase := ph } : State M).isOver = false → s.isOver = false := by
    rintro ph rfl ho
    exact ho
  rcases step_cases h with ⟨source, now, incoming, t, rfl, hphase, hr, rfl⟩ |
    ⟨now, ev, next, rfl, hphase, ⟨-, rfl⟩ | ⟨-, rfl⟩⟩ | ⟨now, next, rfl, hphase, rfl⟩ |
    ⟨task, rfl, htask⟩ | ⟨env, rfl, henv⟩
  · have hwait : s.isOver = false := hopen hphase rfl
    rcases (taken_of_nextIncoming hr).commands with ⟨msg, ch, rfl, hrecv, rfl⟩ |
      ⟨hother, hcommands, hwriter, hover⟩
    · exact Or.inl ⟨msg, ch, rfl, hphase, hrecv, rfl⟩
    · have hidle := idles_handleIncoming (hover.trans hwait) hother now
      exact Or.inr (Or.inl ⟨rfl, hwait, hidle.of_eq hcommands hwriter⟩)
  · exact Or.inr (Or.inl ⟨rfl, hopen hphase rfl, .goes rfl rfl rfl⟩)
  · exact Or.inr (Or.inl ⟨rfl, hopen hphase rfl, s.idles_sendFailed ev next now⟩)
  · exact Or.inr (Or.inl ⟨rfl, hopen hphase rfl, s.idles_resume next now⟩)
  · cases task with
    | tcpWriter st =>
      obtain ⟨writer, hwriter, rfl⟩ := Option.map_eq_some_iff.1 htask
      exact Or.inr (Or.inr (Or.inl ⟨st, writer, rfl, hwriter, rfl⟩))
    | tcpReader st | udpReader st | udpWriter st =>
      obtain ⟨_, -, rfl⟩ := Option.map_eq_some_iff.1 htask
      exact Or.inr (Or.inr (Or.inr (.of_eq rfl rfl rfl rfl)))
  · exact Or.inr (Or.inr (Or.inr (beside_envStep henv)))

/-- **What a step does to the TCP write actor.** -/
theorem tcpWriteActor_cases {a : Action M} (h : s.step a = some s') :
    s'.tcpWriteActor = s.tcpWriteActor ∨
    (s.isOver = false ∧ s'.tcpWriteActor = s.tcpWriteActor.dropHandle) ∨
    (s.isOver = false ∧ ∃ msg, s'.tcpWriteActor = s.tcpWriteActor.offer (.send msg)) ∨
    (∃ st, a = .task (.tcpWriter st) ∧ s.tcpWriteActor.step st = some s'.tcpWriteActor) := by
  have hidles : ∀ {t : State M}, t.tcpWriteActor = s.tcpWriteActor → Idles t s' →
      s'.tcpWriteActor = s.tcpWriteActor ∨ s'.tcpWriteActor = s.tcpWriteActor.dropHandle := by
    rintro t ht (⟨-, hwriter, -⟩ | ⟨-, hwriter, -⟩)
    · exact Or.inl (hwriter.trans ht)
    · exact Or.inr (ht ▸ hwriter)
  rcases forwarding_cases h with ⟨msg, ch, -, hphase, -, rfl⟩ | ⟨-, hwait, hi⟩ |
    ⟨st, writer, rfl, hwriter, rfl⟩ | hb
  · have hwait : s.isOver = false := by
      rw [isOver, hphase]
    rcases handleActorMessage_cases (s := { s with msgReceiver := ch }) hwait msg with
      ⟨-, hidle⟩ | ⟨m, -, ⟨-, heq⟩ | ⟨err, heq⟩⟩
    · exact (hidles (t := { s with msgReceiver := ch }) rfl hidle).imp_right fun h ↦
        Or.inl ⟨hwait, h⟩
    · exact Or.inr (Or.inr (Or.inl ⟨hwait, .applicationLogic m, by rw [heq]⟩))
    · exact Or.inr (Or.inl ⟨hwait, by rw [heq]; rfl⟩)
  · exact (hidles rfl hi).imp_right fun h ↦ Or.inl ⟨hwait, h⟩
  · exact Or.inr (Or.inr (Or.inr ⟨st, rfl, hwriter⟩))
  · exact Or.inl hb.writer

/-- The write actor takes its commands in order. -/
theorem taken_isPrefix_of_step {a : Action M} (h : s.step a = some s') :
    s.tcpWriteActor.actorMsg.taken <+: s'.tcpWriteActor.actorMsg.taken := by
  rcases tcpWriteActor_cases h with hwriter | ⟨-, hwriter⟩ | ⟨-, msg, hwriter⟩ | ⟨st, -, hwriter⟩
  · exact hwriter ▸ List.prefix_rfl
  · exact hwriter ▸ List.prefix_rfl
  · have htaken : s'.tcpWriteActor.actorMsg.taken = s.tcpWriteActor.actorMsg.taken :=
      hwriter ▸ Channel.taken_offer
    exact htaken ▸ List.prefix_rfl
  · exact WriteActor.taken_isPrefix_of_step hwriter

/-! ### What has been forwarded -/

/-- **What the TCP write actor was told to send** goes with what was accepted. -/
structure Forwarding (s : State M) (accepted : List M.TcpToServer) : Prop where
  commands : s.msgReceiver.sent.filterMap Message.tcp? = accepted
  tracks : s.tcpWriteActor.Tracks
  queued : WriteActor.items s.tcpWriteActor.actorMsg.sent <+: s.forwardedTcp
  /-- The actor has dropped nothing, unless it has panicked on it. -/
  all : (∀ site, s.phase ≠ .panicked site) →
    WriteActor.items s.tcpWriteActor.actorMsg.sent = s.forwardedTcp
  handle : s.isOver = false → s.tcpWriteActor.actorMsg.senderAlive = true

theorem not_panicked_of_isOver (h : s.isOver = false) (site : PanicSite) :
    s.phase ≠ .panicked site := by
  intro hphase
  rw [isOver, hphase] at h
  exact Bool.noConfusion h

variable {accepted : List M.TcpToServer}

theorem forwarding_start : (start : State M).Forwarding [] where
  commands := rfl
  tracks := WriteActor.tracks_spawnActor
  queued := List.prefix_rfl
  all _ := rfl
  handle _ := rfl

namespace Forwarding

/-- Nothing is forwarded, and the actor may end. -/
theorem idles (h : s.Forwarding accepted) (hwait : s.isOver = false) (hi : Idles s s') :
    s'.Forwarding accepted := by
  have hall := h.all (not_panicked_of_isOver hwait)
  rcases hi with ⟨hcommands, hwriter, -⟩ | ⟨hcommands, hwriter, hover⟩
  · have hsame : s'.forwardedTcp = s.forwardedTcp := by
      rw [forwardedTcp, hcommands, forwardedTcp]
    refine ⟨hcommands ▸ h.commands, hwriter ▸ h.tracks, ?_, fun _ ↦ ?_, fun _ ↦ ?_⟩
    · rw [hwriter, hsame]
      exact h.queued
    · rw [hwriter, hsame, hall]
    · rw [hwriter]
      exact h.handle hwait
  · have hsame : s'.forwardedTcp = s.forwardedTcp := by
      rw [forwardedTcp, hcommands]
      rfl
    refine ⟨hcommands ▸ h.commands, hwriter ▸ h.tracks.dropHandle, ?_, fun _ ↦ ?_,
      fun hopen ↦ absurd (hopen.symm.trans hover) Bool.noConfusion⟩
    · rw [hwriter, hsame]
      exact h.queued
    · rw [hwriter, hsame]
      exact hall

/-- A command is taken and handled. -/
theorem command (h : s.Forwarding accepted) (hphase : s.phase = .receiving) {msg : Message M}
    {ch : SharedChannel 32 (Message M)} (hrecv : s.msgReceiver.recv = some (msg, ch)) :
    (handleActorMessage { s with msgReceiver := ch } msg).Forwarding accepted := by
  obtain ⟨hsent, htaken, -⟩ := SharedChannel.recv_spec hrecv
  have hwait : s.isOver = false := by
    rw [isOver, hphase]
  have hall := h.all (not_panicked_of_isOver hwait)
  have hforwarded : ({ s with msgReceiver := ch } : State M).forwardedTcp =
      s.forwardedTcp ++ (msg.tcp?.map TcpToServer.applicationLogic).toList := by
    show (ch.taken.filterMap Message.tcp?).map _ = _
    rw [htaken, List.filterMap_append_singleton, List.map_append, forwardedTcp]
    cases msg.tcp? <;> rfl
  have hcommands : ch.sent.filterMap Message.tcp? = accepted := hsent ▸ h.commands
  rcases handleActorMessage_cases (s := { s with msgReceiver := ch }) hwait msg with
    ⟨hmsg, hidle⟩ | ⟨m, hmsg, ⟨hacc, heq⟩ | ⟨err, heq⟩⟩
  · rw [hmsg, Option.map_none, Option.toList_none, List.append_nil] at hforwarded
    have hqueued : ({ s with msgReceiver := ch } : State M).Forwarding accepted :=
      ⟨hcommands, h.tracks, hforwarded ▸ h.queued, fun _ ↦ hforwarded ▸ hall, h.handle⟩
    exact hqueued.idles hwait hidle
  · rw [hmsg, Option.map_some, Option.toList_some] at hforwarded
    have hitems : WriteActor.items (s.tcpWriteActor.offer
        (.send (.applicationLogic m))).actorMsg.sent = s.forwardedTcp ++ [.applicationLogic m] := by
      rw [WriteActor.actorMsg_offer, Channel.sent_offer, if_pos hacc, WriteActor.items_append, hall]
      rfl
    rw [heq]
    refine ⟨hcommands, h.tracks.offer _, ?_, fun _ ↦ ?_, fun _ ↦ ?_⟩
    · exact (hitems.trans hforwarded.symm) ▸ List.prefix_rfl
    · exact hitems.trans hforwarded.symm
    · exact Channel.senderAlive_offer.trans (h.handle hwait)
  · -- the message on which the actor panics is taken, but not forwarded
    rw [heq]
    refine ⟨hcommands, h.tracks.dropHandle, ?_, fun hnot ↦ absurd rfl (hnot _), nofun⟩
    refine h.queued.trans ?_
    exact hforwarded ▸ List.prefix_append _ _

/-- The actor does not move. -/
theorem beside {a : Action M} (h : s.Forwarding accepted) (hb : Beside s a s') :
    s'.Forwarding (accepted ++ (s.acceptsTcp? a).toList) := by
  have hsame : s'.forwardedTcp = s.forwardedTcp := by
    rw [forwardedTcp, hb.taken, forwardedTcp]
  refine ⟨?_, hb.writer ▸ h.tracks, ?_, fun hnot ↦ ?_, fun hopen ↦ ?_⟩
  · rw [hb.sent, h.commands]
  · rw [hb.writer, hsame]
    exact h.queued
  · rw [hb.writer, hsame]
    exact h.all (hb.phase ▸ hnot)
  · rw [hb.writer]
    refine h.handle ?_
    rwa [isOver, hb.phase] at hopen

/-- **What every step keeps.** -/
theorem step (h : s.Forwarding accepted) {a : Action M} (hs : s.step a = some s') :
    s'.Forwarding (accepted ++ (s.acceptsTcp? a).toList) := by
  rcases forwarding_cases hs with ⟨msg, ch, hnone, hphase, hrecv, rfl⟩ | ⟨hnone, hwait, hi⟩ |
    ⟨st, writer, rfl, hwriter, rfl⟩ | hb
  · rw [hnone, Option.toList_none, List.append_nil]
    exact h.command hphase hrecv
  · rw [hnone, Option.toList_none, List.append_nil]
    exact h.idles hwait hi
  · have hsent := WriteActor.sent_step hwriter
    refine ⟨?_, h.tracks.step hwriter, ?_, fun hnot ↦ ?_, fun hopen ↦ ?_⟩
    · exact h.commands.trans (List.append_nil _).symm
    · exact hsent ▸ h.queued
    · exact hsent ▸ h.all hnot
    · exact (WriteActor.senderAlive_of_step hwriter).trans (h.handle hopen)
  · exact h.beside hb

/-- The items queued are messages that were accepted. -/
theorem items_isPrefix (h : s.Forwarding accepted) :
    WriteActor.items s.tcpWriteActor.actorMsg.sent <+: accepted.map .applicationLogic := by
  refine h.queued.trans ?_
  rw [← h.commands, forwardedTcp, ← SharedChannel.taken_append_queue, List.filterMap_append,
    List.map_append]
  exact List.prefix_append _ _

/-- Without its handle the write actor is told nothing more. -/
theorem dropped (h : s.Forwarding accepted)
    (hdropped : s.tcpWriteActor.actorMsg.senderAlive = false) {a : Action M}
    (hs : s.step a = some s') : s'.tcpWriteActor.actorMsg.senderAlive = false ∧
      s'.tcpWriteActor.actorMsg.sent = s.tcpWriteActor.actorMsg.sent := by
  have hover : s.isOver ≠ false := fun hopen ↦
    Bool.false_ne_true (hdropped.symm.trans (h.handle hopen))
  rcases tcpWriteActor_cases hs with hwriter | ⟨hopen, -⟩ | ⟨hopen, -⟩ | ⟨st, -, hwriter⟩
  · rw [hwriter]
    exact ⟨hdropped, rfl⟩
  · exact absurd hopen hover
  · exact absurd hopen hover
  · exact ⟨(WriteActor.senderAlive_of_step hwriter).trans hdropped, WriteActor.sent_step hwriter⟩

end Forwarding

/-! ### The end of the commands -/

/-- The actor has ended because there is no handle, with nothing left of the commands. -/
structure Deserted (s : State M) : Prop where
  noHandle : ∀ i, ¬ s.msgReceiver.HasSender i
  drained : s.msgReceiver.taken = s.msgReceiver.sent
  finished : s.phase = .finished

/-- Taking the end of the commands ends the actor. -/
theorem deserted_of_step {now : Instant} (h : s.step (.next .actorMessageEnd now) = some s') :
    s'.Deserted := by
  simp only [State.step] at h
  split at h
  · obtain ⟨r, hr, rfl⟩ := Option.map_eq_some_iff.1 h
    simp only [nextIncoming] at hr
    split at hr
    · rename_i hend
      obtain rfl := Option.some.inj hr
      rw [Bool.and_eq_true, Bool.and_eq_true, List.isEmpty_iff, Bool.not_eq_true'] at hend
      refine ⟨SharedChannel.not_hasSender_of_senderAlive hend.1.2, ?_, rfl⟩
      show s.msgReceiver.taken = s.msgReceiver.sent
      rw [← SharedChannel.taken_append_queue, hend.1.1, List.append_nil]
    · cases hr
  · cases h

theorem Deserted.step (h : s.Deserted) {a : Action M} (hs : s.step a = some s') : s'.Deserted := by
  have hover : s.isOver = true := by
    rw [isOver, h.finished]
  rcases forwarding_cases hs with ⟨msg, ch, -, hphase, -, -⟩ | ⟨-, hwait, -⟩ |
    ⟨st, writer, -, -, rfl⟩ | hb
  · cases h.finished.symm.trans hphase
  · exact absurd (hwait.symm.trans hover) Bool.noConfusion
  · exact ⟨h.noHandle, h.drained, h.finished⟩
  · obtain ⟨hsent, hnone⟩ := hb.handles h.noHandle
    exact ⟨hnone, by rw [hb.taken, hsent, h.drained], hb.phase.trans h.finished⟩

end State

/-! ### Runs -/

variable {hist : List (State M × Action M)} {s : State M}

theorem Run.forwarding (h : Run hist s) : s.Forwarding (acceptedTcp hist) := by
  induction h with
  | start h =>
    obtain rfl := h
    exact State.forwarding_start
  | next _ hs ih =>
    rw [acceptedTcp_append_singleton]
    exact ih.step hs

/-- **All that was accepted has been forwarded** once the actor has taken the end of the commands. -/
theorem Run.items_sent_eq (h : Run hist s) {t : State M} {now : Instant}
    (hmem : (t, .next .actorMessageEnd now) ∈ hist) :
    WriteActor.items s.tcpWriteActor.actorMsg.sent = (acceptedTcp hist).map .applicationLogic := by
  obtain ⟨hist₁, hist₂, t', heq, -, hs⟩ := TransitionSystem.Run.exists_step_of_mem h hmem
  have hend : s.Deserted := TransitionSystem.Run.invariant_from (I := State.Deserted)
    (fun _ _ _ hd hb ↦ State.Deserted.step hd hb) h heq hs (State.deserted_of_step hs)
  have hf := Run.forwarding h
  have hnot : ∀ site, s.phase ≠ .panicked site := by
    intro site hphase
    cases hend.finished.symm.trans hphase
  rw [hf.all hnot, State.forwardedTcp, hend.drained, hf.commands]

/-- The sink of the TCP write actor has not failed. -/
def SinkHolds (hist : List (State M × Action M)) : Prop :=
  ∀ x ∈ hist, x.2.tcpSinkFails = false

theorem sinkHolds_iff : SinkHolds hist ↔ (hist.any fun x ↦ x.2.tcpSinkFails) = false := by
  rw [List.any_eq_false]
  exact forall₂_congr fun x _ ↦ (Bool.not_eq_true _).symm ▸ Iff.rfl

/-- **The TCP write actor sends all that it is told to send**, as long as its sink does not fail. -/
theorem Run.flushes (h : Run hist s) (hC : SinkHolds hist) : s.tcpWriteActor.Flushes := by
  induction h with
  | start h =>
    obtain rfl := h
    exact WriteActor.flushes_spawnActor
  | @next hist s s' a h hs ih =>
    have ih := ih fun x hx ↦ hC x (List.mem_append_left _ hx)
    have hf := Run.forwarding h
    rcases State.tcpWriteActor_cases hs with hwriter | ⟨-, hwriter⟩ | ⟨hopen, msg, hwriter⟩ |
      ⟨st, rfl, hwriter⟩
    · rw [hwriter]
      exact ih
    · rw [hwriter]
      exact ih.dropHandle
    · rw [hwriter]
      exact ih.offer (hf.handle hopen) msg
    · exact ih.step hf.tracks (hC _ (List.mem_append_right _ (List.mem_singleton_self _))) hwriter

end NetStream.Client
