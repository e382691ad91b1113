import NetStream.Client.TcpForwarding

/-!
# What the client sends over UDP

A message over UDP takes the same way as one over TCP, through the actor and the UDP write actor,
where it may stand between Hellos, the actor's own answers to Welcomes. Apart from these, the write
actor was told to send what the actor has taken from its handles, up to the message on which it has
panicked (`UdpForwarding`). So what the sink was handed is an initial part of what the handles
accepted (`UdpForwarding.handedUdp_isPrefix`).
-/

namespace NetStream.Client

variable {M : MessageTypes}

/-- The message over UDP that a command is. -/
def Message.udp? : Message M → Option M.UdpToServer
  | .tcpToServer _ => none
  | .udpToServer msg => some msg
  | .getStatus _ => none

namespace State

/-- The message for which a call of `send_message_udp` returns `Ok` in a step. -/
def acceptsUdp? (s : State M) : Action M → Option M.UdpToServer
  | .env (.sendMessageUdp handle msg) =>
    match s.sendMessageUdp handle msg with
    | .ok _ => some msg
    | .error _ => none
  | _ => none

/-- The messages over UDP that the actor has taken. -/
def takenUdp (s : State M) : List M.UdpToServer :=
  s.msgReceiver.taken.filterMap Message.udp?

/-- The messages that the UDP write actor was told to send, apart from Hellos. -/
def queuedUdp (s : State M) : List M.UdpToServer :=
  (WriteActor.items s.udpWriteActor.actorMsg.sent).filterMap UdpToServer.application?

/-- The messages that the UDP sink was handed, apart from Hellos. -/
def handedUdp (s : State M) : List M.UdpToServer :=
  s.udpWriteActor.sink.handed.filterMap UdpToServer.application?

end State

/-- The messages for which `send_message_udp` returned `Ok`, in that order. -/
def acceptedUdp (hist : List (State M × Action M)) : List M.UdpToServer :=
  hist.filterMap fun x ↦ x.1.acceptsUdp? x.2

theorem acceptedUdp_append_singleton (hist : List (State M × Action M)) (s : State M)
    (a : Action M) : acceptedUdp (hist ++ [(s, a)]) =
      acceptedUdp hist ++ (s.acceptsUdp? a).toList :=
  List.filterMap_append_singleton _ hist (s, a)

namespace State

variable {s s' s'' : State M}

/-! ### The steps that forward nothing -/

/-- The actor forwards nothing over UDP: it may say Hello, and it may end. -/
structure KeepsUdp (s s' : State M) : Prop where
  sent : s'.msgReceiver.sent = s.msgReceiver.sent
  taken : s'.msgReceiver.taken = s.msgReceiver.taken
  queued : s'.queuedUdp = s.queuedUdp
  sink : s'.udpWriteActor.sink = s.udpWriteActor.sink
  tracks : s.udpWriteActor.Tracks → s'.udpWriteActor.Tracks

theorem KeepsUdp.of_eq (hcommands : s'.msgReceiver = s.msgReceiver)
    (hwriter : s'.udpWriteActor = s.udpWriteActor) : KeepsUdp s s' where
  sent := by rw [hcommands]
  taken := by rw [hcommands]
  queued := by rw [queuedUdp, hwriter, queuedUdp]
  sink := by rw [hwriter]
  tracks h := hwriter ▸ h

theorem KeepsUdp.trans (h : KeepsUdp s s') (h' : KeepsUdp s' s'') : KeepsUdp s s'' where
  sent := h'.sent.trans h.sent
  taken := h'.taken.trans h.taken
  queued := h'.queued.trans h.queued
  sink := h'.sink.trans h.sink
  tracks ht := h'.tracks (h.tracks ht)

theorem keepsUdp_leave (s : State M) : KeepsUdp s s.leave :=
  ⟨rfl, rfl, rfl, rfl, WriteActor.Tracks.dropHandle⟩

theorem keepsUdp_panic (s : State M) (site : PanicSite) : KeepsUdp s (s.panic site) :=
  ⟨rfl, rfl, rfl, rfl, WriteActor.Tracks.dropHandle⟩

/-- A message offered to the UDP write actor is queued for it if there is room. -/
theorem queuedUdp_offer (s : State M) (msg : UdpToServer M) :
    ({ s with udpWriteActor := s.udpWriteActor.offer (.send msg) } : State M).queuedUdp =
      s.queuedUdp ++ if s.udpWriteActor.actorMsg.Accepts then msg.application?.toList else [] := by
  rw [queuedUdp, queuedUdp, WriteActor.actorMsg_offer, Channel.sent_offer]
  split
  · rw [WriteActor.items_append, WriteActor.items_singleton]
    exact List.filterMap_append_singleton _ _ msg
  · exact (List.append_nil _).symm

theorem keepsUdp_handleTcpReaderItem (s : State M) (item : Except TcpError (TcpFromServer M)) :
    KeepsUdp s (handleTcpReaderItem s item) := by
  rcases item with _ | (_ | uuid | _)
  · exact s.keepsUdp_panic _
  · exact .of_eq rfl rfl
  · have hwriter : s.udpWriteActor.logged (s.udpWriteActor.send (.hello uuid)) =
        s.udpWriteActor.offer (.send (.hello uuid)) := WriteActor.logged_send _ _
    simp only [handleTcpReaderItem, hwriter]
    refine ⟨rfl, rfl, ?_, rfl, fun h ↦ h.offer _⟩
    rw [queuedUdp_offer]
    exact (congrArg _ (ite_self _)).trans (List.append_nil _)
  · exact .of_eq rfl rfl

theorem keepsUdp_handleUdpReaderItem (s : State M) (item : Except UdpError (UdpFromServer M))
    (now : Instant) : KeepsUdp s (handleUdpReaderItem s item now) := by
  rcases item with _ | (_ | _ | _)
  · exact s.keepsUdp_panic _
  all_goals exact .of_eq rfl rfl

theorem keepsUdp_resume (s : State M) (next : Next M) (now : Instant) :
    KeepsUdp s (s.resume next now) := by
  cases next with
  | streams => exact .of_eq rfl rfl
  | udpItem item =>
    refine KeepsUdp.trans ?_ (keepsUdp_handleUdpReaderItem _ item now)
    exact .of_eq rfl rfl

theorem keepsUdp_sendFailed (s : State M) (ev : Event M) (next : Next M) (now : Instant) :
    KeepsUdp s (s.sendFailed ev next now) := by
  cases ev with
  | tcpMessage _ | udpMessage _ => exact s.keepsUdp_leave
  | canSendUdpMessages | canReceiveUdpMessages => exact s.keepsUdp_resume next now

/-- Only a message of a handle is forwarded. -/
theorem keepsUdp_handleIncoming (s : State M) {incoming : Incoming M}
    (hi : ∀ msg, incoming ≠ .actorMessage msg) (now : Instant) :
    KeepsUdp s (handleIncoming s incoming now) := by
  rcases incoming with msg | ⟨⟨item⟩⟩ | ⟨⟨item⟩⟩ | (_ | _ | _ | _ | _)
  · exact absurd rfl (hi msg)
  · exact s.keepsUdp_handleTcpReaderItem item
  · show KeepsUdp s (handleUdpReader s item now)
    unfold handleUdpReader
    split
    · exact .of_eq rfl rfl
    · exact s.keepsUdp_handleUdpReaderItem item now
  · exact s.keepsUdp_leave
  all_goals exact .of_eq rfl rfl

/-- What the handling of a command does: a message over UDP goes to the write actor, or the actor
panics. -/
theorem handleActorMessage_udp (s : State M) (msg : Message M) :
    (msg.udp? = none ∧ KeepsUdp s (handleActorMessage s msg)) ∨
    ∃ m, msg.udp? = some m ∧
      (s.udpWriteActor.actorMsg.Accepts ∧ handleActorMessage s msg =
          { s with udpWriteActor := s.udpWriteActor.offer (.send (.applicationLogic m)) } ∨
        ∃ err, handleActorMessage s msg = s.panic (.udpWriter err)) := by
  cases msg with
  | tcpToServer m =>
    refine Or.inl ⟨rfl, ?_⟩
    simp only [handleActorMessage]
    split
    · exact .of_eq rfl rfl
    · exact s.keepsUdp_panic _
  | udpToServer m =>
    refine Or.inr ⟨m, rfl, ?_⟩
    simp only [handleActorMessage]
    split
    · rename_i writer hsend
      obtain ⟨hacc, rfl⟩ := WriteActor.send_eq_ok_iff.1 hsend
      exact Or.inl ⟨hacc, rfl⟩
    · exact Or.inr ⟨_, rfl⟩
  | getStatus tx => exact Or.inl ⟨rfl, .of_eq rfl rfl⟩

/-! ### The steps beside the actor -/

/-- The actor does not move: the handles may, and then a message may be accepted. -/
structure BesideUdp (s : State M) (a : Action M) (s' : State M) : Prop where
  writer : s'.udpWriteActor = s.udpWriteActor
  phase : s'.phase = s.phase
  taken : s'.msgReceiver.taken = s.msgReceiver.taken
  sent : s'.msgReceiver.sent.filterMap Message.udp? =
    s.msgReceiver.sent.filterMap Message.udp? ++ (s.acceptsUdp? a).toList

theorem BesideUdp.of_eq {a : Action M} (hwriter : s'.udpWriteActor = s.udpWriteActor)
    (hphase : s'.phase = s.phase) (hsent : s'.msgReceiver.sent = s.msgReceiver.sent)
    (htaken : s'.msgReceiver.taken = s.msgReceiver.taken) (ha : s.acceptsUdp? a = none) :
    BesideUdp s a s' where
  writer := hwriter
  phase := hphase
  taken := htaken
  sent := by rw [hsent, ha, Option.toList_none, List.append_nil]

/-- A call through a handle. -/
theorem BesideUdp.called {α : Type} {a : Action M} {handle : ℕ} {msg : Message M} {back : α}
    (hmsg : s.acceptsUdp? a = if (s.trySend handle msg back).isOk then msg.udp? else none) :
    BesideUdp s a (s.called (s.trySend handle msg back)) := by
  unfold trySend at hmsg ⊢
  split at hmsg
  · rename_i ch hsend
    obtain ⟨hsent, htaken, -⟩ := SharedChannel.trySend_spec hsend
    refine ⟨rfl, rfl, htaken, ?_⟩
    show ch.sent.filterMap Message.udp? = _
    rw [hmsg, hsent]
    exact List.filterMap_append_singleton _ _ msg
  · exact .of_eq rfl rfl rfl rfl hmsg
  · exact .of_eq rfl rfl rfl rfl hmsg

theorem besideUdp_envStep {env : Env M} (h : s.envStep env = some s') :
    BesideUdp s (.env env) s' := by
  cases envMoves_of_envStep h with
  | sendMessageUdp _ =>
    refine .called ?_
    simp only [acceptsUdp?, sendMessageUdp]
    split <;> rename_i hcall <;> rw [hcall] <;> rfl
  | sendMessageTcp _ | getStatus _ => exact .called (ite_self none).symm
  | cloneHandle _ | dropHandle | tcpFrame _ | tcpEnd | datagram | takeEvent _ | closeEvents =>
    exact .of_eq rfl rfl rfl rfl rfl

/-! ### What a step forwards -/

/-- **What a step does to the commands and to the UDP write actor**: the actor takes a command, or
takes any other step; the write actor takes a step; or neither moves. -/
theorem udpForwarding_cases {a : Action M} (h : s.step a = some s') :
    (∃ msg ch, s.acceptsUdp? a = none ∧ s.isOver = false ∧ s.msgReceiver.recv = some (msg, ch) ∧
      s' = handleActorMessage { s with msgReceiver := ch } msg) ∨
    (s.acceptsUdp? a = none ∧ s.isOver = false ∧ KeepsUdp s s') ∨
    (∃ st writer, a = .task (.udpWriter st) ∧ s.udpWriteActor.step st = some writer ∧
      s' = { s with udpWriteActor := writer }) ∨
    BesideUdp s a s' := by
  have hopen : ∀ {ph : Phase M}, s.phase = ph →
      ({ s with phase := ph } : State M).isOver = false → s.isOver = false := by
    rintro ph rfl ho
    exact ho
  rcases step_cases h with ⟨source, now, incoming, t, rfl, hphase, hr, rfl⟩ |
    ⟨now, ev, next, rfl, hphase, ⟨-, rfl⟩ | ⟨-, rfl⟩⟩ | ⟨now, next, rfl, hphase, rfl⟩ |
    ⟨task, rfl, htask⟩ | ⟨env, rfl, henv⟩
  · have hwait := hopen hphase rfl
    cases taken_of_nextIncoming hr with
    | actorMessage hrecv => exact Or.inl ⟨_, _, rfl, hwait, hrecv, rfl⟩
    | _ =>
      refine Or.inr (Or.inl ⟨rfl, hwait, .trans ?_ (keepsUdp_handleIncoming _ (fun msg heq ↦ ?_) now)⟩)
      · exact .of_eq rfl rfl
      · cases heq
  · exact Or.inr (Or.inl ⟨rfl, hopen hphase rfl, .of_eq rfl rfl⟩)
  · exact Or.inr (Or.inl ⟨rfl, hopen hphase rfl, s.keepsUdp_sendFailed ev next now⟩)
  · exact Or.inr (Or.inl ⟨rfl, hopen hphase rfl, s.keepsUdp_resume next now⟩)
  · cases task with
    | udpWriter st =>
      obtain ⟨writer, hwriter, rfl⟩ := Option.map_eq_some_iff.1 htask
      exact Or.inr (Or.inr (Or.inl ⟨st, writer, rfl, hwriter, rfl⟩))
    | tcpReader st | tcpWriter st | udpReader st =>
      obtain ⟨_, -, rfl⟩ := Option.map_eq_some_iff.1 htask
      exact Or.inr (Or.inr (Or.inr (.of_eq rfl rfl rfl rfl rfl)))
  · exact Or.inr (Or.inr (Or.inr (besideUdp_envStep henv)))

/-- What the UDP sink was handed is not taken back. -/
theorem handed_isPrefix_of_step {a : Action M} (h : s.step a = some s') :
    s.udpWriteActor.sink.handed <+: s'.udpWriteActor.sink.handed := by
  have hsame : ∀ {t : State M}, t.udpWriteActor.sink = s.udpWriteActor.sink →
      s.udpWriteActor.sink.handed <+: t.udpWriteActor.sink.handed := by
    intro t ht
    exact ht ▸ List.prefix_rfl
  rcases udpForwarding_cases h with ⟨msg, ch, -, -, -, rfl⟩ | ⟨-, -, hkeeps⟩ |
    ⟨st, writer, -, hwriter, rfl⟩ | hb
  · rcases handleActorMessage_udp { s with msgReceiver := ch } msg with
      ⟨-, hkeeps⟩ | ⟨m, -, ⟨-, heq⟩ | ⟨err, heq⟩⟩
    · exact hsame hkeeps.sink
    · exact hsame (by rw [heq]; rfl)
    · exact hsame (by rw [heq]; rfl)
  · exact hsame hkeeps.sink
  · exact WriteActor.handed_isPrefix_of_step hwriter
  · exact hsame (by rw [hb.writer])

/-! ### What has been forwarded -/

/-- **What the UDP write actor was told to send** goes with what was accepted. -/
structure UdpForwarding (s : State M) (accepted : List M.UdpToServer) : Prop where
  commands : s.msgReceiver.sent.filterMap Message.udp? = accepted
  tracks : s.udpWriteActor.Tracks
  queued : s.queuedUdp <+: s.takenUdp
  /-- A task that is not over has dropped nothing. -/
  all : s.isOver = false → s.queuedUdp = s.takenUdp

theorem udpForwarding_start : (start : State M).UdpForwarding [] where
  commands := rfl
  tracks := WriteActor.tracks_spawnActor
  queued := List.prefix_rfl
  all _ := rfl

variable {accepted : List M.UdpToServer}

namespace UdpForwarding

/-- The actor forwards nothing. -/
theorem keeps (h : s.UdpForwarding accepted) (hk : KeepsUdp s s') (hopen : s.isOver = false) :
    s'.UdpForwarding accepted := by
  have htaken : s'.takenUdp = s.takenUdp := congrArg (List.filterMap Message.udp?) hk.taken
  refine ⟨hk.sent ▸ h.commands, hk.tracks h.tracks, ?_, fun _ ↦ ?_⟩
  · rw [hk.queued, htaken]
    exact h.queued
  · rw [hk.queued, htaken]
    exact h.all hopen

/-- A command is taken and handled. -/
theorem command (h : s.UdpForwarding accepted) (hopen : s.isOver = false) {msg : Message M}
    {ch : SharedChannel 32 (Message M)} (hrecv : s.msgReceiver.recv = some (msg, ch)) :
    (handleActorMessage { s with msgReceiver := ch } msg).UdpForwarding accepted := by
  obtain ⟨hsent, htaken, -⟩ := SharedChannel.recv_spec hrecv
  have hall := h.all hopen
  have hcommands : ch.sent.filterMap Message.udp? = accepted := hsent ▸ h.commands
  have htakenUdp : ({ s with msgReceiver := ch } : State M).takenUdp =
      s.takenUdp ++ msg.udp?.toList := by
    show ch.taken.filterMap Message.udp? = _
    rw [htaken]
    exact List.filterMap_append_singleton _ _ msg
  rcases handleActorMessage_udp { s with msgReceiver := ch } msg with
    ⟨hmsg, hkeeps⟩ | ⟨m, hmsg, ⟨hacc, heq⟩ | ⟨err, heq⟩⟩
  · rw [hmsg, Option.toList_none, List.append_nil] at htakenUdp
    have htook : ({ s with msgReceiver := ch } : State M).UdpForwarding accepted :=
      ⟨hcommands, h.tracks, htakenUdp ▸ h.queued, fun _ ↦ htakenUdp ▸ hall⟩
    exact htook.keeps hkeeps hopen
  · rw [hmsg, Option.toList_some] at htakenUdp
    have hqueued : ({ s with
        msgReceiver := ch
        udpWriteActor := s.udpWriteActor.offer (.send (.applicationLogic m)) } :
          State M).queuedUdp = s.takenUdp ++ [m] := by
      refine (queuedUdp_offer { s with msgReceiver := ch } _).trans ?_
      rw [if_pos hacc, ← hall]
      rfl
    rw [heq]
    exact ⟨hcommands, h.tracks.offer _, (hqueued.trans htakenUdp.symm) ▸ List.prefix_rfl,
      fun _ ↦ hqueued.trans htakenUdp.symm⟩
  · -- the message on which the actor panics is taken, but not forwarded
    rw [heq]
    refine ⟨hcommands, h.tracks.dropHandle, ?_, nofun⟩
    refine h.queued.trans ?_
    exact htakenUdp ▸ List.prefix_append _ _

/-- The actor does not move. -/
theorem beside (h : s.UdpForwarding accepted) {a : Action M} (hb : BesideUdp s a s') :
    s'.UdpForwarding (accepted ++ (s.acceptsUdp? a).toList) := by
  have htaken : s'.takenUdp = s.takenUdp := congrArg (List.filterMap Message.udp?) hb.taken
  have hqueued : s'.queuedUdp = s.queuedUdp := by
    rw [queuedUdp, hb.writer, queuedUdp]
  refine ⟨?_, hb.writer ▸ h.tracks, ?_, fun hopen ↦ ?_⟩
  · rw [hb.sent, h.commands]
  · rw [hqueued, htaken]
    exact h.queued
  · rw [hqueued, htaken]
    refine h.all ?_
    rwa [isOver, hb.phase] at hopen

/-- The write actor takes a step. -/
theorem writer (h : s.UdpForwarding accepted) {st : WriteActor.Step}
    {writer : WriteActor (UdpToServer M)} (hwriter : s.udpWriteActor.step st = some writer) :
    ({ s with udpWriteActor := writer } : State M).UdpForwarding accepted := by
  have hqueued : ({ s with udpWriteActor := writer } : State M).queuedUdp = s.queuedUdp := by
    rw [queuedUdp, queuedUdp, WriteActor.sent_step hwriter]
  exact ⟨h.commands, h.tracks.step hwriter, hqueued ▸ h.queued,
    fun hopen ↦ hqueued.trans (h.all hopen)⟩

/-- **What every step keeps.** -/
theorem step (h : s.UdpForwarding accepted) {a : Action M} (hs : s.step a = some s') :
    s'.UdpForwarding (accepted ++ (s.acceptsUdp? a).toList) := by
  rcases udpForwarding_cases hs with ⟨msg, ch, hnone, hwait, hrecv, rfl⟩ | ⟨hnone, hwait, hkeeps⟩ |
    ⟨st, writer, rfl, hwriter, rfl⟩ | hb
  · rw [hnone, Option.toList_none, List.append_nil]
    exact h.command hwait hrecv
  · rw [hnone, Option.toList_none, List.append_nil]
    exact h.keeps hkeeps hwait
  · exact (List.append_nil accepted).symm ▸ h.writer hwriter
  · exact h.beside hb

/-- **What was handed to the sink was accepted**, in this order and without a gap. -/
theorem handedUdp_isPrefix (h : s.UdpForwarding accepted) : s.handedUdp <+: accepted := by
  have htaken : s.takenUdp <+: accepted := by
    rw [← h.commands, ← SharedChannel.taken_append_queue, List.filterMap_append]
    exact List.prefix_append _ _
  exact ((h.tracks.handed_isPrefix.filterMap _).trans h.queued).trans htaken

end UdpForwarding

end State

theorem Run.udpForwarding {hist : List (State M × Action M)} {s : State M} (h : Run hist s) :
    s.UdpForwarding (acceptedUdp hist) := by
  induction h with
  | start h =>
    obtain rfl := h
    exact State.udpForwarding_start
  | next _ hs ih =>
    rw [acceptedUdp_append_singleton]
    exact ih.step hs

end NetStream.Client
