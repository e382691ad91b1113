import NetStream.Library.TransitionSystem
import NetStream.Client.Actor

/-!
# The client as a transition system

The actor, its IO actors and the world around them take steps in any order, as for the server. The
actor's steps are the ends of its waits: the next incoming item of any stream that has one ready,
and the two waits of sending an event. `select_all` ends only once all its streams have ended, which
does not happen, because the end of the commands leaves the loop.
-/

namespace NetStream.Client

variable {M : MessageTypes}

/-- The stream of `streams` that yields the next item. -/
inductive Source
  | actorMessage
  | actorMessageEnd
  | tcpReader
  | tcpReaderEnd
  | tcpWriterEnd
  | udpReader
  | udpReaderEnd
  | udpWriterEnd

/-- An IO actor, and the step it takes. -/
inductive Task
  | tcpReader (step : ReadActor.Step)
  | tcpWriter (step : WriteActor.Step)
  | udpReader (step : ReadActor.Step)
  | udpWriter (step : WriteActor.Step)

/-- What the world outside the client does. -/
inductive Env (M : MessageTypes)
  /-- A frame is read from the connection and decoded. -/
  | tcpFrame (frame : Except TcpError (TcpFromServer M))
  /-- Nothing more is read from the connection. -/
  | tcpEnd
  /-- A datagram is read from the socket and decoded. -/
  | datagram (message : Except UdpError (UdpFromServer M))
  /-- A method of an actor handle is called. -/
  | sendMessageTcp (handle : ℕ) (msg : M.TcpToServer)
  | sendMessageUdp (handle : ℕ) (msg : M.UdpToServer)
  | getStatus (handle : ℕ) (tx : ℕ)
  /-- An actor handle is cloned. -/
  | cloneHandle (handle : ℕ)
  /-- An actor handle is dropped. -/
  | dropHandle (handle : ℕ)
  /-- The next event is taken from the event receiver. -/
  | takeEvent
  /-- The event receiver is closed or dropped. -/
  | closeEvents

inductive Action (M : MessageTypes)
  /-- The actor handles the next incoming item. -/
  | next (source : Source) (now : Instant)
  /-- The event goes into the channel, or the channel turns out to be closed. -/
  | send (now : Instant)
  /-- The channel of events has a slot again. -/
  | flush (now : Instant)
  | task (task : Task)
  | env (env : Env M)

/-- The frame that a step of the environment lets arrive. -/
def Env.tcpFrame? : Env M → Option (Except TcpError (TcpFromServer M))
  | .tcpFrame frame => some frame
  | _ => none

/-- The frame that an action lets arrive. -/
def Action.tcpFrame? : Action M → Option (Except TcpError (TcpFromServer M))
  | .env e => e.tcpFrame?
  | _ => none

theorem Action.tcpFrame?_eq_some_iff {a : Action M} {frame : Except TcpError (TcpFromServer M)} :
    a.tcpFrame? = some frame ↔ a = .env (.tcpFrame frame) := by
  constructor
  · intro h
    cases a with
    | env e =>
      cases e with
      | tcpFrame f =>
        obtain rfl := Option.some.inj h
        rfl
      | _ => cases h
    | _ => cases h
  · rintro rfl
    rfl

namespace State

/-- `streams.next()`: the item, and the state after it is taken, where the source has one ready. -/
def nextIncoming (s : State M) : Source → Option (Incoming M × State M)
  | .actorMessage => s.msgReceiver.recv.map fun r ↦
      (.actorMessage r.1, { s with msgReceiver := r.2 })
  | .actorMessageEnd =>
    if s.msgReceiver.queue.isEmpty && !s.msgReceiver.senderAlive && !s.msgEnded then
      some (.endOfStream .actorMessage, { s with msgEnded := true })
    else none
  | .tcpReader => s.tcpReadActor.tx.recv.map fun r ↦
      (.tcpReader r.1, { s with tcpReadActor := { s.tcpReadActor with tx := r.2 } })
  | .tcpReaderEnd =>
    match s.tcpReadActor.phase with
    | .finished reason =>
      if s.tcpReadActor.tx.queue.isEmpty && !s.tcpReaderEnded then
        some (.endOfStream (.tcpReader reason), { s with tcpReaderEnded := true })
      else none
    | _ => none
  | .tcpWriterEnd =>
    match s.tcpWriteActor.phase with
    | .finished reason =>
      if !s.tcpWriterEnded then
        some (.endOfStream (.tcpWriter reason), { s with tcpWriterEnded := true })
      else none
    | _ => none
  | .udpReader => s.udpReadActor.tx.recv.map fun r ↦
      (.udpReader r.1, { s with udpReadActor := { s.udpReadActor with tx := r.2 } })
  | .udpReaderEnd =>
    match s.udpReadActor.phase with
    | .finished reason =>
      if s.udpReadActor.tx.queue.isEmpty && !s.udpReaderEnded then
        some (.endOfStream (.udpReader reason), { s with udpReaderEnded := true })
      else none
    | _ => none
  | .udpWriterEnd =>
    match s.udpWriteActor.phase with
    | .finished reason =>
      if !s.udpWriterEnded then
        some (.endOfStream (.udpWriter reason), { s with udpWriterEnded := true })
      else none
    | _ => none

/-- What taking an item does: the cases of `nextIncoming`. -/
inductive Taken (s : State M) : Incoming M → State M → Prop
  | actorMessage {msg : Message M} {ch : SharedChannel 32 (Message M)}
      (h : s.msgReceiver.recv = some (msg, ch)) :
      Taken s (.actorMessage msg) { s with msgReceiver := ch }
  | actorMessageEnd : Taken s (.endOfStream .actorMessage) { s with msgEnded := true }
  | tcpReader {event : ReadActorEvent (Except TcpError (TcpFromServer M))}
      {ch : Channel (some 64) _} (h : s.tcpReadActor.tx.recv = some (event, ch)) :
      Taken s (.tcpReader event) { s with tcpReadActor := { s.tcpReadActor with tx := ch } }
  | tcpReaderEnd {reason : ActorShutdown ReadActorShutdownReason}
      (h : s.tcpReadActor.phase = .finished reason) :
      Taken s (.endOfStream (.tcpReader reason)) { s with tcpReaderEnded := true }
  | tcpWriterEnd {reason : ActorShutdown WriteActorShutdownReason}
      (h : s.tcpWriteActor.phase = .finished reason) :
      Taken s (.endOfStream (.tcpWriter reason)) { s with tcpWriterEnded := true }
  | udpReader {event : ReadActorEvent (Except UdpError (UdpFromServer M))}
      {ch : Channel (some 64) _} (h : s.udpReadActor.tx.recv = some (event, ch)) :
      Taken s (.udpReader event) { s with udpReadActor := { s.udpReadActor with tx := ch } }
  | udpReaderEnd {reason : ActorShutdown ReadActorShutdownReason}
      (h : s.udpReadActor.phase = .finished reason) :
      Taken s (.endOfStream (.udpReader reason)) { s with udpReaderEnded := true }
  | udpWriterEnd {reason : ActorShutdown WriteActorShutdownReason}
      (h : s.udpWriteActor.phase = .finished reason) :
      Taken s (.endOfStream (.udpWriter reason)) { s with udpWriterEnded := true }

theorem taken_of_nextIncoming {s : State M} {source : Source} {r : Incoming M × State M}
    (h : s.nextIncoming source = some r) : s.Taken r.1 r.2 := by
  cases source with
  | actorMessage =>
    obtain ⟨x, hx, rfl⟩ := Option.map_eq_some_iff.1 h
    exact .actorMessage hx
  | actorMessageEnd =>
    simp only [nextIncoming] at h
    split at h
    · obtain rfl := Option.some.inj h
      exact .actorMessageEnd
    · cases h
  | tcpReader =>
    obtain ⟨x, hx, rfl⟩ := Option.map_eq_some_iff.1 h
    exact .tcpReader hx
  | tcpReaderEnd =>
    simp only [nextIncoming] at h
    repeat' split at h
    all_goals cases h
    exact .tcpReaderEnd ‹_›
  | tcpWriterEnd =>
    simp only [nextIncoming] at h
    repeat' split at h
    all_goals cases h
    exact .tcpWriterEnd ‹_›
  | udpReader =>
    obtain ⟨x, hx, rfl⟩ := Option.map_eq_some_iff.1 h
    exact .udpReader hx
  | udpReaderEnd =>
    simp only [nextIncoming] at h
    repeat' split at h
    all_goals cases h
    exact .udpReaderEnd ‹_›
  | udpWriterEnd =>
    simp only [nextIncoming] at h
    repeat' split at h
    all_goals cases h
    exact .udpWriterEnd ‹_›

/-- The end of the wait for a slot in the channel of events. -/
def sendStep (s : State M) (now : Instant) : Option (State M) :=
  match s.phase with
  | .sending ev next =>
    match s.eventSender.trySend ev with
    | .ok ch => some { s with eventSender := ch, phase := .flushing next }
    | .error .disconnected => some (s.sendFailed ev next now)
    | .error .full => none
  | _ => none

/-- The end of the wait after an event has been put into the channel. -/
def flushStep (s : State M) (now : Instant) : Option (State M) :=
  match s.phase with
  | .flushing next =>
    if s.eventSender.receiverAlive && s.eventSender.isFull then none
    else some (s.resume next now)
  | _ => none

/-- A step of an IO actor. -/
def taskStep (s : State M) : Task → Option (State M)
  | .tcpReader st => (s.tcpReadActor.step st).map fun reader ↦ { s with tcpReadActor := reader }
  | .tcpWriter st => (s.tcpWriteActor.step st).map fun writer ↦ { s with tcpWriteActor := writer }
  | .udpReader st => (s.udpReadActor.step st).map fun reader ↦ { s with udpReadActor := reader }
  | .udpWriter st => (s.udpWriteActor.step st).map fun writer ↦ { s with udpWriteActor := writer }

/-- A step of the environment. A stream that has ended yields nothing more, and only handles that
exist are used. -/
def envStep (s : State M) : Env M → Option (State M)
  | .tcpFrame frame =>
    if s.tcpReadActor.stream.senderAlive then
      some { s with tcpReadActor := s.tcpReadActor.arrive frame }
    else none
  | .tcpEnd => some { s with tcpReadActor := s.tcpReadActor.endStream }
  | .datagram message => some { s with udpReadActor := s.udpReadActor.arrive message }
  | .sendMessageTcp handle msg =>
    if s.msgReceiver.HasSender handle then some (s.called (s.sendMessageTcp handle msg)) else none
  | .sendMessageUdp handle msg =>
    if s.msgReceiver.HasSender handle then some (s.called (s.sendMessageUdp handle msg)) else none
  | .getStatus handle tx =>
    if s.msgReceiver.HasSender handle then some (s.called (s.getStatus handle tx)) else none
  | .cloneHandle handle =>
    if s.msgReceiver.HasSender handle then some { s with msgReceiver := s.msgReceiver.cloneSender }
    else none
  | .dropHandle handle => some { s with msgReceiver := s.msgReceiver.dropSender handle }
  | .takeEvent => s.eventSender.recv.map fun r ↦ { s with eventSender := r.2 }
  | .closeEvents => some { s with eventSender := s.eventSender.closeReceiver }

/-- The state after an action, where it is enabled. -/
def step (s : State M) : Action M → Option (State M)
  | .next source now =>
    match s.phase with
    | .receiving => (s.nextIncoming source).map fun r ↦ handleIncoming r.2 r.1 now
    | _ => none
  | .send now => s.sendStep now
  | .flush now => s.flushStep now
  | .task task => s.taskStep task
  | .env env => s.envStep env

end State

/-- The client. -/
def system (M : MessageTypes) : TransitionSystem (State M) (Action M) where
  init s := s = .start
  step := State.step

/-- A run of the client, with its history. -/
abbrev Run (hist : List (State M × Action M)) (s : State M) : Prop :=
  (system M).Run hist s

namespace State

variable {s s' : State M}

/-- The item that an action makes the actor handle. -/
def incoming? (s : State M) : Action M → Option (Incoming M)
  | .next source _ => (s.nextIncoming source).map Prod.fst
  | _ => none

/-- **Inversion**: the action, and the state after it. -/
theorem step_cases {a : Action M} (h : s.step a = some s') :
    (∃ source now incoming t, a = .next source now ∧ s.phase = .receiving ∧
      s.nextIncoming source = some (incoming, t) ∧ s' = handleIncoming t incoming now) ∨
    (∃ now ev next, a = .send now ∧ s.phase = .sending ev next ∧
      (s.eventSender.Accepts ∧
          s' = { s with eventSender := s.eventSender.push ev, phase := .flushing next } ∨
        s.eventSender.receiverAlive = false ∧ s' = s.sendFailed ev next now)) ∨
    (∃ now next, a = .flush now ∧ s.phase = .flushing next ∧ s' = s.resume next now) ∨
    (∃ task, a = .task task ∧ s.taskStep task = some s') ∨
    (∃ env, a = .env env ∧ s.envStep env = some s') := by
  cases a with
  | next source now =>
    simp only [step] at h
    split at h
    · obtain ⟨r, hr, rfl⟩ := Option.map_eq_some_iff.1 h
      exact Or.inl ⟨source, now, r.1, r.2, rfl, ‹_›, hr, rfl⟩
    · cases h
  | send now =>
    simp only [step, sendStep] at h
    split at h
    · rename_i ev next hphase
      refine Or.inr (Or.inl ⟨now, ev, next, rfl, hphase, ?_⟩)
      split at h
      · rename_i ch hsend
        obtain ⟨hacc, rfl⟩ := Channel.trySend_eq_ok_iff.1 hsend
        exact Or.inl ⟨hacc, (Option.some.inj h).symm⟩
      · rename_i hsend
        exact Or.inr ⟨Channel.trySend_eq_disconnected_iff.1 hsend, (Option.some.inj h).symm⟩
      · cases h
    · cases h
  | flush now =>
    simp only [step, flushStep] at h
    split at h
    · rename_i next hphase
      split at h
      · cases h
      · exact Or.inr (Or.inr (Or.inl ⟨now, next, rfl, hphase, (Option.some.inj h).symm⟩))
    · cases h
  | task task => exact Or.inr (Or.inr (Or.inr (Or.inl ⟨task, rfl, h⟩)))
  | env env => exact Or.inr (Or.inr (Or.inr (Or.inr ⟨env, rfl, h⟩)))

/-- A step of the environment, in cases. -/
inductive EnvMoves (s : State M) : Env M → State M → Prop
  | tcpFrame {frame : Except TcpError (TcpFromServer M)}
      (halive : s.tcpReadActor.stream.senderAlive = true) :
      EnvMoves s (.tcpFrame frame) { s with tcpReadActor := s.tcpReadActor.arrive frame }
  | tcpEnd : EnvMoves s .tcpEnd { s with tcpReadActor := s.tcpReadActor.endStream }
  | datagram {message : Except UdpError (UdpFromServer M)} :
      EnvMoves s (.datagram message) { s with udpReadActor := s.udpReadActor.arrive message }
  | sendMessageTcp {handle : ℕ} {msg : M.TcpToServer} (hhandle : s.msgReceiver.HasSender handle) :
      EnvMoves s (.sendMessageTcp handle msg) (s.called (s.sendMessageTcp handle msg))
  | sendMessageUdp {handle : ℕ} {msg : M.UdpToServer} (hhandle : s.msgReceiver.HasSender handle) :
      EnvMoves s (.sendMessageUdp handle msg) (s.called (s.sendMessageUdp handle msg))
  | getStatus {handle tx : ℕ} (hhandle : s.msgReceiver.HasSender handle) :
      EnvMoves s (.getStatus handle tx) (s.called (s.getStatus handle tx))
  | cloneHandle {handle : ℕ} (hhandle : s.msgReceiver.HasSender handle) :
      EnvMoves s (.cloneHandle handle) { s with msgReceiver := s.msgReceiver.cloneSender }
  | dropHandle {handle : ℕ} :
      EnvMoves s (.dropHandle handle) { s with msgReceiver := s.msgReceiver.dropSender handle }
  | takeEvent {ev : Event M} {ch : Channel (some 128) (Event M)}
      (hrecv : s.eventSender.recv = some (ev, ch)) :
      EnvMoves s .takeEvent { s with eventSender := ch }
  | closeEvents : EnvMoves s .closeEvents { s with eventSender := s.eventSender.closeReceiver }

theorem envMoves_of_envStep {env : Env M} (h : s.envStep env = some s') : s.EnvMoves env s' := by
  cases env with
  | tcpFrame frame =>
    obtain ⟨halive, ⟨⟩⟩ := Option.ite_none_right_eq_some.1 h
    exact .tcpFrame halive
  | sendMessageTcp handle msg =>
    obtain ⟨hhandle, ⟨⟩⟩ := Option.ite_none_right_eq_some.1 h
    exact .sendMessageTcp hhandle
  | sendMessageUdp handle msg =>
    obtain ⟨hhandle, ⟨⟩⟩ := Option.ite_none_right_eq_some.1 h
    exact .sendMessageUdp hhandle
  | getStatus handle tx =>
    obtain ⟨hhandle, ⟨⟩⟩ := Option.ite_none_right_eq_some.1 h
    exact .getStatus hhandle
  | cloneHandle handle =>
    obtain ⟨hhandle, ⟨⟩⟩ := Option.ite_none_right_eq_some.1 h
    exact .cloneHandle hhandle
  | takeEvent =>
    obtain ⟨⟨ev, ch⟩, hrecv, rfl⟩ := Option.map_eq_some_iff.1 h
    exact .takeEvent hrecv
  | tcpEnd =>
    obtain rfl := Option.some.inj h
    exact .tcpEnd
  | datagram message =>
    obtain rfl := Option.some.inj h
    exact .datagram
  | dropHandle handle =>
    obtain rfl := Option.some.inj h
    exact .dropHandle
  | closeEvents =>
    obtain rfl := Option.some.inj h
    exact .closeEvents

/-- The IO actors' steps and the world's leave the actor where it waits. -/
theorem phase_taskStep {task : Task} (h : s.taskStep task = some s') : s'.phase = s.phase := by
  cases task with
  | tcpReader st | tcpWriter st | udpReader st | udpWriter st =>
    obtain ⟨_, -, rfl⟩ := Option.map_eq_some_iff.1 h
    rfl

theorem phase_called {α : Type} (s : State M) (handle : ℕ) (msg : Message M) (back : α) :
    (s.called (s.trySend handle msg back)).phase = s.phase := by
  unfold trySend
  split <;> rfl

theorem phase_envStep {env : Env M} (h : s.envStep env = some s') : s'.phase = s.phase := by
  cases envMoves_of_envStep h with
  | sendMessageTcp _ | sendMessageUdp _ | getStatus _ => exact s.phase_called _ _ _
  | tcpFrame _ | tcpEnd | datagram | cloneHandle _ | dropHandle | takeEvent _ | closeEvents => rfl

end State

/-! ### Where the client's Hellos and events come from -/

namespace State

variable {s s' : State M} {arrived : List (Except TcpError (TcpFromServer M))}

/-- The frames that have arrived are the input of the TCP reader; a Hello goes back to a Welcome
among them with its UUID, and the event that messages can be sent over UDP to an acknowledgement. -/
structure Derived (s : State M) (arrived : List (Except TcpError (TcpFromServer M))) : Prop where
  tcpReader : s.tcpReadActor.Tracks
  input : s.tcpReadActor.stream.sent = arrived
  udpWriter : s.udpWriteActor.Tracks
  hello : ∀ uuid, .hello uuid ∈ WriteActor.items s.udpWriteActor.actorMsg.sent →
    .streamItem (.ok (.welcome uuid)) ∈ s.tcpReadActor.tx.sent
  canSend : .canSendUdpMessages ∈ s.events →
    .streamItem (.ok .udpHandshakeAcknowledged) ∈ s.tcpReadActor.tx.sent
  sending : ∀ next, s.phase = .sending .canSendUdpMessages next →
    .streamItem (.ok .udpHandshakeAcknowledged) ∈ s.tcpReadActor.tx.sent

theorem derived_start : (start : State M).Derived [] where
  tcpReader := ReadActor.tracks_spawnActor
  input := rfl
  udpWriter := WriteActor.tracks_spawnActor
  hello uuid h := by cases h
  canSend h := by cases h
  sending next h := by cases h

/-- The actor goes on without an event to send, and neither IO actor changes. -/
theorem Derived.of_phase (h : s.Derived arrived) (htcp : s'.tcpReadActor = s.tcpReadActor)
    (hudp : s'.udpWriteActor = s.udpWriteActor) (hevents : s'.events = s.events)
    (hphase : ∀ next, s'.phase ≠ .sending .canSendUdpMessages next) : s'.Derived arrived where
  tcpReader := htcp ▸ h.tcpReader
  input := by rw [htcp, h.input]
  udpWriter := hudp ▸ h.udpWriter
  hello := by rw [htcp, hudp]; exact h.hello
  canSend := by rw [htcp, hevents]; exact h.canSend
  sending next hp := absurd hp (hphase next)

/-- Neither IO actor changes, nor what the actor waits for. -/
theorem Derived.of_eq (h : s.Derived arrived) (htcp : s'.tcpReadActor = s.tcpReadActor)
    (hudp : s'.udpWriteActor = s.udpWriteActor) (hevents : s'.events = s.events)
    (hphase : s'.phase = s.phase) : s'.Derived arrived where
  tcpReader := htcp ▸ h.tcpReader
  input := by rw [htcp, h.input]
  udpWriter := hudp ▸ h.udpWriter
  hello := by rw [htcp, hudp]; exact h.hello
  canSend := by rw [htcp, hevents]; exact h.canSend
  sending := by rw [htcp, hphase]; exact h.sending

theorem Derived.dropLocals (h : s.Derived arrived) : s.dropLocals.Derived arrived where
  tcpReader := h.tcpReader.of_eq rfl rfl rfl
  input := h.input
  udpWriter := h.udpWriter.dropHandle
  hello := h.hello
  canSend := h.canSend
  sending := h.sending

theorem Derived.leave (h : s.Derived arrived) : s.leave.Derived arrived :=
  h.dropLocals.of_phase rfl rfl rfl fun _ hp ↦ by cases hp

theorem Derived.panic (h : s.Derived arrived) (site : PanicSite) : (s.panic site).Derived arrived :=
  h.dropLocals.of_phase rfl rfl rfl fun _ hp ↦ by cases hp

/-- A message that is no Hello is sent over UDP. -/
theorem Derived.sendUdp (h : s.Derived arrived) (msg : UdpToServer M)
    {writer : WriteActor (UdpToServer M)}
    (hmsg : ∀ uuid, msg = .hello uuid →
      .streamItem (.ok (.welcome uuid)) ∈ s.tcpReadActor.tx.sent)
    (hwriter : writer = s.udpWriteActor.offer (.send msg)) :
    ({ s with udpWriteActor := writer } : State M).Derived arrived where
  tcpReader := h.tcpReader
  input := h.input
  udpWriter := by
    rw [hwriter]
    exact h.udpWriter.offer _
  hello uuid hu := by
    rw [hwriter, WriteActor.actorMsg_offer, Channel.sent_offer] at hu
    split at hu
    · rw [WriteActor.items_append] at hu
      rcases List.mem_append.1 hu with hu | hu
      · exact h.hello uuid hu
      · exact hmsg uuid (List.mem_singleton.1 hu).symm
    · exact h.hello uuid hu
  canSend := h.canSend
  sending := h.sending

theorem Derived.handleActorMessage (h : s.Derived arrived) (msg : Message M) :
    (Client.handleActorMessage s msg).Derived arrived := by
  cases msg with
  | tcpToServer msg =>
    simp only [Client.handleActorMessage]
    split
    · exact h.of_eq rfl rfl rfl rfl
    · exact h.panic _
  | udpToServer msg =>
    simp only [Client.handleActorMessage]
    split
    · rename_i writer hsend
      refine h.sendUdp (.applicationLogic msg) (fun uuid hu ↦ by cases hu) ?_
      rw [← WriteActor.logged_send, hsend]
      rfl
    · exact h.panic _
  | getStatus tx => exact h.of_eq rfl rfl rfl rfl

theorem Derived.handleUdpReaderItem (h : s.Derived arrived) (item : Except UdpError (UdpFromServer M))
    (now : Instant) : (Client.handleUdpReaderItem s item now).Derived arrived := by
  unfold Client.handleUdpReaderItem
  split
  · exact h
  · exact h.of_eq rfl rfl rfl rfl
  · exact h.of_phase rfl rfl rfl fun _ hp ↦ by cases hp
  · exact h.panic _

/-- The item of the TCP reader is the one place where the two kinds of consequences arise. -/
theorem Derived.handleTcpReaderItem (h : s.Derived arrived) {item : Except TcpError (TcpFromServer M)}
    (hitem : .streamItem item ∈ s.tcpReadActor.tx.sent) :
    (Client.handleTcpReaderItem s item).Derived arrived := by
  unfold Client.handleTcpReaderItem
  split
  · rename_i uuid
    refine h.sendUdp (.hello uuid) (fun u hu ↦ ?_) (WriteActor.logged_send _ _)
    obtain rfl := UdpToServer.hello.inj hu
    exact hitem
  · exact ⟨h.tcpReader, h.input, h.udpWriter, h.hello, h.canSend, fun _ _ ↦ hitem⟩
  · exact h.of_phase rfl rfl rfl fun _ hp ↦ by cases hp
  · exact h.panic _

theorem Derived.resume (h : s.Derived arrived) (next : Next M) (now : Instant) :
    (s.resume next now).Derived arrived := by
  have hrecv : ({ s with phase := .receiving } : State M).Derived arrived :=
    h.of_phase rfl rfl rfl fun _ hp ↦ by cases hp
  cases next with
  | streams => exact hrecv
  | udpItem item => exact hrecv.handleUdpReaderItem item now

theorem Derived.taken (h : s.Derived arrived) {t : State M} {incoming : Incoming M}
    (ht : s.Taken incoming t) : t.Derived arrived := by
  cases ht with
  | tcpReader hrecv =>
    obtain ⟨-, -, hsent, -, -⟩ := Channel.recv_spec hrecv
    refine ⟨h.tcpReader.of_eq rfl hsent rfl, h.input, h.udpWriter, fun uuid hu ↦ ?_, fun hc ↦ ?_,
      fun next hp ↦ ?_⟩
    · exact hsent ▸ h.hello uuid hu
    · exact hsent ▸ h.canSend hc
    · exact hsent ▸ h.sending next hp
  | actorMessage _ | actorMessageEnd | tcpReaderEnd _ | tcpWriterEnd _ | udpReader _
  | udpReaderEnd _ | udpWriterEnd _ => exact h.of_eq rfl rfl rfl rfl

theorem Derived.next (h : s.Derived arrived) {t : State M} {incoming : Incoming M}
    (ht : s.Taken incoming t) (now : Instant) : (handleIncoming t incoming now).Derived arrived := by
  have htaken := h.taken ht
  cases incoming with
  | actorMessage msg => exact htaken.handleActorMessage msg
  | tcpReader event =>
    obtain ⟨item⟩ := event
    refine htaken.handleTcpReaderItem ?_
    cases ht with
    | tcpReader hrecv =>
      obtain ⟨hqueue, -, hsent, -, -⟩ := Channel.recv_spec hrecv
      show _ ∈ Channel.sent _
      rw [hsent, ← Channel.taken_append_queue, hqueue]
      exact List.mem_append_right _ List.mem_cons_self
  | udpReader event =>
    obtain ⟨item⟩ := event
    show (handleUdpReader t item now).Derived arrived
    unfold handleUdpReader
    split
    · exact htaken.of_phase rfl rfl rfl fun _ hp ↦ by cases hp
    · exact htaken.handleUdpReaderItem item now
  | endOfStream kind =>
    cases kind with
    | actorMessage => exact htaken.leave
    | tcpReader _ | tcpWriter _ | udpReader _ | udpWriter _ => exact htaken

/-- The event that is put into the channel is the one that the actor was about to send. -/
theorem Derived.sent (h : s.Derived arrived) {ev : Event M} {next : Next M}
    (hphase : s.phase = .sending ev next) :
    ({ s with eventSender := s.eventSender.push ev, phase := .flushing next } : State M).Derived
      arrived := by
  refine ⟨h.tcpReader, h.input, h.udpWriter, h.hello, fun hc ↦ ?_, fun _ hp ↦ by cases hp⟩
  rcases List.mem_append.1 hc with hc | hc
  · exact h.canSend hc
  · rw [← List.mem_singleton.1 hc] at hphase
    exact h.sending next hphase

theorem Derived.sendFailed (h : s.Derived arrived) (ev : Event M) (next : Next M) (now : Instant) :
    (s.sendFailed ev next now).Derived arrived := by
  cases ev with
  | tcpMessage msg | udpMessage msg => exact h.leave
  | canSendUdpMessages | canReceiveUdpMessages => exact h.resume next now

theorem Derived.taskStep (h : s.Derived arrived) {task : Task} (hs : s.taskStep task = some s') :
    s'.Derived arrived := by
  cases task with
  | tcpReader st =>
    obtain ⟨reader, hreader, rfl⟩ := Option.map_eq_some_iff.1 hs
    have hsent : ∀ ev, ev ∈ s.tcpReadActor.tx.sent → ev ∈ reader.tx.sent := fun ev hev ↦
      ReadActor.sent_subset_of_step hreader hev
    exact ⟨h.tcpReader.step hreader, (ReadActor.stream_sent_step hreader).trans h.input,
      h.udpWriter, fun uuid hu ↦ hsent _ (h.hello uuid hu),
      fun hc ↦ hsent _ (h.canSend hc), fun next hp ↦ hsent _ (h.sending next hp)⟩
  | udpWriter st =>
    obtain ⟨writer, hwriter, rfl⟩ := Option.map_eq_some_iff.1 hs
    refine ⟨h.tcpReader, h.input, h.udpWriter.step hwriter, fun uuid hu ↦ h.hello uuid ?_, h.canSend,
      h.sending⟩
    rw [← WriteActor.sent_step hwriter]
    exact hu
  | tcpWriter st | udpReader st =>
    obtain ⟨x, -, rfl⟩ := Option.map_eq_some_iff.1 hs
    exact h.of_eq rfl rfl rfl rfl

theorem Derived.called (h : s.Derived arrived) {α : Type} (handle : ℕ) (msg : Message M) (back : α) :
    (s.called (s.trySend handle msg back)).Derived arrived := by
  unfold State.trySend
  split
  · exact h.of_eq rfl rfl rfl rfl
  · exact h
  · exact h

theorem Derived.envStep (h : s.Derived arrived) {env : Env M} (hs : s.envStep env = some s') :
    s'.Derived (arrived ++ env.tcpFrame?.toList) := by
  have hquiet : ∀ {t : State M}, t.Derived arrived → t.Derived (arrived ++ []) := by
    intro t ht
    rwa [List.append_nil]
  cases envMoves_of_envStep hs with
  | @tcpFrame frame _ =>
    refine ⟨h.tcpReader.arrive frame, ?_, h.udpWriter, h.hello, h.canSend, h.sending⟩
    rw [← h.input]
    rfl
  | tcpEnd =>
    exact hquiet
      ⟨h.tcpReader.of_eq rfl rfl rfl, h.input, h.udpWriter, h.hello, h.canSend, h.sending⟩
  | sendMessageTcp _ | sendMessageUdp _ | getStatus _ => exact hquiet (h.called _ _ _)
  | takeEvent hrecv => exact hquiet (h.of_eq rfl rfl (Channel.recv_spec hrecv).2.2.1 rfl)
  | datagram | cloneHandle _ | dropHandle | closeEvents => exact hquiet (h.of_eq rfl rfl rfl rfl)

/-- **What every step keeps.** -/
theorem Derived.step (h : s.Derived arrived) {a : Action M} (hs : s.step a = some s') :
    s'.Derived (arrived ++ a.tcpFrame?.toList) := by
  have hquiet : ∀ {t : State M}, t.Derived arrived → t.Derived (arrived ++ []) := by
    intro t ht
    rwa [List.append_nil]
  rcases step_cases hs with ⟨source, now, incoming, t, rfl, -, hr, rfl⟩ |
    ⟨now, ev, next, rfl, hphase, ⟨-, rfl⟩ | ⟨-, rfl⟩⟩ | ⟨now, next, rfl, -, rfl⟩ | ⟨task, rfl, htask⟩ |
    ⟨env, rfl, henv⟩
  · exact hquiet (h.next (taken_of_nextIncoming hr) now)
  · exact hquiet (h.sent hphase)
  · exact hquiet (h.sendFailed ev next now)
  · exact hquiet (h.resume next now)
  · exact hquiet (h.taskStep htask)
  · exact h.envStep henv

/-- **A Hello that left the client** goes back to a Welcome that arrived. -/
theorem Derived.welcome_of_handed (h : s.Derived arrived) {uuid : Uuid}
    (hu : .hello uuid ∈ s.udpWriteActor.sink.handed) : .ok (.welcome uuid) ∈ arrived := by
  rw [← h.input]
  exact h.tcpReader.mem_stream (h.hello uuid (h.udpWriter.handed_isPrefix.subset hu))

/-- **The event that messages can be sent over UDP** goes back to an acknowledgement that
arrived. -/
theorem Derived.acknowledged_of_canSend (h : s.Derived arrived)
    (hc : .canSendUdpMessages ∈ s.events) : .ok .udpHandshakeAcknowledged ∈ arrived := by
  rw [← h.input]
  exact h.tcpReader.mem_stream (h.canSend hc)

end State

end NetStream.Client
