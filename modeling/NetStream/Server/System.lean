import NetStream.Library.TransitionSystem
import NetStream.Server.Actor

/-!
# The server as a transition system

The broker, its IO actors and the world around them take steps in any order. A step of the broker
is one passage through the top of its loop or the handling of one incoming item; an IO actor's step
completes one of its waits; the environment delivers frames, datagrams and commands, ends streams,
and drops the handles and the event receiver.

`state.streams` may yield an item of any of its streams that is ready, and `Source` names the one
that does. The end of a reader is ready once its task is over and its channel is drained, the end
of a writer once its task is over, and each is yielded once. Connection attempts and heartbeats may
come at any time.

The handlers of the broker are atomic steps here. Each of them sends at most one message to any one
channel that has a receiver beside the broker, except an announcement over UDP, which carries the
interleaving with the UDP write actor as its `schedule`.
-/

namespace NetStream.Server

variable {M : MessageTypes}

/-- The stream of `state.streams` that yields the next item. -/
inductive Source
  | actorMessage
  | actorMessageEnd
  | tcpListener (res : Except Unit TcpStream)
  | tcpReader (connection : ℕ)
  | tcpReaderEnd (connection : ℕ)
  | tcpWriterEnd (connection : ℕ)
  | udpReader
  | udpReaderEnd
  | udpWriterEnd
  | udpHeartbeat

/-- An IO actor, and the step it takes. -/
inductive Task
  | tcpReader (connection : ℕ) (step : ReadActor.Step)
  | tcpWriter (connection : ℕ) (step : WriteActor.Step)
  | udpReader (step : ReadActor.Step)
  | udpWriter (step : WriteActor.Step)

/-- What the world outside the server does. -/
inductive Env (M : MessageTypes)
  /-- A frame of a connection is read from the network and decoded. -/
  | tcpFrame (connection : ℕ) (frame : Except TcpError (TcpToServer M))
  /-- Nothing more is read from a connection. -/
  | tcpEnd (connection : ℕ)
  /-- A datagram is read from the socket and decoded. -/
  | datagram (message : Except UdpError (UdpToServer M)) (socketAddr : SocketAddr)
  /-- A command is given through an actor handle. -/
  | command (msg : Message M)
  /-- The last actor handle is dropped. -/
  | dropHandles
  /-- The event receiver is closed or dropped. -/
  | closeEvents

inductive Action (M : MessageTypes)
  /-- The broker goes through the top of its loop. -/
  | loopTop
  /-- The broker handles the next incoming item. -/
  | next (source : Source) (choice : Choice)
  | task (task : Task)
  | env (env : Env M)

namespace State

/-- Change the connection at a position, if it is there and the change is enabled. -/
def updateConnection (s : State M) (c : ℕ) (f : Connection M → Option (Connection M)) :
    Option (State M) :=
  match s.streams[c]? with
  | none => none
  | some conn => (f conn).map fun conn' ↦ s.modifyConnection c fun _ ↦ conn'

/-- `state.streams.next()`: the item, and the state after it is taken, where the source has one
ready. -/
def nextIncoming (s : State M) : Source → Option (Incoming M × State M)
  | .actorMessage => s.msgReceiver.recv.map fun r ↦
      (.actorMessage r.1, { s with msgReceiver := r.2 })
  | .actorMessageEnd =>
    if s.msgReceiver.queue.isEmpty && !s.msgReceiver.senderAlive && !s.msgEnded then
      some (.endOfStream .actorMessage, { s with msgEnded := true })
    else none
  | .tcpListener res => some (.tcpListener res, s)
  | .tcpReader c =>
    match s.streams[c]? with
    | none => none
    | some conn => conn.reader.tx.recv.map fun r ↦
        (.tcpReader r.1 conn.peerUid, s.modifyConnection c fun conn ↦
          { conn with reader := { conn.reader with tx := r.2 } })
  | .tcpReaderEnd c =>
    match s.streams[c]? with
    | none => none
    | some conn =>
      match conn.reader.phase with
      | .finished reason =>
        if conn.reader.tx.queue.isEmpty && !conn.readerEnded then
          some (.endOfStream (.tcpReader conn.peerUid reason), s.modifyConnection c fun conn ↦
            { conn with readerEnded := true })
        else none
      | _ => none
  | .tcpWriterEnd c =>
    match s.streams[c]? with
    | none => none
    | some conn =>
      match conn.writer.phase with
      | .finished reason =>
        if !conn.writerEnded then
          some (.endOfStream (.tcpWriter conn.peerUid reason), s.modifyConnection c fun conn ↦
            { conn with writerEnded := true })
        else none
      | _ => none
  | .udpReader => s.udpReadActor.tx.recv.map fun r ↦
      (.udpReader r.1, { s with udpReadActor := { s.udpReadActor with tx := r.2 } })
  | .udpReaderEnd =>
    match s.udpReadActor.phase with
    | .finished reason =>
      if s.udpReadActor.tx.queue.isEmpty && !s.udpReaderEnded then
        some (.endOfStream (.udpReader reason), { s with udpReaderEnded := true })
      else none
    | _ => none
  | .udpWriterEnd =>
    match s.udpWriteActor.phase with
    | .finished reason =>
      if !s.udpWriterEnded then
        some (.endOfStream (.udpWriter reason), { s with udpWriterEnded := true })
      else none
    | _ => none
  | .udpHeartbeat => some (.udpHeartbeat, s)

/-- What taking an item does: the cases of `nextIncoming`. -/
inductive Taken (s : State M) : Incoming M → State M → Prop
  | actorMessage {msg : Message M} {ch : Channel none (Message M)}
      (h : s.msgReceiver.recv = some (msg, ch)) :
      Taken s (.actorMessage msg) { s with msgReceiver := ch }
  | actorMessageEnd : Taken s (.endOfStream .actorMessage) { s with msgEnded := true }
  | tcpListener (res : Except Unit TcpStream) : Taken s (.tcpListener res) s
  | tcpReader {c : ℕ} {conn : Connection M}
      {event : ReadActorEvent (Except TcpError (TcpToServer M))} {ch : Channel (some 64) _}
      (hconn : s.streams[c]? = some conn) (h : conn.reader.tx.recv = some (event, ch)) :
      Taken s (.tcpReader event conn.peerUid) (s.modifyConnection c fun conn ↦
        { conn with reader := { conn.reader with tx := ch } })
  | tcpReaderEnd {c : ℕ} {conn : Connection M} {reason : ActorShutdown ReadActorShutdownReason}
      (hconn : s.streams[c]? = some conn) (h : conn.reader.phase = .finished reason) :
      Taken s (.endOfStream (.tcpReader conn.peerUid reason)) (s.modifyConnection c fun conn ↦
        { conn with readerEnded := true })
  | tcpWriterEnd {c : ℕ} {conn : Connection M} {reason : ActorShutdown WriteActorShutdownReason}
      (hconn : s.streams[c]? = some conn) (h : conn.writer.phase = .finished reason) :
      Taken s (.endOfStream (.tcpWriter conn.peerUid reason)) (s.modifyConnection c fun conn ↦
        { conn with writerEnded := true })
  | udpReader {event : ReadActorEvent (Except UdpError (UdpToServer M) × SocketAddr)}
      {ch : Channel (some 256) _} (h : s.udpReadActor.tx.recv = some (event, ch)) :
      Taken s (.udpReader event) { s with udpReadActor := { s.udpReadActor with tx := ch } }
  | udpReaderEnd {reason : ActorShutdown ReadActorShutdownReason}
      (h : s.udpReadActor.phase = .finished reason) :
      Taken s (.endOfStream (.udpReader reason)) { s with udpReaderEnded := true }
  | udpWriterEnd {reason : ActorShutdown WriteActorShutdownReason}
      (h : s.udpWriteActor.phase = .finished reason) :
      Taken s (.endOfStream (.udpWriter reason)) { s with udpWriterEnded := true }
  | udpHeartbeat : Taken s .udpHeartbeat s

theorem taken_of_nextIncoming {s : State M} {source : Source} {r : Incoming M × State M}
    (h : s.nextIncoming source = some r) : s.Taken r.1 r.2 := by
  cases source with
  | actorMessage =>
    obtain ⟨x, hx, rfl⟩ := Option.map_eq_some_iff.1 h
    exact .actorMessage hx
  | actorMessageEnd =>
    simp only [nextIncoming] at h
    split at h
    · obtain rfl := Option.some.inj h
      exact .actorMessageEnd
    · cases h
  | tcpListener res =>
    obtain rfl := Option.some.inj h
    exact .tcpListener res
  | tcpReader c =>
    simp only [nextIncoming] at h
    split at h
    · cases h
    · rename_i conn hconn
      obtain ⟨x, hx, rfl⟩ := Option.map_eq_some_iff.1 h
      exact .tcpReader hconn hx
  | tcpReaderEnd c =>
    simp only [nextIncoming] at h
    repeat' split at h
    all_goals cases h
    exact .tcpReaderEnd ‹_› ‹_›
  | tcpWriterEnd c =>
    simp only [nextIncoming] at h
    repeat' split at h
    all_goals cases h
    exact .tcpWriterEnd ‹_› ‹_›
  | udpReader =>
    obtain ⟨x, hx, rfl⟩ := Option.map_eq_some_iff.1 h
    exact .udpReader hx
  | udpReaderEnd =>
    simp only [nextIncoming] at h
    repeat' split at h
    all_goals cases h
    exact .udpReaderEnd ‹_›
  | udpWriterEnd =>
    simp only [nextIncoming] at h
    repeat' split at h
    all_goals cases h
    exact .udpWriterEnd ‹_›
  | udpHeartbeat =>
    obtain rfl := Option.some.inj h
    exact .udpHeartbeat

/-- A step of an IO actor. -/
def taskStep (s : State M) : Task → Option (State M)
  | .tcpReader c st => s.updateConnection c fun conn ↦
      (conn.reader.step st).map fun reader ↦ { conn with reader := reader }
  | .tcpWriter c st => s.updateConnection c fun conn ↦
      (conn.writer.step st).map fun writer ↦ { conn with writer := writer }
  | .udpReader st => (s.udpReadActor.step st).map fun reader ↦ { s with udpReadActor := reader }
  | .udpWriter st => (s.udpWriteActor.step st).map fun writer ↦ { s with udpWriteActor := writer }

/-- A step of the environment. A stream that has ended yields nothing more, and commands come from
handles that still exist. -/
def envStep (s : State M) : Env M → Option (State M)
  | .tcpFrame c frame => s.updateConnection c fun conn ↦
      if conn.reader.stream.senderAlive then
        some { conn with reader := conn.reader.arrive frame }
      else none
  | .tcpEnd c => s.updateConnection c fun conn ↦
      some { conn with reader := conn.reader.endStream }
  | .datagram message socketAddr =>
      some { s with udpReadActor := s.udpReadActor.arrive (message, socketAddr) }
  | .command msg =>
    if s.msgReceiver.senderAlive then some { s with msgReceiver := s.msgReceiver.offer msg }
    else none
  | .dropHandles => some { s with msgReceiver := s.msgReceiver.dropSender }
  | .closeEvents => some { s with eventSender := s.eventSender.closeReceiver }

/-- The state after an action, where it is enabled. The map is iterated in an order of its keys. -/
def step (s : State M) : Action M → Option (State M)
  | .loopTop => if s.phase = .top then some (Server.loopTop s) else none
  | .next source choice =>
    if s.phase = .waiting ∧ s.peers.Enumerates choice.order then
      (s.nextIncoming source).map fun r ↦
        handleIncoming { r.2 with phase := .top } r.1 choice
    else none
  | .task task => s.taskStep task
  | .env env => s.envStep env

theorem eq_loopTop_of_step {s s' : State M} (h : s.step .loopTop = some s') :
    s.phase = .top ∧ s' = Server.loopTop s := by
  simp only [step] at h
  split at h
  · exact ⟨‹_›, (Option.some.inj h).symm⟩
  · cases h

/-- An item is taken while the broker waits for one, and handled. -/
theorem exists_taken_of_next {s s' : State M} {source : Source} {choice : Choice}
    (h : s.step (.next source choice) = some s') :
    s.phase = .waiting ∧ s.peers.Enumerates choice.order ∧ ∃ incoming t,
      s.nextIncoming source = some (incoming, t) ∧
      s' = handleIncoming { t with phase := .top } incoming choice := by
  simp only [step] at h
  split at h
  · rename_i hwait
    obtain ⟨⟨incoming, t⟩, hr, rfl⟩ := Option.map_eq_some_iff.1 h
    exact ⟨hwait.1, hwait.2, incoming, t, hr, rfl⟩
  · cases h

end State

/-- The server: it starts with any configuration, in any build. -/
def system (M : MessageTypes) : TransitionSystem (State M) (Action M) where
  init s := ∃ profile config, s = .start profile config
  step := State.step

/-- A run of the server, with its history. -/
abbrev Run (hist : List (State M × Action M)) (s : State M) : Prop :=
  (system M).Run hist s

/-! ### Writing down a run

Short names for the steps of the runs that are written out action by action: addresses, UUIDs and
uids by number, and the route of a frame or a datagram through its read actor. -/

/-- Payloads without content. -/
def plainMessages : MessageTypes :=
  ⟨Unit, Unit, Unit, Unit⟩

/-- The address with this number. -/
def address (n : ℕ) : SocketAddr :=
  .v4 (BitVec.ofNat 32 n) 0

/-- The UUID with this number. -/
def uuid (n : ℕ) : Uuid :=
  ⟨BitVec.ofNat 128 n⟩

namespace Action

/-- The broker goes through the top of its loop and takes an item, with these peers connected. -/
def take (source : Source) (peers : List ℕ) : List (Action M) :=
  [.loopTop, .next source ⟨uuid 0, peers.map PeerUid.ofNat, []⟩]

/-- A connection from the address with number `a`, with the UUID with number `u`, is attempted. -/
def connect (a u : ℕ) (peers : List ℕ) : List (Action M) :=
  [.loopTop, .next (.tcpListener (.ok ⟨.ok (address a)⟩)) ⟨uuid u, peers.map PeerUid.ofNat, []⟩]

/-- A frame of connection `c` gets as far as the channel to the broker. -/
def frame (c : ℕ) (frame : Except TcpError (TcpToServer M)) : List (Action M) :=
  [.env (.tcpFrame c frame), .task (.tcpReader c .item), .task (.tcpReader c .send),
    .task (.tcpReader c .flush)]

/-- A datagram from the address with number `a` is handled by the broker. -/
def datagram (message : Except UdpError (UdpToServer M)) (a : ℕ) (peers : List ℕ) :
    List (Action M) :=
  [.env (.datagram message (address a)), .task (.udpReader .item), .task (.udpReader .send),
    .task (.udpReader .flush)] ++ take .udpReader peers

/-- A command is given and handled. -/
def command (msg : Message M) (peers : List ℕ) : List (Action M) :=
  .env (.command msg) :: take .actorMessage peers

end Action

end NetStream.Server
