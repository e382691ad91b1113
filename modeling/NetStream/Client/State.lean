import NetStream.Library.SharedChannel
import NetStream.MessageTypes
import NetStream.Actors.ReadActor
import NetStream.Actors.WriteActor

/-!
# The state of the client actor

`struct State` of `client/actor.rs`, with the local variables of `actor` that live beside it, with
the IO actors that it spawns and with the channels to the handles and to the event receiver.

The actor waits at `streams.next()` and, unlike the server's broker, also at
`event_sender.send(..)`, whose channel is bounded. A send is two waits, as in the read actor: for a
slot, and then until the channel is no longer full. What the actor has to do after a send is part of
where it waits (`Next`).
-/

namespace NetStream.Client

/-- A point in time. -/
abbrev Instant :=
  ℕ

/-- Client status. -/
structure Status where
  /-- Time of most recently received UDP heartbeat from server. -/
  latestUdpHeartbeat : Option Instant
  deriving DecidableEq

/-- Client event. -/
inductive Event (M : MessageTypes)
  /-- Received message on TCP. -/
  | tcpMessage (msg : M.TcpFromServer)
  /-- Received message on UDP. -/
  | udpMessage (msg : M.UdpFromServer)
  /-- Client is ready to send UDP messages to server. -/
  | canSendUdpMessages
  /-- Client is ready to receive UDP messages from server. -/
  | canReceiveUdpMessages

/-- Messages that a client actor handle may send to the client actor task. -/
inductive Message (M : MessageTypes)
  | tcpToServer (msg : M.TcpToServer)
  | udpToServer (msg : M.UdpToServer)
  /-- Get status, with the oneshot channel on which to send the reply. -/
  | getStatus (tx : ℕ)

inductive IncomingKind
  | actorMessage
  | tcpReader (reason : ActorShutdown ReadActorShutdownReason)
  | tcpWriter (reason : ActorShutdown WriteActorShutdownReason)
  | udpReader (reason : ActorShutdown ReadActorShutdownReason)
  | udpWriter (reason : ActorShutdown WriteActorShutdownReason)

inductive Incoming (M : MessageTypes)
  /-- Actor message received. -/
  | actorMessage (msg : Message M)
  /-- Message received from the TCP reader actor. -/
  | tcpReader (event : ReadActorEvent (Except TcpError (TcpFromServer M)))
  /-- Message received from the UDP reader actor. -/
  | udpReader (event : ReadActorEvent (Except UdpError (UdpFromServer M)))
  /-- End of stream of one of the above. -/
  | endOfStream (kind : IncomingKind)

/-- The places where the actor panics: each is a `todo!()`. -/
inductive PanicSite
  /-- The TCP write actor is full or gone. -/
  | tcpWriter (err : WriteActorError)
  /-- The UDP write actor is full or gone. -/
  | udpWriter (err : WriteActorError)
  /-- Data on TCP that was not understood. -/
  | tcpReader
  /-- Data on UDP that was not understood. -/
  | udpReader
  deriving DecidableEq

/-- What comes after an event has been sent. -/
inductive Next (M : MessageTypes)
  /-- The next incoming item. -/
  | streams
  /-- The item received on UDP that made the event due. -/
  | udpItem (item : Except UdpError (UdpFromServer M))

/-- Where the actor waits. -/
inductive Phase (M : MessageTypes)
  /-- At `streams.next()`. -/
  | receiving
  /-- At `event_sender.send(ev)`, before the event is in the channel. -/
  | sending (ev : Event M) (next : Next M)
  /-- At `event_sender.send(ev)`, with the event in the channel. -/
  | flushing (next : Next M)
  /-- The loop was left, and the task is over. -/
  | finished
  /-- The task has panicked. -/
  | panicked (site : PanicSite)

structure State (M : MessageTypes) where
  /-- Time of most recently received UDP heartbeat from server. -/
  latestUdpHeartbeat : Option Instant
  /-- The commands, whose senders are the client's actor handles. -/
  msgReceiver : SharedChannel 32 (Message M)
  /-- The end of the commands has been taken from the stream of incoming items. -/
  msgEnded : Bool
  eventSender : Channel (some 128) (Event M)
  tcpReadActor : ReadActor 64 (Except TcpError (TcpFromServer M))
  tcpWriteActor : WriteActor (TcpToServer M)
  udpReadActor : ReadActor 64 (Except UdpError (UdpFromServer M))
  /-- The UDP write actor; its sink sends everything to the server's address. -/
  udpWriteActor : WriteActor (UdpToServer M)
  /-- For each IO actor, whether its end has been taken from the stream of incoming items. -/
  tcpReaderEnded : Bool
  tcpWriterEnded : Bool
  udpReaderEnded : Bool
  udpWriterEnded : Bool
  hasReceivedOnUdp : Bool
  /-- The replies given on oneshot channels. -/
  replies : List (ℕ × Status)
  phase : Phase M

namespace State

variable {M : MessageTypes}

/-- The state in which the loop starts. -/
def start : State M where
  latestUdpHeartbeat := none
  msgReceiver := .new
  msgEnded := false
  eventSender := .new
  tcpReadActor := .spawnActor
  tcpWriteActor := .spawnActor
  udpReadActor := .spawnActor
  udpWriteActor := .spawnActor
  tcpReaderEnded := false
  tcpWriterEnded := false
  udpReaderEnded := false
  udpWriterEnded := false
  hasReceivedOnUdp := false
  replies := []
  phase := .receiving

/-- All events emitted so far, oldest first. -/
def events (s : State M) : List (Event M) :=
  s.eventSender.sent

/-- The end of the task drops its handles of the IO actors and its ends of their channels, the
receiver of commands and the sender of events. -/
def dropLocals (s : State M) : State M :=
  { s with
    tcpReadActor := s.tcpReadActor.dropHandle.closeTx
    tcpWriteActor := s.tcpWriteActor.dropHandle
    udpReadActor := s.udpReadActor.dropHandle.closeTx
    udpWriteActor := s.udpWriteActor.dropHandle
    msgReceiver := s.msgReceiver.closeReceiver
    eventSender := s.eventSender.dropSender }

/-- `break`: the loop is left, and with it the function. -/
def leave (s : State M) : State M :=
  { s.dropLocals with phase := .finished }

/-- `todo!()`. -/
def panic (s : State M) (site : PanicSite) : State M :=
  { s.dropLocals with phase := .panicked site }

end State

end NetStream.Client
