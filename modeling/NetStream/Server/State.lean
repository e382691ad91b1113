import NetStream.Library.HashMap
import NetStream.Server.Event
import NetStream.Actors.ReadActor
import NetStream.Actors.WriteActor

/-!
# The state of the server broker

`struct State` of `server/actor.rs`, with the local variables of `actor` that live beside it, and
with the tasks and channels that its handles and streams refer to.

Every accepted connection leaves a `Connection` in `streams`, in the order of acceptance: its two
IO actors, and whether the end of each has been reported. A handle in a peer's record is the
position of its connection, so that a connection outlives the record: dropping a peer takes the
record out of `peers`, and leaves the connection in `streams`.

The event channel keeps all events ever emitted (`events`), the write actors' channels keep all
messages ever queued, and `replies` keeps the answers given on oneshot channels.
-/

namespace NetStream.Server

/-- Server configuration. The heartbeat interval is left out: a heartbeat may be due at any time. -/
structure Config where
  /-- Limit number of concurrently connected clients. -/
  maxConnections : ℕ

/-- Messages that a server actor handle may send to the server actor task. -/
inductive Message (M : MessageTypes)
  /-- Send message to peer over TCP. -/
  | toPeerTcp (peerUid : PeerUid) (msg : M.TcpFromServer)
  /-- Send message to peer over UDP. -/
  | toPeerUdp (peerUid : PeerUid) (msg : M.UdpFromServer)
  /-- Send message to all connected peers over TCP. -/
  | announceTcp (msg : M.TcpFromServer)
  /-- Send message to all connected peers over UDP. -/
  | announceUdp (msg : M.UdpFromServer)
  /-- Get current number of connected clients, with the oneshot channel on which to send the
  reply. -/
  | getNumberOfConnectedPeers (tx : ℕ)

/-- Handle to the read actor of the connection at this position of `streams`. -/
structure ReadActorHandle where
  connection : ℕ
  deriving DecidableEq

/-- Handle to the write actor of the connection at this position of `streams`. -/
structure WriteActorHandle where
  connection : ℕ
  deriving DecidableEq

structure Peer where
  tcpSocketAddr : SocketAddr
  udpSocketAddr : Option SocketAddr
  tcpReadActorHandle : ReadActorHandle
  tcpWriteActorHandle : WriteActorHandle
  handshakeUuid : Uuid
  deriving DecidableEq

/-- A TCP stream as `accept` returns it: all that the broker itself reads of it is the address of
the other end, which may have become unavailable. -/
structure TcpStream where
  peerAddr : Except Unit SocketAddr

inductive IncomingKind
  | actorMessage
  | tcpListener
  | tcpReader (peerUid : PeerUid) (reason : ActorShutdown ReadActorShutdownReason)
  | tcpWriter (peerUid : PeerUid) (reason : ActorShutdown WriteActorShutdownReason)
  | udpReader (reason : ActorShutdown ReadActorShutdownReason)
  | udpWriter (reason : ActorShutdown WriteActorShutdownReason)

inductive Incoming (M : MessageTypes)
  /-- Actor message received. -/
  | actorMessage (msg : Message M)
  /-- New TCP connection. -/
  | tcpListener (res : Except Unit TcpStream)
  /-- Message received from the TCP reader actor. -/
  | tcpReader (event : ReadActorEvent (Except TcpError (TcpToServer M))) (peerUid : PeerUid)
  /-- Message received from the UDP reader actor. -/
  | udpReader (event : ReadActorEvent (Except UdpError (UdpToServer M) × SocketAddr))
  /-- Emit UDP heartbeat. -/
  | udpHeartbeat
  /-- End of stream of one of the above. -/
  | endOfStream (kind : IncomingKind)

/-- What the broker leaves behind for an accepted connection. -/
structure Connection (M : MessageTypes) where
  /-- The uid with which the streams of the connection are tagged. -/
  peerUid : PeerUid
  reader : ReadActor 64 (Except TcpError (TcpToServer M))
  writer : WriteActor (TcpFromServer M)
  /-- The end of the reader has been taken from the stream of incoming items. -/
  readerEnded : Bool
  /-- The end of the writer has been taken from the stream of incoming items. -/
  writerEnded : Bool

/-- The places where the broker panics. -/
inductive PanicSite
  /-- `assert_invariants`. -/
  | assertInvariants
  /-- `Failed to get SocketAddr from TcpStream`. -/
  | peerAddr
  /-- The overflow of the uid counter. -/
  | peerUidOverflow
  /-- `todo!("Failed to emit event: ..")`. -/
  | emitEvent
  /-- `todo!()` at the end of the stream of commands. -/
  | actorMessageEnd
  /-- `todo!()` at the end of the stream of connection attempts. -/
  | tcpListenerEnd
  /-- `assert!(!state.peers.contains_key(&peer_uid))`. -/
  | peerNotRemoved
  /-- A `panic!` or `unreachable!` at the end of the UDP reader. -/
  | udpReaderEnd
  /-- A `panic!` or `unreachable!` at the end of the UDP writer. -/
  | udpWriterEnd
  deriving DecidableEq

/-- Where the broker is in its loop. -/
inductive Phase
  /-- At the top of the loop. -/
  | top
  /-- At `state.streams.next()`, with no peer left to drop. -/
  | waiting
  /-- The task has panicked. -/
  | panicked (site : PanicSite)
  deriving DecidableEq

structure State (M : MessageTypes) where
  /-- Connected peers. -/
  peers : HashMap PeerUid Peer
  config : Config
  nextPeerUid : PeerUid
  /-- The accepted connections, in order of acceptance. -/
  streams : List (Connection M)
  peerTcpSocketAddrToPeerUid : HashMap SocketAddr PeerUid
  peerUdpSocketAddrToPeerUid : HashMap SocketAddr PeerUid
  peerHandshakeUuidToPeerUid : HashMap Uuid PeerUid
  eventSender : Channel none (Event M)
  udpWriteActor : WriteActor (UdpFromServer M × SocketAddr)
  /-- The UDP read actor; its handle is a local of `actor`. -/
  udpReadActor : ReadActor 256 (Except UdpError (UdpToServer M) × SocketAddr)
  /-- The end of the UDP reader has been taken from the stream of incoming items. -/
  udpReaderEnded : Bool
  /-- The end of the UDP writer has been taken from the stream of incoming items. -/
  udpWriterEnded : Bool
  /-- The commands, whose senders are the server's actor handles. -/
  msgReceiver : Channel none (Message M)
  /-- The end of the commands has been taken from the stream of incoming items. -/
  msgEnded : Bool
  /-- The local `peers_to_drop`. -/
  peersToDrop : List (PeerUid × DisconnectReason)
  /-- The replies given on oneshot channels. -/
  replies : List (ℕ × ℕ)
  phase : Phase
  profile : Profile

namespace State

variable {M : MessageTypes}

/-- The state in which the loop starts. -/
def start (profile : Profile) (config : Config) : State M where
  peers := .new
  config := config
  nextPeerUid := .ofNat 0
  streams := []
  peerTcpSocketAddrToPeerUid := .new
  peerUdpSocketAddrToPeerUid := .new
  peerHandshakeUuidToPeerUid := .new
  eventSender := .new
  udpWriteActor := .spawnActor
  udpReadActor := .spawnActor
  udpReaderEnded := false
  udpWriterEnded := false
  msgReceiver := .new
  msgEnded := false
  peersToDrop := []
  replies := []
  phase := .top
  profile := profile

/-- All events emitted so far, oldest first. -/
def events (s : State M) : List (Event M) :=
  s.eventSender.sent

/-- Change the connection at a position. -/
def modifyConnection (s : State M) (c : ℕ) (f : Connection M → Connection M) : State M :=
  { s with streams := s.streams.modify c f }

/-- A connection after the change is the one at the position, changed, or another one as it was. -/
theorem exists_of_modifyConnection {s : State M} {i c : ℕ} {f : Connection M → Connection M}
    {conn' : Connection M} (h : (s.modifyConnection i f).streams[c]? = some conn') :
    ∃ conn, s.streams[c]? = some conn ∧ (i = c ∧ conn' = f conn ∨ i ≠ c ∧ conn' = conn) := by
  rw [modifyConnection, List.getElem?_modify] at h
  obtain ⟨conn, hconn, rfl⟩ := Option.map_eq_some_iff.1 h
  by_cases hi : i = c
  · exact ⟨conn, hconn, Or.inl ⟨hi, if_pos hi⟩⟩
  · exact ⟨conn, hconn, Or.inr ⟨hi, if_neg hi⟩⟩

/-- The panic of the broker: its task unwinds, which drops its handles of the IO actors and its
ends of their channels, the receiver of commands and the sender of events. -/
def panic (s : State M) (site : PanicSite) : State M :=
  { s with
    phase := .panicked site
    streams := s.streams.map fun conn ↦ { conn with
      reader := conn.reader.dropHandle.closeTx
      writer := conn.writer.dropHandle }
    udpWriteActor := s.udpWriteActor.dropHandle
    udpReadActor := s.udpReadActor.dropHandle.closeTx
    msgReceiver := s.msgReceiver.closeReceiver
    eventSender := s.eventSender.dropSender }

/-- `State::assert_invariants`. -/
def assertInvariants (s : State M) : Bool :=
  -- Should be at least as many TCP connections as we have known UDP sockets for the respective
  -- connected clients.
  decide (s.peerTcpSocketAddrToPeerUid.len ≥ s.peerUdpSocketAddrToPeerUid.len) &&
  -- Should not hold onto socket addr -> peer UID mappings after peer is gone.
  decide (s.peers.len ≥ s.peerTcpSocketAddrToPeerUid.len) &&
  decide (s.peers.len ≥ s.peerUdpSocketAddrToPeerUid.len) &&
  -- Should not hold onto peer "handshake UUID" -> peer UID mappings after peer is gone.
  decide (s.peers.len ≥ s.peerHandshakeUuidToPeerUid.len)

end State

end NetStream.Server
