import NetStream.Server.State

/-!
# The server broker

The functions of `server/actor.rs`, as functions from the state before to the state after. Logging
is left out; where the source only logs an error, nothing else happens on it. What a function
cannot know is an argument: the UUID that `Uuid::new_v4` returns, the order in which a `HashMap` is
iterated, and, where one function sends several messages to one actor, the steps which that actor
takes in between.

A function that reaches a `todo!`, an `expect` or an `assert!` ends in `State.panic`; in the source
each of these is the last thing the function does.
-/

namespace NetStream

/-- Send an item for each element to the channel of a write actor with `feed`, then `flush`.
Errors are only logged. The actor runs beside the sender: before each message it takes the next
list of steps of the schedule. -/
def WriteActor.feedAndFlush {T : Type} (w : WriteActor T) :
    List T → List (List WriteActor.Step) → WriteActor T
  | [], schedule =>
    let w := w.steps (schedule.headD [])
    w.logged w.flush
  | item :: rest, schedule =>
    let w := w.steps (schedule.headD [])
    (w.logged (w.feed item)).feedAndFlush rest schedule.tail

namespace Server

variable {M : MessageTypes}

/-- Emit an event. -/
def State.emit (s : State M) (ev : Event M) : State M :=
  match s.eventSender.trySend ev with
  | .ok ch => { s with eventSender := ch }
  | .error _ => s.panic .emitEvent

/-- Send a message to a TCP write actor; an error is only logged. -/
def State.sendTcp (s : State M) (handle : WriteActorHandle) (msg : TcpFromServer M) : State M :=
  s.modifyConnection handle.connection fun conn ↦
    { conn with writer := conn.writer.logged (conn.writer.send msg) }

/-- Send a datagram to the UDP write actor; an error is only logged. -/
def State.sendUdp (s : State M) (msg : UdpFromServer M) (addr : SocketAddr) : State M :=
  { s with udpWriteActor := s.udpWriteActor.logged (s.udpWriteActor.send (msg, addr)) }

/-- The IO actors of a new connection. -/
def Connection.spawn (peerUid : PeerUid) : Connection M where
  peerUid := peerUid
  reader := .spawnActor
  writer := .spawnActor
  readerEnded := false
  writerEnded := false

/-- The record of a new connection, which is the next one of `streams`. -/
def State.newPeer (s : State M) (peerTcpSocketAddr : SocketAddr) (handshakeUuid : Uuid) : Peer where
  tcpSocketAddr := peerTcpSocketAddr
  udpSocketAddr := none
  tcpReadActorHandle := ⟨s.streams.length⟩
  tcpWriteActorHandle := ⟨s.streams.length⟩
  handshakeUuid := handshakeUuid

/-- The handles of a record go with it. -/
def State.dropHandles (s : State M) (peer : Peer) : State M :=
  let s := s.modifyConnection peer.tcpReadActorHandle.connection fun conn ↦
    { conn with reader := conn.reader.dropHandle }
  s.modifyConnection peer.tcpWriteActorHandle.connection fun conn ↦
    { conn with writer := conn.writer.dropHandle }

/-- `state.peers.insert(peer_uid, peer)`: a record that is replaced is dropped. -/
def State.insertPeer (s : State M) (peerUid : PeerUid) (peer : Peer) : State M :=
  let s' := { s with peers := s.peers.insert peerUid peer }
  match s.peers.get? peerUid with
  | some replaced => s'.dropHandles replaced
  | none => s'

/-- New TCP connection. -/
def handleNewTcpConnection (s : State M) (tcpStream : TcpStream) (newV4 : Uuid) : State M :=
  match tcpStream.peerAddr with
  | .error _ => s.panic .peerAddr
  | .ok peerTcpSocketAddr =>
    -- Rejecting TCP connection attempt, server is at capacity.
    if s.peers.len ≥ s.config.maxConnections then s
    else
      let peerUid := s.nextPeerUid
      match s.nextPeerUid.increment s.profile with
      | none => s.panic .peerUidOverflow
      | some nextPeerUid =>
        let peer := s.newPeer peerTcpSocketAddr newV4
        let s := { s with
          nextPeerUid := nextPeerUid
          streams := s.streams ++ [Connection.spawn peerUid]
          peerTcpSocketAddrToPeerUid :=
            s.peerTcpSocketAddrToPeerUid.insert peerTcpSocketAddr peerUid
          peerHandshakeUuidToPeerUid := s.peerHandshakeUuidToPeerUid.insert newV4 peerUid }
        -- Send welcome message to peer.
        let s := s.sendTcp peer.tcpWriteActorHandle (.welcome newV4)
        let s := s.insertPeer peerUid peer
        s.emit (.newPeer ⟨peerUid⟩)

/-- The shutdown signals to a dropped peer's actors. Each handle goes with the record: at once if
its channel is full, at the end of `drop_peer` otherwise. -/
def State.shutdownActors (s : State M) (peer : Peer) : State M :=
  let s := s.modifyConnection peer.tcpReadActorHandle.connection fun conn ↦
    { conn with reader := conn.reader.logged conn.reader.signalShutdown }
  let s := s.modifyConnection peer.tcpWriteActorHandle.connection fun conn ↦
    { conn with writer := conn.writer.logged conn.writer.signalShutdown }
  s.dropHandles peer

def dropPeer (s : State M) (peerUid : PeerUid) (reason : DisconnectReason) : State M :=
  match s.peers.get? peerUid with
  | none => s
  | some peer =>
    let s := { s with
      peers := s.peers.remove peerUid
      peerTcpSocketAddrToPeerUid := s.peerTcpSocketAddrToPeerUid.remove peer.tcpSocketAddr
      peerUdpSocketAddrToPeerUid := s.peerUdpSocketAddrToPeerUid.removeSome peer.udpSocketAddr
      peerHandshakeUuidToPeerUid := s.peerHandshakeUuidToPeerUid.remove peer.handshakeUuid }
    let s := s.shutdownActors peer
    s.emit (.peerDisconnect ⟨peerUid, reason⟩)

def announceTcp (s : State M) (order : List PeerUid) (msg : TcpFromServer M) : State M :=
  order.foldl (fun s peerUid ↦
    match s.peers.get? peerUid with
    | some peer => s.sendTcp peer.tcpWriteActorHandle msg
    | none => s) s

def announceUdp (s : State M) (order : List PeerUid) (schedule : List (List WriteActor.Step))
    (msg : UdpFromServer M) : State M :=
  let items := (order.filterMap s.peers.get?).map fun peer ↦ (msg, peer.tcpSocketAddr)
  { s with udpWriteActor := s.udpWriteActor.feedAndFlush items schedule }

def handleActorMessage (s : State M) (msg : Message M) (order : List PeerUid)
    (schedule : List (List WriteActor.Step)) : State M :=
  match msg with
  | .toPeerTcp peerUid msg =>
    match s.peers.get? peerUid with
    | some peer => s.sendTcp peer.tcpWriteActorHandle (.applicationLogic msg)
    | none => s
  | .toPeerUdp peerUid msg =>
    match s.peers.get? peerUid with
    | some peer =>
      match peer.udpSocketAddr with
      | some peerUdpSocketAddr => s.sendUdp (.applicationLogic msg) peerUdpSocketAddr
      | none => s
    | none => s
  | .announceTcp msg => announceTcp s order (.applicationLogic msg)
  | .announceUdp msg => announceUdp s order schedule (.applicationLogic msg)
  | .getNumberOfConnectedPeers tx => { s with replies := s.replies ++ [(tx, s.peers.len)] }

def handleUdpReaderStreamItem (s : State M) (message : UdpToServer M) (socketAddr : SocketAddr) :
    State M :=
  match message with
  | .hello handshakeUuid =>
    match s.peerHandshakeUuidToPeerUid.get? handshakeUuid with
    | none => s
    | some peerUid =>
      match s.peers.get? peerUid with
      | none => s
      | some peer =>
        let s := { s with
          peers := s.peers.insert peerUid { peer with udpSocketAddr := some socketAddr }
          peerUdpSocketAddrToPeerUid := s.peerUdpSocketAddrToPeerUid.insert socketAddr peerUid }
        let s := s.sendTcp peer.tcpWriteActorHandle .udpHandshakeAcknowledged
        s.sendUdp .welcome socketAddr
  | .applicationLogic msg =>
    match s.peerUdpSocketAddrToPeerUid.get? socketAddr with
    | none => s
    | some peerUid => s.emit (.udpMessage ⟨peerUid, msg⟩)

def handleTcpReaderStreamItem (s : State M) (message : TcpToServer M) (peerUid : PeerUid) :
    State M :=
  match message with
  | .applicationLogic msg => s.emit (.tcpMessage ⟨peerUid, msg⟩)

/-- `peers_to_drop.push((peer_uid, reason))`. -/
def State.scheduleDrop (s : State M) (peerUid : PeerUid) (reason : DisconnectReason) : State M :=
  { s with peersToDrop := s.peersToDrop ++ [(peerUid, reason)] }

/-- `assert!(!state.peers.contains_key(&peer_uid))`. -/
def State.assertNotConnected (s : State M) (peerUid : PeerUid) : State M :=
  if s.peers.containsKey peerUid then s.panic .peerNotRemoved else s

/-- The arms of `Incoming::EndOfStream`. -/
def handleEndOfStream (s : State M) : IncomingKind → State M
  | .actorMessage => s.panic .actorMessageEnd
  | .tcpListener => s.panic .tcpListenerEnd
  | .tcpReader peerUid reason =>
    match reason with
    -- Peer closed tcp connection.
    | .controlled .endOfStream => s.scheduleDrop peerUid .peerClosedConnection
    -- If it was signalled to shut down, we should already have removed the peer.
    | .controlled .signalled => s.assertNotConnected peerUid
    | .controlled .actorHandlesDropped => s.assertNotConnected peerUid
    | .controlled .receiverClosedChannel => s.assertNotConnected peerUid
    | .erratic .cancelled => s
    | .erratic .panic => s
  | .tcpWriter peerUid reason =>
    match reason with
    | .controlled .signalled => s.assertNotConnected peerUid
    -- Presumably the peer closed at least the reader half of the TCP connection.
    | .controlled .sinkError => s.scheduleDrop peerUid .peerClosedConnection
    | .controlled .actorHandlesDropped => s.assertNotConnected peerUid
    | .erratic .cancelled => s
    | .erratic .panic => s
  | .udpReader reason =>
    match reason with
    | .controlled .signalled => s
    | .controlled .endOfStream => s.panic .udpReaderEnd
    | .controlled .actorHandlesDropped => s.panic .udpReaderEnd
    | .controlled .receiverClosedChannel => s.panic .udpReaderEnd
    | .erratic .cancelled => s.panic .udpReaderEnd
    | .erratic .panic => s.panic .udpReaderEnd
  | .udpWriter reason =>
    match reason with
    | .controlled .signalled => s
    | .controlled .sinkError => s.panic .udpWriterEnd
    | .controlled .actorHandlesDropped => s.panic .udpWriterEnd
    | .erratic .cancelled => s.panic .udpWriterEnd
    | .erratic .panic => s.panic .udpWriterEnd

/-- What the handling of one incoming item does not determine itself. -/
structure Choice where
  /-- The result of `Uuid::new_v4`. -/
  newV4 : Uuid
  /-- The iteration order of `state.peers`. -/
  order : List PeerUid
  /-- The steps of the UDP write actor before each message of an announcement. -/
  schedule : List (List WriteActor.Step)

/-- The body of the loop for one incoming item. -/
def handleIncoming (s : State M) (incoming : Incoming M) (choice : Choice) : State M :=
  match incoming with
  | .actorMessage msg => handleActorMessage s msg choice.order choice.schedule
  -- Failed TCP connection attempt.
  | .tcpListener (.error _) => s
  | .tcpListener (.ok tcpStream) => handleNewTcpConnection s tcpStream choice.newV4
  | .tcpReader (.streamItem (.ok message)) peerUid => handleTcpReaderStreamItem s message peerUid
  | .tcpReader (.streamItem (.error _)) peerUid =>
    s.scheduleDrop peerUid .peerSubmittedUnintelligibleData
  | .udpReader (.streamItem (.ok message, socketAddr)) =>
    handleUdpReaderStreamItem s message socketAddr
  | .udpReader (.streamItem (.error _, socketAddr)) =>
    match s.peerUdpSocketAddrToPeerUid.get? socketAddr with
    | some peerUid => s.scheduleDrop peerUid .peerSubmittedUnintelligibleData
    | none => s
  | .udpHeartbeat => announceUdp s choice.order choice.schedule .heartbeat
  | .endOfStream kind => handleEndOfStream s kind

/-- `for (peer_uid, reason) in peers_to_drop.drain(..)`; a panic ends the loop. -/
def dropPeers (s : State M) : List (PeerUid × DisconnectReason) → State M
  | [] => s
  | (peerUid, reason) :: rest =>
    let s := dropPeer s peerUid reason
    match s.phase with
    | .panicked _ => s
    | _ => dropPeers s rest

/-- The top of the loop: the sanity check of invariants in a debug build, then the peers to
drop. -/
def loopTop (s : State M) : State M :=
  if s.profile.debugAssertions && !s.assertInvariants then s.panic .assertInvariants
  else dropPeers { s with peersToDrop := [], phase := .waiting } s.peersToDrop

end Server

end NetStream
