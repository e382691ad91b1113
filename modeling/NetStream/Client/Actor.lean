import NetStream.Client.State

/-!
# The client actor

The functions of `client/actor.rs` and `client/actor_handle.rs`. Logging is left out. `actor` is one
function in the source; here its `match` on incoming items is split at the arms, and at the sends of
events, where the actor waits and goes on in `State.resume`.
-/

namespace NetStream.Client

variable {M : MessageTypes}

/-! ### The actor -/

/-- Begin to send an event. -/
def State.emit (s : State M) (ev : Event M) (next : Next M) : State M :=
  { s with phase := .sending ev next }

def handleActorMessage (s : State M) : Message M → State M
  | .tcpToServer msg =>
    match s.tcpWriteActor.send (.applicationLogic msg) with
    | .ok tcpWriteActor => { s with tcpWriteActor := tcpWriteActor }
    | .error err => s.panic (.tcpWriter err)
  | .udpToServer msg =>
    match s.udpWriteActor.send (.applicationLogic msg) with
    | .ok udpWriteActor => { s with udpWriteActor := udpWriteActor }
    | .error err => s.panic (.udpWriter err)
  | .getStatus tx => { s with replies := s.replies ++ [(tx, ⟨s.latestUdpHeartbeat⟩)] }

def handleTcpReaderItem (s : State M) : Except TcpError (TcpFromServer M) → State M
  | .ok (.welcome handshakeUuid) =>
    { s with
      udpWriteActor := s.udpWriteActor.logged (s.udpWriteActor.send (.hello handshakeUuid)) }
  | .ok .udpHandshakeAcknowledged => s.emit .canSendUdpMessages .streams
  | .ok (.applicationLogic msg) => s.emit (.tcpMessage msg) .streams
  | .error _ => s.panic .tcpReader

/-- The `match item` of the arm for the UDP reader. -/
def handleUdpReaderItem (s : State M) (item : Except UdpError (UdpFromServer M)) (now : Instant) :
    State M :=
  match item with
  | .ok .welcome => s
  | .ok .heartbeat => { s with latestUdpHeartbeat := some now }
  | .ok (.applicationLogic msg) => s.emit (.udpMessage msg) .streams
  | .error _ => s.panic .udpReader

/-- The arm for the UDP reader: the first item is announced before it is looked at. -/
def handleUdpReader (s : State M) (item : Except UdpError (UdpFromServer M)) (now : Instant) :
    State M :=
  if !s.hasReceivedOnUdp then
    { s with hasReceivedOnUdp := true }.emit .canReceiveUdpMessages (.udpItem item)
  else handleUdpReaderItem s item now

/-- The arms of `Incoming::EndOfStream`. -/
def handleEndOfStream (s : State M) : IncomingKind → State M
  -- This means actor handle is dropped.
  | .actorMessage => s.leave
  | .tcpReader _ => s
  | .tcpWriter _ => s
  | .udpReader _ => s
  | .udpWriter _ => s

/-- The body of the loop for one incoming item, up to the first event that it sends. -/
def handleIncoming (s : State M) (incoming : Incoming M) (now : Instant) : State M :=
  match incoming with
  | .actorMessage msg => handleActorMessage s msg
  | .tcpReader (.streamItem item) => handleTcpReaderItem s item
  | .udpReader (.streamItem item) => handleUdpReader s item now
  | .endOfStream kind => handleEndOfStream s kind

/-- Go on after an event has been sent, or after its failure was logged. -/
def State.resume (s : State M) (next : Next M) (now : Instant) : State M :=
  match next with
  | .streams => { s with phase := .receiving }
  | .udpItem item => handleUdpReaderItem { s with phase := .receiving } item now

/-- Without a receiver of events: for a message the loop is left, otherwise the error is only
logged. -/
def State.sendFailed (s : State M) (ev : Event M) (next : Next M) (now : Instant) : State M :=
  match ev with
  | .tcpMessage _ => s.leave
  | .udpMessage _ => s.leave
  | .canSendUdpMessages => s.resume next now
  | .canReceiveUdpMessages => s.resume next now

/-! ### The handles -/

/-- Error communicating message to actor. The message is returned. -/
inductive Error (α : Type)
  /-- Actor cannot keep up, channel is currently full. -/
  | channelFull (msg : α)
  /-- Actor is unreachable - channel is disconnected. -/
  | actorUnreachable (msg : α)

/-- Send a message to the actor through a handle. The caller gets `back` if it is not accepted. -/
def State.trySend {α : Type} (s : State M) (handle : ℕ) (msg : Message M) (back : α) :
    Except (Error α) (State M) :=
  match s.msgReceiver.trySend handle msg with
  | .ok ch => .ok { s with msgReceiver := ch }
  | .error .full => .error (.channelFull back)
  | .error .disconnected => .error (.actorUnreachable back)

/-- Send message to server on TCP. -/
def State.sendMessageTcp (s : State M) (handle : ℕ) (msg : M.TcpToServer) :
    Except (Error M.TcpToServer) (State M) :=
  s.trySend handle (.tcpToServer msg) msg

/-- Send message to server on UDP (lossy). -/
def State.sendMessageUdp (s : State M) (handle : ℕ) (msg : M.UdpToServer) :
    Except (Error M.UdpToServer) (State M) :=
  s.trySend handle (.udpToServer msg) msg

/-- Get status, up to the wait for the reply. -/
def State.getStatus (s : State M) (handle : ℕ) (tx : ℕ) : Except (Error Unit) (State M) :=
  s.trySend handle (.getStatus tx) ()

/-- The state after a call, whatever it returns. -/
def State.called {α : Type} (s : State M) : Except (Error α) (State M) → State M
  | .ok s' => s'
  | .error _ => s

end NetStream.Client
