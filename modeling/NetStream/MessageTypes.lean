import Mathlib.Data.List.Basic

/-!
# Message types

The wire messages of `message_types.rs`, over the four application payload types, and the plain
data that both ends exchange beside them: handshake UUIDs, socket addresses, transport errors.

A received frame or datagram is here the result of decoding it: a message, or one of two errors.
Where the errors come from is the subject of `Networking`.
-/

namespace NetStream

/-- The application's payload types, one for each direction and transport. -/
structure MessageTypes where
  /-- Type for peers to send to the server over TCP. -/
  TcpToServer : Type
  /-- Type for server to send to peers over TCP. -/
  TcpFromServer : Type
  /-- Type for peers to send to server over UDP. -/
  UdpToServer : Type
  /-- Type for server to send to peers over UDP. -/
  UdpFromServer : Type

/-- A UUID: 128 bits. -/
structure Uuid where
  val : BitVec 128
  deriving DecidableEq

/-- A socket address. -/
inductive SocketAddr
  | v4 (ip : BitVec 32) (port : BitVec 16)
  | v6 (ip : BitVec 128) (port : BitVec 16) (flowinfo scopeId : BitVec 32)
  deriving DecidableEq

variable (M : MessageTypes)

inductive TcpToServer
  /-- Pass-through application level messages. -/
  | applicationLogic (msg : M.TcpToServer)

inductive TcpFromServer
  /-- Pass-through application level messages. -/
  | applicationLogic (msg : M.TcpFromServer)
  /-- Welcome message, containing a unique UUID that the client uses to identify itself when
  sending its first UDP message. -/
  | welcome (handshakeUuid : Uuid)
  /-- An acknowledgement that an UDP Hello message carrying the handshake UUID has been received
  on the server side. -/
  | udpHandshakeAcknowledged

inductive UdpToServer
  /-- Pass-through application level messages. -/
  | applicationLogic (msg : M.UdpToServer)
  /-- Hello message, containing the same UUID from the TCP welcome message. -/
  | hello (handshakeUuid : Uuid)

inductive UdpFromServer
  /-- Pass-through application level messages. -/
  | applicationLogic (msg : M.UdpFromServer)
  /-- One-time welcome UDP message from server. -/
  | welcome
  /-- Repeating heartbeat to keep firewall UPnP port forwards open from server to client. -/
  | heartbeat

/-- `impl Clone for TcpFromServer`, over the clone of the application's messages. -/
def TcpFromServer.clone {M : MessageTypes} (cloneMsg : M.TcpFromServer → M.TcpFromServer) :
    TcpFromServer M → TcpFromServer M
  | .applicationLogic msg => .applicationLogic (cloneMsg msg)
  | .welcome handshakeUuid => .welcome handshakeUuid
  | .udpHandshakeAcknowledged => .udpHandshakeAcknowledged

/-- Where the clone of an application message equals it, so does the clone of any message. -/
theorem TcpFromServer.clone_eq {M : MessageTypes} {cloneMsg : M.TcpFromServer → M.TcpFromServer}
    (hclone : ∀ m, cloneMsg m = m) (msg : TcpFromServer M) : msg.clone cloneMsg = msg := by
  cases msg with
  | applicationLogic m => exact congrArg TcpFromServer.applicationLogic (hclone m)
  | welcome handshakeUuid => rfl
  | udpHandshakeAcknowledged => rfl

/-- The handshake UUID in a message over TCP. -/
def TcpFromServer.handshakeUuid? {M : MessageTypes} : TcpFromServer M → Option Uuid
  | .applicationLogic _ => none
  | .welcome handshakeUuid => some handshakeUuid
  | .udpHandshakeAcknowledged => none

/-- The message acknowledges the handshake. -/
def TcpFromServer.isAcknowledgement {M : MessageTypes} : TcpFromServer M → Bool
  | .applicationLogic _ => false
  | .welcome _ => false
  | .udpHandshakeAcknowledged => true

/-- The handshake UUID in a message over UDP: there is none. -/
def UdpFromServer.handshakeUuid? {M : MessageTypes} : UdpFromServer M → Option Uuid
  | .applicationLogic _ => none
  | .welcome => none
  | .heartbeat => none

/-- The error of the `tcp` stream and sink. -/
inductive TcpError
  | io
  | bincode
  deriving DecidableEq

/-- The error of the `udp` stream and sink. -/
inductive UdpError
  | io
  | bincode
  deriving DecidableEq

/-- How the program was compiled: whether `debug_assertions` is set, and whether an overflowing
addition panics rather than wraps. -/
structure Profile where
  debugAssertions : Bool
  overflowChecks : Bool

/-- An unoptimized build. -/
def Profile.dev : Profile := ⟨true, true⟩

/-- An optimized build. -/
def Profile.release : Profile := ⟨false, false⟩

/-- The application's message in a message over TCP. -/
def TcpFromServer.application? {M : MessageTypes} : TcpFromServer M → Option M.TcpFromServer
  | .applicationLogic msg => some msg
  | _ => none

/-- The application's message in a message over UDP to the server. -/
def UdpToServer.application? {M : MessageTypes} : UdpToServer M → Option M.UdpToServer
  | .applicationLogic msg => some msg
  | _ => none

/-- The application's message in a message over UDP. -/
def UdpFromServer.application? {M : MessageTypes} : UdpFromServer M → Option M.UdpFromServer
  | .applicationLogic msg => some msg
  | _ => none

end NetStream
