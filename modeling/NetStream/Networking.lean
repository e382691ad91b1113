import NetStream.MessageTypes

/-!
# The codecs of the network

`networking/tcp.rs` and `networking/udp.rs`: what becomes of a frame or a datagram on its way to the
read actor, and of a message on its way from the write actor to the socket.

Bincode and the length-delimited framing are not part of the program. A `Codec` is what it uses of
them, as arbitrary functions: (de)serialization at the message types, and the frame limit. The
framed halves of a TCP stream yield an `io::Error` for two reasons, which the program folds into
one: an operation on the socket failed, or the bytes could not be framed.
-/

namespace NetStream

/-- The origin of an `io::Error` of a framed TCP stream. -/
inductive IoError
  /-- An operation on the socket failed, as after a connection reset. -/
  | transport
  /-- The length header exceeds the limit, or the stream ends inside a frame. -/
  | framing
  deriving DecidableEq

/-- Bincode at the message types, and the frame limit of the length-delimited codec. -/
structure Codec (M : MessageTypes) where
  deserializeTcp : List UInt8 → Except Unit (TcpToServer M)
  serializeTcp : TcpFromServer M → Except Unit (List UInt8)
  deserializeUdp : List UInt8 → Except Unit (UdpToServer M)
  maxFrameLength : ℕ

namespace Codec

variable {M : MessageTypes} (codec : Codec M)

/-- The message can be put into a frame. -/
def Fits (x : TcpFromServer M) : Prop :=
  match codec.serializeTcp x with
  | .error () => False
  | .ok bytes => bytes.length ≤ codec.maxFrameLength

instance : DecidablePred codec.Fits := fun x ↦ by
  unfold Fits
  split <;> infer_instance

end Codec

variable {M : MessageTypes} (codec : Codec M)

namespace Tcp

/-- An item of the framed reader, deserialized. -/
def read : Except IoError (List UInt8) → Except TcpError (TcpToServer M)
  | .error _ => .error .io
  | .ok bytesMut =>
    match codec.deserializeTcp bytesMut with
    | .ok message => .ok message
    | .error () => .error .bincode

/-- A message sent on the sink: it is serialized, framed and written to the network, where that
works out as given. -/
def send (x : TcpFromServer M) (network : Except Unit Unit) : Except TcpError Unit :=
  match codec.serializeTcp x with
  | .error () => .error .bincode
  | .ok bytes =>
    if bytes.length > codec.maxFrameLength then .error .io
    else
      match network with
      | .ok () => .ok ()
      | .error () => .error .io

variable {codec}

theorem read_eq_error_iff {res : Except IoError (List UInt8)} {err : TcpError} :
    read codec res = .error err ↔ (∃ io, res = .error io ∧ err = .io) ∨
      ∃ bytes, res = .ok bytes ∧ codec.deserializeTcp bytes = .error () ∧ err = .bincode := by
  cases res with
  | error io => simp [read, eq_comm]
  | ok bytes => cases h : codec.deserializeTcp bytes <;> simp [read, h, eq_comm]

/-- A message that fits into a frame fails to be sent only on the network. -/
theorem network_of_send {x : TcpFromServer M} (hfits : codec.Fits x) {network : Except Unit Unit}
    {err : TcpError} (h : send codec x network = .error err) : network = .error () := by
  unfold Codec.Fits at hfits
  cases hx : codec.serializeTcp x with
  | error e => simp [hx] at hfits
  | ok bytes =>
    simp only [hx] at hfits
    cases network with
    | error e => rfl
    | ok e => simp [send, hx, Nat.not_lt_of_le hfits] at h

end Tcp

namespace Udp

/-- A datagram, deserialized. -/
def read (buf : List UInt8) : Except UdpError (UdpToServer M) :=
  match codec.deserializeUdp buf with
  | .ok message => .ok message
  | .error () => .error .bincode

variable {codec}

theorem read_eq_error_iff {buf : List UInt8} {err : UdpError} :
    read codec buf = .error err ↔ codec.deserializeUdp buf = .error () ∧ err = .bincode := by
  cases h : codec.deserializeUdp buf <;> simp [read, h, eq_comm]

end Udp

end NetStream
