import Mathlib.Algebra.Group.Nat.Defs
import NetStream.MessageTypes

/-!
# Peers and server output events

`peer_uid.rs` and `event.rs`. The uid counter is a 64-bit integer; whether an overflowing
`increment` panics or wraps depends on how the program was compiled.
-/

namespace NetStream.Server

/-- Unique ID for a client connection. -/
structure PeerUid where
  val : UInt64
  deriving DecidableEq

namespace PeerUid

/-- The `n`-th uid, counting from 0. -/
def ofNat (n : ℕ) : PeerUid :=
  ⟨UInt64.ofNat n⟩

/-- The uid as a number. -/
def toNat (uid : PeerUid) : ℕ :=
  uid.val.toNat

/-- `self.0 += 1`; `none` where the addition panics. -/
def increment (profile : Profile) (uid : PeerUid) : Option PeerUid :=
  if profile.overflowChecks = true ∧ uid.val.toNat + 1 = 2 ^ 64 then none else some ⟨uid.val + 1⟩

@[simp] theorem toNat_ofNat {n : ℕ} (h : n < 2 ^ 64) : (ofNat n).toNat = n := by
  show (UInt64.ofNat n).toNat = n
  rw [UInt64.toNat_ofNat', Nat.mod_eq_of_lt h]

@[simp] theorem ofNat_toNat (uid : PeerUid) : ofNat uid.toNat = uid := by
  show (⟨UInt64.ofNat uid.val.toNat⟩ : PeerUid) = uid
  rw [UInt64.ofNat_toNat]

theorem ofNat_inj {m n : ℕ} (hm : m < 2 ^ 64) (hn : n < 2 ^ 64) (h : ofNat m = ofNat n) :
    m = n := by
  rw [← toNat_ofNat hm, h, toNat_ofNat hn]

/-- Below the last uid, and with overflow checks always, an increment gives the next uid. -/
theorem increment_ofNat {profile : Profile} {n : ℕ} {uid : PeerUid}
    (h : (ofNat n).increment profile = some uid) : uid = ofNat (n + 1) := by
  unfold increment at h
  split at h
  · cases h
  · obtain rfl := Option.some.inj h
    show (⟨UInt64.ofNat n + 1⟩ : PeerUid) = ⟨UInt64.ofNat (n + 1)⟩
    rw [UInt64.ofNat_add]
    rfl

/-- With overflow checks the counter never passes the last uid. -/
theorem lt_of_increment {profile : Profile} (hp : profile.overflowChecks = true) {n : ℕ}
    (hn : n < 2 ^ 64) {uid : PeerUid} (h : (ofNat n).increment profile = some uid) :
    n + 1 < 2 ^ 64 := by
  unfold increment at h
  split at h
  · cases h
  · rename_i hne
    have htoNat : (UInt64.ofNat n).toNat = n := toNat_ofNat hn
    simp only [hp, true_and, ofNat, htoNat] at hne
    omega

end PeerUid

/-- New peer connected. -/
structure NewPeer where
  peerUid : PeerUid
  deriving DecidableEq

/-- Reason for a peer disconnect. -/
inductive DisconnectReason
  /-- Peer closed connection. -/
  | peerClosedConnection
  /-- Peer submitted unintelligble data that could not be decoded. -/
  | peerSubmittedUnintelligibleData
  deriving DecidableEq

/-- Peer disconnect. -/
structure PeerDisconnect where
  peerUid : PeerUid
  disconnectReason : DisconnectReason
  deriving DecidableEq

/-- Received message from connected peer. -/
structure PeerMessage (T : Type) where
  /-- Sender. -/
  from_ : PeerUid
  message : T

/-- Server output event. -/
inductive Event (M : MessageTypes)
  /-- New peer connected. -/
  | newPeer (ev : NewPeer)
  /-- TCP message received. -/
  | tcpMessage (msg : PeerMessage M.TcpToServer)
  /-- UDP message received. -/
  | udpMessage (msg : PeerMessage M.UdpToServer)
  /-- Peer is disconnected. -/
  | peerDisconnect (ev : PeerDisconnect)

end NetStream.Server
