import NetStream.Library.TransitionSystem
import NetStream.Server.State

/-!
# The registry: what the broker keeps account of

The broker without its IO, as a system of its own: who is connected, under which names a peer can
be looked up, which uid comes next, and what the application has been told. Only six things ever
happen to it (`Op`): peers are dropped, a connection is accepted, a Hello binds a UDP address, a
message that came over TCP or over UDP is emitted, and the event receiver goes away.

Properties of peers, indexes and events are proved here, where a step is one of these and nothing
else, and are carried to the server by the refinement (`Run.registry`).
-/

namespace NetStream.Server

variable {M : MessageTypes}

structure Registry (M : MessageTypes) where
  /-- Connected peers. -/
  peers : HashMap PeerUid Peer
  nextPeerUid : PeerUid
  /-- The uids with which the streams of the accepted connections are tagged, in order of
  acceptance. -/
  connections : List PeerUid
  tcpIndex : HashMap SocketAddr PeerUid
  udpIndex : HashMap SocketAddr PeerUid
  handshakeIndex : HashMap Uuid PeerUid
  /-- The events emitted so far, oldest first. -/
  events : List (Event M)
  /-- The event receiver is alive. -/
  eventsOpen : Bool
  config : Config
  profile : Profile

/-- What happens to the registry. -/
inductive Op (M : MessageTypes)
  /-- The listed peers are dropped, in turn. -/
  | drop (peers : List (PeerUid × DisconnectReason))
  /-- A connection is accepted, and the uid counter moves on. -/
  | accept (peerTcpSocketAddr : SocketAddr) (handshakeUuid : Uuid) (nextPeerUid : PeerUid)
  /-- A Hello with the handshake UUID of a connected peer is accepted from a socket address. -/
  | bind (peerUid : PeerUid) (peer : Peer) (handshakeUuid : Uuid) (socketAddr : SocketAddr)
  /-- A message that came over TCP is emitted. -/
  | tcpMessage (msg : PeerMessage M.TcpToServer)
  /-- A message that came over UDP, from a socket address, is emitted. -/
  | udpMessage (msg : PeerMessage M.UdpToServer) (socketAddr : SocketAddr)
  /-- The event receiver is closed or dropped. -/
  | closeEvents
  | idle

namespace Registry

/-- The registry in which the loop starts. -/
def start (profile : Profile) (config : Config) : Registry M where
  peers := .new
  nextPeerUid := .ofNat 0
  connections := []
  tcpIndex := .new
  udpIndex := .new
  handshakeIndex := .new
  events := []
  eventsOpen := true
  config := config
  profile := profile

/-- Emit an event: without a receiver, nothing is emitted. -/
def emit (r : Registry M) (ev : Event M) : Registry M :=
  if r.eventsOpen then { r with events := r.events ++ [ev] } else r

/-- The record of the connection that is accepted next. -/
def newPeer (r : Registry M) (peerTcpSocketAddr : SocketAddr) (handshakeUuid : Uuid) : Peer where
  tcpSocketAddr := peerTcpSocketAddr
  udpSocketAddr := none
  tcpReadActorHandle := ⟨r.connections.length⟩
  tcpWriteActorHandle := ⟨r.connections.length⟩
  handshakeUuid := handshakeUuid

/-- A further connection with its record and its names, before it is announced. -/
def register (r : Registry M) (peerTcpSocketAddr : SocketAddr) (handshakeUuid : Uuid)
    (nextPeerUid : PeerUid) : Registry M :=
  { r with
    peers := r.peers.insert r.nextPeerUid (r.newPeer peerTcpSocketAddr handshakeUuid)
    nextPeerUid := nextPeerUid
    connections := r.connections ++ [r.nextPeerUid]
    tcpIndex := r.tcpIndex.insert peerTcpSocketAddr r.nextPeerUid
    handshakeIndex := r.handshakeIndex.insert handshakeUuid r.nextPeerUid }

def accept (r : Registry M) (peerTcpSocketAddr : SocketAddr) (handshakeUuid : Uuid)
    (nextPeerUid : PeerUid) : Registry M :=
  (r.register peerTcpSocketAddr handshakeUuid nextPeerUid).emit (.newPeer ⟨r.nextPeerUid⟩)

/-- A connected peer's record is taken out, and the index entries of its names. -/
def remove (r : Registry M) (peerUid : PeerUid) (peer : Peer) : Registry M :=
  { r with
    peers := r.peers.remove peerUid
    tcpIndex := r.tcpIndex.remove peer.tcpSocketAddr
    udpIndex := r.udpIndex.removeSome peer.udpSocketAddr
    handshakeIndex := r.handshakeIndex.remove peer.handshakeUuid }

def dropPeer (r : Registry M) (peerUid : PeerUid) (reason : DisconnectReason) : Registry M :=
  match r.peers.get? peerUid with
  | none => r
  | some peer => (r.remove peerUid peer).emit (.peerDisconnect ⟨peerUid, reason⟩)

/-- Drop peers in turn. Without an event receiver the broker does not get beyond the first. -/
def dropPeers (r : Registry M) : List (PeerUid × DisconnectReason) → Registry M
  | [] => r
  | (peerUid, reason) :: rest =>
    if r.eventsOpen = false ∧ r.peers.containsKey peerUid = true then r.dropPeer peerUid reason
    else (r.dropPeer peerUid reason).dropPeers rest

def bind (r : Registry M) (peerUid : PeerUid) (peer : Peer) (socketAddr : SocketAddr) :
    Registry M :=
  { r with
    peers := r.peers.insert peerUid { peer with udpSocketAddr := some socketAddr }
    udpIndex := r.udpIndex.insert socketAddr peerUid }

def after (r : Registry M) : Op M → Registry M
  | .drop peers => r.dropPeers peers
  | .accept addr uuid nextPeerUid => r.accept addr uuid nextPeerUid
  | .bind peerUid peer _ addr => r.bind peerUid peer addr
  | .tcpMessage msg => r.emit (.tcpMessage msg)
  | .udpMessage msg _ => r.emit (.udpMessage msg)
  | .closeEvents => { r with eventsOpen := false }
  | .idle => r

/-- The operations that are possible: a connection is accepted below capacity and while the counter
does not overflow, a Hello is looked up by UUID, a datagram by address, and a message over TCP comes
from some accepted connection. -/
def Enabled (r : Registry M) : Op M → Prop
  | .accept _ _ nextPeerUid =>
    r.peers.len < r.config.maxConnections ∧ r.nextPeerUid.increment r.profile = some nextPeerUid
  | .bind peerUid peer uuid _ =>
    r.handshakeIndex.get? uuid = some peerUid ∧ r.peers.get? peerUid = some peer
  | .tcpMessage msg => msg.from_ ∈ r.connections
  | .udpMessage msg addr => r.udpIndex.get? addr = some msg.from_
  | _ => True

instance (r : Registry M) : DecidablePred r.Enabled
  | .accept _ _ nextPeerUid => inferInstanceAs (Decidable (r.peers.len < r.config.maxConnections ∧
      r.nextPeerUid.increment r.profile = some nextPeerUid))
  | .bind peerUid peer uuid _ => inferInstanceAs (Decidable
      (r.handshakeIndex.get? uuid = some peerUid ∧ r.peers.get? peerUid = some peer))
  | .tcpMessage msg => inferInstanceAs (Decidable (msg.from_ ∈ r.connections))
  | .udpMessage msg addr => inferInstanceAs (Decidable (r.udpIndex.get? addr = some msg.from_))
  | .drop _ | .closeEvents | .idle => inferInstanceAs (Decidable True)

/-- The registry as a transition system. -/
def system (M : MessageTypes) : TransitionSystem (Registry M) (Op M) where
  init r := ∃ profile config, r = .start profile config
  step r op := if r.Enabled op then some (r.after op) else none

/-- A run of the registry, with its history. -/
abbrev Run (hist : List (Registry M × Op M)) (r : Registry M) : Prop :=
  (system M).Run hist r

theorem step_eq_some_iff {r r' : Registry M} {op : Op M} :
    (system M).step r op = some r' ↔ r.Enabled op ∧ r' = r.after op := by
  show (if r.Enabled op then some (r.after op) else none) = some r' ↔ _
  split
  · rename_i h
    simp only [h, true_and, Option.some.injEq, eq_comm]
  · rename_i h
    simp [h]

/-- **The invariant rule of the registry.** -/
theorem Run.invariant {I : Registry M → Prop} {hist : List (Registry M × Op M)} {r : Registry M}
    (hinit : ∀ profile config, I (.start profile config))
    (hstep : ∀ r op, I r → r.Enabled op → I (r.after op)) (h : Run hist r) : I r := by
  refine TransitionSystem.Run.invariant (T := system M) ?_ ?_ h
  · rintro r ⟨profile, config, rfl⟩
    exact hinit profile config
  · intro r op r' hr hs
    obtain ⟨he, rfl⟩ := step_eq_some_iff.1 hs
    exact hstep r op hr he

/-! ### What emitting leaves alone -/

section Emit

variable (r : Registry M) (ev : Event M)

@[simp] theorem emit_peers : (r.emit ev).peers = r.peers := by
  unfold emit; split <;> rfl

@[simp] theorem emit_nextPeerUid : (r.emit ev).nextPeerUid = r.nextPeerUid := by
  unfold emit; split <;> rfl

@[simp] theorem emit_connections : (r.emit ev).connections = r.connections := by
  unfold emit; split <;> rfl

@[simp] theorem emit_tcpIndex : (r.emit ev).tcpIndex = r.tcpIndex := by
  unfold emit; split <;> rfl

@[simp] theorem emit_udpIndex : (r.emit ev).udpIndex = r.udpIndex := by
  unfold emit; split <;> rfl

@[simp] theorem emit_handshakeIndex : (r.emit ev).handshakeIndex = r.handshakeIndex := by
  unfold emit; split <;> rfl

@[simp] theorem emit_eventsOpen : (r.emit ev).eventsOpen = r.eventsOpen := by
  unfold emit; split <;> rfl

@[simp] theorem emit_config : (r.emit ev).config = r.config := by
  unfold emit; split <;> rfl

@[simp] theorem emit_profile : (r.emit ev).profile = r.profile := by
  unfold emit; split <;> rfl

theorem events_emit : (r.emit ev).events = r.events ++ if r.eventsOpen then [ev] else [] := by
  unfold emit
  split <;> simp

end Emit

/-! ### Dropping peers -/

/-- **The rule for drops.** What taking a connected peer out and telling the application keeps, a
list of drops keeps. -/
theorem dropPeers_induction {I : Registry M → Prop}
    (hremove : ∀ r p peer reason, I r → r.peers.get? p = some peer →
      I ((r.remove p peer).emit (.peerDisconnect ⟨p, reason⟩)))
    {r : Registry M} (hr : I r) (l : List (PeerUid × DisconnectReason)) : I (r.dropPeers l) := by
  have hdrop : ∀ r p reason, I r → I (r.dropPeer p reason) := by
    intro r p reason hr
    unfold dropPeer
    split
    · exact hr
    · rename_i peer hp
      exact hremove r p peer reason hr hp
  induction l generalizing r with
  | nil => exact hr
  | cons x rest ih =>
    rw [dropPeers]
    split
    · exact hdrop r x.1 x.2 hr
    · exact ih (hdrop r x.1 x.2 hr)

/-- Where drops leave a quantity alone, dropping a list of peers does. -/
theorem dropPeers_eq {β : Type*} {f : Registry M → β}
    (hremove : ∀ r p peer reason, f ((r.remove p peer).emit (.peerDisconnect ⟨p, reason⟩)) = f r)
    (r : Registry M) (l : List (PeerUid × DisconnectReason)) : f (r.dropPeers l) = f r :=
  dropPeers_induction (I := fun r' ↦ f r' = f r)
    (fun r' p peer reason hr' _ ↦ (hremove r' p peer reason).trans hr') rfl l

@[simp] theorem dropPeers_connections (r : Registry M) (l : List (PeerUid × DisconnectReason)) :
    (r.dropPeers l).connections = r.connections :=
  dropPeers_eq (f := connections) (fun _ _ _ _ ↦ emit_connections _ _) r l

@[simp] theorem dropPeers_eventsOpen (r : Registry M) (l : List (PeerUid × DisconnectReason)) :
    (r.dropPeers l).eventsOpen = r.eventsOpen :=
  dropPeers_eq (f := eventsOpen) (fun _ _ _ _ ↦ emit_eventsOpen _ _) r l

/-! ### What every step leaves alone -/

@[simp] theorem after_config (r : Registry M) (op : Op M) : (r.after op).config = r.config := by
  cases op with
  | drop l => exact dropPeers_eq (f := config) (fun _ _ _ _ ↦ emit_config _ _) r l
  | accept addr uuid next => exact emit_config _ _
  | tcpMessage msg => exact emit_config _ _
  | udpMessage msg addr => exact emit_config _ _
  | bind p peer uuid addr => rfl
  | closeEvents => rfl
  | idle => rfl

@[simp] theorem after_profile (r : Registry M) (op : Op M) : (r.after op).profile = r.profile := by
  cases op with
  | drop l => exact dropPeers_eq (f := profile) (fun _ _ _ _ ↦ emit_profile _ _) r l
  | accept addr uuid next => exact emit_profile _ _
  | tcpMessage msg => exact emit_profile _ _
  | udpMessage msg addr => exact emit_profile _ _
  | bind p peer uuid addr => rfl
  | closeEvents => rfl
  | idle => rfl

/-- Connections are only ever added. -/
theorem length_connections_le_after (r : Registry M) (op : Op M) :
    r.connections.length ≤ (r.after op).connections.length := by
  cases op with
  | drop l =>
    show _ ≤ (r.dropPeers l).connections.length
    rw [dropPeers_connections]
  | accept addr uuid next =>
    show _ ≤ ((r.register addr uuid next).emit _).connections.length
    rw [emit_connections]
    simp [register]
  | tcpMessage msg => exact Nat.le_of_eq (by simp [after])
  | udpMessage msg addr => exact Nat.le_of_eq (by simp [after])
  | bind p peer uuid addr => exact Nat.le_refl _
  | closeEvents => exact Nat.le_refl _
  | idle => exact Nat.le_refl _

/-- A receiver that is gone does not come back. -/
theorem eventsOpen_of_after {r : Registry M} {op : Op M} (h : (r.after op).eventsOpen = true) :
    r.eventsOpen = true := by
  cases op with
  | drop l => exact (dropPeers_eventsOpen r l).symm.trans h
  | accept addr uuid next => exact (emit_eventsOpen (r.register addr uuid next) _).symm.trans h
  | tcpMessage msg => exact (emit_eventsOpen _ _).symm.trans h
  | udpMessage msg addr => exact (emit_eventsOpen _ _).symm.trans h
  | bind p peer uuid addr => exact h
  | closeEvents => cases h
  | idle => exact h

end Registry

end NetStream.Server
