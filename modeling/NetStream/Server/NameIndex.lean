import NetStream.Library.ReverseIndex
import NetStream.Server.Lifecycle

/-!
# The indexes of fixed names

A peer's TCP socket address and its handshake UUID are set when the connection is accepted and stay
as they are, and the broker keeps an index of each. The two are treated alike everywhere: an
insertion on acceptance, a removal on a drop, and nothing else. `FixedName` says this of an index
and the key it is for, and what follows is proved once:

* the index is sound where no connection is accepted under a uid that is in use
  (`FixedName.sound_of_forall`), as in every run up to `2 ^ 64` connections
  (`FixedName.sound_of_run`);
* it is complete where no connection is accepted under a name that is taken
  (`FixedName.complete_after`).
-/

namespace NetStream.Server

variable {M : MessageTypes}

namespace Registry

variable {r : Registry M} {op : Op M}

/-- A connection is only accepted under a uid that no connected peer has. -/
def UnusedUid (r : Registry M) : Op M → Prop
  | .accept _ _ _ => r.nextPeerUid ∉ r.peers.keys
  | _ => True

instance (r : Registry M) : DecidablePred r.UnusedUid
  | .accept _ _ _ => inferInstanceAs (Decidable (r.nextPeerUid ∉ r.peers.keys))
  | .drop _ | .bind _ _ _ _ | .tcpMessage _ | .udpMessage _ _ | .closeEvents | .idle =>
    inferInstanceAs (Decidable True)

theorem Numbered.unusedUid (hn : r.Numbered) (hle : (r.after op).connections.length ≤ 2 ^ 64) :
    r.UnusedUid op := by
  cases op with
  | accept addr uuid next =>
    intro hmem
    have hlen : (r.accept addr uuid next).connections.length = r.connections.length + 1 := by
      simp [Registry.accept, Registry.register]
    change (r.accept addr uuid next).connections.length ≤ 2 ^ 64 at hle
    exact hn.next_notMem (by omega) (hn.mem_connections_of_mem_keys hmem)
  | _ => trivial

/-- Up to `2 ^ 64` connections no uid is given twice. -/
theorem Run.unusedUid {hist : List (Registry M × Op M)} (h : Run hist r)
    (hle : r.connections.length ≤ 2 ^ 64) : ∀ x ∈ hist, x.1.UnusedUid x.2 := by
  rintro ⟨t, op⟩ hmem
  obtain ⟨hist₁, hist₂, t', heq, ht, hs⟩ := TransitionSystem.Run.exists_step_of_mem h hmem
  have hlen : t'.connections.length ≤ r.connections.length := by
    refine TransitionSystem.Run.le_of_step_of_mem (T := system M)
      (f := fun r ↦ r.connections.length) (fun u o u' hu ↦ ?_) h _ hmem t' hs
    obtain ⟨-, rfl⟩ := step_eq_some_iff.1 hu
    exact length_connections_le_after u o
  obtain ⟨-, rfl⟩ := step_eq_some_iff.1 hs
  exact (Run.numbered ht).unusedUid (Nat.le_trans hlen hle)

end Registry

/-- An index of the registry, for a key that a peer's record keeps for its lifetime. -/
structure FixedName (M : MessageTypes) (K : Type) [DecidableEq K] where
  index : Registry M → HashMap K PeerUid
  key : Peer → K
  start : ∀ profile config, index (.start profile config) = .new
  emit : ∀ r ev, index (Registry.emit r ev) = index r
  closeEvents : ∀ r, index { r with eventsOpen := false } = index r
  register : ∀ r addr uuid next, index (Registry.register r addr uuid next) =
    (index r).insert (key (Registry.newPeer r addr uuid)) r.nextPeerUid
  remove : ∀ r p peer, index (Registry.remove r p peer) = (index r).remove (key peer)
  bind : ∀ r p peer addr, index (Registry.bind r p peer addr) = index r
  key_bind : ∀ peer addr, key { peer with udpSocketAddr := addr } = key peer

/-- `peer_tcp_socket_addr_to_peer_uid`. -/
def tcpName (M : MessageTypes) : FixedName M SocketAddr where
  index := Registry.tcpIndex
  key := Peer.tcpSocketAddr
  start _ _ := rfl
  emit := Registry.emit_tcpIndex
  closeEvents _ := rfl
  register _ _ _ _ := rfl
  remove _ _ _ := rfl
  bind _ _ _ _ := rfl
  key_bind _ _ := rfl

/-- `peer_handshake_uuid_to_peer_uid`. -/
def handshakeName (M : MessageTypes) : FixedName M Uuid where
  index := Registry.handshakeIndex
  key := Peer.handshakeUuid
  start _ _ := rfl
  emit := Registry.emit_handshakeIndex
  closeEvents _ := rfl
  register _ _ _ _ := rfl
  remove _ _ _ := rfl
  bind _ _ _ _ := rfl
  key_bind _ _ := rfl

namespace FixedName

variable {K : Type} [DecidableEq K] (N : FixedName M K) {r : Registry M} {op : Op M}

/-- The index resolves a name only to a peer that has it. -/
def Sound (r : Registry M) : Prop :=
  ReverseIndex.Sound (N.index r) r.peers fun peer ↦ some (N.key peer)

/-- The index resolves the name of every peer to it. -/
def Complete (r : Registry M) : Prop :=
  ReverseIndex.Complete (N.index r) r.peers fun peer ↦ some (N.key peer)

variable {N}

theorem Sound.emit (h : N.Sound r) (ev : Event M) : N.Sound (r.emit ev) := by
  unfold FixedName.Sound
  rw [N.emit, Registry.emit_peers]
  exact h

theorem Complete.emit (h : N.Complete r) (ev : Event M) : N.Complete (r.emit ev) := by
  unfold FixedName.Complete
  rw [N.emit, Registry.emit_peers]
  exact h

theorem Sound.drops (h : N.Sound r) (l : List (PeerUid × DisconnectReason)) :
    N.Sound (r.dropPeers l) := by
  refine Registry.dropPeers_induction (fun r p peer reason hr hp ↦ Sound.emit ?_ _) h l
  unfold FixedName.Sound
  rw [N.remove]
  exact ReverseIndex.Sound.remove hr hp

theorem Complete.drops (h : N.Complete r) (l : List (PeerUid × DisconnectReason)) :
    N.Complete (r.dropPeers l) := by
  refine Registry.dropPeers_induction (fun r p peer reason hr hp ↦ Complete.emit ?_ _) h l
  unfold FixedName.Complete
  rw [N.remove]
  exact ReverseIndex.Complete.remove hr hp

/-- A new peer's uid is fresh, so no name resolves to it yet. -/
theorem Sound.accept (h : N.Sound r) (hnew : r.nextPeerUid ∉ r.peers.keys) (addr : SocketAddr)
    (uuid : Uuid) (next : PeerUid) : N.Sound (r.accept addr uuid next) := by
  refine Sound.emit ?_ _
  unfold FixedName.Sound
  rw [N.register]
  refine (ReverseIndex.Sound.set_iff h rfl).2 fun k' _ hk' ↦ ?_
  obtain ⟨peer, hpeer, -⟩ := h k' _ hk'
  exact hnew (HashMap.mem_keys_of_get? hpeer)

theorem Complete.accept (h : N.Complete r) {addr : SocketAddr} {uuid : Uuid}
    (hfree : ∀ p, (N.index r).get? (N.key (r.newPeer addr uuid)) ≠ some p) (next : PeerUid) :
    N.Complete (r.accept addr uuid next) := by
  refine Complete.emit ?_ _
  unfold FixedName.Complete
  rw [N.register]
  refine (ReverseIndex.Complete.set_iff h rfl).2 fun q peer _ hq hkey ↦ ?_
  exact hfree q (h q peer _ hq hkey)

theorem Sound.bind (h : N.Sound r) {p : PeerUid} {peer : Peer} (hp : r.peers.get? p = some peer)
    (addr : SocketAddr) : N.Sound (r.bind p peer addr) := by
  unfold FixedName.Sound
  rw [N.bind]
  exact ReverseIndex.Sound.update h hp (congrArg some (N.key_bind _ _))

theorem Complete.bind (h : N.Complete r) {p : PeerUid} {peer : Peer}
    (hp : r.peers.get? p = some peer) (addr : SocketAddr) : N.Complete (r.bind p peer addr) := by
  unfold FixedName.Complete
  rw [N.bind]
  exact ReverseIndex.Complete.update h hp (congrArg some (N.key_bind _ _))

theorem Sound.after (h : N.Sound r) (he : r.Enabled op) (hnew : r.UnusedUid op) :
    N.Sound (r.after op) := by
  cases op with
  | drop l => exact h.drops l
  | accept addr uuid next => exact h.accept hnew addr uuid next
  | bind p peer uuid addr => exact h.bind he.2 addr
  | tcpMessage msg => exact h.emit _
  | udpMessage msg addr => exact h.emit _
  | closeEvents =>
    unfold FixedName.Sound
    exact (N.closeEvents r).symm ▸ h
  | idle => exact h

/-- The name under which a connection is accepted is not taken. -/
def Free (N : FixedName M K) (r : Registry M) (op : Op M) : Prop :=
  ∀ addr uuid next, op = .accept addr uuid next →
    ∀ p, (N.index r).get? (N.key (r.newPeer addr uuid)) ≠ some p

theorem Complete.after (h : N.Complete r) (he : r.Enabled op) (hfree : N.Free r op) :
    N.Complete (r.after op) := by
  cases op with
  | drop l => exact h.drops l
  | accept addr uuid next => exact h.accept (hfree _ _ _ rfl) next
  | bind p peer uuid addr => exact h.bind he.2 addr
  | tcpMessage msg => exact h.emit _
  | udpMessage msg addr => exact h.emit _
  | closeEvents =>
    unfold FixedName.Complete
    exact (N.closeEvents r).symm ▸ h
  | idle => exact h

variable (N)

theorem sound_start (profile : Profile) (config : Config) : N.Sound (.start profile config) := by
  unfold FixedName.Sound
  rw [N.start]
  exact ReverseIndex.sound_new

theorem complete_start (profile : Profile) (config : Config) :
    N.Complete (.start profile config) :=
  ReverseIndex.complete_new

/-- **A fixed name resolves only to a peer that has it**, in every run that accepts no connection
under a uid that is in use. -/
theorem sound_of_forall {hist : List (Registry M × Op M)} (h : Registry.Run hist r)
    (hnew : ∀ x ∈ hist, x.1.UnusedUid x.2) : N.Sound r := by
  refine TransitionSystem.Run.invariant_of_forall (T := Registry.system M) (I := N.Sound) ?_ ?_
    h hnew
  · rintro r ⟨profile, config, rfl⟩
    exact N.sound_start profile config
  · intro r op r' hr hC hs
    obtain ⟨he, rfl⟩ := Registry.step_eq_some_iff.1 hs
    exact hr.after he hC

theorem sound_of_run {hist : List (Registry M × Op M)} (h : Registry.Run hist r)
    (hle : r.connections.length ≤ 2 ^ 64) : N.Sound r :=
  N.sound_of_forall h (h.unusedUid hle)

/-- **A fixed name of a peer resolves to it**, in every run that accepts no connection under a name
that is taken. -/
theorem complete_of_run {hist : List (Registry M × Op M)} (h : Registry.Run hist r)
    (hfree : ∀ x ∈ hist, N.Free x.1 x.2) : N.Complete r := by
  refine TransitionSystem.Run.invariant_of_forall (T := Registry.system M) (I := N.Complete) ?_ ?_
    h hfree
  · rintro r ⟨profile, config, rfl⟩
    exact N.complete_start profile config
  · intro r op r' hr hC hs
    obtain ⟨he, rfl⟩ := Registry.step_eq_some_iff.1 hs
    exact hr.after he hC

variable {N}

theorem Sound.len_le (h : N.Sound r) : (N.index r).len ≤ r.peers.len :=
  ReverseIndex.Sound.len_le h

theorem Sound.len_eq (hs : N.Sound r) (hc : N.Complete r) : (N.index r).len = r.peers.len :=
  Nat.le_antisymm hs.len_le (ReverseIndex.Complete.len_le hc fun _ _ _ ↦ by simp)

end FixedName

end NetStream.Server
