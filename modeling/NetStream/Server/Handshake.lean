import NetStream.Server.AddressIndex
import NetStream.Server.Provenance

/-!
# The handshake among honest senders

`HonestHellos` says that each accepted Hello came from home: from the one address that belongs to
the connection on which its UUID was given out. Then no Hello binds a peer to an address that is not
its own, so every Hello rebinds cleanly and takes a free address, and the UDP index is the inverse
of the recorded addresses throughout (`Run.udpSound_of_honest`, `Run.udpComplete_of_honest`).

What an acknowledgement tells its receiver is `Heard`: a peer with an accepted Hello has a recorded
address as long as it is connected.
-/

namespace NetStream.Server

variable {M : MessageTypes}

/-! ### Connected peers that have been heard -/

/-- The record that an accepted Hello is for, and the UUID that it carries. -/
def Op.bound? : Op M → Option (Peer × Uuid)
  | .bind _ peer uuid _ => some (peer, uuid)
  | _ => none

namespace Registry

variable {r : Registry M} {uuids : List Uuid} {log : List (Uuid × SocketAddr)}

/-- Each record belongs to a connection, and has the UUID that was given out on it. -/
def Known (r : Registry M) (uuids : List Uuid) : Prop :=
  ∀ p peer, r.peers.get? p = some peer → p = .ofNat peer.tcpWriteActorHandle.connection ∧
    uuids[peer.tcpWriteActorHandle.connection]? = some peer.handshakeUuid

theorem known_start (profile : Profile) (config : Config) :
    (start profile config : Registry M).Known [] := by
  intro p peer h
  simp [start] at h

theorem Known.emit (h : r.Known uuids) (ev : Event M) : (r.emit ev).Known uuids := by
  simpa [Known] using h

theorem Known.remove (h : r.Known uuids) (p : PeerUid) (peer : Peer) :
    (r.remove p peer).Known uuids :=
  fun q peer' hq ↦ h q peer' (HashMap.get?_remove_eq_some_iff.1 hq).2

theorem Known.register (h : r.Known uuids) (hn : r.Numbered)
    (hlen : uuids.length = r.connections.length) (addr : SocketAddr) (uuid : Uuid)
    (next : PeerUid) : (r.register addr uuid next).Known (uuids ++ [uuid]) := by
  intro q peer hq
  by_cases hqn : q = r.nextPeerUid
  · subst hqn
    obtain rfl := Option.some.inj (HashMap.get?_insert_self.symm.trans hq)
    refine ⟨hn.nextPeerUid_eq, ?_⟩
    show (uuids ++ [uuid])[r.connections.length]? = some uuid
    rw [← hlen, List.getElem?_concat_length]
  · obtain ⟨hc, hu⟩ := h q peer ((HashMap.get?_insert_of_ne hqn).symm.trans hq)
    obtain ⟨hlt, -⟩ := List.getElem?_eq_some_iff.1 hu
    exact ⟨hc, (List.getElem?_append_left hlt).trans hu⟩

theorem Known.bind (h : r.Known uuids) {p : PeerUid} {peer : Peer}
    (hpeer : r.peers.get? p = some peer) (addr : SocketAddr) :
    (r.bind p peer addr).Known uuids := by
  intro q peer' hq
  by_cases hqp : q = p
  · subst hqp
    obtain rfl := Option.some.inj (HashMap.get?_insert_self.symm.trans hq)
    exact h q peer hpeer
  · exact h q peer' ((HashMap.get?_insert_of_ne hqp).symm.trans hq)

theorem Known.after {op : Op M} (h : r.Known uuids) (hn : r.Numbered)
    (hlen : uuids.length = r.connections.length) (he : r.Enabled op) :
    (r.after op).Known (uuids ++ op.issued?.toList) := by
  have hquiet : ∀ {r' : Registry M}, r'.Known uuids → r'.Known (uuids ++ []) := by
    intro r' hr'
    rwa [List.append_nil]
  cases op with
  | drop l =>
    refine hquiet (dropPeers_induction (I := fun r ↦ r.Known uuids) ?_ h l)
    exact fun r p peer reason hr _ ↦ (hr.remove p peer).emit _
  | accept addr uuid next => exact (h.register hn hlen addr uuid next).emit _
  | bind p peer uuid addr => exact hquiet (h.bind he.2 addr)
  | tcpMessage msg => exact hquiet (h.emit _)
  | udpMessage msg addr => exact hquiet (h.emit _)
  | closeEvents => exact hquiet h
  | idle => exact hquiet h

/-- A peer whose connection has been answered has a recorded address. -/
def Answered (r : Registry M) (answered : ℕ → Prop) : Prop :=
  ∀ p peer, r.peers.get? p = some peer → answered peer.tcpWriteActorHandle.connection →
    peer.udpSocketAddr ≠ none

variable {answered : ℕ → Prop}

theorem Answered.emit (h : r.Answered answered) (ev : Event M) : (r.emit ev).Answered answered := by
  simpa [Answered] using h

theorem Answered.remove (h : r.Answered answered) (p : PeerUid) (peer : Peer) :
    (r.remove p peer).Answered answered :=
  fun q peer' hq ↦ h q peer' (HashMap.get?_remove_eq_some_iff.1 hq).2

theorem Answered.register (h : r.Answered answered)
    (hold : ∀ c, answered c → c < r.connections.length) (addr : SocketAddr) (uuid : Uuid)
    (next : PeerUid) : (r.register addr uuid next).Answered answered := by
  intro q peer hq hans
  by_cases hqn : q = r.nextPeerUid
  · subst hqn
    obtain rfl := Option.some.inj (HashMap.get?_insert_self.symm.trans hq)
    exact absurd (hold _ hans) (Nat.lt_irrefl _)
  · exact h q peer ((HashMap.get?_insert_of_ne hqn).symm.trans hq) hans

/-- The Hello that is answered gives the record an address. -/
theorem Answered.bind (h : r.Answered answered) (hn : r.Numbered) {p : PeerUid} {peer : Peer}
    (hpeer : r.peers.get? p = some peer) (addr : SocketAddr) :
    (r.bind p peer addr).Answered fun c ↦
      answered c ∨ peer.tcpWriteActorHandle.connection = c := by
  intro q peer' hq hans
  by_cases hqp : q = p
  · subst hqp
    obtain rfl := Option.some.inj (HashMap.get?_insert_self.symm.trans hq)
    exact Option.some_ne_none _
  · have hold := (HashMap.get?_insert_of_ne hqp).symm.trans hq
    refine h q peer' hold (hans.resolve_right fun heq ↦ hqp ?_)
    -- the connection determines the uid
    exact hn.writerOf_inj (c := peer'.tcpWriteActorHandle.connection) (by simp [writerOf, hold])
      (by simp [writerOf, hpeer, heq])

theorem Answered.after {op : Op M} (h : r.Answered answered) (hn : r.Numbered)
    (hold : ∀ c, answered c → c < r.connections.length) (he : r.Enabled op) :
    (r.after op).Answered fun c ↦
      answered c ∨ ∃ x ∈ op.bound?, x.1.tcpWriteActorHandle.connection = c := by
  have hquiet : ∀ {r' : Registry M}, r'.Answered answered → op.bound? = none →
      r'.Answered fun c ↦ answered c ∨ ∃ x ∈ op.bound?, x.1.tcpWriteActorHandle.connection = c := by
    rintro r' hr' hnone p peer hp (hans | ⟨x, hx, -⟩)
    · exact hr' p peer hp hans
    · rw [hnone] at hx
      cases hx
  cases op with
  | drop l =>
    refine hquiet (dropPeers_induction (I := fun r ↦ r.Answered answered) ?_ h l) rfl
    exact fun r p peer reason hr _ ↦ (hr.remove p peer).emit _
  | accept addr uuid next => exact hquiet ((h.register hold addr uuid next).emit _) rfl
  | bind p peer uuid addr =>
    refine fun q peer' hq hans ↦ h.bind hn he.2 addr q peer' hq (hans.imp_right ?_)
    rintro ⟨x, hx, heq⟩
    obtain rfl := Option.some.inj hx
    exact heq
  | tcpMessage msg => exact hquiet (h.emit _) rfl
  | udpMessage msg addr => exact hquiet (h.emit _) rfl
  | closeEvents => exact hquiet h rfl
  | idle => exact hquiet h rfl

/-- A connected peer with an accepted Hello has a recorded address. -/
structure Heard (r : Registry M) (uuids : List Uuid) (log : List (Uuid × SocketAddr)) : Prop where
  known : ∀ p peer, r.peers.get? p = some peer → p = .ofNat peer.tcpWriteActorHandle.connection ∧
    uuids[peer.tcpWriteActorHandle.connection]? = some peer.handshakeUuid
  logged : ∀ x ∈ log, x.1 ∈ uuids
  heard : ∀ p peer, r.peers.get? p = some peer → (∃ x ∈ log, x.1 = peer.handshakeUuid) →
    peer.udpSocketAddr ≠ none

theorem heard_start (profile : Profile) (config : Config) :
    (start profile config : Registry M).Heard [] [] where
  known := known_start profile config
  logged x h := by simp at h
  heard p peer h := by simp [start] at h

theorem Heard.emit (h : r.Heard uuids log) (ev : Event M) : (r.emit ev).Heard uuids log where
  known := Known.emit h.known ev
  logged := h.logged
  heard := by simpa using h.heard

theorem Heard.remove (h : r.Heard uuids log) (p : PeerUid) (peer : Peer) :
    (r.remove p peer).Heard uuids log where
  known := Known.remove h.known p peer
  logged := h.logged
  heard q peer' hq := h.heard q peer' (HashMap.get?_remove_eq_some_iff.1 hq).2

/-- No Hello can have carried a UUID that was not given out. -/
theorem Heard.register (h : r.Heard uuids log) (hn : r.Numbered)
    (hlen : uuids.length = r.connections.length) (addr : SocketAddr) {uuid : Uuid}
    (hfresh : uuid ∉ uuids) (next : PeerUid) :
    (r.register addr uuid next).Heard (uuids ++ [uuid]) log where
  known := Known.register h.known hn hlen addr uuid next
  logged x hx := List.mem_append_left _ (h.logged x hx)
  heard q peer hq := by
    rintro ⟨x, hx, hxu⟩
    by_cases hqn : q = r.nextPeerUid
    · subst hqn
      obtain rfl := Option.some.inj (HashMap.get?_insert_self.symm.trans hq)
      have hmem := h.logged x hx
      rw [show x.1 = uuid from hxu] at hmem
      exact absurd hmem hfresh
    · exact h.heard q peer ((HashMap.get?_insert_of_ne hqn).symm.trans hq) ⟨x, hx, hxu⟩

/-- The Hello of a peer gives its record an address, and is none of another peer. -/
theorem Heard.bind (h : r.Heard uuids log) (ht : r.Traced uuids log) (hfresh : uuids.Nodup)
    {p : PeerUid} {peer : Peer} {uuid : Uuid} (hp : r.handshakeIndex.get? uuid = some p)
    (hpeer : r.peers.get? p = some peer) (addr : SocketAddr) :
    (r.bind p peer addr).Heard uuids (log ++ [(uuid, addr)]) where
  known := Known.bind h.known hpeer addr
  logged x hx := by
    rcases List.mem_append.1 hx with hx | hx
    · exact h.logged x hx
    · obtain rfl := List.mem_singleton.1 hx
      obtain ⟨c, hc, -⟩ := mem_uuidsOf_iff.1 (ht.handshake uuid p hp)
      exact List.mem_of_getElem? hc
  heard q peer' hq := by
    rintro ⟨x, hx, hxu⟩
    by_cases hqp : q = p
    · subst hqp
      obtain rfl := Option.some.inj (HashMap.get?_insert_self.symm.trans hq)
      exact Option.some_ne_none _
    · have hold := (HashMap.get?_insert_of_ne hqp).symm.trans hq
      rcases List.mem_append.1 hx with hx | hx
      · exact h.heard q peer' hold ⟨x, hx, hxu⟩
      · -- the UUID of `p` is not that of `q`
        obtain rfl := List.mem_singleton.1 hx
        obtain ⟨hc, hu⟩ := h.known q peer' hold
        have hmem : uuid ∈ uuidsOf uuids q := mem_uuidsOf_iff.2 ⟨_, hu.trans (by rw [← hxu]), hc⟩
        exact absurd (eq_of_mem_uuidsOf hfresh hmem (ht.handshake uuid p hp)) hqp

theorem Heard.after {op : Op M} (h : r.Heard uuids log) (ht : r.Traced uuids log)
    (hn : r.Numbered) (hlen : uuids.length = r.connections.length) (he : r.Enabled op)
    (hfresh : (uuids ++ op.issued?.toList).Nodup) :
    (r.after op).Heard (uuids ++ op.issued?.toList) (log ++ op.hello?.toList) := by
  have hquiet : ∀ {r' : Registry M}, r'.Heard uuids log → r'.Heard (uuids ++ []) (log ++ []) := by
    intro r' hr'
    rwa [List.append_nil, List.append_nil]
  cases op with
  | drop l =>
    refine hquiet (dropPeers_induction (I := fun r ↦ r.Heard uuids log) ?_ h l)
    exact fun r p peer reason hr _ ↦ (hr.remove p peer).emit _
  | accept addr uuid next =>
    show Heard _ _ (log ++ [])
    rw [List.append_nil]
    have hnot : uuid ∉ uuids := fun hmem ↦
      (List.nodup_append.1 hfresh).2.2 uuid hmem uuid (List.mem_singleton_self uuid) rfl
    exact (h.register hn hlen addr hnot next).emit _
  | bind p peer uuid addr =>
    show Heard _ (uuids ++ []) _
    rw [List.append_nil]
    exact h.bind ht (List.nodup_append.1 hfresh).1 he.1 he.2 addr
  | tcpMessage msg => exact hquiet (h.emit _)
  | udpMessage msg addr => exact hquiet (h.emit _)
  | closeEvents => exact hquiet ⟨h.known, h.logged, h.heard⟩
  | idle => exact hquiet h

end Registry

section Server

variable {hist : List (State M × Action M)} {s : State M}

theorem Run.known (h : Run hist s) : s.registry.Known (issued hist) := by
  induction h with
  | start h =>
    obtain ⟨profile, config, rfl⟩ := h
    exact Registry.known_start profile config
  | @next hist s s' a h hs ih =>
    have hlen : (issued hist).length = s.registry.connections.length := by
      rw [State.length_connections, Run.length_issued h]
    rw [issued_append_singleton, State.registry_step hs]
    exact ih.after (Run.numbered h) hlen (State.enabled_op hs)

theorem Run.heard (h : Run hist s) (hfresh : (issued hist).Nodup) :
    s.registry.Heard (issued hist) (hellos hist) := by
  induction h with
  | start h =>
    obtain ⟨profile, config, rfl⟩ := h
    exact Registry.heard_start profile config
  | @next hist s s' a h hs ih =>
    rw [issued_append_singleton] at hfresh ⊢
    have hbefore := (List.nodup_append.1 hfresh).1
    have hlen : (issued hist).length = s.registry.connections.length := by
      rw [State.length_connections, Run.length_issued h]
    rw [hellos_append_singleton, State.registry_step hs]
    exact (ih hbefore).after (Run.traced h hbefore) (Run.numbered h) hlen (State.enabled_op hs)
      hfresh

/-! ### Hellos from home -/

/-- Each accepted Hello came from the address of the connection on which its UUID was given out, and
no two connections share an address. -/
structure HonestHellos (hist : List (State M × Action M)) (home : ℕ → SocketAddr) : Prop where
  home_inj : ∀ c c', c < (issued hist).length → c' < (issued hist).length → home c = home c' →
    c = c'
  from_home : ∀ x ∈ hellos hist, ∃ c, (issued hist)[c]? = some x.1 ∧ x.2 = home c

variable {home : ℕ → SocketAddr}

theorem mem_hellos_of_op {t : State M} {a : Action M} (hmem : (t, a) ∈ hist) {p : PeerUid}
    {peer : Peer} {uuid : Uuid} {addr : SocketAddr} (hop : t.op a = .bind p peer uuid addr) :
    (uuid, addr) ∈ hellos hist :=
  List.mem_filterMap.2 ⟨(t, a), hmem, by rw [hop]; rfl⟩

theorem mem_of_lastHello {log : List (Uuid × SocketAddr)} {q : Uuid × SocketAddr → Bool}
    {x : Uuid × SocketAddr} (h : lastHello log q = some x) : x ∈ log ∧ q x = true :=
  ⟨List.mem_reverse.1 (List.mem_of_find?_eq_some h), List.find?_some h⟩

/-- **The home of a Hello's peer** is where the Hello came from. -/
theorem HonestHellos.exists_home (hH : HonestHellos hist home) (hfresh : (issued hist).Nodup)
    {uuid : Uuid} {addr : SocketAddr} (hmem : (uuid, addr) ∈ hellos hist) {p : PeerUid}
    (hp : uuid ∈ uuidsOf (issued hist) p) :
    ∃ c, (issued hist)[c]? = some uuid ∧ p = .ofNat c ∧ addr = home c := by
  obtain ⟨c, hc, haddr⟩ := hH.from_home _ hmem
  obtain ⟨c', hc', hpc⟩ := mem_uuidsOf_iff.1 hp
  have heq : c = c' := by
    obtain ⟨hlt, hget⟩ := List.getElem?_eq_some_iff.1 hc
    obtain ⟨hlt', hget'⟩ := List.getElem?_eq_some_iff.1 hc'
    exact hfresh.getElem_inj_iff.1 (hget.trans hget'.symm)
  subst heq
  exact ⟨c, hc, hpc, haddr⟩

/-- An earlier state of the run, with what led to it, in terms of the whole run. -/
theorem Run.traced_of_mem (h : Run hist s) (hfresh : (issued hist).Nodup) {t : State M}
    {a : Action M} (hmem : (t, a) ∈ hist) : ∃ uuids log, log ⊆ hellos hist ∧
      (∀ p, uuidsOf uuids p ⊆ uuidsOf (issued hist) p) ∧ t.registry.Traced uuids log := by
  obtain ⟨hist₁, hist₂, -, rfl, ht, -⟩ := TransitionSystem.Run.exists_step_of_mem h hmem
  have hissued : issued (hist₁ ++ (t, a) :: hist₂) = issued hist₁ ++ issued ((t, a) :: hist₂) :=
    List.filterMap_append
  have hhellos : hellos (hist₁ ++ (t, a) :: hist₂) = hellos hist₁ ++ hellos ((t, a) :: hist₂) :=
    List.filterMap_append
  rw [hissued] at hfresh ⊢
  refine ⟨issued hist₁, hellos hist₁, ?_, fun p uuid hu ↦ ?_, Run.traced ht (List.nodup_append.1 hfresh).1⟩
  · rw [hhellos]
    exact List.subset_append_left _ _
  · obtain ⟨c, hc, hp⟩ := mem_uuidsOf_iff.1 hu
    obtain ⟨hlt, -⟩ := List.getElem?_eq_some_iff.1 hc
    exact mem_uuidsOf_iff.2 ⟨c, (List.getElem?_append_left hlt).trans hc, hp⟩

/-- Where the Hello that a step accepts comes from. -/
theorem HonestHellos.exists_home_of_op (hH : HonestHellos hist home) (h : Run hist s)
    (hfresh : (issued hist).Nodup) {t : State M} {a : Action M} (hmem : (t, a) ∈ hist)
    {p : PeerUid} {peer : Peer} {uuid : Uuid} {addr : SocketAddr}
    (hop : t.op a = .bind p peer uuid addr) :
    ∃ c, (issued hist)[c]? = some uuid ∧ p = .ofNat c ∧ addr = home c := by
  obtain ⟨uuids, log, -, hsub, ht⟩ := h.traced_of_mem hfresh hmem
  obtain ⟨-, hp, -⟩ := State.op_eq_bind_iff.1 hop
  exact hH.exists_home hfresh (mem_hellos_of_op hmem hop) (hsub p (ht.handshake uuid p hp))

/-- **The index is sound**: an address that resolves to the peer of a Hello is its home too. -/
theorem Run.udpSound_of_honest (h : Run hist s) (hle : s.streams.length ≤ 2 ^ 64)
    (hfresh : (issued hist).Nodup) (hH : HonestHellos hist home) : s.registry.UdpSound := by
  refine (h.forall_udpSound_iff hle).2 ?_ s (TransitionSystem.visited_last hist s)
  rintro ⟨t, a⟩ hmem
  rw [helloRebindsCleanly_iff]
  intro p peer uuid addr hop addr' hne hidx
  have hlen := Run.length_issued h
  obtain ⟨c, hc, rfl, rfl⟩ := hH.exists_home_of_op h hfresh hmem hop
  obtain ⟨uuids, log, hhellos, hsub, ht⟩ := h.traced_of_mem hfresh hmem
  obtain ⟨uuid', hlast, hu⟩ := ht.udp addr' _ hidx
  obtain ⟨c', hc', hp, rfl⟩ :=
    hH.exists_home hfresh (hhellos (mem_of_lastHello hlast).1) (hsub _ hu)
  obtain ⟨hlt, -⟩ := List.getElem?_eq_some_iff.1 hc
  obtain ⟨hlt', -⟩ := List.getElem?_eq_some_iff.1 hc'
  exact hne (by rw [PeerUid.ofNat_inj (by omega) (by omega) hp])

/-- **The index is complete**: no other peer has the home of a Hello's peer as its address. -/
theorem Run.udpComplete_of_honest (h : Run hist s) (hfresh : (issued hist).Nodup)
    (hH : HonestHellos hist home) : s.registry.UdpComplete := by
  refine h.forall_udpComplete_iff.2 ?_ s (TransitionSystem.visited_last hist s)
  rintro ⟨t, a⟩ hmem
  rw [helloTakesFreeAddress_iff]
  intro p peer uuid addr hop q peer' hqp hq haddr
  obtain ⟨c, hc, rfl, rfl⟩ := hH.exists_home_of_op h hfresh hmem hop
  obtain ⟨uuids, log, hhellos, hsub, ht⟩ := h.traced_of_mem hfresh hmem
  obtain ⟨uuid', hlast⟩ := ht.record q peer' _ hq haddr
  obtain ⟨hmem', hu⟩ := mem_of_lastHello hlast
  obtain ⟨c', hc', rfl, hhome⟩ :=
    hH.exists_home hfresh (hhellos hmem') (hsub _ (of_decide_eq_true hu))
  obtain ⟨hlt, -⟩ := List.getElem?_eq_some_iff.1 hc
  obtain ⟨hlt', -⟩ := List.getElem?_eq_some_iff.1 hc'
  exact hqp (by rw [hH.home_inj c c' hlt hlt' hhome])

/-- **A recorded address is the peer's home.** -/
theorem Run.recorded_home (h : Run hist s) (hle : s.streams.length ≤ 2 ^ 64)
    (hfresh : (issued hist).Nodup) (hH : HonestHellos hist home) {p : PeerUid} {peer : Peer}
    (hp : s.peers.get? p = some peer) {addr : SocketAddr} (ha : peer.udpSocketAddr = some addr) :
    addr = home peer.tcpWriteActorHandle.connection := by
  have hlen := Run.length_issued h
  obtain ⟨uuid, hlast⟩ := (Run.traced h hfresh).record p peer addr hp ha
  obtain ⟨hmem, hu⟩ := mem_of_lastHello hlast
  obtain ⟨c, hc, hpc, rfl⟩ := hH.exists_home hfresh hmem (of_decide_eq_true hu)
  obtain ⟨hpeer, hissued⟩ := (Run.heard h hfresh).known p peer hp
  obtain ⟨hlt, -⟩ := List.getElem?_eq_some_iff.1 hc
  obtain ⟨hlt', -⟩ := List.getElem?_eq_some_iff.1 hissued
  rw [PeerUid.ofNat_inj (by omega) (by omega) (hpc.symm.trans hpeer)]

/-! ### Acknowledgements -/

/-- Only a Hello of its peer causes an acknowledgement on a connection. -/
theorem exists_bind_of_acknowledged {a : Action M} {c : ℕ}
    (hack : .udpHandshakeAcknowledged ∈ commandedBy s a c) :
    ∃ p peer uuid addr, s.op a = .bind p peer uuid addr ∧
      c = peer.tcpWriteActorHandle.connection := by
  unfold commandedBy at hack
  split at hack
  · rename_i source choice
    split at hack
    · rename_i incoming t hr
      have hop : s.op (.next source choice) = s.registry.incomingOp incoming choice.newV4 := by
        simp only [State.op, hr]
      unfold Registry.commandsFor at hack
      split at hack
      · split at hack <;> simp at hack
      · split at hack <;> simp at hack
      · split at hack
        · split at hack <;> simp at hack
        · rename_i p peer uuid addr hbind
          split at hack
          · exact ⟨p, peer, uuid, addr, hop.trans hbind, ‹_›⟩
          · cases hack
        · cases hack
    · cases hack
  · cases hack

/-- A Hello that the step accepts for connection `c` is the first that is, and carries its UUID. -/
def AcceptsFirst (s : State M) (a : Action M) (c : ℕ) : Prop :=
  ∀ x ∈ (s.op a).bound?, x.1.tcpWriteActorHandle.connection = c →
    x.1.udpSocketAddr = none ∧ x.2 = x.1.handshakeUuid

instance (s : State M) (a : Action M) (c : ℕ) : Decidable (AcceptsFirst s a c) :=
  inferInstanceAs (Decidable (∀ x ∈ (s.op a).bound?, _))

/-- An item causes one message for a connection at most. -/
theorem length_commandedBy_le (a : Action M) (c : ℕ) : (commandedBy s a c).length ≤ 1 := by
  unfold commandedBy Registry.commandsFor
  repeat' split
  all_goals simp

/-- A peer whose connection was sent an acknowledgement has a recorded address. -/
theorem Run.answered (h : Run hist s) :
    s.registry.Answered fun c ↦ .udpHandshakeAcknowledged ∈ commanded hist c := by
  induction h with
  | start h =>
    obtain ⟨profile, config, rfl⟩ := h
    rintro p peer - hans
    cases hans
  | @next hist s s' a h hs ih =>
    have hold : ∀ c, .udpHandshakeAcknowledged ∈ commanded hist c →
        c < s.registry.connections.length := by
      intro c hmem
      rw [State.length_connections]
      by_contra hge
      rw [Run.commanded_of_le h (by omega)] at hmem
      cases hmem
    rw [State.registry_step hs]
    refine fun p peer hp hans ↦
      ih.after (Run.numbered h) hold (State.enabled_op hs) p peer hp ?_
    have hans : .udpHandshakeAcknowledged ∈
        commanded (hist ++ [(s, a)]) peer.tcpWriteActorHandle.connection := hans
    rw [commanded_append_singleton] at hans
    refine (List.mem_append.1 hans).imp_right fun hack ↦ ?_
    obtain ⟨q, peer', uuid, addr, hop, hc⟩ := exists_bind_of_acknowledged hack
    exact ⟨(peer', uuid), by rw [hop]; rfl, hc.symm⟩

/-- The number of acknowledgements is zero where there is none. -/
theorem countP_acknowledged_eq_zero {l : List (TcpFromServer M)}
    (h : .udpHandshakeAcknowledged ∉ l) : l.countP TcpFromServer.isAcknowledgement = 0 := by
  refine List.countP_eq_zero.2 fun msg hmsg hack ↦ h ?_
  cases msg with
  | udpHandshakeAcknowledged => exact hmsg
  | applicationLogic _ | welcome _ => cases hack

/-- **A second acknowledgement** on a connection needs a second Hello accepted for it. -/
theorem Run.countP_acknowledged_le (h : Run hist s) {a : Action M} {c : ℕ}
    (hfirst : AcceptsFirst s a c)
    (hle : (commanded hist c).countP TcpFromServer.isAcknowledgement ≤ 1) :
    (commanded (hist ++ [(s, a)]) c).countP TcpFromServer.isAcknowledgement ≤ 1 := by
  rw [commanded_append_singleton, List.countP_append]
  by_cases hack : .udpHandshakeAcknowledged ∈ commandedBy s a c
  · obtain ⟨p, peer, uuid, addr, hop, rfl⟩ := exists_bind_of_acknowledged hack
    -- the record has no address, so there has been no acknowledgement
    have hnone := (hfirst (peer, uuid) (by rw [hop]; rfl) rfl).1
    obtain ⟨-, -, hpeer⟩ := State.op_eq_bind_iff.1 hop
    have hzero := countP_acknowledged_eq_zero fun hack ↦ Run.answered h p peer hpeer hack hnone
    have hone := List.countP_le_length (p := TcpFromServer.isAcknowledgement)
      (l := commandedBy s a peer.tcpWriteActorHandle.connection)
    have hlen := length_commandedBy_le (s := s) a peer.tcpWriteActorHandle.connection
    omega
  · rw [countP_acknowledged_eq_zero hack]
    exact hle

/-- The Hello that an acknowledgement answers carries the UUID of the connection. -/
theorem Run.hello_of_acknowledged (h : Run hist s) {a : Action M} {c : ℕ}
    (hfirst : AcceptsFirst s a c) (hack : .udpHandshakeAcknowledged ∈ commandedBy s a c) :
    ∃ uuid addr, (issued hist)[c]? = some uuid ∧ (uuid, addr) ∈ hellos (hist ++ [(s, a)]) := by
  obtain ⟨p, peer, uuid, addr, hop, rfl⟩ := exists_bind_of_acknowledged hack
  obtain rfl : uuid = peer.handshakeUuid := (hfirst (peer, uuid) (by rw [hop]; rfl) rfl).2
  obtain ⟨-, -, hpeer⟩ := State.op_eq_bind_iff.1 hop
  refine ⟨_, addr, (Run.known h p peer hpeer).2, ?_⟩
  rw [hellos_append_singleton, hop]
  exact List.mem_append_right _ (List.mem_singleton_self _)

/-- An acknowledgement is the answer to a Hello with the UUID of the connection. -/
theorem Run.exists_hello_of_acknowledged (h : Run hist s) (hle : s.streams.length ≤ 2 ^ 64)
    (hfresh : (issued hist).Nodup) {c : ℕ}
    (hack : .udpHandshakeAcknowledged ∈ commanded hist c) :
    ∃ x ∈ hellos hist, (issued hist)[c]? = some x.1 := by
  obtain ⟨⟨t, a⟩, hmem, hack⟩ := List.mem_flatMap.1 hack
  obtain ⟨p, peer, uuid, addr, hop, rfl⟩ := exists_bind_of_acknowledged hack
  refine ⟨(uuid, addr), mem_hellos_of_op hmem hop, ?_⟩
  obtain ⟨hist₁, hist₂, t', rfl, ht, hs⟩ := TransitionSystem.Run.exists_step_of_mem h hmem
  have hissued : issued (hist₁ ++ (t, a) :: hist₂) = issued hist₁ ++ issued ((t, a) :: hist₂) :=
    List.filterMap_append
  rw [hissued] at hfresh ⊢
  obtain ⟨-, hp, hpeer⟩ := State.op_eq_bind_iff.1 hop
  obtain ⟨-, hknown⟩ := (Run.heard ht (List.nodup_append.1 hfresh).1).known p peer hpeer
  -- the UUID of the Hello is that of the record, because the handshake index is sound
  have hlen : t.registry.connections.length ≤ 2 ^ 64 := by
    rw [State.length_connections]
    exact Nat.le_trans (h.length_streams_le_of_visited (Or.inr ⟨a, hmem⟩)) hle
  obtain ⟨peer', hpeer', hu⟩ := (handshakeName M).sound_of_run (Run.registry ht) hlen uuid p hp
  obtain rfl := Option.some.inj (hpeer.symm.trans hpeer')
  obtain rfl := Option.some.inj hu
  obtain ⟨hlt, -⟩ := List.getElem?_eq_some_iff.1 hknown
  exact (List.getElem?_append_left hlt).trans hknown

/-- **After an acknowledgement**, the home of the peer resolves to it as long as it is connected. -/
theorem Run.resolves_of_acknowledged (h : Run hist s) (hle : s.streams.length ≤ 2 ^ 64)
    (hfresh : (issued hist).Nodup) (hH : HonestHellos hist home) {p : PeerUid} {peer : Peer}
    (hp : s.peers.get? p = some peer)
    (hack : .udpHandshakeAcknowledged ∈ commanded hist peer.tcpWriteActorHandle.connection) :
    s.peerUdpSocketAddrToPeerUid.get? (home peer.tcpWriteActorHandle.connection) = some p := by
  obtain ⟨x, hx, hu⟩ := h.exists_hello_of_acknowledged hle hfresh hack
  obtain ⟨-, hknown⟩ := (Run.heard h hfresh).known p peer hp
  have huuid : x.1 = peer.handshakeUuid := Option.some.inj (hu.symm.trans hknown)
  have hne := (Run.heard h hfresh).heard p peer hp ⟨x, hx, huuid⟩
  obtain ⟨addr, haddr⟩ := Option.ne_none_iff_exists'.1 hne
  rw [← h.recorded_home hle hfresh hH hp haddr]
  exact h.udpComplete_of_honest hfresh hH p peer addr hp haddr

end Server

end NetStream.Server
