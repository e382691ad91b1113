import NetStream.Library.EventLog
import NetStream.Server.Refinement

/-!
# The life of a peer

What the application is told about a peer: `NewPeer` once, then possibly `PeerDisconnect` once. The
two facts everything rests on are

* `Numbered` — the uid counter stands at the number of accepted connections, and connection `c` has
  the uid `PeerUid.ofNat c`, also in the record of its peer. It holds in every run;
* `Accounted` — the peers in the map are those that were announced and not yet reported as
  disconnected. It needs an event receiver to report to, and uids that are not given twice, which is
  so up to `2 ^ 64` connections.

A peer can be put on the list of peers to drop by several causes and several times. That does no
harm because `drop_peer` reports only when it finds the record: a drop of a peer that is gone is
`Registry.dropPeer` on a missing key.
-/

namespace NetStream.Server

variable {M : MessageTypes}

/-! ### Announcements and disconnects in a log -/

/-- The peer that an event announces. -/
def Event.newPeer? : Event M → Option PeerUid
  | .newPeer ev => some ev.peerUid
  | _ => none

/-- The peer that an event reports as disconnected. -/
def Event.peerDisconnect? : Event M → Option PeerUid
  | .peerDisconnect ev => some ev.peerUid
  | _ => none

/-- The peers announced, in order. -/
def newPeers (events : List (Event M)) : List PeerUid :=
  events.filterMap Event.newPeer?

/-- The peers reported as disconnected, in order. -/
def peerDisconnects (events : List (Event M)) : List PeerUid :=
  events.filterMap Event.peerDisconnect?

/-- The peers announced and not yet reported as disconnected. -/
def connectedPeers (events : List (Event M)) : List PeerUid :=
  (newPeers events).filter (· ∉ peerDisconnects events)

/-- A disconnect is reported of a peer that was announced. -/
def DisconnectAnnounced (before : List (Event M)) (ev : Event M) : Prop :=
  ∀ p, ev.peerDisconnect? = some p → p ∈ newPeers before

@[simp] theorem newPeers_append (l₁ l₂ : List (Event M)) :
    newPeers (l₁ ++ l₂) = newPeers l₁ ++ newPeers l₂ :=
  List.filterMap_append

@[simp] theorem peerDisconnects_append (l₁ l₂ : List (Event M)) :
    peerDisconnects (l₁ ++ l₂) = peerDisconnects l₁ ++ peerDisconnects l₂ :=
  List.filterMap_append

theorem mem_connectedPeers_iff {events : List (Event M)} {p : PeerUid} :
    p ∈ connectedPeers events ↔ p ∈ newPeers events ∧ p ∉ peerDisconnects events := by
  simp [connectedPeers]

/-- Only announced peers are reported as disconnected. -/
theorem mem_newPeers_of_mem_peerDisconnects {events : List (Event M)}
    (h : EventLog.Justified DisconnectAnnounced events) {p : PeerUid}
    (hp : p ∈ peerDisconnects events) : p ∈ newPeers events := by
  obtain ⟨ev, hmem, hev⟩ := List.mem_filterMap.1 hp
  obtain ⟨l₁, l₂, rfl⟩ := List.append_of_mem hmem
  rw [newPeers_append]
  exact List.mem_append_left _ (h l₁ ev l₂ rfl p hev)

namespace Registry

variable {r : Registry M} {op : Op M}

/-! ### Numbering -/

/-- Connection `c` has the uid `PeerUid.ofNat c`. -/
structure Numbered (r : Registry M) : Prop where
  nextPeerUid_eq : r.nextPeerUid = .ofNat r.connections.length
  connections_eq : r.connections = (List.range r.connections.length).map PeerUid.ofNat
  handles : ∀ p peer, r.peers.get? p = some peer → ∃ c < r.connections.length,
    p = .ofNat c ∧ peer.tcpReadActorHandle = ⟨c⟩ ∧ peer.tcpWriteActorHandle = ⟨c⟩

theorem numbered_start (profile : Profile) (config : Config) :
    (start profile config : Registry M).Numbered where
  nextPeerUid_eq := rfl
  connections_eq := rfl
  handles p peer h := by simp [start] at h

theorem Numbered.emit (h : r.Numbered) (ev : Event M) : (r.emit ev).Numbered where
  nextPeerUid_eq := by simpa using h.nextPeerUid_eq
  connections_eq := by simpa using h.connections_eq
  handles := by simpa using h.handles

theorem Numbered.register (h : r.Numbered) {addr : SocketAddr} {uuid : Uuid} {next : PeerUid}
    (hnext : r.nextPeerUid.increment r.profile = some next) :
    (r.register addr uuid next).Numbered where
  nextPeerUid_eq := by
    rw [h.nextPeerUid_eq] at hnext
    simpa [Registry.register] using PeerUid.increment_ofNat hnext
  connections_eq := by
    have hlen : (r.connections ++ [r.nextPeerUid]).length = r.connections.length + 1 := by simp
    show r.connections ++ [r.nextPeerUid] = _
    simp only [Registry.register, hlen]
    rw [List.range_succ, List.map_append, ← h.connections_eq, h.nextPeerUid_eq]
    rfl
  handles p peer hp := by
    have hlen : (r.register addr uuid next).connections.length = r.connections.length + 1 := by
      simp [Registry.register]
    rw [hlen]
    by_cases hpn : p = r.nextPeerUid
    · subst hpn
      obtain rfl := Option.some.inj (HashMap.get?_insert_self.symm.trans hp)
      exact ⟨_, Nat.lt_succ_self _, h.nextPeerUid_eq, rfl, rfl⟩
    · obtain ⟨c, hc, hrest⟩ := h.handles p peer ((HashMap.get?_insert_of_ne hpn).symm.trans hp)
      exact ⟨c, by omega, hrest⟩

theorem Numbered.remove (h : r.Numbered) (p : PeerUid) (peer : Peer) :
    (r.remove p peer).Numbered where
  nextPeerUid_eq := h.nextPeerUid_eq
  connections_eq := h.connections_eq
  handles q peer' hq := h.handles q peer' (HashMap.get?_remove_eq_some_iff.1 hq).2

/-- A Hello changes neither handle of the record. -/
theorem Numbered.dropPeer (h : r.Numbered) (p : PeerUid) (reason : DisconnectReason) :
    (r.dropPeer p reason).Numbered := by
  unfold Registry.dropPeer
  split
  · exact h
  · rename_i peer _
    exact (h.remove p peer).emit _

theorem Numbered.bind (h : r.Numbered) {p : PeerUid} {peer : Peer}
    (hp : r.peers.get? p = some peer) (addr : SocketAddr) : (r.bind p peer addr).Numbered where
  nextPeerUid_eq := h.nextPeerUid_eq
  connections_eq := h.connections_eq
  handles q peer' hq := by
    by_cases hqp : q = p
    · subst hqp
      obtain rfl := Option.some.inj (HashMap.get?_insert_self.symm.trans hq)
      exact h.handles q peer hp
    · exact h.handles q peer' ((HashMap.get?_insert_of_ne hqp).symm.trans hq)

theorem Numbered.after (h : r.Numbered) (he : r.Enabled op) : (r.after op).Numbered := by
  cases op with
  | drop l => exact dropPeers_induction (fun r p peer reason hr _ ↦ (hr.remove p peer).emit _) h l
  | accept addr uuid next => exact (h.register he.2).emit _
  | bind p peer uuid addr => exact h.bind he.2 addr
  | tcpMessage msg => exact h.emit _
  | udpMessage msg addr => exact h.emit _
  | closeEvents => exact ⟨h.nextPeerUid_eq, h.connections_eq, h.handles⟩
  | idle => exact h

theorem Numbered.eq_ofNat (h : r.Numbered) {c : ℕ} {p : PeerUid} (hc : r.connections[c]? = some p) :
    p = .ofNat c := by
  rw [h.connections_eq, List.getElem?_map] at hc
  obtain ⟨m, hm, rfl⟩ := Option.map_eq_some_iff.1 hc
  obtain ⟨hlt, hget⟩ := List.getElem?_eq_some_iff.1 hm
  rw [List.getElem_range] at hget
  rw [hget]

/-- Up to `2 ^ 64` connections, no two have the same uid. -/
theorem Numbered.nodup (h : r.Numbered) (hle : r.connections.length ≤ 2 ^ 64) :
    r.connections.Nodup := by
  rw [h.connections_eq]
  refine List.Nodup.map_on (fun m hm n hn heq ↦ ?_) List.nodup_range
  rw [List.mem_range] at hm hn
  exact PeerUid.ofNat_inj (by omega) (by omega) heq

/-- The next uid is fresh as long as there is one left. -/
theorem Numbered.next_notMem (h : r.Numbered) (hlt : r.connections.length < 2 ^ 64) :
    r.nextPeerUid ∉ r.connections := by
  rw [h.connections_eq, h.nextPeerUid_eq, List.mem_map]
  rintro ⟨m, hm, heq⟩
  rw [List.mem_range] at hm
  have hmn := PeerUid.ofNat_inj (by omega) hlt heq
  omega

theorem Numbered.mem_connections_of_mem_keys (h : r.Numbered) {p : PeerUid}
    (hp : p ∈ r.peers.keys) : p ∈ r.connections := by
  obtain ⟨peer, hpeer⟩ := HashMap.mem_keys_iff.1 hp
  obtain ⟨c, hc, rfl, -, -⟩ := h.handles p peer hpeer
  rw [h.connections_eq]
  exact List.mem_map_of_mem (List.mem_range.2 hc)

theorem Run.numbered {hist : List (Registry M × Op M)} (h : Run hist r) : r.Numbered :=
  h.invariant numbered_start fun _ _ hr he ↦ hr.after he

/-- With overflow checks the counter never wraps. -/
theorem Run.length_connections_lt {hist : List (Registry M × Op M)} (h : Run hist r) :
    r.profile.overflowChecks = true → r.connections.length < 2 ^ 64 := by
  suffices hI : r.Numbered ∧ (r.profile.overflowChecks = true → r.connections.length < 2 ^ 64) from
    hI.2
  refine h.invariant (I := fun r ↦ r.Numbered ∧ (r.profile.overflowChecks = true →
    r.connections.length < 2 ^ 64)) (fun profile config ↦ ⟨numbered_start _ _, ?_⟩) ?_
  · intro _
    show ([] : List PeerUid).length < 2 ^ 64
    decide
  · rintro r op ⟨hn, hlt⟩ he
    refine ⟨hn.after he, fun hchecks ↦ ?_⟩
    rw [after_profile] at hchecks
    have hlt := hlt hchecks
    cases op with
    | accept addr uuid next =>
      have hnext : (PeerUid.ofNat r.connections.length).increment r.profile = some next :=
        hn.nextPeerUid_eq ▸ he.2
      have hsucc := PeerUid.lt_of_increment hchecks hlt hnext
      simpa [Registry.after, accept, register] using hsucc
    | drop l => simpa [Registry.after] using hlt
    | tcpMessage msg | udpMessage msg addr => simpa [Registry.after] using hlt
    | bind p peer uuid addr => exact hlt
    | closeEvents => exact hlt
    | idle => exact hlt

/-! ### Capacity -/

/-- There are never more peers than the configuration admits. -/
theorem Run.len_peers_le {hist : List (Registry M × Op M)} (h : Run hist r) :
    r.peers.len ≤ r.config.maxConnections := by
  refine h.invariant (I := fun r ↦ r.peers.len ≤ r.config.maxConnections)
    (fun profile config ↦ Nat.zero_le _) fun r op hr he ↦ ?_
  cases op with
  | drop l =>
    refine dropPeers_induction (I := fun r ↦ r.peers.len ≤ r.config.maxConnections) ?_ hr l
    intro r p peer reason hr _
    rw [emit_peers, emit_config]
    exact Nat.le_trans HashMap.len_remove_le hr
  | accept addr uuid next =>
    rw [after_config]
    show ((r.register addr uuid next).emit _).peers.len ≤ _
    rw [emit_peers]
    exact Nat.le_trans HashMap.len_insert_le he.1
  | bind p peer uuid addr =>
    have hkeys : (r.bind p peer addr).peers.len = r.peers.len :=
      HashMap.len_insert_of_mem (HashMap.mem_keys_of_get? he.2)
    show (r.bind p peer addr).peers.len ≤ _
    rw [hkeys]
    exact hr
  | tcpMessage msg | udpMessage msg addr => simpa [Registry.after] using hr
  | closeEvents => exact hr
  | idle => exact hr

/-! ### Accounting -/

/-- The peers of the map are those announced and not yet reported as disconnected, each of which
happens once. -/
structure Accounted (r : Registry M) : Prop where
  newPeers_eq : newPeers r.events = r.connections
  nodup : (peerDisconnects r.events).Nodup
  announced : EventLog.Justified DisconnectAnnounced r.events
  mem_keys_iff : ∀ p, p ∈ r.peers.keys ↔ p ∈ connectedPeers r.events

theorem accounted_start (profile : Profile) (config : Config) :
    (start profile config : Registry M).Accounted where
  newPeers_eq := rfl
  nodup := List.nodup_nil
  announced := EventLog.justified_nil
  mem_keys_iff p := by simp [start, connectedPeers, newPeers]

theorem events_emit_of_open (h : r.eventsOpen = true) (ev : Event M) :
    (r.emit ev).events = r.events ++ [ev] := by
  rw [events_emit, if_pos h]

/-- Messages of peers change no account. -/
theorem Accounted.emit (h : r.Accounted) {ev : Event M} (hnew : ev.newPeer? = none)
    (hdisc : ev.peerDisconnect? = none) : (r.emit ev).Accounted := by
  by_cases hopen : r.eventsOpen = true
  · have hnews : newPeers (r.events ++ [ev]) = newPeers r.events := by
      simp [newPeers, hnew]
    have hdiscs : peerDisconnects (r.events ++ [ev]) = peerDisconnects r.events := by
      simp [peerDisconnects, hdisc]
    refine ⟨?_, ?_, ?_, fun p ↦ ?_⟩
    · rw [events_emit_of_open hopen, hnews, emit_connections, h.newPeers_eq]
    · rw [events_emit_of_open hopen, hdiscs]
      exact h.nodup
    · rw [events_emit_of_open hopen, EventLog.justified_append_singleton_iff]
      refine ⟨h.announced, fun p hp ↦ ?_⟩
      rw [hdisc] at hp
      cases hp
    · rw [events_emit_of_open hopen, emit_peers, mem_connectedPeers_iff, hnews, hdiscs,
        ← mem_connectedPeers_iff]
      exact h.mem_keys_iff p
  · have hsame : r.emit ev = r := if_neg hopen
    rw [hsame]
    exact h

/-- A connected peer goes: it was announced, and was not yet reported. -/
theorem Accounted.drop (h : r.Accounted) (hopen : r.eventsOpen = true) {p : PeerUid} {peer : Peer}
    (hp : r.peers.get? p = some peer) (reason : DisconnectReason) :
    ((r.remove p peer).emit (.peerDisconnect ⟨p, reason⟩)).Accounted := by
  obtain ⟨hann, hnot⟩ :=
    mem_connectedPeers_iff.1 ((h.mem_keys_iff p).1 (HashMap.mem_keys_of_get? hp))
  have hev : ((r.remove p peer).emit (.peerDisconnect ⟨p, reason⟩)).events =
      r.events ++ [.peerDisconnect ⟨p, reason⟩] :=
    events_emit_of_open (r := r.remove p peer) hopen _
  have hnews : newPeers (r.events ++ [.peerDisconnect ⟨p, reason⟩]) = newPeers r.events := by
    simp [newPeers, Event.newPeer?]
  have hdiscs : peerDisconnects (r.events ++ [.peerDisconnect ⟨p, reason⟩]) =
      peerDisconnects r.events ++ [p] := by
    simp [peerDisconnects, Event.peerDisconnect?]
  refine ⟨?_, ?_, ?_, fun q ↦ ?_⟩
  · rw [hev, hnews, emit_connections]
    exact h.newPeers_eq
  · rw [hev, hdiscs]
    rw [← List.concat_eq_append]
    exact h.nodup.concat hnot
  · rw [hev, EventLog.justified_append_singleton_iff]
    refine ⟨h.announced, fun q hq ↦ ?_⟩
    obtain rfl := Option.some.inj hq
    exact hann
  · have hq := h.mem_keys_iff q
    rw [mem_connectedPeers_iff] at hq
    rw [hev, emit_peers, mem_connectedPeers_iff, hnews, hdiscs]
    show q ∈ (r.peers.remove p).keys ↔ _
    rw [HashMap.keys_remove, Finset.mem_erase, hq, List.mem_append, List.mem_singleton]
    tauto

/-- A peer comes: its uid was never given before. -/
theorem Accounted.accept (hn : r.Numbered) (h : r.Accounted) (hopen : r.eventsOpen = true)
    (hlt : r.connections.length < 2 ^ 64) (addr : SocketAddr) (uuid : Uuid) (next : PeerUid) :
    (r.accept addr uuid next).Accounted := by
  have hfresh := hn.next_notMem hlt
  have hev : (r.accept addr uuid next).events = r.events ++ [.newPeer ⟨r.nextPeerUid⟩] :=
    events_emit_of_open (r := r.register addr uuid next) hopen _
  have hnews : newPeers (r.events ++ [.newPeer ⟨r.nextPeerUid⟩]) =
      newPeers r.events ++ [r.nextPeerUid] := by
    simp [newPeers, Event.newPeer?]
  have hdiscs : peerDisconnects (r.events ++ [.newPeer ⟨r.nextPeerUid⟩]) =
      peerDisconnects r.events := by
    simp [peerDisconnects, Event.peerDisconnect?]
  refine ⟨?_, ?_, ?_, fun p ↦ ?_⟩
  · rw [hev, hnews, h.newPeers_eq]
    exact (emit_connections (r.register addr uuid next) _).symm
  · rw [hev, hdiscs]
    exact h.nodup
  · rw [hev, EventLog.justified_append_singleton_iff]
    refine ⟨h.announced, fun p hp ↦ ?_⟩
    cases hp
  · -- no disconnect of the new uid: only announced peers are reported, and it was not announced
    have hnot : r.nextPeerUid ∉ peerDisconnects r.events :=
      fun hmem ↦ hfresh (h.newPeers_eq ▸ mem_newPeers_of_mem_peerDisconnects h.announced hmem)
    have hp := h.mem_keys_iff p
    rw [mem_connectedPeers_iff] at hp
    rw [hev, mem_connectedPeers_iff, hnews, hdiscs]
    show p ∈ ((r.register addr uuid next).emit _).peers.keys ↔ _
    rw [emit_peers]
    show p ∈ (r.peers.insert r.nextPeerUid _).keys ↔ _
    rw [HashMap.keys_insert, Finset.mem_insert, hp, List.mem_append, List.mem_singleton]
    constructor
    · rintro (rfl | ⟨hnew, hdisc⟩)
      · exact ⟨Or.inr rfl, hnot⟩
      · exact ⟨Or.inl hnew, hdisc⟩
    · rintro ⟨hnew | rfl, hdisc⟩
      · exact Or.inr ⟨hnew, hdisc⟩
      · exact Or.inl rfl

theorem Accounted.bind (h : r.Accounted) {p : PeerUid} {peer : Peer}
    (hp : r.peers.get? p = some peer) (addr : SocketAddr) : (r.bind p peer addr).Accounted where
  newPeers_eq := h.newPeers_eq
  nodup := h.nodup
  announced := h.announced
  mem_keys_iff q := by
    show q ∈ (r.peers.insert p _).keys ↔ q ∈ connectedPeers r.events
    rw [HashMap.keys_insert, Finset.insert_eq_of_mem (HashMap.mem_keys_of_get? hp)]
    exact h.mem_keys_iff q

theorem Accounted.after (hn : r.Numbered) (h : r.Accounted) (he : r.Enabled op)
    (hopen : r.eventsOpen = true) (hle : (r.after op).connections.length ≤ 2 ^ 64) :
    (r.after op).Accounted := by
  cases op with
  | drop l =>
    refine (dropPeers_induction (I := fun r ↦ r.eventsOpen = true ∧ r.Accounted) ?_ ⟨hopen, h⟩ l).2
    rintro r p peer reason ⟨hopen, h⟩ hp
    exact ⟨(emit_eventsOpen (r.remove p peer) _).trans hopen, h.drop hopen hp reason⟩
  | accept addr uuid next =>
    have hlen : (r.accept addr uuid next).connections.length = r.connections.length + 1 := by
      simp [Registry.accept, register]
    refine Accounted.accept hn h hopen ?_ addr uuid next
    change (r.accept addr uuid next).connections.length ≤ 2 ^ 64 at hle
    omega
  | bind p peer uuid addr => exact h.bind he.2 addr
  | tcpMessage msg => exact h.emit rfl rfl
  | udpMessage msg addr => exact h.emit rfl rfl
  | closeEvents => exact ⟨h.newPeers_eq, h.nodup, h.announced, h.mem_keys_iff⟩
  | idle => exact h

theorem Run.accounted {hist : List (Registry M × Op M)} (h : Run hist r)
    (hopen : r.eventsOpen = true) (hle : r.connections.length ≤ 2 ^ 64) : r.Accounted := by
  suffices hI : r.Numbered ∧ (r.eventsOpen = true → r.connections.length ≤ 2 ^ 64 → r.Accounted) from
    hI.2 hopen hle
  refine h.invariant (I := fun r ↦ r.Numbered ∧
    (r.eventsOpen = true → r.connections.length ≤ 2 ^ 64 → r.Accounted))
    (fun profile config ↦ ⟨numbered_start _ _, fun _ _ ↦ accounted_start _ _⟩) ?_
  rintro r op ⟨hn, hacc⟩ he
  refine ⟨hn.after he, fun hopen hle ↦ ?_⟩
  have hopen' := eventsOpen_of_after hopen
  have hle' := Nat.le_trans (length_connections_le_after r op) hle
  exact Accounted.after hn (hacc hopen' hle') he hopen' hle

/-- **One step and a law about events.** A law that announcements and disconnects satisfy is kept by
a step whose message, if it emits one, satisfies it. -/
theorem justified_after {ok : List (Event M) → Event M → Prop}
    (hnew : ∀ before ev, ok before (.newPeer ev))
    (hdisc : ∀ before ev, ok before (.peerDisconnect ev))
    (htcp : ∀ msg, op = .tcpMessage msg → r.eventsOpen = true → ok r.events (.tcpMessage msg))
    (hudp : ∀ msg addr, op = .udpMessage msg addr → r.eventsOpen = true →
      ok r.events (.udpMessage msg))
    (h : EventLog.Justified ok r.events) : EventLog.Justified ok (r.after op).events := by
  have hemit : ∀ (r : Registry M) ev, (r.eventsOpen = true → ok r.events ev) →
      EventLog.Justified ok r.events → EventLog.Justified ok (r.emit ev).events := by
    intro r ev hev h
    rw [events_emit]
    split
    · rename_i hopen
      exact EventLog.justified_append_singleton_iff.2 ⟨h, hev hopen⟩
    · simpa using h
  cases op with
  | drop l =>
    refine dropPeers_induction (I := fun r ↦ EventLog.Justified ok r.events) ?_ h l
    intro r p peer reason hr _
    exact hemit (r.remove p peer) _ (fun _ ↦ hdisc _ _) hr
  | accept addr uuid next => exact hemit (r.register addr uuid next) _ (fun _ ↦ hnew _ _) h
  | tcpMessage msg => exact hemit r _ (htcp msg rfl) h
  | udpMessage msg addr => exact hemit r _ (hudp msg addr rfl) h
  | bind p peer uuid addr => exact h
  | closeEvents => exact h
  | idle => exact h

/-- How many peers there are is how many were announced and not reported as disconnected. -/
theorem Accounted.length_connectedPeers (h : r.Accounted) (hnodup : r.connections.Nodup) :
    (connectedPeers r.events).length = r.peers.len := by
  have hnodup' : (connectedPeers r.events).Nodup := by
    rw [connectedPeers, h.newPeers_eq]
    exact hnodup.filter _
  rw [← List.toFinset_card_of_nodup hnodup', HashMap.len]
  congr 1
  ext p
  rw [List.mem_toFinset, h.mem_keys_iff]

end Registry

/-! ### The server -/

section Server

variable {hist : List (State M × Action M)} {s : State M}

/-- Connection `c` is tagged with the uid `PeerUid.ofNat c`. -/
theorem State.peerUid_eq (hn : s.registry.Numbered) {c : ℕ} {conn : Connection M}
    (hconn : s.streams[c]? = some conn) : conn.peerUid = .ofNat c := by
  refine hn.eq_ofNat (c := c) ?_
  show (s.streams.map Connection.peerUid)[c]? = some conn.peerUid
  rw [List.getElem?_map, hconn, Option.map_some]

theorem Run.numbered (h : Run hist s) : s.registry.Numbered :=
  h.registry.numbered

/-- The counter has not wrapped around, up to `2 ^ 64` connections and where overflow is checked. -/
theorem Run.length_streams_le (h : Run hist s)
    (huids : s.profile.overflowChecks = true ∨ s.streams.length ≤ 2 ^ 64) :
    s.streams.length ≤ 2 ^ 64 := by
  rcases huids with hchecks | hle
  · have hlt := h.registry.length_connections_lt hchecks
    rw [State.length_connections] at hlt
    exact Nat.le_of_lt hlt
  · exact hle

theorem State.numbered_of_step {s s' : State M} {a : Action M} (hn : s.registry.Numbered)
    (hs : s.step a = some s') : s'.registry.Numbered := by
  rw [State.registry_step hs]
  exact hn.after (State.enabled_op hs)

theorem Run.accounted (h : Run hist s) (hopen : s.eventSender.receiverAlive = true)
    (hle : s.streams.length ≤ 2 ^ 64) : s.registry.Accounted :=
  h.registry.accounted hopen (by simpa [State.registry] using hle)

/-- At capacity a connection is refused, and nothing changes. -/
theorem handleNewTcpConnection_of_capacity {s : State M}
    (hcap : s.peers.len ≥ s.config.maxConnections) {tcpStream : TcpStream} {addr : SocketAddr}
    (haddr : tcpStream.peerAddr = .ok addr) (newV4 : Uuid) :
    handleNewTcpConnection s tcpStream newV4 = s := by
  simp only [handleNewTcpConnection, haddr, if_pos hcap]

/-- The account of the peers' lives in a state of the server. -/
structure Lifecycle (s : State M) : Prop where
  /-- The accepted connections have the uids 0, 1, 2, … -/
  uids : s.streams.map Connection.peerUid = (List.range s.streams.length).map PeerUid.ofNat
  /-- No two have the same. -/
  uids_nodup : (s.streams.map Connection.peerUid).Nodup
  /-- The counter stands at the number of accepted connections. -/
  nextPeerUid : s.nextPeerUid = .ofNat s.streams.length
  /-- A connection attempt at capacity leaves everything as it was. -/
  refused : ∀ a s' addr, s.step a = some s' →
    s.incoming? a = some (.tcpListener (.ok ⟨.ok addr⟩)) →
    s.config.maxConnections ≤ s.peers.len → s' = { s with phase := .top }
  /-- Each connection is announced once, in order of acceptance. -/
  newPeers : newPeers s.events = s.streams.map Connection.peerUid
  /-- No peer is reported twice as disconnected. -/
  disconnects_nodup : (peerDisconnects s.events).Nodup
  /-- Nor before it was announced. -/
  disconnect_announced : EventLog.Justified DisconnectAnnounced s.events
  /-- The peers of the map are those announced and not reported as disconnected. -/
  mem_peers : ∀ p, p ∈ s.peers.keys ↔ p ∈ connectedPeers s.events
  /-- There are never more than the configuration admits. -/
  capacity : s.peers.len ≤ s.config.maxConnections
  /-- Their number is what a question after it is answered with. -/
  reply : ∀ a s' tx, s.step a = some s' →
    s.incoming? a = some (.actorMessage (.getNumberOfConnectedPeers tx)) →
    s'.replies = s.replies ++ [(tx, (connectedPeers s.events).length)]

/-- **The peers' lives are accounted for** in every state that a run reaches with a live event
receiver and fewer than `2 ^ 64` accepted connections. -/
theorem Run.lifecycle (h : Run hist s) (hopen : s.eventSender.receiverAlive = true)
    (hlt : s.streams.length < 2 ^ 64) : Lifecycle s := by
  have hnum := h.numbered
  have hacc := h.accounted hopen (Nat.le_of_lt hlt)
  have hlen : s.registry.connections.length = s.streams.length := s.length_connections
  have hnodup := hnum.nodup (by omega)
  refine ⟨?_, hnodup, ?_, ?_, hacc.newPeers_eq, hacc.nodup, hacc.announced, hacc.mem_keys_iff,
    h.registry.len_peers_le, ?_⟩
  · rw [← hlen]
    exact hnum.connections_eq
  · rw [← hlen]
    exact hnum.nextPeerUid_eq
  · intro a s' addr hs hi hcap
    obtain ⟨choice, t, -, ht, rfl⟩ := State.exists_taken_of_incoming? hs hi
    cases ht
    exact handleNewTcpConnection_of_capacity (s := { s with phase := .top }) hcap rfl _
  · intro a s' tx hs hi
    have hcount : (connectedPeers s.events).length = s.peers.len :=
      hacc.length_connectedPeers hnodup
    obtain ⟨choice, t, -, ht, rfl⟩ := State.exists_taken_of_incoming? hs hi
    cases ht
    rw [hcount]
    rfl

/-- One peer is admitted and a second one refused; the first sends an undecodable frame, hangs up,
and is dropped once. -/
theorem Run.lifecycle_refused_and_dropped : ∃ hist, ∃ s : State plainMessages, Run hist s ∧
    s.streams.length = 1 ∧ s.peers.len = 0 ∧ s.peersToDrop = [] ∧ Lifecycle s := by
  have h : Run _ _ := TransitionSystem.run_of_exec (T := system plainMessages)
    (s := .start .dev ⟨1⟩) (l := Action.connect 1 1 [] ++ Action.connect 2 2 [0] ++
      Action.frame 0 (.error .bincode) ++
      [.env (.tcpEnd 0), .task (.tcpReader 0 .streamEnd)] ++
      Action.take (.tcpReader 0) [0] ++ Action.take (.tcpReaderEnd 0) [] ++ [.loopTop])
    ⟨.dev, ⟨1⟩, rfl⟩ rfl
  exact ⟨_, _, h, rfl, rfl, rfl, Run.lifecycle h rfl (by decide)⟩

end Server

end NetStream.Server
