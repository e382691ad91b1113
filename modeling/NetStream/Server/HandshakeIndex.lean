import NetStream.Server.Handshake
import NetStream.Server.Wraparound

/-!
# The handshake index is the inverse of the records

Where the UUIDs are fresh and no connection is accepted under a uid that is in use, the handshake
index resolves a UUID to a peer exactly when the peer is connected and has it
(`Run.handshakeIndex`). So a Hello is looked up in vain from the drop of its peer on, for good.

A uid that is in use is only given again after the counter has wrapped around. The entry for the
UUID of its old holder is then left behind (`handshakeIndex_fails_after_wraparound`).
-/

namespace NetStream.Server

variable {M : MessageTypes} {hist : List (State M × Action M)} {s s' : State M}

/-- A connection that the step accepts gets a uid that no connected peer has. -/
def AcceptsUnused (s : State M) (a : Action M) : Prop :=
  s.registry.UnusedUid (s.op a)

instance (s : State M) : DecidablePred (AcceptsUnused s) := fun a ↦
  inferInstanceAs (Decidable (s.registry.UnusedUid (s.op a)))

/-- So it is up to `2 ^ 64` connections, and always where overflow is checked. -/
theorem Run.acceptsUnused (h : Run hist s)
    (huids : s.profile.overflowChecks = true ∨ s.streams.length ≤ 2 ^ 64) :
    ∀ x ∈ hist, AcceptsUnused x.1 x.2 := by
  have hle := Run.length_streams_le h huids
  rw [← State.length_connections] at hle
  exact TransitionSystem.forall_mem_mapHist_iff.1 ((Run.registry h).unusedUid hle)

/-- A UUID that has not been given out resolves to no one. -/
theorem Run.handshakeFree (h : Run hist s) (hfresh : (issued hist).Nodup) :
    ∀ x ∈ hist, (handshakeName M).Free x.1.registry (x.1.op x.2) := by
  rintro ⟨t, a⟩ hmem addr uuid next hop p hp
  obtain ⟨hist₁, hist₂, t', rfl, ht, -⟩ := TransitionSystem.Run.exists_step_of_mem h hmem
  have hissued : issued (hist₁ ++ (t, a) :: hist₂) = issued hist₁ ++ issued ((t, a) :: hist₂) :=
    List.filterMap_append
  rw [hissued] at hfresh
  obtain ⟨hbefore, -, hdisj⟩ := List.nodup_append.1 hfresh
  have hold : uuid ∈ issued hist₁ := by
    obtain ⟨c, hc, -⟩ := mem_uuidsOf_iff.1 ((Run.traced ht hbefore).handshake uuid p hp)
    exact List.mem_of_getElem? hc
  have hnew : uuid ∈ issued ((t, a) :: hist₂) := by
    refine List.mem_filterMap.2 ⟨(t, a), List.mem_cons_self, ?_⟩
    show (t.op a).issued? = some uuid
    rw [show t.op a = .accept addr uuid next from hop]
    rfl
  exact hdisj uuid hold uuid hnew rfl

/-- A connection whose record is gone is not taken up again. -/
theorem State.released_of_step (hn : s.registry.Numbered) {a : Action M}
    (hs : s.step a = some s') {c : ℕ} (hc : c < s.streams.length) (hr : s.Released c) :
    s'.Released c := by
  rcases step_cases hs with ⟨rfl, hphase, rfl⟩ | ⟨source, choice, incoming, t, rfl, hphase, hi, rfl⟩ |
    ⟨i, old, new, -, -, rfl⟩ | ⟨st, reader, -, -, rfl⟩ | ⟨st, writer, -, -, rfl⟩ |
    ⟨x, -, rfl⟩ | ⟨e, ch, sender, -, -, rfl⟩
  · exact (Handled.loopTop hphase hn).released c hc hr
  · have hreg := registry_taken (taken_of_nextIncoming hi)
    have hpeers : t.peers = s.peers := congrArg Registry.peers hreg
    have hlen : t.streams.length = s.streams.length := by
      rw [← length_connections, ← length_connections, hreg]
    refine (Handled.handleIncoming { t with phase := .top } ?_ incoming choice).released c
      (hlen ▸ hc) (Or.inr ?_)
    · show t.registry.Numbered
      rwa [hreg]
    · show ∀ p peer, t.peers.get? p = some peer → _
      rw [hpeers]
      exact hr.resolve_left (not_panicked_of_waiting hphase)
  all_goals exact hr

/-- A peer that is dropped in the step from `t` to `t'` has no record for its connection left. -/
theorem State.released_of_dropped {t t' : State M} {p : PeerUid} {peer : Peer}
    (hn : t.registry.Numbered) (hn' : t'.registry.Numbered) (hp : t.peers.get? p = some peer)
    (hgone : t'.peers.get? p = none) : t'.Released peer.tcpWriteActorHandle.connection := by
  obtain ⟨c, -, rfl, -, hwrite⟩ := hn.handles p peer hp
  refine Or.inr fun q peer' hq ↦ ?_
  obtain ⟨c', -, rfl, hread', hwrite'⟩ := hn'.handles q peer' hq
  rw [hwrite, hread', hwrite']
  have hne : c' ≠ c := by
    rintro rfl
    rw [hgone] at hq
    cases hq
  exact ⟨hne, hne⟩

/-- **The handshake index**, after a run. -/
structure HandshakeIndex (hist : List (State M × Action M)) (s : State M) : Prop where
  /-- It is the inverse of the records … -/
  inverse : ∀ uuid p, s.peerHandshakeUuidToPeerUid.get? uuid = some p ↔
    ∃ peer, s.peers.get? p = some peer ∧ peer.handshakeUuid = uuid
  /-- … so a UUID that matches a peer matches a connected one … -/
  connected : ∀ uuid p, s.peerHandshakeUuidToPeerUid.get? uuid = some p →
    s.peers.containsKey p = true
  /-- … and after a peer has been dropped, a Hello with its UUID is taken and nothing else
  happens. -/
  stale : ∀ hist₁ hist₂ t a t' p peer, hist = hist₁ ++ (t, a) :: hist₂ → t.step a = some t' →
    t.peers.get? p = some peer → t'.peers.get? p = none → ∀ b s' addr, s.step b = some s' →
      s.incoming? b = some (.udpReader (.streamItem (.ok (.hello peer.handshakeUuid), addr))) →
      ∃ u, s.Taken (.udpReader (.streamItem (.ok (.hello peer.handshakeUuid), addr))) u ∧
        s' = { u with phase := .top }

/-- A Hello whose UUID is not in the index changes nothing. -/
theorem State.step_of_unknownHello {b : Action M} (hs : s.step b = some s') {uuid : Uuid}
    {addr : SocketAddr}
    (hi : s.incoming? b = some (.udpReader (.streamItem (.ok (.hello uuid), addr))))
    (hnone : s.peerHandshakeUuidToPeerUid.get? uuid = none) :
    ∃ u, s.Taken (.udpReader (.streamItem (.ok (.hello uuid), addr))) u ∧
      s' = { u with phase := .top } := by
  obtain ⟨choice, u, -, hu, rfl⟩ := exists_taken_of_incoming? hs hi
  have hindex : u.peerHandshakeUuidToPeerUid = s.peerHandshakeUuidToPeerUid :=
    congrArg Registry.handshakeIndex (registry_taken hu)
  refine ⟨u, hu, ?_⟩
  simp only [handleIncoming, handleUdpReaderStreamItem, hindex, hnone]

/-- A connected peer holds its connection. -/
theorem State.not_released_of_get? (hphase : s.phase = .waiting) {p : PeerUid} {peer : Peer}
    (hp : s.peers.get? p = some peer) : ¬ s.Released peer.tcpWriteActorHandle.connection := by
  intro hr
  have hfree := hr.resolve_left (not_panicked_of_waiting hphase)
  exact (hfree p peer hp).2 rfl

/-- **After a drop**, no record has the UUID of the peer any more, once the broker waits. -/
theorem Run.handshakeUuid_ne_of_dropped (h : Run hist s) (hfresh : (issued hist).Nodup)
    {hist₁ hist₂ : List (State M × Action M)} {t t' : State M} {a : Action M}
    (heq : hist = hist₁ ++ (t, a) :: hist₂) (hs : t.step a = some t') {p : PeerUid} {peer : Peer}
    (hp : t.peers.get? p = some peer) (hgone : t'.peers.get? p = none)
    (hphase : s.phase = .waiting) {q : PeerUid} {peer' : Peer} (hq : s.peers.get? q = some peer') :
    peer'.handshakeUuid ≠ peer.handshakeUuid := by
  obtain ⟨ht, -⟩ := TransitionSystem.Run.exists_step_of_eq_append h heq
  have hn' := Run.numbered (TransitionSystem.Run.next ht hs)
  have hissued : issued hist = issued hist₁ ++ issued ((t, a) :: hist₂) := by
    rw [heq]
    exact List.filterMap_append
  -- the connection of the peer, and the UUID given out on it
  obtain ⟨-, hu⟩ := Run.known ht p peer hp
  obtain ⟨hc, -⟩ := List.getElem?_eq_some_iff.1 hu
  have hc' : peer.tcpWriteActorHandle.connection < t'.streams.length := by
    rw [Run.length_issued ht] at hc
    exact Nat.lt_of_lt_of_le hc (State.length_streams_le_of_step hs)
  -- it stays released until the end of the run
  obtain ⟨-, -, hr⟩ := TransitionSystem.Run.invariant_from
    (I := fun s ↦ s.registry.Numbered ∧ peer.tcpWriteActorHandle.connection < s.streams.length ∧
      s.Released peer.tcpWriteActorHandle.connection)
    (fun u b u' hu hb ↦ ⟨State.numbered_of_step hu.1 hb,
      Nat.lt_of_lt_of_le hu.2.1 (State.length_streams_le_of_step hb),
      State.released_of_step hu.1 hb hu.2.1 hu.2.2⟩) h heq hs
    ⟨hn', hc', State.released_of_dropped (Run.numbered ht) hn' hp hgone⟩
  intro huuid
  obtain ⟨-, hu'⟩ := Run.known h q peer' hq
  have hlast : (issued hist)[peer.tcpWriteActorHandle.connection]? = some peer.handshakeUuid := by
    rw [hissued]
    exact (List.getElem?_append_left hc).trans hu
  have hsame : peer'.tcpWriteActorHandle.connection = peer.tcpWriteActorHandle.connection := by
    obtain ⟨hlt, hget⟩ := List.getElem?_eq_some_iff.1 hlast
    obtain ⟨hlt', hget'⟩ := List.getElem?_eq_some_iff.1 hu'
    exact hfresh.getElem_inj_iff.1 ((hget'.trans huuid).trans hget.symm)
  exact State.not_released_of_get? hphase hq (hsame ▸ hr)

/-- **The index is the inverse of the records** in every run with fresh UUIDs that accepts no
connection under a uid that is in use. -/
theorem Run.handshakeIndex (h : Run hist s) (hfresh : (issued hist).Nodup)
    (huids : ∀ x ∈ hist, AcceptsUnused x.1 x.2) : HandshakeIndex hist s := by
  have hsound := (handshakeName M).sound_of_forall (Run.registry h)
    (TransitionSystem.forall_mem_mapHist_iff.2 huids)
  have hcomplete := (handshakeName M).complete_of_run (Run.registry h)
    (TransitionSystem.forall_mem_mapHist_iff.2 (Run.handshakeFree h hfresh))
  have hinverse : ∀ uuid p, s.peerHandshakeUuidToPeerUid.get? uuid = some p ↔
      ∃ peer, s.peers.get? p = some peer ∧ peer.handshakeUuid = uuid := by
    intro uuid p
    constructor
    · intro hp
      obtain ⟨peer, hpeer, hu⟩ := hsound uuid p hp
      exact ⟨peer, hpeer, Option.some.inj hu⟩
    · rintro ⟨peer, hpeer, rfl⟩
      exact hcomplete p peer peer.handshakeUuid hpeer rfl
  refine ⟨hinverse, fun uuid p hp ↦ ?_, ?_⟩
  · obtain ⟨peer, hpeer, -⟩ := (hinverse uuid p).1 hp
    exact HashMap.containsKey_iff.2 (HashMap.mem_keys_of_get? hpeer)
  · intro hist₁ hist₂ t a t' p peer heq hs hp hgone b s' addr hb hi
    obtain ⟨hphase, -⟩ := State.taken_of_incoming? hb hi
    refine State.step_of_unknownHello hb hi (Option.eq_none_iff_forall_ne_some.2 fun q hq ↦ ?_)
    obtain ⟨peer', hpeer', hu⟩ := (hinverse _ q).1 hq
    exact Run.handshakeUuid_ne_of_dropped h hfresh heq hs hp hgone hphase hpeer' hu

/-- A peer hangs up and is dropped, and then its Hello arrives. -/
theorem Run.handshakeIndex_of_lateHello : ∃ hist, ∃ s : State plainMessages, Run hist s ∧
    s.events = [.newPeer ⟨.ofNat 0⟩, .newPeer ⟨.ofNat 1⟩,
      .peerDisconnect ⟨.ofNat 0, .peerClosedConnection⟩] ∧
    s.peerHandshakeUuidToPeerUid.get? (uuid 2) = some (.ofNat 1) ∧ HandshakeIndex hist s := by
  have h : Run _ _ := TransitionSystem.run_of_exec (T := system plainMessages)
    (s := .start .dev ⟨2⟩) (l := Action.connect 1 1 [] ++ Action.connect 2 2 [0] ++
      [.env (.tcpEnd 0), .task (.tcpReader 0 .streamEnd)] ++ Action.take (.tcpReaderEnd 0) [0, 1] ++
      Action.datagram (.ok (.hello (uuid 1))) 10 [1])
    ⟨.dev, ⟨2⟩, rfl⟩ rfl
  exact ⟨_, _, h, rfl, by decide,
    Run.handshakeIndex h (by decide) (Run.acceptsUnused h (Or.inl rfl))⟩

/-! ### A uid that is given again -/

/-- A server that waits, with its first peer connected. -/
theorem exists_guest : ∃ hist, ∃ s : State plainMessages, Run hist s ∧ s.Hospitable ∧
    s.streams.length = 1 ∧ s.peerTcpSocketAddrToPeerUid.get? (address 11) = none ∧
    s.peerHandshakeUuidToPeerUid = HashMap.new.insert (uuid 0) (.ofNat 0) ∧
    (hist.map Prod.snd).filterMap Action.drawn? = [uuid 0] := by
  have h : Run _ _ := TransitionSystem.run_of_exec (T := system plainMessages)
    (s := .start .release ⟨2⟩) (l := Action.connect 10 0 [] ++ [.loopTop])
    ⟨.release, ⟨2⟩, rfl⟩ rfl
  exact ⟨_, _, h, ⟨rfl, rfl, rfl, rfl, by decide, rfl⟩, rfl, by decide, rfl, rfl⟩

/-- **The entry of a replaced record stays.** After `2 ^ 64` connections the first peer is connected
still, and the next one gets its uid. -/
theorem handshakeIndex_fails_after_wraparound : ¬ ∀ hist (s : State plainMessages), Run hist s →
    (issued hist).Nodup → HandshakeIndex hist s := by
  intro hall
  obtain ⟨hist, s, h, hs, hone, haddr, hindex, hfirst⟩ := exists_guest
  obtain ⟨hist', gone, evs, hlen, hfresh, h'⟩ := h.exists_replaced hs hone hfirst haddr hindex
  have hnext : (s.later gone evs).nextPeerUid = .ofNat 0 := State.nextPeerUid_later hlen
  have hne : uuid 0 ≠ uuid (2 ^ 64) := by decide
  -- the entry of the first peer is still there, and its record is not
  have hold : ((s.later gone evs).accepted (address 12)
      (uuid (2 ^ 64))).peerHandshakeUuidToPeerUid.get? (uuid 0) = some (.ofNat 0) := by
    refine (HashMap.get?_insert_of_ne hne).trans ?_
    show s.peerHandshakeUuidToPeerUid.get? (uuid 0) = _
    rw [hindex, HashMap.get?_insert_self]
  obtain ⟨peer, hpeer, huuid⟩ := ((hall _ _ h' hfresh).inverse (uuid 0) (.ofNat 0)).1 hold
  rw [← hnext] at hpeer
  obtain rfl := Option.some.inj (HashMap.get?_insert_self.symm.trans hpeer)
  exact hne huuid.symm

end NetStream.Server
