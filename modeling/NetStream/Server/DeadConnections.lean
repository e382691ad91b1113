import NetStream.Server.StoppedActors

/-!
# Dead connections

When an actor of a peer reports its end, the peer has to go: the broker schedules the drop, or
asserts that it has happened. The reasons that are neither signalled nor a failure of the network —
the task panicked, or was cancelled — are only logged. `Run.noZombies` is that this is the one gap:
in a run in which no such end is taken for a connected peer, a peer with a dead actor never sees the
broker wait for the next item.
-/

namespace NetStream.Server

variable {M : MessageTypes}

namespace Registry

variable {r : Registry M}

/-! ### Drops that go through -/

/-- The uid of each accepted connection is in use, or has been reported as disconnected. -/
def Present (r : Registry M) : Prop :=
  ∀ p ∈ r.connections, p ∈ r.peers.keys ∨ p ∈ peerDisconnects r.events

/-- The drops do not run into a missing event receiver. -/
def DropsReported (r : Registry M) (l : List (PeerUid × DisconnectReason)) : Prop :=
  r.eventsOpen = true ∨ ∀ x ∈ l, x.1 ∉ r.peers.keys

theorem keys_dropPeer (r : Registry M) (p : PeerUid) (reason : DisconnectReason) :
    (r.dropPeer p reason).peers.keys = r.peers.keys.erase p := by
  unfold dropPeer
  split
  · rename_i h
    exact (Finset.erase_eq_of_notMem (HashMap.get?_eq_none_iff.1 h)).symm
  · rw [emit_peers]
    exact HashMap.keys_remove

/-- To drop peers that are gone changes nothing. -/
theorem dropPeers_of_disconnected {l : List (PeerUid × DisconnectReason)}
    (h : ∀ x ∈ l, x.1 ∉ r.peers.keys) : r.dropPeers l = r := by
  induction l with
  | nil => rfl
  | cons x rest ih =>
    obtain ⟨hx, hrest⟩ := List.forall_mem_cons.1 h
    have hsame : r.dropPeer x.1 x.2 = r := by
      rw [dropPeer, HashMap.get?_eq_none_iff.2 hx]
    rw [dropPeers, hsame, ih hrest, ite_self]

theorem keys_dropPeers_of_open (hopen : r.eventsOpen = true)
    (l : List (PeerUid × DisconnectReason)) :
    (r.dropPeers l).peers.keys = r.peers.keys \ (l.map Prod.fst).toFinset := by
  induction l generalizing r with
  | nil => simp [dropPeers]
  | cons x rest ih =>
    have hopen' : (r.dropPeer x.1 x.2).eventsOpen = true := by
      unfold dropPeer
      split
      · exact hopen
      · exact (emit_eventsOpen _ _).trans hopen
    rw [dropPeers, if_neg (by simp [hopen]), ih hopen', keys_dropPeer, List.map_cons,
      List.toFinset_cons]
    grind

/-- **The peers listed are gone**, and no others. -/
theorem DropsReported.keys_dropPeers {l : List (PeerUid × DisconnectReason)}
    (h : r.DropsReported l) :
    (r.dropPeers l).peers.keys = r.peers.keys \ (l.map Prod.fst).toFinset := by
  rcases h with hopen | hgone
  · exact keys_dropPeers_of_open hopen l
  · rw [dropPeers_of_disconnected hgone, Finset.sdiff_eq_self_of_disjoint]
    rw [Finset.disjoint_right]
    simpa using fun p reason hx ↦ hgone (p, reason) hx

/-- Events are only ever added. -/
theorem events_prefix_after (r : Registry M) (op : Op M) : r.events <+: (r.after op).events := by
  have hemit : ∀ (r : Registry M) ev, r.events <+: (r.emit ev).events := by
    intro r ev
    rw [events_emit]
    exact List.prefix_append _ _
  cases op with
  | drop l =>
    exact dropPeers_induction (I := fun r' ↦ r.events <+: r'.events)
      (fun r' p peer reason hr' _ ↦ hr'.trans (hemit (r'.remove p peer) _)) List.prefix_rfl l
  | accept addr uuid next => exact hemit (r.register addr uuid next) _
  | tcpMessage msg => exact hemit r _
  | udpMessage msg addr => exact hemit r _
  | bind p peer uuid addr => exact List.prefix_rfl
  | closeEvents => exact List.prefix_rfl
  | idle => exact List.prefix_rfl

theorem mem_peerDisconnects_after {p : PeerUid} (h : p ∈ peerDisconnects r.events) (op : Op M) :
    p ∈ peerDisconnects (r.after op).events :=
  (r.events_prefix_after op).filterMap _ |>.subset h

theorem Present.after (h : r.Present) {op : Op M} (hdrop : ∀ l, op = .drop l → r.DropsReported l) :
    (r.after op).Present := by
  have hemit : ∀ {r : Registry M} ev, r.Present → (r.emit ev).Present := by
    intro r ev h p hp
    rw [emit_connections] at hp
    rw [emit_peers, events_emit, peerDisconnects_append]
    exact (h p hp).imp_right (List.mem_append_left _)
  cases op with
  | drop l =>
    rcases hdrop l rfl with hopen | hgone
    · refine (dropPeers_induction (I := fun r ↦ r.eventsOpen = true ∧ r.Present) ?_ ⟨hopen, h⟩ l).2
      rintro r p peer reason ⟨hopen, h⟩ -
      refine ⟨(emit_eventsOpen _ _).trans hopen, fun q hq ↦ ?_⟩
      rw [emit_connections] at hq
      rw [emit_peers, events_emit, if_pos (show (r.remove p peer).eventsOpen = true from hopen)]
      by_cases hqp : q = p
      · exact Or.inr (by simp [peerDisconnects, Event.peerDisconnect?, hqp])
      · refine (h q hq).imp (fun hkey ↦ ?_) fun hdisc ↦ ?_
        · show q ∈ (r.peers.remove p).keys
          rw [HashMap.keys_remove]
          exact Finset.mem_erase.2 ⟨hqp, hkey⟩
        · rw [peerDisconnects_append]
          exact List.mem_append_left _ hdisc
    · show (r.dropPeers l).Present
      rwa [dropPeers_of_disconnected hgone]
  | accept addr uuid next =>
    refine hemit (r := r.register addr uuid next) _ fun p hp ↦ ?_
    show p ∈ (r.peers.insert r.nextPeerUid _).keys ∨ p ∈ peerDisconnects r.events
    rw [HashMap.keys_insert]
    rcases List.mem_append.1 hp with hp | hp
    · exact (h p hp).imp_left (Finset.mem_insert_of_mem ·)
    · exact Or.inl (List.mem_singleton.1 hp ▸ Finset.mem_insert_self _ _)
  | bind p peer uuid addr =>
    intro q hq
    show q ∈ (r.peers.insert p _).keys ∨ _
    rw [HashMap.keys_insert]
    exact (h q hq).imp_left (Finset.mem_insert_of_mem ·)
  | tcpMessage msg => exact hemit _ h
  | udpMessage msg addr => exact hemit _ h
  | closeEvents => exact h
  | idle => exact h

end Registry

/-! ### What waits to be dropped -/

theorem State.peersToDrop_emit (s : State M) (ev : Event M) :
    (s.emit ev).peersToDrop = s.peersToDrop := by
  unfold State.emit
  split <;> rfl

theorem State.peersToDrop_dropPeers (s : State M) (l : List (PeerUid × DisconnectReason)) :
    (Server.dropPeers s l).peersToDrop = s.peersToDrop := by
  have hdrop : ∀ (s : State M) p reason, (Server.dropPeer s p reason).peersToDrop = s.peersToDrop := by
    intro s p reason
    unfold Server.dropPeer
    split
    · rfl
    · exact State.peersToDrop_emit _ _
  induction l generalizing s with
  | nil => rfl
  | cons x rest ih =>
    simp only [Server.dropPeers]
    split
    · exact hdrop s _ _
    · exact (ih _).trans (hdrop s _ _)

theorem State.peersToDrop_loopTop {s : State M} (hwait : (Server.loopTop s).phase = .waiting) :
    (Server.loopTop s).peersToDrop = [] := by
  unfold Server.loopTop at hwait ⊢
  split
  · rename_i hassert
    rw [if_pos hassert] at hwait
    cases hwait
  · exact State.peersToDrop_dropPeers _ _

/-- While the broker waits for an item, nothing is left to drop. -/
theorem Run.drained {hist : List (State M × Action M)} {s : State M} (h : Run hist s)
    (hwait : s.phase = .waiting) : s.peersToDrop = [] := by
  induction h with
  | start h =>
    obtain ⟨profile, config, rfl⟩ := h
    rfl
  | @next hist s s' a _ hs ih =>
    rcases State.step_cases hs with ⟨-, -, rfl⟩ | ⟨source, choice, incoming, t, -, -, -, rfl⟩ |
      ⟨_, _, _, -, -, rfl⟩ | ⟨_, _, -, -, rfl⟩ | ⟨_, _, -, -, rfl⟩ | ⟨_, -, rfl⟩ |
      ⟨_, _, _, -, -, rfl⟩
    · exact State.peersToDrop_loopTop hwait
    · -- after an item the broker is at the top of its loop, if it goes on
      rw [State.phase_handleIncoming] at hwait
      unfold State.phaseAfter at hwait
      split at hwait <;> cases hwait
    all_goals exact ih hwait

/-! ### Ends that have been reported -/

/-- The end of one of the connection's actors has been taken by the broker. -/
def Connection.Ended (conn : Connection M) : Prop :=
  conn.readerEnded = true ∨ conn.writerEnded = true

theorem Connection.Touch.ended_iff {released : Prop} {conn conn' : Connection M}
    (h : conn.Touch released conn') :
    (conn'.Ended ↔ conn.Ended) ∧ conn'.peerUid = conn.peerUid := by
  induction h with
  | refl => exact ⟨Iff.rfl, rfl⟩
  | send _ _ ih | shutdownReader _ _ ih | shutdownWriter _ _ ih | dropReader _ _ ih
  | dropWriter _ _ ih | closeReader _ _ ih => exact ih

theorem Connection.Moves.ended_iff {c : ℕ} {a : Action M} {conn conn' : Connection M}
    (h : conn.Moves c a conn') : (conn'.Ended ↔ conn.Ended) ∧ conn'.peerUid = conn.peerUid := by
  cases h <;> exact ⟨Iff.rfl, rfl⟩

/-- A connection has ended after an item is taken if it had before, or if the item is its end. -/
theorem Connection.TakenFrom.ended {conn conn' : Connection M} {incoming : Incoming M}
    (h : conn.TakenFrom incoming conn') (hended : conn'.Ended) :
    conn'.peerUid = conn.peerUid ∧ (conn.Ended ∨
      (∃ reason, incoming = .endOfStream (.tcpReader conn.peerUid reason)) ∨
      ∃ reason, incoming = .endOfStream (.tcpWriter conn.peerUid reason)) := by
  cases h with
  | other => exact ⟨rfl, Or.inl hended⟩
  | item _ => exact ⟨rfl, Or.inl hended⟩
  | readerEnd _ => exact ⟨rfl, Or.inr (Or.inl ⟨_, rfl⟩)⟩
  | writerEnd _ => exact ⟨rfl, Or.inr (Or.inr ⟨_, rfl⟩)⟩

/-- The peer of whom the task of an actor is reported to have panicked or to have been cancelled. -/
def Incoming.erraticEnd? : Incoming M → Option PeerUid
  | .endOfStream (.tcpReader peerUid (.erratic _)) => some peerUid
  | .endOfStream (.tcpWriter peerUid (.erratic _)) => some peerUid
  | _ => none

/-- No such end is taken for a connected peer. -/
def EndsControlled (s : State M) (a : Action M) : Prop :=
  ∀ p ∈ (s.incoming? a).bind Incoming.erraticEnd?, p ∉ s.peers.keys

instance (s : State M) (a : Action M) : Decidable (EndsControlled s a) :=
  inferInstanceAs (Decidable (∀ p ∈ (s.incoming? a).bind Incoming.erraticEnd?, p ∉ s.peers.keys))

/-- A connection one of whose ends has been taken is about to be dropped, or it has been. -/
structure Settled (s : State M) : Prop where
  present : s.registry.Present
  ended : ∀ (c : ℕ) (conn : Connection M), s.streams[c]? = some conn → conn.Ended →
    conn.peerUid ∈ s.peersToDrop.map Prod.fst ∨
      s.Released c ∧ conn.peerUid ∈ peerDisconnects s.events

/-- A uid that is not in use leaves no record for its connections. -/
theorem State.released_of_notMem (hn : (s : State M).registry.Numbered) {c : ℕ}
    {conn : Connection M} (hconn : s.streams[c]? = some conn)
    (hp : conn.peerUid ∉ s.peers.keys) : s.Released c := by
  rw [State.peerUid_eq hn hconn] at hp
  refine Or.inr fun q peer hq ↦ ?_
  obtain ⟨m, -, rfl, hread, hwrite⟩ := hn.handles q peer hq
  have hmc : m ≠ c := fun h ↦ hp (h ▸ HashMap.mem_keys_of_get? hq)
  rw [hread, hwrite]
  exact ⟨hmc, hmc⟩

/-- With its uid out of use a connection has no record, and has been reported. -/
theorem State.gone_of_notMem {s : State M} (hn : s.registry.Numbered) (hpresent : s.registry.Present)
    {c : ℕ} {conn : Connection M} (hconn : s.streams[c]? = some conn)
    (hp : conn.peerUid ∉ s.peers.keys) :
    s.Released c ∧ conn.peerUid ∈ peerDisconnects s.events :=
  ⟨State.released_of_notMem hn hconn hp,
    (hpresent _ (List.mem_map_of_mem (List.mem_of_getElem? hconn))).resolve_left hp⟩

/-- The broker's handlers end no connection. -/
theorem Handled.exists_ended {s s' : State M} (h : Handled s s') {c : ℕ} {conn' : Connection M}
    (hc : s'.streams[c]? = some conn') (hended : conn'.Ended) :
    c < s.streams.length ∧ ∃ conn, s.streams[c]? = some conn ∧ conn.Ended ∧
      conn'.peerUid = conn.peerUid := by
  rcases Nat.lt_or_ge c s.streams.length with hlt | hge
  · obtain ⟨conn'', hc'', htouch⟩ := h.old c _ (List.getElem?_eq_getElem hlt)
    obtain rfl := Option.some.inj (hc''.symm.trans hc)
    exact ⟨hlt, _, List.getElem?_eq_getElem hlt, htouch.ended_iff.1.1 hended, htouch.ended_iff.2⟩
  · obtain ⟨p, htouch⟩ := h.new c conn' hge hc
    rw [htouch.ended_iff.1] at hended
    simp [Connection.Ended, Connection.spawn] at hended

theorem State.notMem_of_assertNotConnected {s : State M} {p : PeerUid}
    (hnot : ¬ (s.assertNotConnected p).Panicked) : p ∉ s.peers.keys := by
  intro hkey
  refine hnot ⟨.peerNotRemoved, ?_⟩
  rw [State.assertNotConnected, if_pos (HashMap.containsKey_iff.2 hkey)]
  rfl

/-- A reader's end is answered by a drop, unless the peer is gone or the end was erratic. -/
theorem State.answered_tcpReader {s : State M} {p : PeerUid}
    {reason : ActorShutdown ReadActorShutdownReason}
    (hnot : ¬ (handleEndOfStream s (.tcpReader p reason)).Panicked)
    (hc : ∀ err, reason = .erratic err → p ∉ s.peers.keys) :
    p ∈ (handleEndOfStream s (.tcpReader p reason)).peersToDrop.map Prod.fst ∨
      p ∉ s.peers.keys := by
  rcases reason with (_ | _ | _ | _) | err
  · exact Or.inr (State.notMem_of_assertNotConnected hnot)
  · exact Or.inl (by simp [handleEndOfStream, State.scheduleDrop])
  · exact Or.inr (State.notMem_of_assertNotConnected hnot)
  · exact Or.inr (State.notMem_of_assertNotConnected hnot)
  · exact Or.inr (hc err rfl)

theorem State.answered_tcpWriter {s : State M} {p : PeerUid}
    {reason : ActorShutdown WriteActorShutdownReason}
    (hnot : ¬ (handleEndOfStream s (.tcpWriter p reason)).Panicked)
    (hc : ∀ err, reason = .erratic err → p ∉ s.peers.keys) :
    p ∈ (handleEndOfStream s (.tcpWriter p reason)).peersToDrop.map Prod.fst ∨
      p ∉ s.peers.keys := by
  rcases reason with (_ | _ | _) | err
  · exact Or.inr (State.notMem_of_assertNotConnected hnot)
  · exact Or.inl (by simp [handleEndOfStream, State.scheduleDrop])
  · exact Or.inr (State.notMem_of_assertNotConnected hnot)
  · exact Or.inr (hc err rfl)

/-- The drops at the top of a loop that goes on are reported. -/
theorem State.dropsReported_of_droppingPanics {s : State M} (h : s.droppingPanics = none) :
    s.registry.DropsReported s.peersToDrop ∧
      (s.profile.debugAssertions && !s.assertInvariants) = false := by
  unfold State.droppingPanics at h
  split at h
  · cases h
  · rename_i hassert
    refine ⟨?_, by simpa using hassert⟩
    split at h
    · refine Or.inl (by_contra fun hclosed ↦ ?_)
      rw [Bool.not_eq_true] at hclosed
      cases h.symm.trans (State.emitPanics_eq_some_iff.2 ⟨hclosed, rfl⟩)
    · rename_i hnone
      refine Or.inr fun x hx hkey ↦ hnone (List.any_eq_true.2 ⟨x, hx, ?_⟩)
      exact HashMap.containsKey_iff.2 hkey

/-- **The top of a loop that goes on**, for the registry: the drops are reported. -/
theorem State.registry_loopTop_of_not_panicked {s : State M} (hphase : s.phase = .top)
    (hnot : ¬ (Server.loopTop s).Panicked) : s.registry.DropsReported s.peersToDrop ∧
      (Server.loopTop s).registry = s.registry.after (.drop s.peersToDrop) := by
  have hpanics : s.droppingPanics = none := by
    cases hp : s.droppingPanics with
    | none => rfl
    | some site => exact absurd ⟨site, by rw [State.phase_loopTop, hp]; rfl⟩ hnot
  obtain ⟨hreported, hassert⟩ := State.dropsReported_of_droppingPanics hpanics
  have hs : s.step .loopTop = some (Server.loopTop s) := if_pos hphase
  refine ⟨hreported, ?_⟩
  rw [State.registry_step hs, State.op, hassert]
  rfl

/-- The peers on the list are gone then, and no others. -/
theorem State.keys_loopTop {s : State M} (hphase : s.phase = .top)
    (hnot : ¬ (Server.loopTop s).Panicked) :
    (Server.loopTop s).peers.keys = s.peers.keys \ (s.peersToDrop.map Prod.fst).toFinset := by
  obtain ⟨hreported, hreg⟩ := State.registry_loopTop_of_not_panicked hphase hnot
  rw [show (Server.loopTop s).peers = (Server.loopTop s).registry.peers from rfl, hreg]
  exact hreported.keys_dropPeers

namespace Settled

variable {s s' t : State M}

theorem start (profile : Profile) (config : Config) :
    Settled (.start profile config : State M) where
  present p hp := by simp [State.registry, State.start] at hp
  ended c conn h := by simp [State.start] at h

/-- Connections change one by one, and the rest stays. -/
theorem connections (h : Settled s) (hpeers : s'.peers = s.peers) (hevents : s'.events = s.events)
    (hphase : s'.phase = s.phase) (hdrop : s'.peersToDrop = s.peersToDrop)
    (hconn : ∀ (c : ℕ) (conn' : Connection M), s'.streams[c]? = some conn' →
      ∃ conn, s.streams[c]? = some conn ∧ (conn'.Ended ↔ conn.Ended) ∧
        conn'.peerUid = conn.peerUid) : Settled s' where
  present p hp := by
    obtain ⟨conn', hmem, rfl⟩ := List.mem_map.1 hp
    obtain ⟨c, hc⟩ := List.getElem?_of_mem hmem
    obtain ⟨conn, hconn, -, huid⟩ := hconn c conn' hc
    have hp := h.present conn.peerUid (List.mem_map_of_mem (List.mem_of_getElem? hconn))
    show _ ∈ s'.peers.keys ∨ _ ∈ peerDisconnects s'.events
    rwa [hpeers, hevents, huid]
  ended c conn' hc hended := by
    obtain ⟨conn, hc, hiff, huid⟩ := hconn c conn' hc
    rw [hdrop, huid, State.Released, State.Panicked, hphase, hpeers, hevents]
    exact h.ended c conn hc (hiff.1 hended)

/-- At the top of the loop the peers scheduled are dropped. -/
theorem loopTop (h : Settled s) (hn : s.registry.Numbered) (hs : s.step .loopTop = some s')
    (hnot : ¬ s'.Panicked) : Settled s' := by
  obtain ⟨hphase, rfl⟩ := State.eq_loopTop_of_step hs
  obtain ⟨hreported, hreg⟩ := State.registry_loopTop_of_not_panicked hphase hnot
  have hloop := Handled.loopTop hphase hn
  have hpresent : (Server.loopTop s).registry.Present := by
    rw [hreg]
    exact h.present.after fun l hl ↦ Op.drop.inj hl ▸ hreported
  refine ⟨hpresent, fun c conn' hc hended ↦ Or.inr ?_⟩
  have hn' : (Server.loopTop s).registry.Numbered := by
    rw [hreg]
    have henabled : s.registry.Enabled (.drop s.peersToDrop) := trivial
    exact hn.after henabled
  obtain ⟨hlt, conn, hconn, hended, huid⟩ := hloop.exists_ended hc hended
  rcases h.ended c conn hconn hended with hscheduled | ⟨hreleased, hdisc⟩
  · -- the peer was on the list, so its record is gone now
    refine State.gone_of_notMem hn' hpresent hc ?_
    rw [State.keys_loopTop hphase hnot, huid, Finset.mem_sdiff, List.mem_toFinset]
    exact fun hmem ↦ hmem.2 hscheduled
  · refine ⟨hloop.released c hlt hreleased, ?_⟩
    show _ ∈ peerDisconnects (Server.loopTop s).registry.events
    rw [hreg, huid]
    exact Registry.mem_peerDisconnects_after hdisc _

/-- The handling of an item: if it is the end of an actor, the drop is scheduled or has been. -/
theorem next (h : Settled s) (hn : s.registry.Numbered) (hphase : s.phase = .waiting)
    (hdrained : s.peersToDrop = []) {incoming : Incoming M} (ht : s.Taken incoming t) {choice : Choice}
    (hnot : ¬ (handleIncoming { t with phase := .top } incoming choice).Panicked)
    (hc : ∀ p, incoming.erraticEnd? = some p → p ∉ s.peers.keys) :
    Settled (handleIncoming { t with phase := .top } incoming choice) := by
  have hregt : t.registry = s.registry := State.registry_taken ht
  have hpeerst : t.peers = s.peers := congrArg Registry.peers hregt
  have hreg : (handleIncoming { t with phase := .top } incoming choice).registry =
      s.registry.after (s.registry.incomingOp incoming choice.newV4) := by
    rw [← hregt]
    exact State.registry_handleIncoming _ _ _
  have hhandled : Handled { t with phase := .top }
      (handleIncoming { t with phase := .top } incoming choice) := by
    refine .handleIncoming _ ?_ incoming choice
    show t.registry.Numbered
    rwa [hregt]
  have hpresent : (handleIncoming { t with phase := .top } incoming choice).registry.Present := by
    rw [hreg]
    exact h.present.after fun l hl ↦ absurd hl (Registry.incomingOp_ne_drop _ _ _ _)
  refine ⟨hpresent, fun c conn' hconn' hended ↦ ?_⟩
  obtain ⟨hlt, u, hu, huended, huid'⟩ := hhandled.exists_ended hconn' hended
  obtain ⟨conn, hconn, htaken⟩ := ht.connection hu
  obtain ⟨huid, hcases⟩ := htaken.ended huended
  rw [huid] at huid'
  -- an end is handled without a change to the registry
  have hend : ∀ kind, incoming = .endOfStream kind →
      (conn.peerUid ∈ (handleEndOfStream { t with phase := .top } kind).peersToDrop.map Prod.fst ∨
        conn.peerUid ∉ t.peers.keys) →
      conn'.peerUid ∈ (handleIncoming { t with phase := .top } incoming
        choice).peersToDrop.map Prod.fst ∨
      (handleIncoming { t with phase := .top } incoming choice).Released c ∧
        conn'.peerUid ∈ peerDisconnects
          (handleIncoming { t with phase := .top } incoming choice).events := by
    rintro kind rfl hout
    refine (huid' ▸ hout).imp_right fun hgone ↦ ?_
    have hregend : (handleIncoming { t with phase := .top } (.endOfStream kind) choice).registry =
        t.registry := State.registry_handleEndOfStream _ kind
    refine State.gone_of_notMem (hregend ▸ hregt ▸ hn) hpresent hconn' ?_
    show _ ∉ (State.registry _).peers.keys
    rwa [hregend]
  rcases hcases with hended | ⟨reason, rfl⟩ | ⟨reason, rfl⟩
  · have hbefore := h.ended c conn hconn hended
    rw [hdrained, List.map_nil] at hbefore
    obtain ⟨hreleased, hdisc⟩ := hbefore.resolve_left List.not_mem_nil
    have hreleased' : ({ t with phase := .top } : State M).Released c := by
      refine Or.inr ?_
      show ∀ p peer, t.peers.get? p = some peer → _
      rw [hpeerst]
      exact hreleased.resolve_left (State.not_panicked_of_waiting hphase)
    refine Or.inr ⟨hhandled.released c hlt hreleased', ?_⟩
    show _ ∈ peerDisconnects (State.registry _).events
    rw [hreg, huid']
    exact Registry.mem_peerDisconnects_after hdisc _
  · refine hend _ rfl (State.answered_tcpReader hnot fun err herr ↦ ?_)
    subst herr
    show _ ∉ t.peers.keys
    rw [hpeerst]
    exact hc _ rfl
  · refine hend _ rfl (State.answered_tcpWriter hnot fun err herr ↦ ?_)
    subst herr
    show _ ∉ t.peers.keys
    rw [hpeerst]
    exact hc _ rfl

theorem step (h : Settled s) (hn : s.registry.Numbered)
    (hdrained : s.phase = .waiting → s.peersToDrop = []) {a : Action M} (hc : EndsControlled s a)
    (hs : s.step a = some s') (hnot : ¬ s'.Panicked) : Settled s' := by
  rcases State.step_cases hs with ⟨rfl, -, -⟩ | ⟨source, choice, incoming, t, rfl, hphase, hr, rfl⟩ |
    ⟨c, conn, conn', hconn, hmoves, rfl⟩ | ⟨st, reader, -, -, rfl⟩ | ⟨st, writer, -, -, rfl⟩ |
    ⟨x, -, rfl⟩ | ⟨e, ch, sender, he, hsent, rfl⟩
  · exact h.loopTop hn hs hnot
  · refine h.next hn hphase (hdrained hphase) (State.taken_of_nextIncoming hr) hnot fun p herr ↦ hc p ?_
    rwa [State.incoming?, hr, Option.map_some, Option.bind_some]
  · refine h.connections rfl rfl rfl rfl fun i conn'' hi ↦ ?_
    obtain ⟨old, hold, ⟨rfl, rfl⟩ | ⟨-, rfl⟩⟩ := State.exists_of_modifyConnection hi
    · obtain rfl := Option.some.inj (hconn.symm.trans hold)
      exact ⟨conn, hconn, hmoves.ended_iff⟩
    · exact ⟨conn'', hold, Iff.rfl, rfl⟩
  · exact h.connections rfl rfl rfl rfl fun c conn hc ↦ ⟨conn, hc, Iff.rfl, rfl⟩
  · exact h.connections rfl rfl rfl rfl fun c conn hc ↦ ⟨conn, hc, Iff.rfl, rfl⟩
  · exact h.connections rfl rfl rfl rfl fun c conn hc ↦ ⟨conn, hc, Iff.rfl, rfl⟩
  · exact h.connections rfl hsent rfl rfl fun c conn hc ↦ ⟨conn, hc, Iff.rfl, rfl⟩

end Settled

variable {hist : List (State M × Action M)} {s : State M}

theorem Run.settled (h : Run hist s) (hc : ∀ x ∈ hist, EndsControlled x.1 x.2)
    (hnot : ¬ s.Panicked) : Settled s := by
  induction h with
  | start h =>
    obtain ⟨profile, config, rfl⟩ := h
    exact .start profile config
  | @next hist s s' a h hs ih =>
    have hbefore := ih (fun x hx ↦ hc x (List.mem_append_left _ hx))
      (State.not_panicked_of_step hs hnot)
    exact hbefore.step (Run.numbered h) (Run.drained h)
      (hc (s, a) (List.mem_append_right _ (List.mem_singleton_self _))) hs hnot

/-- **No zombies.** Once the end of one of a connection's actors has been taken, its peer is out
and has been reported, so a connected peer has both. -/
structure NoZombies (s : State M) : Prop where
  /-- No record is left for a connection that has ended … -/
  released : ∀ (c : ℕ) (conn : Connection M), s.streams[c]? = some conn → conn.Ended →
    ∀ p peer, s.peers.get? p = some peer →
      peer.tcpReadActorHandle.connection ≠ c ∧ peer.tcpWriteActorHandle.connection ≠ c
  /-- … its uid is not in use, unless the counter has wrapped around … -/
  notConnected : s.streams.length ≤ 2 ^ 64 → ∀ (c : ℕ) (conn : Connection M),
    s.streams[c]? = some conn → conn.Ended → conn.peerUid ∉ s.peers.keys
  /-- … and its disconnect has been emitted. -/
  reported : ∀ (c : ℕ) (conn : Connection M), s.streams[c]? = some conn → conn.Ended →
    conn.peerUid ∈ peerDisconnects s.events
  /-- A connected peer has both its actors. -/
  attached : ∀ p peer, s.peers.get? p = some peer → ∃ conn,
    s.streams[peer.tcpReadActorHandle.connection]? = some conn ∧
      peer.tcpWriteActorHandle.connection = peer.tcpReadActorHandle.connection ∧
      conn.peerUid = p ∧ conn.readerEnded = false ∧ conn.writerEnded = false

/-- **No connected peer has lost an actor** while the broker waits for an item, in a run in which
no end by panic or cancellation was taken for a connected peer. -/
theorem Run.noZombies (h : Run hist s) (hc : ∀ x ∈ hist, EndsControlled x.1 x.2)
    (hwait : s.phase = .waiting) : NoZombies s := by
  have hsettled := h.settled hc (State.not_panicked_of_waiting hwait)
  have hnum := Run.numbered h
  have hended : ∀ (c : ℕ) (conn : Connection M), s.streams[c]? = some conn → conn.Ended →
      s.Released c ∧ conn.peerUid ∈ peerDisconnects s.events := by
    intro c conn hconn hended
    have hout := hsettled.ended c conn hconn hended
    rw [h.drained hwait, List.map_nil] at hout
    exact hout.resolve_left List.not_mem_nil
  have hreleased : ∀ (c : ℕ) (conn : Connection M), s.streams[c]? = some conn → conn.Ended →
      ∀ p peer, s.peers.get? p = some peer →
        peer.tcpReadActorHandle.connection ≠ c ∧ peer.tcpWriteActorHandle.connection ≠ c :=
    fun c conn hconn hend ↦
      (hended c conn hconn hend).1.resolve_left (State.not_panicked_of_waiting hwait)
  refine ⟨hreleased, fun hle c conn hconn hend hkey ↦ ?_, fun c conn hconn hend ↦
    (hended c conn hconn hend).2, fun p peer hp ↦ ?_⟩
  · exact State.not_released hnum hle (State.not_panicked_of_waiting hwait) hconn hkey
      (hended c conn hconn hend).1
  · obtain ⟨c, hlt, rfl, hread, hwrite⟩ := hnum.handles p peer hp
    rw [State.length_connections] at hlt
    have hconn := List.getElem?_eq_getElem hlt
    rw [hread, hwrite]
    have hnot : ¬ s.streams[c].Ended := fun hend ↦
      (hreleased c _ hconn hend _ peer hp).1 (congrArg ReadActorHandle.connection hread)
    refine ⟨_, hconn, rfl, State.peerUid_eq hnum hconn, ?_⟩
    simpa [Connection.Ended] using hnot

/-- A client hangs up, its reader and then its writer report their end, and it is dropped once. -/
theorem Run.noZombies_of_hangup : ∃ hist, ∃ s : State plainMessages, Run hist s ∧
    (s.streams.map fun conn ↦ (conn.readerEnded, conn.writerEnded)) = [(true, true)] ∧
    s.events = [.newPeer ⟨.ofNat 0⟩, .peerDisconnect ⟨.ofNat 0, .peerClosedConnection⟩] ∧
    NoZombies s := by
  have h : Run _ _ := TransitionSystem.run_of_exec (T := system plainMessages)
    (s := .start .dev ⟨1⟩) (l := Action.connect 1 1 [] ++
      [.env (.tcpEnd 0), .task (.tcpReader 0 .streamEnd)] ++ Action.take (.tcpReaderEnd 0) [0] ++
      [.loopTop, .task (.tcpWriter 0 .recv), .task (.tcpWriter 0 (.operate true)),
        .task (.tcpWriter 0 .recv), .task (.tcpWriter 0 (.close true)),
        .next (.tcpWriterEnd 0) ⟨uuid 0, [], []⟩, .loopTop])
    ⟨.dev, ⟨1⟩, rfl⟩ rfl
  exact ⟨_, _, h, rfl, rfl, Run.noZombies h (by decide) rfl⟩

/-- The task of a reader panics: its peer stays, unreported, and takes up the place of another. -/
theorem zombie_of_erratic : ∃ hist, ∃ s : State plainMessages, Run hist s ∧ s.phase = .waiting ∧
    s.config.maxConnections = 1 ∧ s.streams.map Connection.readerEnded = [true] ∧
    s.peers.keys = {.ofNat 0} ∧ peerDisconnects s.events = [] ∧ ¬ NoZombies s := by
  have h : Run _ _ := TransitionSystem.run_of_exec (T := system plainMessages)
    (s := .start .dev ⟨1⟩) (l := Action.connect 1 1 [] ++
      [.task (.tcpReader 0 (.erratic .panic))] ++ Action.take (.tcpReaderEnd 0) [0] ++
      Action.connect 2 2 [0] ++ [.loopTop])
    ⟨.dev, ⟨1⟩, rfl⟩ rfl
  refine ⟨_, _, h, rfl, rfl, rfl, rfl, rfl, fun hno ↦ ?_⟩
  have hmem := hno.reported 0 _ rfl (Or.inl rfl)
  exact List.not_mem_nil hmem

end NetStream.Server
