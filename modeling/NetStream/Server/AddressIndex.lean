import NetStream.Server.NameIndex
import NetStream.Server.TcpWindow

/-!
# The index of UDP addresses

A peer's UDP address is learnt from its Hello and may change with a further one, so unlike the fixed
names this index can go wrong, and each half of it in its own way:

* a Hello that moves a peer to another address leaves the entry of the old one behind, which then
  resolves to a peer that is not there — soundness survives a Hello exactly when no other address
  resolves to its peer (`HelloRebindsCleanly`);
* a Hello from an address that another peer has takes the entry over, and when either is dropped the
  entry goes although the other remains — completeness survives a Hello exactly when no other peer
  has the address (`HelloTakesFreeAddress`).

Nothing else breaks either half, so over runs the two conditions are exact
(`Run.udpIndex_sound_iff`, `Run.udpIndex_complete_iff`).
-/

namespace NetStream.Server

variable {M : MessageTypes}

namespace Registry

variable {r : Registry M} {op : Op M}

/-- The UDP index resolves an address only to a connected peer whose address it is. -/
def UdpSound (r : Registry M) : Prop :=
  ReverseIndex.Sound r.udpIndex r.peers Peer.udpSocketAddr

/-- The UDP index resolves the UDP address of every connected peer to it. -/
def UdpComplete (r : Registry M) : Prop :=
  ReverseIndex.Complete r.udpIndex r.peers Peer.udpSocketAddr

theorem UdpSound.emit_iff {ev : Event M} : (r.emit ev).UdpSound ↔ r.UdpSound := by
  unfold UdpSound
  rw [emit_udpIndex, emit_peers]

theorem UdpComplete.emit_iff {ev : Event M} : (r.emit ev).UdpComplete ↔ r.UdpComplete := by
  unfold UdpComplete
  rw [emit_udpIndex, emit_peers]

/-- A new peer has no UDP address, and its uid is fresh. -/
theorem UdpSound.accept (hn : r.Numbered) (hlt : r.connections.length < 2 ^ 64) (h : r.UdpSound)
    (addr : SocketAddr) (uuid : Uuid) (next : PeerUid) : (r.accept addr uuid next).UdpSound := by
  refine UdpSound.emit_iff.2 ((ReverseIndex.Sound.set_none_iff h rfl).2 fun k hk ↦ ?_)
  obtain ⟨peer, hpeer, -⟩ := h k _ hk
  exact hn.next_notMem hlt (hn.mem_connections_of_mem_keys (HashMap.mem_keys_of_get? hpeer))

theorem UdpSound.bind_iff (h : r.UdpSound) {p : PeerUid} {peer : Peer} {addr : SocketAddr} :
    (r.bind p peer addr).UdpSound ↔
      ∀ addr', addr' ≠ addr → r.udpIndex.get? addr' ≠ some p := by
  show ReverseIndex.Sound (r.udpIndex.insert addr p) (r.peers.insert p _) _ ↔ _
  exact ReverseIndex.Sound.set_iff h rfl

theorem UdpComplete.bind_iff (h : r.UdpComplete) {p : PeerUid} {peer : Peer} {addr : SocketAddr} :
    (r.bind p peer addr).UdpComplete ↔
      ∀ q peer', q ≠ p → r.peers.get? q = some peer' → peer'.udpSocketAddr ≠ some addr := by
  show ReverseIndex.Complete (r.udpIndex.insert addr p) (r.peers.insert p _) _ ↔ _
  exact ReverseIndex.Complete.set_iff h rfl

/-- **One step and soundness.** -/
theorem UdpSound.after_iff (hn : r.Numbered) (h : r.UdpSound)
    (hle : (r.after op).connections.length ≤ 2 ^ 64) :
    (r.after op).UdpSound ↔ ∀ p peer uuid addr, op = .bind p peer uuid addr →
      ∀ addr', addr' ≠ addr → r.udpIndex.get? addr' ≠ some p := by
  cases op with
  | bind p peer uuid addr =>
    show (r.bind p peer addr).UdpSound ↔ _
    rw [h.bind_iff]
    constructor
    · rintro hne p' peer' uuid' addr' heq
      obtain ⟨rfl, rfl, rfl, rfl⟩ := Op.bind.inj heq
      exact hne
    · exact fun hne ↦ hne p peer uuid addr rfl
  | accept addr uuid next =>
    refine iff_of_true (UdpSound.accept hn ?_ h addr uuid next) (by simp)
    have hlen : (r.accept addr uuid next).connections.length = r.connections.length + 1 := by
      simp [Registry.accept, register]
    change (r.accept addr uuid next).connections.length ≤ 2 ^ 64 at hle
    omega
  | drop l =>
    refine iff_of_true (dropPeers_induction (I := UdpSound) ?_ h l) (by simp)
    exact fun r p peer reason hr hp ↦ UdpSound.emit_iff.2 (ReverseIndex.Sound.remove hr hp)
  | tcpMessage msg => exact iff_of_true (UdpSound.emit_iff.2 h) (by simp)
  | udpMessage msg addr => exact iff_of_true (UdpSound.emit_iff.2 h) (by simp)
  | closeEvents => exact iff_of_true h (by simp)
  | idle => exact iff_of_true h (by simp)

/-- **One step and completeness.** -/
theorem UdpComplete.after_iff (h : r.UdpComplete) :
    (r.after op).UdpComplete ↔ ∀ p peer uuid addr, op = .bind p peer uuid addr →
      ∀ q peer', q ≠ p → r.peers.get? q = some peer' → peer'.udpSocketAddr ≠ some addr := by
  cases op with
  | bind p peer uuid addr =>
    show (r.bind p peer addr).UdpComplete ↔ _
    rw [h.bind_iff]
    constructor
    · rintro hne p' peer' uuid' addr' heq
      obtain ⟨rfl, rfl, rfl, rfl⟩ := Op.bind.inj heq
      exact hne
    · exact fun hne ↦ hne p peer uuid addr rfl
  | accept addr uuid next =>
    refine iff_of_true (UdpComplete.emit_iff.2 ?_) (by simp)
    exact ReverseIndex.Complete.set_none h rfl
  | drop l =>
    refine iff_of_true (dropPeers_induction (I := UdpComplete) ?_ h l) (by simp)
    exact fun r p peer reason hr hp ↦ UdpComplete.emit_iff.2 (ReverseIndex.Complete.remove hr hp)
  | tcpMessage msg => exact iff_of_true (UdpComplete.emit_iff.2 h) (by simp)
  | udpMessage msg addr => exact iff_of_true (UdpComplete.emit_iff.2 h) (by simp)
  | closeEvents => exact iff_of_true h (by simp)
  | idle => exact iff_of_true h (by simp)

end Registry

/-! ### The server -/

section Server

open TransitionSystem (Visited)

variable {hist : List (State M × Action M)} {s : State M}

/-- The step takes a Hello from the address, with the handshake UUID of the connected peer `p`. -/
def AcceptsHello (s : State M) (a : Action M) (p : PeerUid) (addr : SocketAddr) : Prop :=
  ∃ uuid, s.incoming? a = some (.udpReader (.streamItem (.ok (.hello uuid), addr))) ∧
    s.peerHandshakeUuidToPeerUid.get? uuid = some p ∧ p ∈ s.peers.keys

/-- A Hello is accepted for a peer only when no other address resolves to it: the peer has no UDP
address, or the Hello repeats it, or another peer has taken the old one over. -/
def HelloRebindsCleanly (s : State M) (a : Action M) : Prop :=
  ∀ p addr, AcceptsHello s a p addr →
    ∀ addr', addr' ≠ addr → s.peerUdpSocketAddrToPeerUid.get? addr' ≠ some p

/-- A Hello is accepted only from an address that no other connected peer has. -/
def HelloTakesFreeAddress (s : State M) (a : Action M) : Prop :=
  ∀ p addr, AcceptsHello s a p addr →
    ∀ q peer, q ≠ p → s.peers.get? q = some peer → peer.udpSocketAddr ≠ some addr

theorem acceptsHello_iff {a : Action M} {p : PeerUid} {addr : SocketAddr} :
    AcceptsHello s a p addr ↔ ∃ peer uuid, s.op a = .bind p peer uuid addr := by
  constructor
  · rintro ⟨uuid, hi, hp, hmem⟩
    obtain ⟨peer, hpeer⟩ := HashMap.mem_keys_iff.1 hmem
    exact ⟨peer, uuid, State.op_eq_bind_iff.2 ⟨hi, hp, hpeer⟩⟩
  · rintro ⟨peer, uuid, hop⟩
    obtain ⟨hi, hp, hpeer⟩ := State.op_eq_bind_iff.1 hop
    exact ⟨uuid, hi, hp, HashMap.mem_keys_of_get? hpeer⟩

/-- The peer and the address of the Hello that the step accepts. -/
def acceptedHello? (s : State M) (a : Action M) : Option (PeerUid × SocketAddr) :=
  match s.op a with
  | .bind p _ _ addr => some (p, addr)
  | _ => none

theorem acceptedHello?_eq_some_iff {a : Action M} {p : PeerUid} {addr : SocketAddr} :
    acceptedHello? s a = some (p, addr) ↔ AcceptsHello s a p addr := by
  rw [acceptsHello_iff, acceptedHello?]
  cases s.op a <;> simp [eq_comm, and_comm]

instance (a : Action M) : Decidable (HelloRebindsCleanly s a) :=
  decidable_of_iff (∀ x ∈ acceptedHello? s a, ∀ addr' ∈ s.peerUdpSocketAddrToPeerUid.keys,
    addr' ≠ x.2 → s.peerUdpSocketAddrToPeerUid.get? addr' ≠ some x.1) <| by
  constructor
  · intro h p addr hacc addr' hne hget
    exact h (p, addr) (acceptedHello?_eq_some_iff.2 hacc) addr' (HashMap.mem_keys_of_get? hget) hne
      hget
  · rintro h ⟨p, addr⟩ hx addr' - hne
    exact h p addr (acceptedHello?_eq_some_iff.1 hx) addr' hne

theorem helloRebindsCleanly_iff {a : Action M} :
    HelloRebindsCleanly s a ↔ ∀ p peer uuid addr, s.op a = .bind p peer uuid addr →
      ∀ addr', addr' ≠ addr → s.registry.udpIndex.get? addr' ≠ some p := by
  constructor
  · exact fun h p peer uuid addr hop ↦ h p addr (acceptsHello_iff.2 ⟨peer, uuid, hop⟩)
  · intro h p addr hacc
    obtain ⟨peer, uuid, hop⟩ := acceptsHello_iff.1 hacc
    exact h p peer uuid addr hop

theorem helloTakesFreeAddress_iff {a : Action M} :
    HelloTakesFreeAddress s a ↔ ∀ p peer uuid addr, s.op a = .bind p peer uuid addr →
      ∀ q peer', q ≠ p → s.registry.peers.get? q = some peer' →
        peer'.udpSocketAddr ≠ some addr := by
  constructor
  · exact fun h p peer uuid addr hop ↦ h p addr (acceptsHello_iff.2 ⟨peer, uuid, hop⟩)
  · intro h p addr hacc
    obtain ⟨peer, uuid, hop⟩ := acceptsHello_iff.1 hacc
    exact h p peer uuid addr hop

/-- A message over UDP comes from a peer that was announced and is not yet reported as
disconnected. -/
def UdpInWindow (before : List (Event M)) (ev : Event M) : Prop :=
  ∀ msg, ev = .udpMessage msg → msg.from_ ∈ newPeers before ∧ msg.from_ ∉ peerDisconnects before

/-- What the application may rely on where the UDP index is sound throughout a run. -/
structure UdpIndexTrusted (hist : List (State M × Action M)) (s : State M) : Prop where
  /-- An address resolves only to a connected peer whose UDP address it is. -/
  sound : ∀ t, Visited hist s t → ∀ addr p, t.peerUdpSocketAddrToPeerUid.get? addr = some p →
    ∃ peer, t.peers.get? p = some peer ∧ peer.udpSocketAddr = some addr
  /-- A message over UDP is emitted only while its sender is connected. -/
  messages : EventLog.Justified UdpInWindow s.events
  /-- An undecodable datagram gets only the peer dropped whose UDP address it came from. -/
  drops : ∀ x ∈ hist, ∀ t err addr, x.1.step x.2 = some t →
    x.1.incoming? x.2 = some (.udpReader (.streamItem (.error err, addr))) →
    ∀ y ∈ t.peersToDrop, y ∈ x.1.peersToDrop ∨
      ∃ peer, x.1.peers.get? y.1 = some peer ∧ peer.udpSocketAddr = some addr

/-- Messages over UDP stay in the window of their sender where the index is sound. -/
theorem Run.udpMessages_in_window (h : Run hist s) (hle : s.streams.length ≤ 2 ^ 64)
    (hsound : ∀ x ∈ hist, x.1.registry.UdpSound) : EventLog.Justified UdpInWindow s.events := by
  induction h with
  | start h =>
    obtain ⟨profile, config, rfl⟩ := h
    exact EventLog.justified_nil
  | @next hist s s' a h hs ih =>
    have hle' := Nat.le_trans (State.length_streams_le_of_step hs) hle
    have ih := ih hle' fun x hx ↦ hsound x (List.mem_append_left _ hx)
    have hsnd := hsound (s, a) (List.mem_append_right _ (List.mem_singleton_self _))
    have hev : s'.events = (s.registry.after (s.op a)).events :=
      congrArg Registry.events (State.registry_step hs)
    rw [hev]
    refine Registry.justified_after (by simp [UdpInWindow]) (by simp [UdpInWindow])
      (by simp [UdpInWindow]) (fun msg addr hop hopen ↦ ?_) ih
    have hidx : s.registry.udpIndex.get? addr = some msg.from_ := by
      have he := State.enabled_op hs
      rw [hop] at he
      exact he
    obtain ⟨peer, hpeer, -⟩ := hsnd addr _ hidx
    have hconn := ((Run.accounted h hopen hle').mem_keys_iff _).1 (HashMap.mem_keys_of_get? hpeer)
    intro msg' hmsg
    obtain rfl := Event.udpMessage.inj hmsg
    exact mem_connectedPeers_iff.1 hconn

/-- The peer that an undecodable datagram gets dropped is the one that the index gives. -/
theorem mem_peersToDrop_of_undecodable {s' : State M} {a : Action M} {err : UdpError}
    {addr : SocketAddr} (hs : s.step a = some s')
    (hi : s.incoming? a = some (.udpReader (.streamItem (.error err, addr))))
    {y : PeerUid × DisconnectReason} (hy : y ∈ s'.peersToDrop) :
    y ∈ s.peersToDrop ∨ s.peerUdpSocketAddrToPeerUid.get? addr = some y.1 := by
  obtain ⟨choice, t, -, ht, rfl⟩ := State.exists_taken_of_incoming? hs hi
  cases ht
  simp only [handleIncoming] at hy
  split at hy
  · rename_i p hp
    rcases List.mem_append.1 hy with hmem | hmem
    · exact Or.inl hmem
    · obtain rfl := List.mem_singleton.1 hmem
      exact Or.inr hp
  · exact Or.inl hy

/-- Soundness over a run, up to `2 ^ 64` connections. -/
theorem Run.forall_udpSound_iff (h : Run hist s) (hle : s.streams.length ≤ 2 ^ 64) :
    (∀ t, Visited hist s t → t.registry.UdpSound) ↔ ∀ x ∈ hist, HelloRebindsCleanly x.1 x.2 := by
  refine TransitionSystem.Run.forall_visited_iff (T := system M)
    (I := fun t ↦ t.registry.UdpSound) ?_ h ?_
  · rintro s ⟨profile, config, rfl⟩
    exact ReverseIndex.sound_new
  · intro hist₁ t a t' hmem ht hI hs
    have hlen : t'.streams.length ≤ s.streams.length :=
      TransitionSystem.Run.le_of_step_of_mem (T := system M) (f := fun t ↦ t.streams.length)
        (fun _ _ _ ↦ State.length_streams_le_of_step) h _ hmem t' hs
    have hconn : t'.registry.connections.length = t'.streams.length := t'.length_connections
    rw [State.registry_step hs] at hconn ⊢
    rw [helloRebindsCleanly_iff]
    exact Registry.UdpSound.after_iff (Run.numbered ht) hI (by omega)

/-- Completeness over a run. -/
theorem Run.forall_udpComplete_iff (h : Run hist s) :
    (∀ t, Visited hist s t → t.registry.UdpComplete) ↔
      ∀ x ∈ hist, HelloTakesFreeAddress x.1 x.2 := by
  refine TransitionSystem.Run.forall_visited_iff (T := system M)
    (I := fun t ↦ t.registry.UdpComplete) ?_ h ?_
  · rintro s ⟨profile, config, rfl⟩
    exact ReverseIndex.complete_new
  · intro hist₁ t a t' _ _ hI hs
    rw [State.registry_step hs, helloTakesFreeAddress_iff]
    exact Registry.UdpComplete.after_iff hI

/-- **When the UDP index can be trusted.** Up to `2 ^ 64` connections, it can throughout a run
exactly when every Hello that the run accepts rebinds cleanly. -/
theorem Run.udpIndex_sound_iff (h : Run hist s) (hle : s.streams.length ≤ 2 ^ 64) :
    UdpIndexTrusted hist s ↔ ∀ x ∈ hist, HelloRebindsCleanly x.1 x.2 := by
  have hsound := h.forall_udpSound_iff hle
  constructor
  · exact fun htrust ↦ hsound.1 htrust.sound
  · intro hclean
    have hvisited := hsound.2 hclean
    refine ⟨hvisited, h.udpMessages_in_window hle fun x hx ↦ hvisited _ (Or.inr ⟨_, hx⟩), ?_⟩
    intro x hx t err addr hs hi y hy
    rcases mem_peersToDrop_of_undecodable hs hi hy with hmem | hidx
    · exact Or.inl hmem
    · exact Or.inr (hvisited _ (Or.inr ⟨_, hx⟩) addr _ hidx)

/-- A message from an address that resolves is emitted as one of the peer. -/
theorem State.events_of_udpMessage {s s' : State M} {a : Action M} {m : M.UdpToServer}
    {addr : SocketAddr} {p : PeerUid} (hs : s.step a = some s')
    (hi : s.incoming? a = some (.udpReader (.streamItem (.ok (.applicationLogic m), addr))))
    (hidx : s.peerUdpSocketAddrToPeerUid.get? addr = some p) :
    s'.events = s.events ++ if s.eventSender.receiverAlive then [.udpMessage ⟨p, m⟩] else [] := by
  have hop : s.op a = .udpMessage ⟨p, m⟩ addr := State.op_eq_udpMessage_iff.2 ⟨hi, hidx⟩
  have hev : s'.events = (s.registry.after (s.op a)).events :=
    congrArg Registry.events (State.registry_step hs)
  rw [hev, hop]
  exact Registry.events_emit _ _

/-- What a peer may rely on where the UDP index is complete throughout a run. -/
structure UdpOwnersResolved (hist : List (State M × Action M)) (s : State M) : Prop where
  /-- The UDP address of a connected peer resolves to it. -/
  complete : ∀ t, Visited hist s t → ∀ q peer addr, t.peers.get? q = some peer →
    peer.udpSocketAddr = some addr → t.peerUdpSocketAddrToPeerUid.get? addr = some q
  /-- A message in a datagram from that address is emitted as one of the peer. -/
  emitted : ∀ x ∈ hist, ∀ t m addr q peer, x.1.step x.2 = some t →
    x.1.incoming? x.2 = some (.udpReader (.streamItem (.ok (.applicationLogic m), addr))) →
    x.1.peers.get? q = some peer → peer.udpSocketAddr = some addr →
    t.events = x.1.events ++ if x.1.eventSender.receiverAlive then [.udpMessage ⟨q, m⟩] else []

/-- **When no peer loses its address to another.** The UDP address of every connected peer resolves
to it throughout a run exactly when every Hello that the run accepts takes an address that is
free. -/
theorem Run.udpIndex_complete_iff (h : Run hist s) :
    UdpOwnersResolved hist s ↔ ∀ x ∈ hist, HelloTakesFreeAddress x.1 x.2 := by
  have hcomplete := h.forall_udpComplete_iff
  constructor
  · exact fun hres ↦ hcomplete.1 hres.complete
  · intro hfree
    have hvisited := hcomplete.2 hfree
    refine ⟨hvisited, ?_⟩
    intro x hx t m addr q peer hs hi hq haddr
    have hidx := hvisited x.1 (Or.inr ⟨x.2, hx⟩) q peer addr hq haddr
    exact State.events_of_udpMessage hs hi hidx

/-! ### Runs that break the index -/

/-- A Hello repeated from the same address is clean. -/
theorem Run.udpIndex_sound_iff_of_repeated : ∃ hist, ∃ s : State plainMessages, Run hist s ∧
    s.peerUdpSocketAddrToPeerUid.get? (address 10) = some (.ofNat 0) ∧
    (UdpIndexTrusted hist s ↔ ∀ x ∈ hist, HelloRebindsCleanly x.1 x.2) := by
  have h : Run _ _ := TransitionSystem.run_of_exec (T := system plainMessages)
    (s := .start .dev ⟨1⟩) (l := Action.connect 1 1 [] ++
      Action.datagram (.ok (.hello (uuid 1))) 10 [0] ++
      Action.datagram (.ok (.hello (uuid 1))) 10 [0])
    ⟨.dev, ⟨1⟩, rfl⟩ rfl
  exact ⟨_, _, h, by decide, Run.udpIndex_sound_iff h (by decide)⟩

/-- **A message over UDP after the disconnect.** A peer says Hello from one address and then from
another; it is dropped, and the entry of the first address stays. -/
theorem udpMessage_after_disconnect : ∃ hist, ∃ s : State plainMessages, Run hist s ∧
    s.events = [.newPeer ⟨.ofNat 0⟩, .peerDisconnect ⟨.ofNat 0, .peerClosedConnection⟩,
      .udpMessage ⟨.ofNat 0, ()⟩] ∧
    s.peers.len = 0 ∧ s.peerUdpSocketAddrToPeerUid.get? (address 10) = some (.ofNat 0) ∧
    ¬ UdpIndexTrusted hist s := by
  have h : Run _ _ := TransitionSystem.run_of_exec (T := system plainMessages)
    (s := .start .release ⟨1⟩) (l := Action.connect 1 1 [] ++
      Action.datagram (.ok (.hello (uuid 1))) 10 [0] ++
      Action.datagram (.ok (.hello (uuid 1))) 11 [0] ++
      [.env (.tcpEnd 0), .task (.tcpReader 0 .streamEnd)] ++ Action.take (.tcpReaderEnd 0) [0] ++
      Action.datagram (.ok (.applicationLogic ())) 10 [])
    ⟨.release, ⟨1⟩, rfl⟩ rfl
  refine ⟨_, _, h, rfl, rfl, by decide, fun htrust ↦ ?_⟩
  have hidx := htrust.sound _ (TransitionSystem.visited_last _ _) (address 10) (.ofNat 0)
    (by decide)
  obtain ⟨peer, hpeer, -⟩ := hidx
  exact absurd (HashMap.mem_keys_of_get? hpeer) (by decide)

/-- Two peers, with an address each. -/
theorem Run.udpIndex_complete_iff_of_two : ∃ hist, ∃ s : State plainMessages, Run hist s ∧
    s.peers.len = 2 ∧
    (UdpOwnersResolved hist s ↔ ∀ x ∈ hist, HelloTakesFreeAddress x.1 x.2) := by
  have h : Run _ _ := TransitionSystem.run_of_exec (T := system plainMessages)
    (s := .start .dev ⟨2⟩) (l := Action.connect 1 1 [] ++ Action.connect 2 2 [0] ++
      Action.datagram (.ok (.hello (uuid 1))) 10 [0, 1] ++
      Action.datagram (.ok (.hello (uuid 2))) 11 [0, 1])
    ⟨.dev, ⟨2⟩, rfl⟩ rfl
  exact ⟨_, _, h, rfl, Run.udpIndex_complete_iff h⟩

/-- **A peer that is no longer heard.** A second peer says Hello from the address of the first, whose
drop is handled after that: the entry goes with the first peer, and a message of the second is
not emitted. -/
theorem udpMessage_lost_after_drop : ∃ hist, ∃ s : State plainMessages, Run hist s ∧
    s.events = [.newPeer ⟨.ofNat 0⟩, .newPeer ⟨.ofNat 1⟩,
      .peerDisconnect ⟨.ofNat 0, .peerClosedConnection⟩] ∧
    (∃ peer, s.peers.get? (.ofNat 1) = some peer ∧ peer.udpSocketAddr = some (address 10)) ∧
    s.peerUdpSocketAddrToPeerUid.get? (address 10) = none ∧ ¬ UdpOwnersResolved hist s := by
  have h : Run _ _ := TransitionSystem.run_of_exec (T := system plainMessages)
    (s := .start .dev ⟨2⟩) (l := Action.connect 1 1 [] ++
      Action.datagram (.ok (.hello (uuid 1))) 10 [0] ++ Action.connect 2 2 [0] ++
      Action.datagram (.ok (.hello (uuid 2))) 10 [0, 1] ++
      [.env (.tcpEnd 0), .task (.tcpReader 0 .streamEnd)] ++ Action.take (.tcpReaderEnd 0) [0, 1] ++
      Action.datagram (.ok (.applicationLogic ())) 10 [1])
    ⟨.dev, ⟨2⟩, rfl⟩ rfl
  refine ⟨_, _, h, rfl, ⟨_, rfl, rfl⟩, by decide, fun hres ↦ ?_⟩
  have hidx := hres.complete _ (TransitionSystem.visited_last _ _) (.ofNat 1) _ (address 10) rfl rfl
  exact absurd hidx (by decide)

end Server

end NetStream.Server
