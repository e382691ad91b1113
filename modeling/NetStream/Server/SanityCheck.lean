import NetStream.Server.AddressIndex

/-!
# The sanity check at the top of the loop

`assert_invariants` compares the sizes of the three indexes with the number of peers and with each
other. Two of its four parts always hold, because the indexes of fixed names are sound
(`Run.assertInvariants_iff`). What is left is that there are no more entries of UDP addresses than
of TCP addresses, and a remote peer can break it from either side: a Hello that moves a peer leaves
an entry too many in the one (`assertInvariants_fails`), a connection from an address that is still
connected overwrites one in the other. In a run without either the check never fails
(`Run.assertInvariants_of_clean`).
-/

namespace NetStream.Server

variable {M : MessageTypes} {hist : List (State M × Action M)} {s : State M}

open TransitionSystem (Visited)

/-- The step accepts a connection from the address. -/
def AcceptsConnection (s : State M) (a : Action M) (addr : SocketAddr) : Prop :=
  s.incoming? a = some (.tcpListener (.ok ⟨.ok addr⟩)) ∧ s.peers.len < s.config.maxConnections

/-- The address of the connection that the step accepts. -/
def acceptedAddress? (s : State M) (a : Action M) : Option SocketAddr :=
  match s.incoming? a with
  | some (.tcpListener (.ok ⟨.ok addr⟩)) =>
    if s.peers.len < s.config.maxConnections then some addr else none
  | _ => none

theorem acceptedAddress?_eq_some_iff {a : Action M} {addr : SocketAddr} :
    acceptedAddress? s a = some addr ↔ AcceptsConnection s a addr := by
  unfold acceptedAddress? AcceptsConnection
  split
  · rename_i addr' hi
    simp [hi, and_comm]
  · rename_i hi
    simpa using fun h ↦ absurd h (hi addr)

/-- A connection is accepted only from an address that is not that of a connected peer. -/
def ConnectsFromFreeAddress (s : State M) (a : Action M) : Prop :=
  ∀ addr, AcceptsConnection s a addr → s.peerTcpSocketAddrToPeerUid.get? addr = none

instance (a : Action M) : Decidable (ConnectsFromFreeAddress s a) :=
  decidable_of_iff (∀ addr ∈ acceptedAddress? s a,
    s.peerTcpSocketAddrToPeerUid.get? addr = none) <| by
  constructor
  · exact fun h addr hacc ↦ h addr (acceptedAddress?_eq_some_iff.2 hacc)
  · exact fun h addr hx ↦ h addr (acceptedAddress?_eq_some_iff.1 hx)

/-- In every run, up to `2 ^ 64` connections, the check comes down to one comparison. -/
theorem Run.assertInvariants_iff (h : Run hist s) (hle : s.streams.length ≤ 2 ^ 64) :
    s.assertInvariants = true ↔
      s.peerUdpSocketAddrToPeerUid.len ≤ s.peerTcpSocketAddrToPeerUid.len := by
  have hconn : s.registry.connections.length ≤ 2 ^ 64 := by simpa [State.registry] using hle
  have htcp : s.peerTcpSocketAddrToPeerUid.len ≤ s.peers.len :=
    ((tcpName M).sound_of_run h.registry hconn).len_le
  have hhandshake : s.peerHandshakeUuidToPeerUid.len ≤ s.peers.len :=
    ((handshakeName M).sound_of_run h.registry hconn).len_le
  simp only [State.assertInvariants, Bool.and_eq_true, decide_eq_true_eq]
  constructor
  · rintro ⟨⟨⟨hudp, -⟩, -⟩, -⟩
    exact hudp
  · intro hudp
    exact ⟨⟨⟨hudp, htcp⟩, Nat.le_trans hudp htcp⟩, hhandshake⟩

theorem tcpName_free {a : Action M} (h : ConnectsFromFreeAddress s a) :
    (tcpName M).Free s.registry (s.op a) := by
  intro addr uuid next hop p hp
  obtain ⟨hi, -, hcap, -⟩ := State.op_eq_accept_iff.1 hop
  have hnone : s.peerTcpSocketAddrToPeerUid.get? addr = none := h addr ⟨hi, hcap⟩
  have hsome : s.peerTcpSocketAddrToPeerUid.get? addr = some p := hp
  rw [hnone] at hsome
  cases hsome

/-- The index of TCP addresses is complete in a run that accepts no connection from an address that
is still connected. -/
theorem Run.tcpComplete (h : Run hist s) (hfree : ∀ x ∈ hist, ConnectsFromFreeAddress x.1 x.2) :
    (tcpName M).Complete s.registry := by
  refine (tcpName M).complete_of_run h.registry ?_
  exact TransitionSystem.forall_mem_mapHist_iff.2 fun x hx ↦ tcpName_free (hfree x hx)

/-- **When the sanity check holds.** In a run of up to `2 ^ 64` connections in which every Hello
accepted rebinds cleanly, and every connection comes from an address that is not connected, it
holds in every state. -/
theorem Run.assertInvariants_of_clean (h : Run hist s) (hle : s.streams.length ≤ 2 ^ 64)
    (hclean : ∀ x ∈ hist, HelloRebindsCleanly x.1 x.2 ∧ ConnectsFromFreeAddress x.1 x.2) :
    ∀ t, Visited hist s t → t.assertInvariants = true := by
  intro t ht
  have hudp : t.registry.UdpSound :=
    (h.forall_udpSound_iff hle).2 (fun x hx ↦ (hclean x hx).1) t ht
  have hlen : t.streams.length ≤ 2 ^ 64 := Nat.le_trans (h.length_streams_le_of_visited ht) hle
  obtain ⟨hist₁, hpre, ht⟩ := TransitionSystem.Run.exists_of_visited h ht
  have htcp : (tcpName M).Complete t.registry :=
    Run.tcpComplete ht fun x hx ↦ (hclean x (hpre.subset hx)).2
  have hsound : (tcpName M).Sound t.registry :=
    (tcpName M).sound_of_run (Run.registry ht) (by simpa [State.registry] using hlen)
  rw [Run.assertInvariants_iff ht hlen]
  calc t.peerUdpSocketAddrToPeerUid.len ≤ t.peers.len := ReverseIndex.Sound.len_le hudp
    _ = t.peerTcpSocketAddrToPeerUid.len := (hsound.len_eq htcp).symm

/-- Two peers from two addresses, one of which has said Hello, and a third attempt. -/
theorem Run.assertInvariants_of_clean_two : ∃ hist, ∃ s : State plainMessages, Run hist s ∧
    s.peers.len = 2 ∧ s.peerUdpSocketAddrToPeerUid.len = 1 ∧
    ∀ t, Visited hist s t → t.assertInvariants = true := by
  have h : Run _ _ := TransitionSystem.run_of_exec (T := system plainMessages)
    (s := .start .dev ⟨2⟩) (l := Action.connect 1 1 [] ++ Action.connect 2 2 [0] ++
      Action.datagram (.ok (.hello (uuid 1))) 10 [0, 1])
    ⟨.dev, ⟨2⟩, rfl⟩ rfl
  exact ⟨_, _, h, rfl, rfl, Run.assertInvariants_of_clean h (by decide) (by decide)⟩

/-- **A remote peer makes a debug build panic**: by a second Hello, from another address. -/
theorem assertInvariants_fails : ∃ hist, ∃ s : State plainMessages, Run hist s ∧
    s.phase = .top ∧ s.assertInvariants = false ∧
    s.step .loopTop = some (s.panic .assertInvariants) := by
  have h : Run _ _ := TransitionSystem.run_of_exec (T := system plainMessages)
    (s := .start .dev ⟨1⟩) (l := Action.connect 1 1 [] ++
      Action.datagram (.ok (.hello (uuid 1))) 10 [0] ++
      Action.datagram (.ok (.hello (uuid 1))) 11 [0])
    ⟨.dev, ⟨1⟩, rfl⟩ rfl
  exact ⟨_, _, h, rfl, by decide, rfl⟩

end NetStream.Server
