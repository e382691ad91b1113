import NetStream.Library.DatagramLink
import NetStream.Client.UdpForwarding
import NetStream.Server.UdpPipeline
import NetStream.Network.Addresses

/-!
# From a client to the server over UDP

What the clients' sinks were handed is carried to the server as datagrams, any of them at any time,
again or never. So the messages that arrive from the address of a client are those that the link has
carried for it (`Carries`), and the server's application hears some of these as messages of the
client's peer (`Run.uplink`): nothing that the client has not accepted from its application, and, if
the link carries nothing twice, nothing more often than that.
-/

namespace NetStream.Network

open DatagramLink
open Server (PeerUid issued datagrams messageFromAddress? udpMessagesFrom)
open Client (acceptedUdp)
open TransitionSystem (Visited)

variable {M : MessageTypes}

/-- The position of the datagram that an action carries for a client. -/
def Action.carries? (k : ℕ) : Action M → Option ℕ
  | .udp i j => if i = k then some j else none
  | _ => none

/-- The positions of the datagrams that were carried for a client, in this order. -/
def positions (hist : List (State M × Action M)) (k : ℕ) : List ℕ :=
  hist.filterMap fun x ↦ x.2.carries? k

theorem positions_append_singleton (hist : List (State M × Action M)) (s : State M)
    (a : Action M) (k : ℕ) : positions (hist ++ [(s, a)]) k =
      positions hist k ++ (a.carries? k).toList :=
  List.filterMap_append_singleton _ hist (s, a)

/-- What a client has handed to its UDP sink. -/
def Node.handed (node : Node M) : List (UdpToServer M) :=
  node.client.udpWriteActor.sink.handed

/-- What has arrived at the server from the clients' addresses was carried for them. -/
structure Carries (s : State M)
    (arrivals : List (Except UdpError (UdpToServer M) × SocketAddr)) (pos : ℕ → List ℕ) : Prop where
  /-- A message came from a client. -/
  known : ∀ msg addr, (.ok msg, addr) ∈ arrivals → addr ∈ s.nodes.map Node.udpSocketAddr
  /-- What was carried had been sent. -/
  sent : ∀ k, ∀ i ∈ pos k, ∃ node, s.nodes[k]? = some node ∧ i < node.handed.length
  /-- From the address of a client came what was carried for it. -/
  carried : ∀ k node, s.nodes[k]? = some node →
    arrivals.filterMap (messageFromAddress? node.udpSocketAddr) =
      (carried node.handed (pos k)).filterMap UdpToServer.application?

theorem messageFromAddress?_ok {addr addr' : SocketAddr} (msg : UdpToServer M) :
    messageFromAddress? addr (.ok msg, addr') =
      if addr' = addr then msg.application? else none := by
  cases msg with
  | applicationLogic _ => rfl
  | hello _ => exact (ite_self none).symm

theorem carries_start (profile : Profile) (config : Server.Config) :
    Carries (.start profile config : State M) [] (fun _ ↦ []) where
  known := nofun
  sent := nofun
  carried k node h := by simp [State.start] at h

namespace Carries

variable {s s' : State M} {arrivals : List (Except UdpError (UdpToServer M) × SocketAddr)}
  {pos : ℕ → List ℕ}

theorem of_nodes (h : Carries s arrivals pos) (hnodes : s'.nodes = s.nodes) :
    Carries s' arrivals pos where
  known := hnodes ▸ h.known
  sent := hnodes ▸ h.sent
  carried := hnodes ▸ h.carried

/-- Nothing arrives but garbage. -/
theorem garbage (h : Carries s arrivals pos)
    {x : Option (Except UdpError (UdpToServer M) × SocketAddr)}
    (hx : ∀ msg addr, x ≠ some (.ok msg, addr)) : Carries s (arrivals ++ x.toList) pos := by
  rcases x with _ | ⟨err | msg, addr⟩
  · rw [Option.toList_none, List.append_nil]
    exact h
  · refine ⟨fun msg addr' hmem ↦ ?_, h.sent, fun k node hnode ↦ ?_⟩
    · rcases List.mem_append.1 hmem with hmem | hmem
      · exact h.known msg addr' hmem
      · cases List.mem_singleton.1 hmem
    · rw [← h.carried k node hnode, Option.toList_some, List.filterMap_append_singleton]
      exact List.append_nil _
  · exact absurd rfl (hx msg addr)

/-- A client joins, from an address from which nothing has arrived. -/
theorem join (h : Carries s arrivals pos) {addr : SocketAddr}
    (hnew : addr ∉ s.nodes.map Node.udpSocketAddr) :
    Carries { s with nodes := s.nodes ++ [⟨addr, false, 0, .start⟩] } arrivals pos where
  known msg addr' hmem := by
    rw [List.map_append]
    exact List.mem_append_left _ (h.known msg addr' hmem)
  sent k i hi := by
    obtain ⟨node, hnode, hlt⟩ := h.sent k i hi
    obtain ⟨hk, -⟩ := List.getElem?_eq_some_iff.1 hnode
    exact ⟨node, (List.getElem?_append_left hk).trans hnode, hlt⟩
  carried k node hnode := by
    rcases Nat.lt_or_ge k s.nodes.length with hlt | hge
    · exact h.carried k node ((List.getElem?_append_left hlt).symm.trans hnode)
    · have hempty : pos k = [] := by
        refine List.eq_nil_iff_forall_not_mem.2 fun i hi ↦ ?_
        obtain ⟨old, hold, -⟩ := h.sent k i hi
        obtain ⟨hk, -⟩ := List.getElem?_eq_some_iff.1 hold
        omega
      rw [List.getElem?_append_right hge] at hnode
      obtain rfl := List.mem_singleton.1 (List.mem_of_getElem? hnode)
      rw [hempty]
      refine List.filterMap_eq_nil_iff.2 fun x hx ↦ ?_
      rcases x with ⟨err | msg, addr'⟩
      · rfl
      · rw [messageFromAddress?_ok, if_neg]
        rintro rfl
        exact hnew (h.known msg _ hx)

/-- A node changes: its address does not, and what was handed to the sink is not taken back. -/
theorem set (h : Carries s arrivals pos) {k : ℕ} {node node' : Node M}
    (hnode : s.nodes[k]? = some node) (haddr : node'.udpSocketAddr = node.udpSocketAddr)
    (hhanded : node.handed <+: node'.handed) :
    Carries { s with nodes := s.nodes.set k node' } arrivals pos := by
  obtain ⟨hlt, hget⟩ := List.getElem?_eq_some_iff.1 hnode
  have hself : (s.nodes.set k node')[k]? = some node' := List.getElem?_set_self hlt
  refine ⟨fun msg addr hmem ↦ ?_, fun i j hj ↦ ?_, fun i node'' hi ↦ ?_⟩
  · obtain ⟨old, hold, rfl⟩ := List.mem_map.1 (h.known msg addr hmem)
    obtain ⟨i, hi⟩ := List.mem_iff_getElem?.1 hold
    by_cases hik : k = i
    · subst hik
      obtain rfl := Option.some.inj (hnode.symm.trans hi)
      exact List.mem_map.2 ⟨node', List.mem_of_getElem? hself, haddr⟩
    · exact List.mem_map_of_mem (List.mem_of_getElem? ((List.getElem?_set_ne hik).trans hi))
  · obtain ⟨old, hold, hlen⟩ := h.sent i j hj
    by_cases hik : k = i
    · subst hik
      obtain rfl := Option.some.inj (hnode.symm.trans hold)
      exact ⟨node', hself, hlen.trans_le hhanded.length_le⟩
    · exact ⟨old, (List.getElem?_set_ne hik).trans hold, hlen⟩
  · by_cases hik : k = i
    · subst hik
      obtain rfl := Option.some.inj (hself.symm.trans hi)
      rw [haddr, h.carried k node hnode, carried_of_isPrefix hhanded fun j hj ↦ ?_]
      obtain ⟨old, hold, hlen⟩ := h.sent k j hj
      obtain rfl := Option.some.inj (hnode.symm.trans hold)
      exact hlen
    · exact h.carried i node'' ((List.getElem?_set_ne hik).symm.trans hi)

/-- A datagram of a client is carried. -/
theorem carry (h : Carries s arrivals pos) {k j : ℕ} {node : Node M} {msg : UdpToServer M}
    (hnode : s.nodes[k]? = some node) (hmsg : node.handed[j]? = some msg)
    (hnodup : (s.nodes.map Node.udpSocketAddr).Nodup) :
    Carries s (arrivals ++ [(.ok msg, node.udpSocketAddr)])
      (fun i ↦ pos i ++ (if k = i then some j else none).toList) := by
  obtain ⟨hlt, hget⟩ := List.getElem?_eq_some_iff.1 hnode
  refine ⟨fun msg' addr hmem ↦ ?_, fun i j' hj ↦ ?_, fun i node' hi ↦ ?_⟩
  · rcases List.mem_append.1 hmem with hmem | hmem
    · exact h.known msg' addr hmem
    · obtain ⟨-, rfl⟩ := Prod.mk.inj (List.mem_singleton.1 hmem)
      exact List.mem_map_of_mem (List.mem_of_getElem? hnode)
  · rcases List.mem_append.1 hj with hj | hj
    · exact h.sent i j' hj
    · obtain ⟨rfl, heq⟩ := Option.ite_none_right_eq_some.1 (Option.mem_toList.1 hj)
      obtain rfl := Option.some.inj heq
      exact ⟨node, hnode, (List.getElem?_eq_some_iff.1 hmsg).1⟩
  · rw [List.filterMap_append_singleton, h.carried i node' hi, messageFromAddress?_ok]
    by_cases hik : k = i
    · subst hik
      obtain rfl := Option.some.inj (hnode.symm.trans hi)
      rw [if_pos rfl, if_pos rfl, Option.toList_some, carried_append_singleton, hmsg]
      exact (List.filterMap_append_singleton _ _ msg).symm
    · -- no other client has this address
      have hne : node.udpSocketAddr ≠ node'.udpSocketAddr := by
        intro heq
        refine hik ((List.getElem?_inj (by simpa using hlt) hnodup).1 ?_)
        rw [List.getElem?_map, List.getElem?_map, hnode, hi, Option.map_some, Option.map_some, heq]
      rw [if_neg hik, if_neg hne, Option.toList_none, Option.toList_none, List.append_nil,
        List.append_nil]

end Carries

variable {hist : List (State M × Action M)} {s : State M}

/-- **What the link does**, over a whole run. -/
theorem Run.carries (h : Run hist s) :
    Carries s (datagrams (serverHist hist)) (positions hist) := by
  induction h with
  | start h =>
    obtain ⟨profile, config, rfl⟩ := h
    exact carries_start profile config
  | @next hist s s' a h hs ih =>
    have hpos : positions (hist ++ [(s, a)]) =
        fun k ↦ positions hist k ++ (a.carries? k).toList :=
      funext fun k ↦ positions_append_singleton hist s a k
    have hquiet : (∀ k, a.carries? k = none) →
        positions (hist ++ [(s, a)]) = positions hist := by
      intro hnone
      rw [hpos]
      refine funext fun k ↦ ?_
      rw [hnone k, Option.toList_none, List.append_nil]
    rw [serverHist_append_singleton]
    rcases step_cases hs with ⟨b, server, rfl, hb, -, rfl⟩ | ⟨addr, rfl, hnew, rfl⟩ |
      ⟨k, peerAddr, choice, node, server, rfl, hnode, -, -, rfl⟩ |
      ⟨k, b, node, client, rfl, -, hnode, hclient, rfl⟩ |
      ⟨c, k, node, msg, client, rfl, hframe, hclient, rfl⟩ |
      ⟨k, j, msg, addr, server, rfl, hdata, -, rfl⟩
    · rw [hquiet fun _ ↦ rfl]
      show Carries _ (datagrams (serverHist hist ++ [(s.server, b)])) _
      rw [Server.datagrams_append_singleton]
      exact (ih.garbage (datagram?_ne_of_nothingFromClient hb)).of_nodes rfl
    · rw [hquiet fun _ ↦ rfl]
      show Carries _ (datagrams (serverHist hist ++ [])) _
      rw [List.append_nil]
      exact ih.join hnew
    · rw [hquiet fun _ ↦ rfl]
      have hset : Carries { s with nodes := s.nodes.set k { node with offered := true } } _ _ :=
        ih.set hnode rfl List.prefix_rfl
      show Carries _ (datagrams (serverHist hist ++
        [(s.server, .next (.tcpListener (.ok ⟨peerAddr⟩)) choice)])) _
      rw [Server.datagrams_append_singleton]
      exact (List.append_nil _).symm ▸ hset.of_nodes rfl
    · rw [hquiet fun _ ↦ rfl]
      show Carries _ (datagrams (serverHist hist ++ [])) _
      rw [List.append_nil]
      exact ih.set hnode rfl (Client.State.handed_isPrefix_of_step hclient)
    · obtain ⟨-, hnode, -⟩ := nextFrame_eq_some_iff.1 hframe
      rw [hquiet fun _ ↦ rfl]
      show Carries _ (datagrams (serverHist hist ++ [])) _
      rw [List.append_nil]
      exact ih.set hnode rfl (Client.State.handed_isPrefix_of_step hclient)
    · obtain ⟨node, hnode, hmsg, rfl⟩ := datagram_eq_some_iff.1 hdata
      have hb : s.serverAction (.udp k j) =
          some (.env (.datagram (.ok msg) node.udpSocketAddr)) := by
        rw [State.serverAction, hdata, Option.map_some]
      rw [hpos, hb, Option.map_some, Option.toList_some, Server.datagrams_append_singleton]
      exact (ih.carry hnode hmsg (Run.wired h).addrs_nodup).of_nodes rfl

/-! ### The address of a peer -/

/-- **An address that resolves to a peer**, at any time, is that of the client which owns it. -/
theorem Run.address_of_owns (h : Run hist s) (hfresh : (issued (serverHist hist)).Nodup)
    (huids : s.UidsUnique) {k : ℕ} {node : Node M} (hnode : s.nodes[k]? = some node) {p : PeerUid}
    (howns : s.Owns k p) {u : Server.State M}
    (hv : Visited (serverHist hist) s.server u) {addr : SocketAddr}
    (hidx : u.peerUdpSocketAddrToPeerUid.get? addr = some p) : addr = node.udpSocketAddr := by
  have hle := h.length_streams_le huids
  obtain ⟨hist₁, t, -, hvt, ht, rfl, hfresh, huids⟩ := h.exists_of_visited_server hfresh huids hv
  have hle' := ht.length_streams_le huids
  obtain ⟨peer, hpeer, haddr⟩ :=
    ht.server.udpSound_of_honest hle' hfresh ht.honestHellos addr p hidx
  have hhome := ht.server.recorded_home hle' hfresh ht.honestHellos hpeer haddr
  obtain ⟨c, hc, rfl, -, hwrite⟩ := ht.server.numbered.handles p peer hpeer
  rw [Server.State.length_connections] at hc
  rw [hwrite, ← (h.hasHome_of_visited hvt hc).home_eq] at hhome
  -- the uid was given to no other connection
  obtain ⟨c', conn, hconn, huid, howner⟩ := howns
  obtain ⟨hlt, -⟩ := List.getElem?_eq_some_iff.1 hconn
  rw [Server.State.peerUid_eq (Server.Run.numbered h.server) hconn] at huid
  obtain rfl := PeerUid.ofNat_inj (by omega) (by omega) huid
  rw [hhome, State.home_eq howner hnode]

/-! ### What the application hears -/

/-- The peer of a client over UDP: what the server's application hears of it, and what the client
has accepted from its own. -/
structure Uplink (hist : List (State M × Action M)) (s : State M) (k : ℕ) (p : PeerUid) : Prop where
  /-- It hears some of what the link has carried, in the order in which that arrived. -/
  heard : (udpMessagesFrom p s.server.events).Sublist
    ((carried (s.clientOf k).udpWriteActor.sink.handed (positions hist k)).filterMap
      UdpToServer.application?)
  /-- What the client has sent, it has accepted from its handles, in this order. -/
  sent : (s.clientOf k).handedUdp <+: acceptedUdp (clientHist k hist)
  /-- So each message was accepted, … -/
  accepted : ∀ m ∈ udpMessagesFrom p s.server.events, m ∈ acceptedUdp (clientHist k hist)
  /-- … as often as it is heard, if the link carries nothing twice, … -/
  once : (positions hist k).Nodup →
    (udpMessagesFrom p s.server.events).Subperm (acceptedUdp (clientHist k hist))
  /-- … and in this order, if the link keeps the order too. -/
  ordered : (positions hist k).Pairwise (· < ·) →
    (udpMessagesFrom p s.server.events).Sublist (acceptedUdp (clientHist k hist))

/-- **The way from a client to the server over UDP**, among honest clients. -/
theorem Run.uplink (h : Run hist s) (hfresh : (issued (serverHist hist)).Nodup)
    (huids : s.UidsUnique) {k : ℕ} {p : PeerUid} (howns : s.Owns k p) : Uplink hist s k p := by
  obtain ⟨c, conn, hconn, huid, howner⟩ := howns
  obtain ⟨node, hnode, -⟩ := h.wired.offered k (List.mem_of_getElem? howner)
  have hheard : (udpMessagesFrom p s.server.events).Sublist
      ((carried (s.clientOf k).udpWriteActor.sink.handed (positions hist k)).filterMap
        UdpToServer.application?) := by
    have hsole : ∀ x ∈ serverHist hist, ∀ addr,
        x.1.peerUdpSocketAddrToPeerUid.get? addr = some p → addr = node.udpSocketAddr :=
      fun x hx addr hidx ↦ h.address_of_owns hfresh huids hnode ⟨c, conn, hconn, huid, howner⟩
        (Or.inr ⟨x.2, hx⟩) hidx
    have hsub := h.server.udpMessagesFrom_sublist hsole
    rwa [h.carries.carried k node hnode, Node.handed, ← State.clientOf_eq hnode] at hsub
  have hsent := (Run.client h k).udpForwarding.handedUdp_isPrefix
  refine ⟨hheard, hsent, fun m hm ↦ ?_, fun hpos ↦ ?_, fun hpos ↦ ?_⟩
  · obtain ⟨msg, hmsg, happ⟩ := List.mem_filterMap.1 (hheard.subset hm)
    exact hsent.subset (List.mem_filterMap.2 ⟨msg, mem_of_mem_carried hmsg, happ⟩)
  · obtain ⟨l, hperm, hl⟩ : (carried (s.clientOf k).udpWriteActor.sink.handed
        (positions hist k)).Subperm (s.clientOf k).udpWriteActor.sink.handed := carried_subperm hpos
    have hcarried : ((carried (s.clientOf k).udpWriteActor.sink.handed
        (positions hist k)).filterMap UdpToServer.application?).Subperm (s.clientOf k).handedUdp :=
      ⟨l.filterMap _, hperm.filterMap _, hl.filterMap _⟩
    exact (hheard.subperm.trans hcarried).trans hsent.sublist.subperm
  · exact (hheard.trans ((carried_sublist hpos).filterMap _)).trans hsent.sublist

/-- A client's two messages, of which the first is heard twice and the second is not. -/
theorem Run.uplink_of_duplicate : ∃ hist, ∃ s : State Server.plainMessages, Run hist s ∧
    s.server.events = [.newPeer ⟨.ofNat 0⟩, .udpMessage ⟨.ofNat 0, ()⟩, .udpMessage ⟨.ofNat 0, ()⟩] ∧
    positions hist 0 = [0, 1, 1] ∧ (acceptedUdp (clientHist 0 hist)).length = 2 ∧
    Uplink hist s 0 (.ofNat 0) := by
  have h : Run _ _ := TransitionSystem.run_of_exec (T := system Server.plainMessages)
    (s := .start .release ⟨2⟩) (l := Action.connect 0 10 1 [] ++ Action.deliver 0 0 ++
      Action.sendUdp 0 ++ Action.datagram 0 0 [0] ++
      List.map (.client 0) [.env (.sendMessageUdp 0 ()), .env (.sendMessageUdp 0 ()),
        .next .actorMessage 0] ++
      Action.sendUdp 0 ++ Action.datagram 0 1 [0] ++ Action.datagram 0 1 [0])
    ⟨.release, ⟨2⟩, rfl⟩ rfl
  exact ⟨_, _, h, rfl, rfl, rfl,
    Run.uplink h (by decide) (Or.inr (by decide)) ⟨0, _, rfl, rfl, rfl⟩⟩

end NetStream.Network
