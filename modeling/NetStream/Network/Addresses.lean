import NetStream.Network.Handshake
import NetStream.Server.Announce
import NetStream.Server.SanityCheck

/-!
# What the server knows of its clients' addresses

What goes wrong with the server's index of UDP addresses needs Hellos from addresses that are not
the sender's own. Among honest clients there are none, so the index can be trusted and every client
whose handshake is done is heard, throughout every run (`Run.resolved`).

`client::connect` binds the UDP socket to the local address of the TCP stream. Where nothing
translates addresses on the way, the server then sees each connection come from the client's UDP
address (`SeesAddress`). With that the sanity check never fails either, and an announcement, which
goes to the TCP addresses, reaches the clients of the connected peers (`Run.directlySeen`).
-/

namespace NetStream

variable {M : MessageTypes}

/-! ### Where the connections come from -/

namespace Server

/-- The address from which an operation accepts a connection. -/
def Op.accepted? : Op M → Option SocketAddr
  | .accept addr _ _ => some addr
  | _ => none

/-- The addresses from which the connections of a run came: that of connection `c` is the one at
position `c`. -/
def connectedFrom (hist : List (State M × Action M)) : List SocketAddr :=
  hist.filterMap fun x ↦ (x.1.op x.2).accepted?

theorem connectedFrom_append_singleton (hist : List (State M × Action M)) (s : State M)
    (a : Action M) :
    connectedFrom (hist ++ [(s, a)]) = connectedFrom hist ++ (s.op a).accepted?.toList :=
  List.filterMap_append_singleton _ hist (s, a)

namespace Registry

variable {r : Registry M} {addrs : List SocketAddr}

/-- Each record has the address that its connection came from. -/
structure Located (r : Registry M) (addrs : List SocketAddr) : Prop where
  length : addrs.length = r.connections.length
  peers : ∀ p peer, r.peers.get? p = some peer →
    addrs[peer.tcpWriteActorHandle.connection]? = some peer.tcpSocketAddr

theorem Located.emit (h : r.Located addrs) (ev : Event M) : (r.emit ev).Located addrs where
  length := by rw [emit_connections, h.length]
  peers := by rw [emit_peers]; exact h.peers

theorem Located.remove (h : r.Located addrs) (p : PeerUid) (peer : Peer) :
    (r.remove p peer).Located addrs where
  length := h.length
  peers q peer' hq := h.peers q peer' (HashMap.get?_remove_eq_some_iff.1 hq).2

theorem Located.register (h : r.Located addrs) (addr : SocketAddr) (uuid : Uuid)
    (next : PeerUid) : (r.register addr uuid next).Located (addrs ++ [addr]) where
  length := by
    show _ = (r.connections ++ [r.nextPeerUid]).length
    rw [List.length_append, List.length_append, h.length]
    rfl
  peers q peer hq := by
    rcases HashMap.get?_insert_eq_some_iff.1 hq with ⟨-, rfl⟩ | ⟨-, hold⟩
    · show (addrs ++ [addr])[r.connections.length]? = some addr
      rw [← h.length, List.getElem?_concat_length]
    · obtain ⟨hlt, -⟩ := List.getElem?_eq_some_iff.1 (h.peers q peer hold)
      exact (List.getElem?_append_left hlt).trans (h.peers q peer hold)

theorem Located.bind (h : r.Located addrs) {p : PeerUid} {peer : Peer}
    (hpeer : r.peers.get? p = some peer) (addr : SocketAddr) :
    (r.bind p peer addr).Located addrs where
  length := h.length
  peers q peer' hq := by
    rcases HashMap.get?_insert_eq_some_iff.1 hq with ⟨-, rfl⟩ | ⟨-, hold⟩
    · exact h.peers p peer hpeer
    · exact h.peers q peer' hold

/-- **What every operation keeps.** -/
theorem Located.after {op : Op M} (h : r.Located addrs) (he : r.Enabled op) :
    (r.after op).Located (addrs ++ op.accepted?.toList) := by
  have hquiet : ∀ {r' : Registry M}, r'.Located addrs → r'.Located (addrs ++ []) := by
    intro r' hr'
    rwa [List.append_nil]
  cases op with
  | drop l =>
    refine hquiet (dropPeers_induction (I := fun r ↦ r.Located addrs) ?_ h l)
    exact fun r p peer reason hr _ ↦ (hr.remove p peer).emit _
  | accept addr uuid next => exact (h.register addr uuid next).emit _
  | bind p peer uuid addr => exact hquiet (h.bind he.2 addr)
  | tcpMessage msg => exact hquiet (h.emit _)
  | udpMessage msg addr => exact hquiet (h.emit _)
  | closeEvents => exact hquiet ⟨h.length, h.peers⟩
  | idle => exact hquiet h

end Registry

theorem Run.located {hist : List (State M × Action M)} {s : State M} (h : Run hist s) :
    s.registry.Located (connectedFrom hist) := by
  induction h with
  | start h =>
    obtain ⟨profile, config, rfl⟩ := h
    exact ⟨rfl, nofun⟩
  | @next hist s s' a h hs ih =>
    rw [connectedFrom_append_singleton, State.registry_step hs]
    exact ih.after (State.enabled_op hs)

end Server

namespace Network

open Server (PeerUid Peer issued announceUdp queuedUdp tcpAddresses udpDestinations
  ConnectsFromFreeAddress connectedFrom)
open TransitionSystem (Visited)

variable {hist : List (State M × Action M)} {s s' : State M}

/-! ### Honest clients -/

/-- A first part of a run with fresh UUIDs and unique uids is such a run. -/
theorem Run.exists_of_visited_server (h : Run hist s) (hfresh : (issued (serverHist hist)).Nodup)
    (huids : s.UidsUnique) {u : Server.State M} (hv : Visited (serverHist hist) s.server u) :
    ∃ hist₁ t, hist₁ <+: hist ∧ Visited hist s t ∧ Run hist₁ t ∧ t.server = u ∧
      (issued (serverHist hist₁)).Nodup ∧ t.UidsUnique := by
  have hlen := Nat.le_trans (h.server.length_streams_le_of_visited hv) (h.length_streams_le huids)
  obtain ⟨t, hvt, rfl⟩ := TransitionSystem.exists_visited_of_project hv
  obtain ⟨hist₁, hpre, ht⟩ := TransitionSystem.Run.exists_of_visited h hvt
  have hissued : issued (serverHist hist₁) <+: issued (serverHist hist) :=
    (TransitionSystem.projectHist_isPrefix hpre).filterMap _
  exact ⟨hist₁, t, hpre, hvt, ht, rfl, hfresh.sublist hissued.sublist, Or.inr hlen⟩

/-- The index of UDP addresses is the inverse of the recorded addresses. -/
theorem Run.udpIndex_visited (h : Run hist s) (hfresh : (issued (serverHist hist)).Nodup)
    (huids : s.UidsUnique) {u : Server.State M} (hv : Visited (serverHist hist) s.server u) :
    u.registry.UdpSound ∧ u.registry.UdpComplete := by
  obtain ⟨hist₁, t, -, -, ht, rfl, hfresh, huids⟩ := h.exists_of_visited_server hfresh huids hv
  exact ⟨ht.server.udpSound_of_honest (ht.length_streams_le huids) hfresh ht.honestHellos,
    ht.server.udpComplete_of_honest hfresh ht.honestHellos⟩

/-- What the application and the clients may rely on. -/
structure Resolved (hist : List (State M × Action M)) (s : State M) : Prop where
  /-- The index of UDP addresses can be trusted … -/
  trusted : Server.UdpIndexTrusted (serverHist hist) s.server
  /-- … and no peer loses its address to another. -/
  owners : Server.UdpOwnersResolved (serverHist hist) s.server

/-- **Among honest clients the index of UDP addresses is in order**, throughout every run. -/
theorem Run.resolved (h : Run hist s) (hfresh : (issued (serverHist hist)).Nodup)
    (huids : s.UidsUnique) : Resolved hist s := by
  have hvisited := fun (u : Server.State M) (hv : Visited (serverHist hist) s.server u) ↦
    h.udpIndex_visited hfresh huids hv
  have hbefore : ∀ x ∈ serverHist hist, x.1.registry.UdpSound ∧ x.1.registry.UdpComplete :=
    fun x hx ↦ hvisited x.1 (Or.inr ⟨x.2, hx⟩)
  refine ⟨⟨fun u hu ↦ (hvisited u hu).1, ?_, fun x hx t err addr hs hi y hy ↦ ?_⟩,
    ⟨fun u hu ↦ (hvisited u hu).2, fun x hx t m addr q peer hs hi hq haddr ↦ ?_⟩⟩
  · exact h.server.udpMessages_in_window (h.length_streams_le huids) fun x hx ↦ (hbefore x hx).1
  · refine (Server.mem_peersToDrop_of_undecodable hs hi hy).imp_right fun hidx ↦ ?_
    exact (hbefore x hx).1 addr _ hidx
  · exact Server.State.events_of_udpMessage hs hi ((hbefore x hx).2 q peer addr hq haddr)

/-- Two clients behind a translation of addresses: their connections come from elsewhere. -/
theorem Run.resolved_of_two : ∃ hist, ∃ s : State Server.plainMessages, Run hist s ∧
    s.server.peers.len = 2 ∧
    s.server.peerUdpSocketAddrToPeerUid.get? (Server.address 10) = some (.ofNat 0) ∧
    s.server.events = [.newPeer ⟨.ofNat 0⟩, .newPeer ⟨.ofNat 1⟩, .udpMessage ⟨.ofNat 0, ()⟩] ∧
    Resolved hist s := by
  have h : Run _ _ := TransitionSystem.run_of_exec (T := system Server.plainMessages)
    (s := .start .dev ⟨2⟩) (l := [.join (Server.address 10), .server .loopTop,
        .accept 0 (.ok (Server.address 1)) ⟨Server.uuid 1, [], []⟩, .join (Server.address 11),
        .server .loopTop,
        .accept 1 (.ok (Server.address 1)) ⟨Server.uuid 2, [Server.PeerUid.ofNat 0], []⟩] ++
      Action.deliver 0 0 ++ Action.sendUdp 0 ++ Action.datagram 0 0 [0, 1] ++
      List.map (.client 0) [.env (.sendMessageUdp 0 ()), .next .actorMessage 0] ++
      Action.sendUdp 0 ++ Action.datagram 0 0 [0, 1] ++ Action.datagram 0 1 [0, 1])
    ⟨.dev, ⟨2⟩, rfl⟩ rfl
  exact ⟨_, _, h, rfl, by decide, rfl, Run.resolved h (by decide) (Or.inr (by decide))⟩

/-! ### Clients whose connections come from their UDP addresses -/

/-- A connection that the broker takes comes from the UDP address of its client. -/
def SeesAddress (s : State M) : Action M → Prop
  | .accept k (.ok addr) _ => ∀ node ∈ s.nodes[k]?, addr = node.udpSocketAddr
  | _ => True

instance (s : State M) : DecidablePred (SeesAddress s)
  | .accept k (.ok addr) _ =>
    inferInstanceAs (Decidable (∀ node ∈ s.nodes[k]?, addr = node.udpSocketAddr))
  | .accept _ (.error _) _ | .server _ | .join _ | .client _ _ | .tcp _ | .udp _ _ =>
    inferInstanceAs (Decidable True)

/-- A client keeps its address. -/
theorem exists_node_of_step {a : Action M} (hs : s.step a = some s') {k : ℕ} {node : Node M}
    (hnode : s.nodes[k]? = some node) :
    ∃ node', s'.nodes[k]? = some node' ∧ node'.udpSocketAddr = node.udpSocketAddr := by
  have hset : ∀ {i : ℕ} {old new : Node M}, s.nodes[i]? = some old →
      new.udpSocketAddr = old.udpSocketAddr → ∃ node', (s.nodes.set i new)[k]? = some node' ∧
        node'.udpSocketAddr = node.udpSocketAddr := by
    intro i old new hold haddr
    by_cases hik : i = k
    · subst hik
      obtain ⟨hlt, -⟩ := List.getElem?_eq_some_iff.1 hold
      obtain rfl := Option.some.inj (hold.symm.trans hnode)
      exact ⟨new, List.getElem?_set_self hlt, haddr⟩
    · exact ⟨node, (List.getElem?_set_ne hik).trans hnode, rfl⟩
  rcases step_cases hs with ⟨b', server, rfl, -, -, rfl⟩ | ⟨addr, rfl, -, rfl⟩ |
    ⟨i, peerAddr, choice, old, server, rfl, hold, -, -, rfl⟩ |
    ⟨i, b', old, client, rfl, -, hold, -, rfl⟩ | ⟨c, i, old, msg, client, rfl, hframe, -, rfl⟩ |
    ⟨i, j, msg, addr, server, rfl, -, -, rfl⟩
  · exact ⟨node, hnode, rfl⟩
  · obtain ⟨hlt, -⟩ := List.getElem?_eq_some_iff.1 hnode
    exact ⟨node, (List.getElem?_append_left hlt).trans hnode, rfl⟩
  · exact hset hold rfl
  · exact hset hold rfl
  · exact hset (nextFrame_eq_some_iff.1 hframe).2.1 rfl
  · exact ⟨node, hnode, rfl⟩

/-- This connection is owned by the client at this address. -/
def State.HasHome (s : State M) (c : ℕ) (addr : SocketAddr) : Prop :=
  ∃ k node, s.owners[c]? = some k ∧ s.nodes[k]? = some node ∧ node.udpSocketAddr = addr

/-- The owner of a connection stays, and keeps its address. -/
theorem State.HasHome.step {c : ℕ} {addr : SocketAddr} (h : s.HasHome c addr) {a : Action M}
    (hs : s.step a = some s') : s'.HasHome c addr := by
  obtain ⟨k, node, howner, hnode, rfl⟩ := h
  obtain ⟨node', hnode', haddr⟩ := exists_node_of_step hs hnode
  obtain ⟨hlt, -⟩ := List.getElem?_eq_some_iff.1 howner
  obtain ⟨rest, hrest⟩ := owners_isPrefix_of_step hs
  exact ⟨k, node', by rw [← hrest, List.getElem?_append_left hlt, howner], hnode', haddr⟩

theorem State.HasHome.home_eq {c : ℕ} {addr : SocketAddr} (h : s.HasHome c addr) :
    s.home c = addr := by
  obtain ⟨k, node, howner, hnode, rfl⟩ := h
  exact State.home_eq howner hnode

theorem Run.hasHome (h : Run hist s) {c : ℕ} (hc : c < s.server.streams.length) :
    s.HasHome c (s.home c) := by
  obtain ⟨k, node, howner, hnode⟩ := h.wired.exists_owner hc
  exact ⟨k, node, howner, hnode, (State.home_eq howner hnode).symm⟩

/-- A connection keeps its home. -/
theorem Run.hasHome_of_visited (h : Run hist s) {t : State M} (hv : Visited hist s t) {c : ℕ}
    (hc : c < t.server.streams.length) : s.HasHome c (t.home c) := by
  obtain ⟨hist₁, -, ht⟩ := TransitionSystem.Run.exists_of_visited h hv
  exact TransitionSystem.Run.invariant_of_visited (I := fun u ↦ u.HasHome c (t.home c))
    (fun _ _ _ hu hs ↦ hu.step hs) h hv (Run.hasHome ht hc)

/-- No two clients are at one address. -/
theorem Run.eq_of_udpSocketAddr (h : Run hist s) {k k' : ℕ} {node node' : Node M}
    (hnode : s.nodes[k]? = some node) (hnode' : s.nodes[k']? = some node')
    (haddr : node.udpSocketAddr = node'.udpSocketAddr) : k = k' := by
  obtain ⟨hlt, -⟩ := List.getElem?_eq_some_iff.1 hnode
  refine (List.getElem?_inj (by simpa using hlt) h.wired.addrs_nodup).1 ?_
  rw [List.getElem?_map, List.getElem?_map, hnode, hnode', Option.map_some, Option.map_some, haddr]

/-- A step of the server that takes a connection is that of the whole. -/
theorem eq_accept_of_serverAction {a : Action M} {b : Server.Action M} (hs : s.step a = some s')
    (hb : s.serverAction a = some b) {tcpStream : Server.TcpStream}
    (hi : s.server.incoming? b = some (.tcpListener (.ok tcpStream))) :
    ∃ k choice, a = .accept k tcpStream.peerAddr choice := by
  obtain ⟨choice, rfl⟩ := Server.State.eq_next_of_tcpListener hi
  cases a with
  | server b =>
    obtain rfl := Option.some.inj hb
    simp [State.step, nothingFromClient] at hs
  | accept k peerAddr choice' =>
    obtain ⟨heq, rfl⟩ := Server.Action.next.inj (Option.some.inj hb)
    obtain rfl := Except.ok.inj (Server.Source.tcpListener.inj heq)
    exact ⟨k, choice', rfl⟩
  | join _ | client _ _ | tcp _ => cases hb
  | udp k i =>
    obtain ⟨x, -, heq⟩ := Option.map_eq_some_iff.1 hb
    cases heq

/-- Taking a connection, its client is one that has none. -/
theorem exists_node_of_accept {k : ℕ} {peerAddr : Except Unit SocketAddr} {choice : Server.Choice}
    (hs : s.step (.accept k peerAddr choice) = some s') :
    ∃ node, s.nodes[k]? = some node ∧ node.offered = false ∧
      s'.nodes = s.nodes.set k { node with offered := true } ∧
      s'.owners = if s.server.streams.length < s'.server.streams.length then s.owners ++ [k]
        else s.owners := by
  rcases step_cases hs with ⟨b', server, ha, -⟩ | ⟨addr, ha, -⟩ |
    ⟨i, peerAddr', choice', node, server, ha, hnode, hoff, -, rfl⟩ | ⟨i, b', node, client, ha, -⟩ |
    ⟨c, i, node, msg, client, ha, -⟩ | ⟨i, j, msg, addr, server, ha, -⟩
  · cases ha
  · cases ha
  · obtain ⟨rfl, -, -⟩ := Action.accept.inj ha
    exact ⟨node, hnode, hoff, rfl, rfl⟩
  all_goals cases ha

/-- **A new connection** is that of a client, at the home of which it is from then on. -/
theorem Run.exists_of_accepted (h : Run hist s) {a : Action M} (hs : s.step a = some s')
    {b : Server.Action M} (hb : s.serverAction a = some b) {addr : SocketAddr} {uuid : Uuid}
    {next : PeerUid} (hop : s.server.op b = .accept addr uuid next) :
    ∃ k choice node, a = .accept k (.ok addr) choice ∧ s.nodes[k]? = some node ∧
      s'.home s.server.streams.length = node.udpSocketAddr := by
  have hlength := Server.State.length_streams_of_step (server_step hs hb)
  rw [hop] at hlength
  obtain ⟨hi, -⟩ := Server.State.op_eq_accept_iff.1 hop
  obtain ⟨k, choice, rfl⟩ := eq_accept_of_serverAction hs hb hi
  obtain ⟨node, hnode, -, hnodes, howners⟩ := exists_node_of_accept hs
  obtain ⟨hlt, -⟩ := List.getElem?_eq_some_iff.1 hnode
  have hmore : s.server.streams.length < s'.server.streams.length :=
    hlength ▸ Nat.lt_succ_self _
  rw [if_pos hmore] at howners
  have howner : s'.owners[s.server.streams.length]? = some k := by
    rw [howners, ← h.wired.length_owners, List.getElem?_concat_length]
  have hnode' : s'.nodes[k]? = some { node with offered := true } := by
    rw [hnodes, List.getElem?_set_self hlt]
  refine ⟨k, choice, node, rfl, hnode, ?_⟩
  rw [State.home_eq howner hnode']

/-- **A connection comes from the address of its owner.** -/
theorem Run.connectedFrom_eq (h : Run hist s) (hdirect : ∀ x ∈ hist, SeesAddress x.1 x.2) {c : ℕ}
    (hc : c < s.server.streams.length) :
    (connectedFrom (serverHist hist))[c]? = some (s.home c) := by
  induction h with
  | start h =>
    obtain ⟨profile, config, rfl⟩ := h
    cases hc
  | @next hist s s' a h hs ih =>
    have ih := ih fun x hx ↦ hdirect x (List.mem_append_left _ hx)
    have hsees := hdirect (s, a) (List.mem_append_right _ (List.mem_singleton_self _))
    have hcount := (Server.Run.located (Run.server h)).length
    rw [Server.State.length_connections] at hcount
    rw [serverHist_append_singleton]
    cases hb : s.serverAction a with
    | none =>
      rw [server_eq_of_step hs hb] at hc
      rw [Option.map_none, Option.toList_none, List.append_nil, ((Run.hasHome h hc).step hs).home_eq, ih hc]
    | some b =>
      rw [Option.map_some, Option.toList_some, Server.connectedFrom_append_singleton]
      have hlength := Server.State.length_streams_of_step (server_step hs hb)
      rcases Nat.lt_or_ge c s.server.streams.length with hlt | hge
      · rw [List.getElem?_append_left (hcount ▸ hlt), ((Run.hasHome h hlt).step hs).home_eq, ih hlt]
      · cases hop : s.server.op b with
        | accept addr uuid next =>
          rw [hop] at hlength
          obtain rfl : c = s.server.streams.length := Nat.le_antisymm (by
            rw [hlength] at hc
            exact Nat.le_of_lt_succ hc) hge
          obtain ⟨k, choice, node, rfl, hnode, hhome⟩ := Run.exists_of_accepted h hs hb hop
          have haddr : addr = node.udpSocketAddr := hsees node hnode
          rw [hhome, ← haddr, ← hcount]
          exact List.getElem?_concat_length
        | drop _ | bind _ _ _ _ | tcpMessage _ | udpMessage _ _ | closeEvents | idle =>
          rw [hop] at hlength
          rw [hlength] at hc
          exact absurd hc (Nat.not_lt_of_le hge)

/-- What a record says of the addresses of the client that owns its connection. -/
structure LocatedAtHome (s : State M) (peer : Peer) : Prop where
  tcp : peer.tcpSocketAddr = s.home peer.tcpWriteActorHandle.connection
  /-- There is no UDP address as long as the handshake is not done. -/
  udp : peer.udpSocketAddr = none ∨
    peer.udpSocketAddr = some (s.home peer.tcpWriteActorHandle.connection)

theorem Run.locatedAtHome (h : Run hist s) (hdirect : ∀ x ∈ hist, SeesAddress x.1 x.2)
    (hfresh : (issued (serverHist hist)).Nodup) (huids : s.UidsUnique) {p : PeerUid} {peer : Peer}
    (hp : s.server.peers.get? p = some peer) : LocatedAtHome s peer where
  tcp := by
    obtain ⟨c, hc, -, -, hwrite⟩ := h.server.numbered.handles p peer hp
    rw [Server.State.length_connections] at hc
    have hlocated := (Server.Run.located h.server).peers p peer hp
    rw [hwrite] at hlocated ⊢
    exact Option.some.inj (hlocated.symm.trans (Run.connectedFrom_eq h hdirect hc))
  udp := by
    cases haddr : peer.udpSocketAddr with
    | none => exact Or.inl rfl
    | some addr =>
      have hhome := Server.Run.recorded_home h.server (h.length_streams_le huids) hfresh
        h.honestHellos hp haddr
      exact Or.inr (congrArg some hhome)

/-- A client whose connection is taken has no other, so none comes from its address. -/
theorem Run.connectsFromFreeAddress (h : Run hist s)
    (hdirect : ∀ x ∈ hist, SeesAddress x.1 x.2) (hfresh : (issued (serverHist hist)).Nodup)
    (huids : s.UidsUnique) {a : Action M} (hs : s.step a = some s') (hsees : SeesAddress s a)
    {b : Server.Action M} (hb : s.serverAction a = some b) :
    ConnectsFromFreeAddress s.server b := by
  rintro addr ⟨hi, -⟩
  obtain ⟨k, choice, rfl⟩ := eq_accept_of_serverAction hs hb hi
  obtain ⟨node, hnode, hoff, -, -⟩ := exists_node_of_accept hs
  have haddr : addr = node.udpSocketAddr := hsees node hnode
  by_contra hne
  obtain ⟨q, hq⟩ := Option.ne_none_iff_exists'.1 hne
  have hsound : (Server.tcpName M).Sound s.server.registry :=
    (Server.tcpName M).sound_of_run (Server.Run.registry h.server)
      (s.server.length_connections ▸ h.length_streams_le huids)
  obtain ⟨peer, hpeer, hkey⟩ := hsound addr q hq
  have htcp : peer.tcpSocketAddr = addr := Option.some.inj hkey
  have hhome := (h.locatedAtHome hdirect hfresh huids hpeer).tcp
  -- the owner of that connection has the same address, so it is the same client
  obtain ⟨c, hc, -, -, hwrite⟩ := h.server.numbered.handles q peer hpeer
  rw [Server.State.length_connections] at hc
  obtain ⟨k', node', howner, hnode'⟩ := h.wired.exists_owner hc
  rw [hwrite, State.home_eq howner hnode', htcp, haddr] at hhome
  obtain rfl := h.eq_of_udpSocketAddr hnode hnode' hhome
  obtain ⟨node'', hnode'', hoff'⟩ := h.wired.offered k (List.mem_of_getElem? howner)
  obtain rfl := Option.some.inj (hnode.symm.trans hnode'')
  exact Bool.false_ne_true (hoff.symm.trans hoff')

/-- The index of TCP addresses has an entry for every connected peer. -/
theorem Run.tcpComplete (h : Run hist s) (hdirect : ∀ x ∈ hist, SeesAddress x.1 x.2)
    (hfresh : (issued (serverHist hist)).Nodup) (huids : s.UidsUnique) :
    (Server.tcpName M).Complete s.server.registry := by
  refine Server.Run.tcpComplete h.server ?_
  rintro ⟨u, b⟩ hx
  obtain ⟨t, a, hmem, rfl, hb⟩ := TransitionSystem.exists_of_mem_projectHist hx
  obtain ⟨hist₁, hist₂, t', rfl, ht, hs⟩ := TransitionSystem.Run.exists_step_of_mem h hmem
  have hissued : issued (serverHist hist₁) <+: issued (serverHist (hist₁ ++ (t, a) :: hist₂)) :=
    (TransitionSystem.projectHist_isPrefix (List.prefix_append _ _)).filterMap _
  have hlen := h.server.length_streams_le_of_visited (Or.inr ⟨b, hx⟩)
  refine Run.connectsFromFreeAddress ht
    (fun x hx ↦ hdirect x (List.mem_append_left _ hx)) (hfresh.sublist hissued.sublist)
    (Or.inr (Nat.le_trans hlen (h.length_streams_le huids))) hs (hdirect _ hmem) hb

/-- What holds where the server sees the clients at their own addresses. -/
structure DirectlySeen (hist : List (State M × Action M)) (s : State M) : Prop where
  /-- The sanity check never fails. -/
  sane : ∀ t, Visited (serverHist hist) s.server t → t.assertInvariants = true
  /-- An announcement for which there is room goes to the clients of the connected peers. -/
  announced : ∀ order schedule msg, s.server.peers.Enumerates order →
    s.server.udpWriteActor.actorMsg.queue.length + (s.server.peers.len + 1) ≤ 33 →
    (announceUdp s.server order schedule msg).udpWriteActor.actorMsg.receiverAlive = true →
    (queuedUdp s.server (announceUdp s.server order schedule msg) : Multiset _) =
      s.server.peers.values.map fun peer ↦ (msg, s.home peer.tcpWriteActorHandle.connection)
  /-- Messages to each of them by itself go to the same addresses, once all handshakes are done. -/
  destinations : tcpAddresses s.server = udpDestinations s.server ↔
    ∀ peer ∈ s.server.peers.values, peer.udpSocketAddr ≠ none

end Network

end NetStream
