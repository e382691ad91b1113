import NetStream.Network.System
import NetStream.Server.Datagrams

/-!
# The route of a UUID

The broker puts the UUID of a connection into the Welcome on it, the Welcome arrives at the client
that owns the connection and nowhere else, and the client's Hello carries it back from the client's
address. `Wired` follows this route, in terms of what only grows: the UUIDs given out, the messages
commanded to each connection, and the datagrams that arrived. Whatever has arrived at a client was
commanded to its connection, and whatever Hello has arrived at the server carries the UUID of a
connection of the client that it came from.
-/

namespace NetStream.Network

open Server (commanded issued datagrams)

variable {M : MessageTypes}

/-- The address is that of the client which owns the connection with this UUID. -/
def State.HomeOf (s : State M) (uuids : List Uuid) (uuid : Uuid) (addr : SocketAddr) : Prop :=
  ∃ (c k : ℕ) (node : Node M), uuids[c]? = some uuid ∧ s.owners[c]? = some k ∧
    s.nodes[k]? = some node ∧ addr = node.udpSocketAddr

/-- What is known of clients, connections and datagrams, given the UUIDs given out, the messages
commanded to each connection and the datagrams that arrived at the server. -/
structure Wired (s : State M) (uuids : List Uuid) (cmds : ℕ → List (TcpFromServer M))
    (arrivals : List (Except UdpError (UdpToServer M) × SocketAddr)) : Prop where
  /-- Each accepted connection has an owner. -/
  length_owners : s.owners.length = s.server.streams.length
  /-- It is a client whose connection the broker has taken. -/
  offered : ∀ k ∈ s.owners, ∃ node, s.nodes[k]? = some node ∧ node.offered = true
  /-- No client owns two connections. -/
  owners_nodup : s.owners.Nodup
  /-- No two clients share an address. -/
  addrs_nodup : (s.nodes.map Node.udpSocketAddr).Nodup
  /-- What arrived at a client was commanded to its connection. -/
  frames : ∀ (k : ℕ) (node : Node M), s.nodes[k]? = some node → ∃ arrived,
    node.client.Derived arrived ∧
      ∀ msg, .ok msg ∈ arrived → ∃ c : ℕ, s.owners[c]? = some k ∧ msg ∈ cmds c
  /-- A Hello that arrived carries the UUID of a connection of the client it came from. -/
  helloes : ∀ uuid addr, (.ok (.hello uuid), addr) ∈ arrivals → s.HomeOf uuids uuid addr

theorem wired_start (profile : Profile) (config : Server.Config) :
    Wired (.start profile config : State M) [] (fun _ ↦ []) [] where
  length_owners := rfl
  offered k h := by simp [State.start] at h
  owners_nodup := List.nodup_nil
  addrs_nodup := List.nodup_nil
  frames k node h := by simp [State.start] at h
  helloes uuid addr h := by cases h

namespace Wired

variable {s : State M} {uuids : List Uuid} {cmds : ℕ → List (TcpFromServer M)}
  {arrivals : List (Except UdpError (UdpToServer M) × SocketAddr)}

/-- The server takes a step in which it accepts no connection. -/
theorem server {H : List (Server.State M × Server.Action M)}
    (h : Wired s (issued H) (commanded H) (datagrams H)) {b : Server.Action M}
    {server : Server.State M} (hs : s.server.step b = some server)
    (hnone : (s.server.op b).issued? = none)
    (hhello : ∀ uuid addr, b.datagram? = some (.ok (.hello uuid), addr) →
      s.HomeOf (issued H) uuid addr) :
    Wired { s with server := server } (issued (H ++ [(s.server, b)]))
      (commanded (H ++ [(s.server, b)])) (datagrams (H ++ [(s.server, b)])) where
  length_owners := by
    rw [Server.State.length_streams_of_step hs, hnone]
    exact h.length_owners
  offered := h.offered
  owners_nodup := h.owners_nodup
  addrs_nodup := h.addrs_nodup
  frames k node hnode := by
    obtain ⟨arrived, hderived, hmsgs⟩ := h.frames k node hnode
    refine ⟨arrived, hderived, fun msg hmsg ↦ ?_⟩
    obtain ⟨c, hc, hcmd⟩ := hmsgs msg hmsg
    refine ⟨c, hc, ?_⟩
    rw [Server.commanded_append_singleton]
    exact List.mem_append_left _ hcmd
  helloes uuid addr hmem := by
    rw [Server.issued_append_singleton, hnone, Option.toList_none, List.append_nil]
    rw [Server.datagrams_append_singleton] at hmem
    rcases List.mem_append.1 hmem with hmem | hmem
    · exact h.helloes uuid addr hmem
    · exact hhello uuid addr (Option.mem_toList.1 hmem)

/-- A client joins, at which nothing has arrived. -/
theorem join (h : Wired s uuids cmds arrivals) {addr : SocketAddr}
    (hnew : addr ∉ s.nodes.map Node.udpSocketAddr) :
    Wired { s with nodes := s.nodes ++ [⟨addr, false, 0, .start⟩] } uuids cmds arrivals where
  length_owners := h.length_owners
  offered k hk := by
    obtain ⟨node, hnode, hoff⟩ := h.offered k hk
    obtain ⟨hlt, -⟩ := List.getElem?_eq_some_iff.1 hnode
    exact ⟨node, (List.getElem?_append_left hlt).trans hnode, hoff⟩
  owners_nodup := h.owners_nodup
  addrs_nodup := by
    rw [List.map_append, List.map_cons, List.map_nil, ← List.concat_eq_append]
    exact h.addrs_nodup.concat hnew
  frames k node hnode := by
    rcases Nat.lt_or_ge k s.nodes.length with hlt | hge
    · exact h.frames k node ((List.getElem?_append_left hlt).symm.trans hnode)
    · rw [List.getElem?_append_right hge] at hnode
      obtain rfl := List.mem_singleton.1 (List.mem_of_getElem? hnode)
      exact ⟨[], Client.State.derived_start, fun msg hmsg ↦ by cases hmsg⟩
  helloes uuid addr' hmem := by
    obtain ⟨c, k, node, huuid, howner, hnode, haddr⟩ := h.helloes uuid addr' hmem
    obtain ⟨hlt, -⟩ := List.getElem?_eq_some_iff.1 hnode
    exact ⟨c, k, node, huuid, howner, (List.getElem?_append_left hlt).trans hnode, haddr⟩

/-- A node changes, but not its address. -/
theorem set (h : Wired s uuids cmds arrivals) {k : ℕ} {node node' : Node M}
    (hnode : s.nodes[k]? = some node) (haddr : node'.udpSocketAddr = node.udpSocketAddr)
    (hoff : node.offered = true → node'.offered = true)
    (hframes : ∃ arrived, node'.client.Derived arrived ∧
      ∀ msg, .ok msg ∈ arrived → ∃ c : ℕ, s.owners[c]? = some k ∧ msg ∈ cmds c) :
    Wired { s with nodes := s.nodes.set k node' } uuids cmds arrivals where
  length_owners := h.length_owners
  offered i hi := by
    obtain ⟨old, hold, holdoff⟩ := h.offered i hi
    obtain ⟨hlt, -⟩ := List.getElem?_eq_some_iff.1 hnode
    by_cases hik : k = i
    · subst hik
      obtain rfl := Option.some.inj (hnode.symm.trans hold)
      exact ⟨node', List.getElem?_set_self hlt, hoff holdoff⟩
    · exact ⟨old, (List.getElem?_set_ne hik).trans hold, holdoff⟩
  owners_nodup := h.owners_nodup
  addrs_nodup := by
    obtain ⟨hlt, hget⟩ := List.getElem?_eq_some_iff.1 hnode
    have hsame : (s.nodes.set k node').map Node.udpSocketAddr = s.nodes.map Node.udpSocketAddr := by
      rw [List.map_set, haddr, ← hget]
      refine List.ext_getElem? fun i ↦ ?_
      by_cases hik : k = i
      · subst hik
        simp [hlt]
      · simp [hik]
    rw [hsame]
    exact h.addrs_nodup
  frames i node'' hi := by
    obtain ⟨hlt, -⟩ := List.getElem?_eq_some_iff.1 hnode
    by_cases hik : k = i
    · subst hik
      obtain rfl := Option.some.inj ((List.getElem?_set_self hlt).symm.trans hi)
      exact hframes
    · exact h.frames i node'' ((List.getElem?_set_ne hik).symm.trans hi)
  helloes uuid addr hmem := by
    obtain ⟨c, i, old, huuid, howner, hold, hold'⟩ := h.helloes uuid addr hmem
    obtain ⟨hlt, -⟩ := List.getElem?_eq_some_iff.1 hnode
    by_cases hik : k = i
    · subst hik
      obtain rfl := Option.some.inj (hnode.symm.trans hold)
      exact ⟨c, k, node', huuid, howner, List.getElem?_set_self hlt, hold'.trans haddr.symm⟩
    · exact ⟨c, i, old, huuid, howner, (List.getElem?_set_ne hik).trans hold, hold'⟩

/-- The server accepts the connection of a client, which owns no other. -/
theorem own {H : List (Server.State M × Server.Action M)}
    (h : Wired s (issued H) (commanded H) (datagrams H)) {k : ℕ} {node : Node M}
    (hnode : s.nodes[k]? = some node) (hoff : node.offered = true) (hnew : k ∉ s.owners)
    {b : Server.Action M} {server : Server.State M} (hs : s.server.step b = some server)
    {uuid : Uuid} (hsome : (s.server.op b).issued? = some uuid) (hdata : b.datagram? = none) :
    Wired { s with server := server, owners := s.owners ++ [k] } (issued (H ++ [(s.server, b)]))
      (commanded (H ++ [(s.server, b)])) (datagrams (H ++ [(s.server, b)])) where
  length_owners := by
    rw [Server.State.length_streams_of_step hs, hsome, List.length_append, h.length_owners]
    rfl
  offered i hi := by
    rcases List.mem_append.1 hi with hi | hi
    · exact h.offered i hi
    · rw [List.mem_singleton.1 hi]
      exact ⟨node, hnode, hoff⟩
  owners_nodup := by
    rw [← List.concat_eq_append]
    exact h.owners_nodup.concat hnew
  addrs_nodup := h.addrs_nodup
  frames i node' hi := by
    obtain ⟨arrived, hderived, hmsgs⟩ := h.frames i node' hi
    refine ⟨arrived, hderived, fun msg hmsg ↦ ?_⟩
    obtain ⟨c, hc, hcmd⟩ := hmsgs msg hmsg
    obtain ⟨hlt, -⟩ := List.getElem?_eq_some_iff.1 hc
    refine ⟨c, (List.getElem?_append_left hlt).trans hc, ?_⟩
    rw [Server.commanded_append_singleton]
    exact List.mem_append_left _ hcmd
  helloes u addr hmem := by
    rw [Server.datagrams_append_singleton, hdata, Option.toList_none, List.append_nil] at hmem
    rw [Server.issued_append_singleton]
    obtain ⟨c, i, node', huuid, howner, hi, haddr⟩ := h.helloes u addr hmem
    obtain ⟨hlt, -⟩ := List.getElem?_eq_some_iff.1 howner
    obtain ⟨hlt', -⟩ := List.getElem?_eq_some_iff.1 huuid
    exact ⟨c, i, node', (List.getElem?_append_left hlt').trans huuid,
      (List.getElem?_append_left hlt).trans howner, hi, haddr⟩

/-- The broker takes the connection of a client, and accepts or refuses it. -/
theorem accept {H : List (Server.State M × Server.Action M)}
    (h : Wired s (issued H) (commanded H) (datagrams H)) {k : ℕ} {node : Node M}
    (hnode : s.nodes[k]? = some node) (hoff : node.offered = false)
    {peerAddr : Except Unit SocketAddr} {choice : Server.Choice} {server : Server.State M}
    (hs : s.server.step (.next (.tcpListener (.ok ⟨peerAddr⟩)) choice) = some server) :
    Wired
      { s with
        server := server
        nodes := s.nodes.set k { node with offered := true }
        owners :=
          if s.server.streams.length < server.streams.length then s.owners ++ [k] else s.owners }
      (issued (H ++ [(s.server, .next (.tcpListener (.ok ⟨peerAddr⟩)) choice)]))
      (commanded (H ++ [(s.server, .next (.tcpListener (.ok ⟨peerAddr⟩)) choice)]))
      (datagrams (H ++ [(s.server, .next (.tcpListener (.ok ⟨peerAddr⟩)) choice)])) := by
  have hset : Wired { s with nodes := s.nodes.set k { node with offered := true } } (issued H)
      (commanded H) (datagrams H) := h.set hnode rfl (fun _ ↦ rfl) (h.frames k node hnode)
  have hlen := Server.State.length_streams_of_step hs
  cases hop : (s.server.op (.next (.tcpListener (.ok ⟨peerAddr⟩)) choice)).issued? with
  | none =>
    rw [hop, Option.toList_none, List.length_nil, Nat.add_zero] at hlen
    rw [if_neg (by omega)]
    exact hset.server hs hop fun uuid addr hdata ↦ by cases hdata
  | some uuid =>
    rw [hop, Option.toList_some, List.length_singleton] at hlen
    rw [if_pos (by omega)]
    have hnew : k ∉ s.owners := by
      intro hk
      obtain ⟨node', hnode', hoff'⟩ := h.offered k hk
      obtain rfl := Option.some.inj (hnode.symm.trans hnode')
      exact absurd (hoff.symm.trans hoff') Bool.false_ne_true
    obtain ⟨hlt, -⟩ := List.getElem?_eq_some_iff.1 hnode
    exact hset.own (List.getElem?_set_self hlt) rfl hnew hs hop rfl

/-- A client takes a step, in which what arrives was commanded to its connection. -/
theorem client (h : Wired s uuids cmds arrivals) {k : ℕ} {node : Node M}
    (hnode : s.nodes[k]? = some node) {b : Client.Action M} {client : Client.State M}
    (hs : node.client.step b = some client) (n : ℕ)
    (hframe : ∀ msg, b.tcpFrame? = some (.ok msg) →
      ∃ c : ℕ, s.owners[c]? = some k ∧ msg ∈ cmds c) :
    Wired { s with nodes := s.nodes.set k { node with client := client, arrived := n } } uuids cmds
      arrivals := by
  obtain ⟨arrived, hderived, hmsgs⟩ := h.frames k node hnode
  refine h.set hnode rfl id ⟨_, hderived.step hs, fun msg hmsg ↦ ?_⟩
  rcases List.mem_append.1 hmsg with hmsg | hmsg
  · exact hmsgs msg hmsg
  · exact hframe msg (Option.mem_toList.1 hmsg)

/-- A Hello that left a client carries the UUID of a connection of it. -/
theorem homeOf_of_handed {H : List (Server.State M × Server.Action M)} {server : Server.State M}
    (hrun : Server.Run H server) (h : Wired s (issued H) (commanded H) arrivals) {k : ℕ}
    {node : Node M} (hnode : s.nodes[k]? = some node) {uuid : Uuid}
    (hu : .hello uuid ∈ node.client.udpWriteActor.sink.handed) :
    s.HomeOf (issued H) uuid node.udpSocketAddr := by
  obtain ⟨arrived, hderived, hmsgs⟩ := h.frames k node hnode
  obtain ⟨c, howner, hcmd⟩ := hmsgs _ (hderived.welcome_of_handed hu)
  exact ⟨c, k, node, Server.Run.issued_of_welcome hrun hcmd, howner, hnode, rfl⟩

end Wired

/-! ### What comes from clients and from the server -/

/-- Nothing is accepted but the connections of clients. -/
theorem issued?_eq_none_of_nothingFromClient {s : Server.State M} {b : Server.Action M}
    (hb : nothingFromClient b = true) : (s.op b).issued? = none := by
  cases hop : s.op b with
  | accept addr uuid next =>
    obtain ⟨hi, -⟩ := Server.State.op_eq_accept_iff.1 hop
    obtain ⟨choice, rfl⟩ := Server.State.eq_next_of_tcpListener hi
    cases hb
  | _ => rfl

theorem datagram?_ne_of_nothingFromClient {b : Server.Action M} (hb : nothingFromClient b = true)
    (msg : UdpToServer M) (addr : SocketAddr) : b.datagram? ≠ some (.ok msg, addr) := by
  intro h
  obtain rfl := Server.Action.datagram?_eq_some_iff.1 h
  cases hb

theorem tcpFrame?_ne_of_nothingFromServer {b : Client.Action M} (hb : nothingFromServer b = true)
    (msg : TcpFromServer M) : b.tcpFrame? ≠ some (.ok msg) := by
  intro h
  obtain rfl := Client.Action.tcpFrame?_eq_some_iff.1 h
  cases hb

/-- **The route, over a whole run.** -/
theorem Run.wired {hist : List (State M × Action M)} {s : State M} (h : Run hist s) :
    Wired s (issued (serverHist hist)) (commanded (serverHist hist))
      (datagrams (serverHist hist)) := by
  induction h with
  | start h =>
    obtain ⟨profile, config, rfl⟩ := h
    exact wired_start profile config
  | @next hist s s' a h hs ih =>
    rw [serverHist_append_singleton]
    rcases step_cases hs with ⟨b, server, rfl, hb, hserver, rfl⟩ | ⟨addr, rfl, hnew, rfl⟩ |
      ⟨k, peerAddr, choice, node, server, rfl, hnode, hoff, hserver, rfl⟩ |
      ⟨k, b, node, client, rfl, hb, hnode, hclient, rfl⟩ |
      ⟨c, k, node, msg, client, rfl, hframe, hclient, rfl⟩ |
      ⟨k, i, msg, addr, server, rfl, hdata, hserver, rfl⟩
    · exact ih.server hserver (issued?_eq_none_of_nothingFromClient hb) fun uuid addr hdata ↦
        absurd hdata (datagram?_ne_of_nothingFromClient hb _ _)
    · simpa [State.serverAction] using ih.join hnew
    · exact ih.accept hnode hoff hserver
    · simpa [State.serverAction] using ih.client hnode hclient node.arrived fun msg hmsg ↦
        absurd hmsg (tcpFrame?_ne_of_nothingFromServer hb msg)
    · obtain ⟨howner, hnode, conn, hconn, hmsg⟩ := nextFrame_eq_some_iff.1 hframe
      have hcmd := Server.Run.mem_commanded_of_handed (Run.server h) hconn (List.mem_of_getElem? hmsg)
      simpa [State.serverAction] using ih.client hnode hclient (node.arrived + 1) fun msg' hmsg' ↦ by
        obtain rfl := Except.ok.inj (Option.some.inj hmsg')
        exact ⟨c, howner, hcmd⟩
    · obtain ⟨node, hnode, hmsg, rfl⟩ := datagram_eq_some_iff.1 hdata
      have hstep := ih.server hserver rfl fun uuid addr hhello ↦ by
        obtain ⟨hok, rfl⟩ := Prod.mk.inj (Option.some.inj hhello)
        obtain rfl := Except.ok.inj hok
        exact ih.homeOf_of_handed (Run.server h) hnode (List.mem_of_getElem? hmsg)
      simpa [State.serverAction, hdata] using hstep

end NetStream.Network
