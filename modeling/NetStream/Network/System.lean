import NetStream.Client.System
import NetStream.Server.System

/-!
# A server and its clients

One server and any number of clients, each of which runs the client actor, with the network between
them. A client joins with a UDP source address of its own, which is never given to another, and with
a connection to the server's listener, which the broker takes at some time and accepts or refuses.

* TCP from the server is first-in first-out: the messages handed to the sink of a connection arrive
  at its client in order, each once, as far as they arrive.
* UDP to the server may lose, duplicate and reorder: what a client's sink was handed may arrive any
  number of times, or never, whatever arrived before, and also after the client has gone.

Nothing is assumed of what the server reads from a connection and of what a client reads from its
socket, beyond that other clients' datagrams do not come in: frames, failures and ends may come at
any time. Only clients send datagrams that can be decoded.
-/

namespace NetStream.Network

variable {M : MessageTypes}

/-- A client, and what the network knows of it. -/
structure Node (M : MessageTypes) where
  /-- Where its datagrams come from. -/
  udpSocketAddr : SocketAddr
  /-- The broker has taken its connection from the listener. -/
  offered : Bool
  /-- How many of the messages that the server handed to its connection have arrived. -/
  arrived : ℕ
  client : Client.State M

structure State (M : MessageTypes) where
  server : Server.State M
  /-- The clients, in the order in which they joined. -/
  nodes : List (Node M)
  /-- For each accepted connection, the client at its other end. -/
  owners : List ℕ

inductive Action (M : MessageTypes)
  /-- The server takes a step in which nothing comes from a client. -/
  | server (a : Server.Action M)
  /-- A client joins. -/
  | join (udpSocketAddr : SocketAddr)
  /-- The broker takes the connection of a client from the listener. -/
  | accept (k : ℕ) (peerAddr : Except Unit SocketAddr) (choice : Server.Choice)
  /-- A client takes a step in which nothing comes from the server. -/
  | client (k : ℕ) (a : Client.Action M)
  /-- The next message of a connection arrives at its client. -/
  | tcp (connection : ℕ)
  /-- A datagram that a client's sink was handed arrives at the server. -/
  | udp (k : ℕ) (i : ℕ)

/-- Neither a connection of a client nor a decoded datagram comes in. -/
def nothingFromClient : Server.Action M → Bool
  | .next (.tcpListener (.ok _)) _ => false
  | .env (.datagram (.ok _) _) => false
  | _ => true

/-- No decoded frame comes in. -/
def nothingFromServer : Client.Action M → Bool
  | .env (.tcpFrame (.ok _)) => false
  | _ => true

namespace State

/-- The state in which the server starts. -/
def start (profile : Profile) (config : Server.Config) : State M where
  server := .start profile config
  nodes := []
  owners := []

/-- The next message to arrive on a connection, with the client at its other end. -/
def nextFrame (s : State M) (c : ℕ) : Option (ℕ × Node M × TcpFromServer M) := do
  let k ← s.owners[c]?
  let node ← s.nodes[k]?
  let conn ← s.server.streams[c]?
  let msg ← conn.writer.sink.handed[node.arrived]?
  return (k, node, msg)

/-- A datagram that a client's sink was handed, with its source. -/
def datagram (s : State M) (k i : ℕ) : Option (UdpToServer M × SocketAddr) := do
  let node ← s.nodes[k]?
  let msg ← node.client.udpWriteActor.sink.handed[i]?
  return (msg, node.udpSocketAddr)

/-- The action of the server in a step of the whole. -/
def serverAction (s : State M) : Action M → Option (Server.Action M)
  | .server a => some a
  | .join _ => none
  | .accept _ peerAddr choice => some (.next (.tcpListener (.ok ⟨peerAddr⟩)) choice)
  | .client _ _ => none
  | .tcp _ => none
  | .udp k i => (s.datagram k i).map fun x ↦ .env (.datagram (.ok x.1) x.2)

/-- The state after an action, where it is enabled. -/
def step (s : State M) : Action M → Option (State M)
  | .server a =>
    if nothingFromClient a then (s.server.step a).map fun server ↦ { s with server := server } else none
  | .join udpSocketAddr =>
    if udpSocketAddr ∈ s.nodes.map Node.udpSocketAddr then none
    else some { s with nodes := s.nodes ++ [⟨udpSocketAddr, false, 0, .start⟩] }
  | .accept k peerAddr choice =>
    match s.nodes[k]? with
    | none => none
    | some node =>
      if node.offered then none
      else (s.server.step (.next (.tcpListener (.ok ⟨peerAddr⟩)) choice)).map fun server ↦
        { s with
          server := server
          nodes := s.nodes.set k { node with offered := true }
          owners :=
            if s.server.streams.length < server.streams.length then s.owners ++ [k]
            else s.owners }
  | .client k a =>
    match s.nodes[k]? with
    | none => none
    | some node =>
      if nothingFromServer a then
        (node.client.step a).map fun client ↦
          { s with nodes := s.nodes.set k { node with client := client } }
      else none
  | .tcp c =>
    match s.nextFrame c with
    | none => none
    | some (k, node, msg) =>
      (node.client.step (.env (.tcpFrame (.ok msg)))).map fun client ↦
        { s with nodes := s.nodes.set k { node with client := client, arrived := node.arrived + 1 } }
  | .udp k i =>
    match s.datagram k i with
    | none => none
    | some (msg, addr) =>
      (s.server.step (.env (.datagram (.ok msg) addr))).map fun server ↦ { s with server := server }

end State

/-- The server with its clients: it starts with any configuration, in any build. -/
def system (M : MessageTypes) : TransitionSystem (State M) (Action M) where
  init s := ∃ profile config, s = .start profile config
  step := State.step

/-- A run of the server with its clients, with its history. -/
abbrev Run (hist : List (State M × Action M)) (s : State M) : Prop :=
  (system M).Run hist s

/-- The history of the server. -/
def serverHist (hist : List (State M × Action M)) : List (Server.State M × Server.Action M) :=
  TransitionSystem.projectHist State.server State.serverAction hist

theorem serverHist_append_singleton (hist : List (State M × Action M)) (s : State M)
    (a : Action M) : serverHist (hist ++ [(s, a)]) =
      serverHist hist ++ ((s.serverAction a).map fun b ↦ (s.server, b)).toList :=
  TransitionSystem.projectHist_append_singleton hist s a

/-! ### What a step does -/

section Step

variable {s s' : State M}

theorem nextFrame_eq_some_iff {c k : ℕ} {node : Node M} {msg : TcpFromServer M} :
    s.nextFrame c = some (k, node, msg) ↔ s.owners[c]? = some k ∧ s.nodes[k]? = some node ∧
      ∃ conn, s.server.streams[c]? = some conn ∧
        conn.writer.sink.handed[node.arrived]? = some msg := by
  simp only [State.nextFrame, Option.bind_eq_bind, Option.bind_eq_some_iff, Option.pure_def,
    Option.some.injEq, Prod.mk.injEq]
  constructor
  · rintro ⟨k', hk, node', hnode, conn, hconn, msg', hmsg, rfl, rfl, rfl⟩
    exact ⟨hk, hnode, conn, hconn, hmsg⟩
  · rintro ⟨hk, hnode, conn, hconn, hmsg⟩
    exact ⟨k, hk, node, hnode, conn, hconn, msg, hmsg, rfl, rfl, rfl⟩

theorem datagram_eq_some_iff {k i : ℕ} {msg : UdpToServer M} {addr : SocketAddr} :
    s.datagram k i = some (msg, addr) ↔ ∃ node, s.nodes[k]? = some node ∧
      node.client.udpWriteActor.sink.handed[i]? = some msg ∧ addr = node.udpSocketAddr := by
  simp only [State.datagram, Option.bind_eq_bind, Option.bind_eq_some_iff, Option.pure_def,
    Option.some.injEq, Prod.mk.injEq]
  constructor
  · rintro ⟨node, hnode, msg', hmsg, rfl, rfl⟩
    exact ⟨node, hnode, hmsg, rfl⟩
  · rintro ⟨node, hnode, hmsg, rfl⟩
    exact ⟨node, hnode, msg, hmsg, rfl, rfl⟩

/-- **Inversion**: the action, and the state after it. -/
theorem step_cases {a : Action M} (h : s.step a = some s') :
    (∃ b server, a = .server b ∧ nothingFromClient b = true ∧ s.server.step b = some server ∧
      s' = { s with server := server }) ∨
    (∃ addr, a = .join addr ∧ addr ∉ s.nodes.map Node.udpSocketAddr ∧
      s' = { s with nodes := s.nodes ++ [⟨addr, false, 0, .start⟩] }) ∨
    (∃ k peerAddr choice node server, a = .accept k peerAddr choice ∧ s.nodes[k]? = some node ∧
      node.offered = false ∧
      s.server.step (.next (.tcpListener (.ok ⟨peerAddr⟩)) choice) = some server ∧
      s' = { s with
        server := server
        nodes := s.nodes.set k { node with offered := true }
        owners :=
          if s.server.streams.length < server.streams.length then s.owners ++ [k]
          else s.owners }) ∨
    (∃ k b node client, a = .client k b ∧ nothingFromServer b = true ∧ s.nodes[k]? = some node ∧
      node.client.step b = some client ∧
      s' = { s with nodes := s.nodes.set k { node with client := client } }) ∨
    (∃ c k node msg client, a = .tcp c ∧ s.nextFrame c = some (k, node, msg) ∧
      node.client.step (.env (.tcpFrame (.ok msg))) = some client ∧
      s' = { s with
        nodes := s.nodes.set k { node with client := client, arrived := node.arrived + 1 } }) ∨
    (∃ k i msg addr server, a = .udp k i ∧ s.datagram k i = some (msg, addr) ∧
      s.server.step (.env (.datagram (.ok msg) addr)) = some server ∧
      s' = { s with server := server }) := by
  cases a with
  | server b =>
    simp only [State.step] at h
    split at h
    · rename_i hlocal
      obtain ⟨server, hs, rfl⟩ := Option.map_eq_some_iff.1 h
      exact Or.inl ⟨b, server, rfl, hlocal, hs, rfl⟩
    · cases h
  | join addr =>
    simp only [State.step] at h
    split at h
    · cases h
    · rename_i hnew
      obtain rfl := Option.some.inj h
      exact Or.inr (Or.inl ⟨addr, rfl, hnew, rfl⟩)
  | accept k peerAddr choice =>
    simp only [State.step] at h
    split at h
    · cases h
    · rename_i node hnode
      split at h
      · cases h
      · rename_i hoffered
        obtain ⟨server, hs, rfl⟩ := Option.map_eq_some_iff.1 h
        exact Or.inr (Or.inr (Or.inl ⟨k, peerAddr, choice, node, server, rfl, hnode,
          Bool.not_eq_true _ ▸ hoffered, hs, rfl⟩))
  | client k b =>
    simp only [State.step] at h
    split at h
    · cases h
    · rename_i node hnode
      split at h
      · rename_i hlocal
        obtain ⟨client, hs, rfl⟩ := Option.map_eq_some_iff.1 h
        exact Or.inr (Or.inr (Or.inr (Or.inl ⟨k, b, node, client, rfl, hlocal, hnode, hs, rfl⟩)))
      · cases h
  | tcp c =>
    simp only [State.step] at h
    split at h
    · cases h
    · rename_i k node msg hframe
      obtain ⟨client, hs, rfl⟩ := Option.map_eq_some_iff.1 h
      exact Or.inr (Or.inr (Or.inr (Or.inr (Or.inl
        ⟨c, k, node, msg, client, rfl, hframe, hs, rfl⟩))))
  | udp k i =>
    simp only [State.step] at h
    split at h
    · cases h
    · rename_i msg addr hdata
      obtain ⟨server, hs, rfl⟩ := Option.map_eq_some_iff.1 h
      exact Or.inr (Or.inr (Or.inr (Or.inr (Or.inr
        ⟨k, i, msg, addr, server, rfl, hdata, hs, rfl⟩))))

/-- A step with a part of the server is a step of the server. -/
theorem server_step {a : Action M} (hs : s.step a = some s') {b : Server.Action M}
    (hb : s.serverAction a = some b) : s.server.step b = some s'.server := by
  rcases step_cases hs with ⟨b', server, rfl, -, hserver, rfl⟩ | ⟨addr, rfl, -, rfl⟩ |
    ⟨k, peerAddr, choice, node, server, rfl, -, -, hserver, rfl⟩ |
    ⟨k, b', node, client, rfl, -, -, -, rfl⟩ | ⟨c, k, node, msg, client, rfl, -, -, rfl⟩ |
    ⟨k, i, msg, addr, server, rfl, hdata, hserver, rfl⟩
  · obtain rfl := Option.some.inj hb
    exact hserver
  · cases hb
  · obtain rfl := Option.some.inj hb
    exact hserver
  · cases hb
  · cases hb
  · simp only [State.serverAction, hdata, Option.map_some, Option.some.injEq] at hb
    subst hb
    exact hserver

/-- A step without a part of the server leaves it alone. -/
theorem server_eq_of_step {a : Action M} (hs : s.step a = some s')
    (hb : s.serverAction a = none) : s'.server = s.server := by
  rcases step_cases hs with ⟨b', server, rfl, -, -, rfl⟩ | ⟨addr, rfl, -, rfl⟩ |
    ⟨k, peerAddr, choice, node, server, rfl, -, -, -, rfl⟩ |
    ⟨k, b', node, client, rfl, -, -, -, rfl⟩ | ⟨c, k, node, msg, client, rfl, -, -, rfl⟩ |
    ⟨k, i, msg, addr, server, rfl, hdata, -, rfl⟩
  · cases hb
  · rfl
  · cases hb
  · rfl
  · rfl
  · simp [State.serverAction, hdata] at hb

/-- A connection keeps its owner. -/
theorem owners_isPrefix_of_step {a : Action M} (hs : s.step a = some s') :
    s.owners <+: s'.owners := by
  rcases step_cases hs with ⟨b', server, rfl, -, -, rfl⟩ | ⟨addr, rfl, -, rfl⟩ |
    ⟨k, peerAddr, choice, node, server, rfl, -, -, -, rfl⟩ |
    ⟨k, b', node, client, rfl, -, -, -, rfl⟩ | ⟨c, k, node, msg, client, rfl, -, -, rfl⟩ |
    ⟨k, i, msg, addr, server, rfl, -, -, rfl⟩
  · exact List.prefix_rfl
  · exact List.prefix_rfl
  · show s.owners <+: ite _ _ _
    split
    · exact List.prefix_append _ _
    · exact List.prefix_rfl
  all_goals exact List.prefix_rfl

/-- Only the server's broker takes a connection. -/
theorem owners_eq_of_step {a : Action M} (hs : s.step a = some s')
    (hb : s.serverAction a = none) : s'.owners = s.owners := by
  rcases step_cases hs with ⟨b', server, rfl, -, -, rfl⟩ | ⟨addr, rfl, -, rfl⟩ |
    ⟨k, peerAddr, choice, node, server, rfl, -, -, -, rfl⟩ |
    ⟨k, b', node, client, rfl, -, -, -, rfl⟩ | ⟨c, k, node, msg, client, rfl, -, -, rfl⟩ |
    ⟨k, i, msg, addr, server, rfl, -, -, rfl⟩
  · rfl
  · rfl
  · cases hb
  all_goals rfl

end Step

/-- **The server runs as such** among its clients. -/
theorem Run.server {hist : List (State M × Action M)} {s : State M} (h : Run hist s) :
    Server.Run (serverHist hist) s.server := by
  refine TransitionSystem.Run.project (U := Server.system M) ?_
    (fun s a s' hs b hb ↦ server_step hs hb) (fun s a s' hs hb ↦ server_eq_of_step hs hb) h
  rintro s ⟨profile, config, rfl⟩
  exact ⟨profile, config, rfl⟩

/-! ### The clients -/

namespace State

/-- The client with this number; before it joins it has not started. -/
def clientOf (s : State M) (k : ℕ) : Client.State M :=
  (s.nodes[k]?.map Node.client).getD .start

theorem clientOf_eq {s : State M} {k : ℕ} {node : Node M} (hnode : s.nodes[k]? = some node) :
    s.clientOf k = node.client := by
  rw [clientOf, hnode, Option.map_some, Option.getD_some]

/-- The action of a client in a step of the whole. -/
def clientAction (k : ℕ) (s : State M) : Action M → Option (Client.Action M)
  | .client i a => if i = k then some a else none
  | .tcp c => (s.nextFrame c).bind fun x ↦
    if x.1 = k then some (.env (.tcpFrame (.ok x.2.2))) else none
  | _ => none

/-- Only the client of the node that changes may change. -/
theorem clientOf_set {s s' : State M} {i : ℕ} {node node' : Node M}
    (hnode : s.nodes[i]? = some node) (hnodes : s'.nodes = s.nodes.set i node') (k : ℕ) :
    s'.clientOf k = if i = k then node'.client else s.clientOf k := by
  obtain ⟨hlt, -⟩ := List.getElem?_eq_some_iff.1 hnode
  rw [clientOf, hnodes, List.getElem?_set]
  split
  · rename_i hik
    subst hik
    rfl
  · rfl

/-- A node that joins has a client that has not started. -/
theorem clientOf_join {s s' : State M} {addr : SocketAddr}
    (hnodes : s'.nodes = s.nodes ++ [⟨addr, false, 0, .start⟩]) (k : ℕ) :
    s'.clientOf k = s.clientOf k := by
  rw [clientOf, clientOf, hnodes]
  rcases Nat.lt_trichotomy k s.nodes.length with hlt | rfl | hgt
  · rw [List.getElem?_append_left hlt]
  · rw [List.getElem?_concat_length, List.getElem?_eq_none (Nat.le_refl _)]
    rfl
  · rw [List.getElem?_eq_none (List.length_append.trans_le hgt), List.getElem?_eq_none hgt.le]

end State

/-- The history of a client. -/
def clientHist (k : ℕ) (hist : List (State M × Action M)) :
    List (Client.State M × Client.Action M) :=
  TransitionSystem.projectHist (State.clientOf · k) (State.clientAction k) hist

/-- What a step does to a client: a step of its own, or nothing. -/
theorem client_step {s s' : State M} {a : Action M} (hs : s.step a = some s') (k : ℕ) :
    (s.clientAction k a = none ∧ s'.clientOf k = s.clientOf k) ∨
      ∃ b, s.clientAction k a = some b ∧ (s.clientOf k).step b = some (s'.clientOf k) := by
  rcases step_cases hs with ⟨b', server, rfl, -, -, rfl⟩ | ⟨addr, rfl, -, rfl⟩ |
    ⟨i, peerAddr, choice, node, server, rfl, hnode, -, -, rfl⟩ |
    ⟨i, b', node, client, rfl, -, hnode, hclient, rfl⟩ |
    ⟨c, i, node, msg, client, rfl, hframe, hclient, rfl⟩ | ⟨i, j, msg, addr, server, rfl, -, -, rfl⟩
  · exact Or.inl ⟨rfl, rfl⟩
  · exact Or.inl ⟨rfl, State.clientOf_join rfl k⟩
  · refine Or.inl ⟨rfl, ?_⟩
    rw [State.clientOf_set hnode rfl k]
    split
    · rename_i hik
      subst hik
      exact (State.clientOf_eq hnode).symm
    · rfl
  · rw [State.clientOf_set hnode rfl k, State.clientAction]
    split
    · rename_i hik
      subst hik
      exact Or.inr ⟨b', rfl, State.clientOf_eq hnode ▸ hclient⟩
    · exact Or.inl ⟨rfl, rfl⟩
  · obtain ⟨-, hnode, -⟩ := nextFrame_eq_some_iff.1 hframe
    rw [State.clientOf_set hnode rfl k, State.clientAction, hframe, Option.bind_some]
    by_cases hik : i = k
    · subst hik
      rw [if_pos rfl, if_pos rfl]
      exact Or.inr ⟨_, rfl, State.clientOf_eq hnode ▸ hclient⟩
    · rw [if_neg hik, if_neg hik]
      exact Or.inl ⟨rfl, rfl⟩
  · exact Or.inl ⟨rfl, rfl⟩

/-- **Each client runs as such** among the others. -/
theorem Run.client {hist : List (State M × Action M)} {s : State M} (h : Run hist s) (k : ℕ) :
    Client.Run (clientHist k hist) (s.clientOf k) := by
  refine TransitionSystem.Run.project (U := Client.system M) ?_ ?_ ?_ h
  · rintro s ⟨profile, config, rfl⟩
    exact rfl
  · intro s a s' hs b hb
    rcases client_step hs k with ⟨hnone, -⟩ | ⟨b', hb', hstep⟩
    · cases hnone.symm.trans hb
    · obtain rfl := Option.some.inj (hb'.symm.trans hb)
      exact hstep
  · intro s a s' hs hnone
    rcases client_step hs k with ⟨-, hsame⟩ | ⟨b, hb, -⟩
    · exact hsame
    · cases hb.symm.trans hnone

/-! ### Writing down a run

Short names for the steps of the runs that are written out action by action, with addresses, UUIDs
and uids by number as for the server. -/

open Server (address uuid)

namespace Action

/-- Client `k` joins from the address with number `a`, and its connection is accepted with the UUID
with number `u`, with these peers connected. -/
def connect (k a u : ℕ) (peers : List ℕ) : List (Action M) :=
  [.join (address a), .server .loopTop,
    .accept k (.ok (address a)) ⟨uuid u, peers.map Server.PeerUid.ofNat, []⟩]

/-- The next message of connection `c` is sent and handled by its client `k`. -/
def deliver (c k : ℕ) : List (Action M) :=
  [.server (.task (.tcpWriter c .recv)), .server (.task (.tcpWriter c (.operate true))), .tcp c] ++
    List.map (.client k) [.task (.tcpReader .item), .task (.tcpReader .send),
      .task (.tcpReader .flush), .next .tcpReader 0]

/-- The next message of client `k` over UDP is handed to its sink. -/
def sendUdp (k : ℕ) : List (Action M) :=
  List.map (.client k) [.task (.udpWriter .recv), .task (.udpWriter (.operate true))]

/-- Message number `i` of client `k` over UDP arrives and is handled by the broker. -/
def datagram (k i : ℕ) (peers : List ℕ) : List (Action M) :=
  .udp k i :: List.map .server ([.task (.udpReader .item), .task (.udpReader .send),
    .task (.udpReader .flush)] ++ Server.Action.take .udpReader peers)

end Action

end NetStream.Network
