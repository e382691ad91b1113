import NetStream.Client.Heartbeats
import NetStream.Server.UdpOutput
import NetStream.Network.Addresses

/-!
# From the server to a client over UDP

The server's one UDP sink carries the datagrams for all clients, each with its destination. Where
the server sees the clients at their own addresses and a client reads what was sent to it
(`FromServer`), nothing gets to the wrong client: what a client's application hears over UDP, and
each heartbeat in its status, the broker had for a connected peer of that client
(`Run.udpDownlink`).
-/

namespace NetStream

variable {M : MessageTypes}

instance [DecidableEq M.UdpFromServer] : DecidableEq (UdpFromServer M)
  | .applicationLogic a, .applicationLogic b =>
    decidable_of_iff (a = b) ⟨congrArg _, UdpFromServer.applicationLogic.inj⟩
  | .welcome, .welcome => isTrue rfl
  | .heartbeat, .heartbeat => isTrue rfl
  | .applicationLogic _, .welcome => isFalse nofun
  | .applicationLogic _, .heartbeat => isFalse nofun
  | .welcome, .applicationLogic _ => isFalse nofun
  | .welcome, .heartbeat => isFalse nofun
  | .heartbeat, .applicationLogic _ => isFalse nofun
  | .heartbeat, .welcome => isFalse nofun

namespace Network

open Server (PeerUid issued)
open TransitionSystem (Visited)

/-- What a client reads from its socket was sent to it by the server, if it can be decoded. -/
def FromServer (s : State M) : Action M → Prop
  | .client k (.env (.datagram (.ok msg))) =>
    ∀ node ∈ s.nodes[k]?, (msg, node.udpSocketAddr) ∈ s.server.udpWriteActor.sink.handed
  | _ => True

instance [DecidableEq M.UdpFromServer] (s : State M) : DecidablePred (FromServer s)
  | .client k (.env (.datagram (.ok msg))) =>
    inferInstanceAs (Decidable
      (∀ node ∈ s.nodes[k]?, (msg, node.udpSocketAddr) ∈ s.server.udpWriteActor.sink.handed))
  | .client _ (.env (.datagram (.error _))) | .client _ (.env (.tcpFrame _))
  | .client _ (.env .tcpEnd) | .client _ (.env (.sendMessageTcp _ _))
  | .client _ (.env (.sendMessageUdp _ _)) | .client _ (.env (.getStatus _ _))
  | .client _ (.env (.cloneHandle _)) | .client _ (.env (.dropHandle _))
  | .client _ (.env .takeEvent) | .client _ (.env .closeEvents) | .client _ (.next _ _)
  | .client _ (.send _) | .client _ (.flush _) | .client _ (.task _) | .server _ | .join _
  | .accept _ _ _ | .tcp _ | .udp _ _ => inferInstanceAs (Decidable True)

variable {hist : List (State M × Action M)} {s : State M}

/-- The broker had this for a client: it has handled an item that has it for a peer of the client
which was connected then. -/
def HadFor (hist : List (State M × Action M)) (s : State M) (k : ℕ) (msg : UdpFromServer M) : Prop :=
  ∃ t b incoming p, (t, b) ∈ serverHist hist ∧ t.incoming? b = some incoming ∧
    incoming.udpFor? p = some msg ∧ p ∈ t.peers.keys ∧ s.Owns k p

/-- **An address in a peer's record is that of its owner**, at any time. -/
theorem Run.owns_of_address (h : Run hist s) (hdirect : ∀ x ∈ hist, SeesAddress x.1 x.2)
    (hfresh : (issued (serverHist hist)).Nodup) (huids : s.UidsUnique) {k : ℕ} {node : Node M}
    (hnode : s.nodes[k]? = some node) {u : Server.State M}
    (hv : Visited (serverHist hist) s.server u) {p : PeerUid} {peer : Server.Peer}
    (hpeer : u.peers.get? p = some peer)
    (haddr : peer.tcpSocketAddr = node.udpSocketAddr ∨
      peer.udpSocketAddr = some node.udpSocketAddr) : s.Owns k p := by
  obtain ⟨hist₁, t, hpre, hvt, ht, rfl, hfresh, huids⟩ :=
    h.exists_of_visited_server hfresh huids hv
  have hlocated := ht.locatedAtHome (fun x hx ↦ hdirect x (hpre.subset hx)) hfresh huids hpeer
  have hhome : t.home peer.tcpWriteActorHandle.connection = node.udpSocketAddr := by
    rcases haddr with haddr | haddr
    · exact hlocated.tcp.symm.trans haddr
    · rcases hlocated.udp with hnone | hsome
      · cases hnone.symm.trans haddr
      · exact Option.some.inj (hsome.symm.trans haddr)
  obtain ⟨c, hc, rfl, -, hwrite⟩ := ht.server.numbered.handles p peer hpeer
  rw [Server.State.length_connections] at hc
  rw [hwrite] at hhome
  obtain ⟨k', node', howner, hnode', haddr'⟩ := h.hasHome_of_visited hvt hc
  obtain rfl := h.eq_of_udpSocketAddr hnode hnode' (hhome.symm.trans haddr'.symm)
  obtain ⟨hlt, -⟩ := List.getElem?_eq_some_iff.1 howner
  rw [h.wired.length_owners] at hlt
  have hconn := List.getElem?_eq_getElem hlt
  exact ⟨c, _, hconn, Server.State.peerUid_eq h.server.numbered hconn, howner⟩

/-- A datagram arrives at a client in a step of that client. -/
theorem eq_client_of_datagram {k : ℕ} {a : Action M} {b : Client.Action M}
    (ha : s.clientAction k a = some b) {item : Client.UdpItem M} (hb : b.datagram? = some item) :
    a = .client k (.env (.datagram item)) := by
  have hdatagram : b = .env (.datagram item) := by
    cases b with
    | env e =>
      cases e with
      | datagram message => exact congrArg _ (congrArg _ (Option.some.inj hb))
      | tcpFrame _ | tcpEnd | sendMessageTcp _ _ | sendMessageUdp _ _ | getStatus _ _
      | cloneHandle _ | dropHandle _ | takeEvent | closeEvents => cases hb
    | next _ _ | send _ | flush _ | task _ => cases hb
  subst hdatagram
  cases a with
  | client i b =>
    obtain ⟨rfl, heq⟩ := Option.ite_none_right_eq_some.1 ha
    rw [Option.some.inj heq]
  | tcp c =>
    obtain ⟨x, -, hx⟩ := Option.bind_eq_some_iff.1 ha
    obtain ⟨-, hx⟩ := Option.ite_none_right_eq_some.1 hx
    cases hx
  | server _ | join _ | accept _ _ _ | udp _ _ => cases ha

/-- **What a client reads was for it**, unless it is the answer to a Hello. -/
theorem Run.hadFor_of_datagram (h : Run hist s) (hfrom : ∀ x ∈ hist, FromServer x.1 x.2)
    (hdirect : ∀ x ∈ hist, SeesAddress x.1 x.2) (hfresh : (issued (serverHist hist)).Nodup)
    (huids : s.UidsUnique) {k : ℕ} {msg : UdpFromServer M}
    (hmsg : .ok msg ∈ Client.datagrams (clientHist k hist)) (hne : msg ≠ .welcome) :
    HadFor hist s k msg := by
  obtain ⟨⟨client, b⟩, hmem, hb⟩ := List.mem_filterMap.1 hmsg
  obtain ⟨t, a, hta, -, hclient⟩ := TransitionSystem.exists_of_mem_projectHist hmem
  obtain rfl := eq_client_of_datagram hclient hb
  obtain ⟨hist₁, hist₂, t', rfl, ht, hs⟩ := TransitionSystem.Run.exists_step_of_mem h hta
  -- the client is there, and stays at its address
  obtain ⟨node, hnode⟩ : ∃ node, t.nodes[k]? = some node := by
    simp only [system, State.step] at hs
    split at hs
    · cases hs
    · rename_i node hnode
      exact ⟨node, hnode⟩
  obtain ⟨node', hnode', haddr'⟩ := TransitionSystem.Run.invariant_of_visited
    (I := fun u ↦ ∃ node', u.nodes[k]? = some node' ∧ node'.udpSocketAddr = node.udpSocketAddr)
    (fun _ _ _ hu hs ↦ by
      obtain ⟨old, hold, haddr⟩ := hu
      obtain ⟨new, hnew, hsame⟩ := exists_node_of_step hs hold
      exact ⟨new, hnew, hsame.trans haddr⟩) h (Or.inr ⟨_, hta⟩) ⟨node, hnode, rfl⟩
  obtain ⟨u, d, incoming, p, peer, hud, hi, hpeer, hfor, haddr⟩ :=
    Server.Run.exists_reason_of_handed (Run.server ht) (hfrom _ hta node hnode) hne
  have hmem : (u, d) ∈ serverHist (hist₁ ++ (t, .client k (.env (.datagram (.ok msg)))) :: hist₂) :=
    (TransitionSystem.projectHist_isPrefix (List.prefix_append _ _)).subset hud
  rw [← haddr'] at haddr
  exact ⟨u, d, incoming, p, hmem, hi, hfor, HashMap.mem_keys_of_get? hpeer,
    h.owns_of_address hdirect hfresh huids hnode' (Or.inr ⟨d, hmem⟩) hpeer haddr⟩

/-- What reaches the application of a client over UDP. -/
structure UdpDownlink (hist : List (State M × Action M)) (s : State M) (k : ℕ) : Prop where
  /-- Each message was for the client: sent to a peer of it, or announced while one was connected. -/
  heard : ∀ m, .udpMessage m ∈ (s.clientOf k).events → HadFor hist s k (.applicationLogic m)
  /-- A status with a heartbeat, too, is due to one that was sent while the client was connected. -/
  status : (s.clientOf k).latestUdpHeartbeat ≠ none → HadFor hist s k .heartbeat

instance : DecidableEq Server.plainMessages.UdpFromServer :=
  inferInstanceAs (DecidableEq Unit)

end Network

end NetStream
