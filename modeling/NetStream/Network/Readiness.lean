import NetStream.Client.Readiness
import NetStream.Network.Handshake
import NetStream.Server.Connections

/-!
# UDP readiness, seen from a client

What has arrived at a client over TCP is an initial part of what the sink of its connection was
handed (`Fed`), so the client announces that it can send over UDP at most as often as the server
answered a Hello on its connection. The server answers every Hello that it accepts, also one that
the network has duplicated, and the client announces every answer. `Run.readyOnce` is about the runs
in which no second Hello is accepted for the connection; `canSend_repeated` is a run with two.
-/

namespace NetStream.Network

open Server (commanded issued hellos AcceptsFirst plainMessages)

variable {M : MessageTypes} {hist : List (State M × Action M)} {s s' : State M}

/-! ### What arrives -/

/-- What has arrived at a client over TCP. -/
structure Fed (s : State M) (k : ℕ) (node : Node M) : Prop where
  length : node.client.arrivedTcp.length = node.arrived
  /-- It is an initial part of what the sink of its connection was handed. -/
  owned : ∀ (c : ℕ) (conn : Server.Connection M), s.owners[c]? = some k →
    s.server.streams[c]? = some conn → node.client.arrivedTcp <+: conn.writer.sink.handed
  /-- Without a connection nothing arrives. -/
  unowned : k ∉ s.owners → node.client.arrivedTcp = []
  readiness : node.client.Readiness

theorem fed_start (s : State M) (k : ℕ) (addr : SocketAddr) :
    Fed s k ⟨addr, false, 0, .start⟩ where
  length := rfl
  owned _ _ _ _ := List.nil_prefix
  unowned _ := rfl
  readiness := Client.State.readiness_start

namespace Fed

variable {k : ℕ} {node : Node M}

/-- The server takes a step. -/
theorem server (h : Fed s k node) (hn : s.server.registry.Numbered)
    (hlen : s.owners.length = s.server.streams.length) {b : Server.Action M}
    {server : Server.State M} (hs : s.server.step b = some server) :
    Fed { s with server := server } k node where
  length := h.length
  owned c conn' hc hconn' := by
    obtain ⟨hlt, -⟩ := List.getElem?_eq_some_iff.1 hc
    obtain ⟨conn, hconn, hsteps⟩ :=
      Server.State.exists_connection_of_step hn hs (hlen ▸ hlt) hconn'
    exact (h.owned c conn hc hconn).trans hsteps.handed_isPrefix
  unowned := h.unowned
  readiness := h.readiness

/-- Only the server's connections, the owners and the client itself matter. -/
theorem congr (h : Fed s k node) {node' : Node M} (howners : s'.owners = s.owners)
    (hserver : s'.server = s.server) (hclient : node'.client = node.client)
    (harrived : node'.arrived = node.arrived) : Fed s' k node' where
  length := by rw [hclient, harrived, h.length]
  owned := by
    rw [howners, hserver, hclient]
    exact h.owned
  unowned := by
    rw [howners, hclient]
    exact h.unowned
  readiness := hclient ▸ h.readiness

/-- A connection is accepted for a client that has none. -/
theorem own (h : Fed s k node) {i : ℕ} (hi : i ∉ s.owners) :
    Fed { s with owners := s.owners ++ [i] } k node where
  length := h.length
  owned c conn hc hconn := by
    rcases Nat.lt_or_ge c s.owners.length with hlt | hge
    · exact h.owned c conn ((List.getElem?_append_left hlt).symm.trans hc) hconn
    · have hc : (s.owners ++ [i])[c]? = some k := hc
      rw [List.getElem?_append_right hge] at hc
      rw [h.unowned (List.mem_singleton.1 (List.mem_of_getElem? hc) ▸ hi)]
      exact List.nil_prefix
  unowned hk := h.unowned fun hmem ↦ hk (List.mem_append_left _ hmem)
  readiness := h.readiness

/-- The client takes a step, in which the next message of its connection may arrive. -/
theorem client (h : Fed s k node) {frames : List (Except TcpError (TcpFromServer M))}
    (hd : node.client.Derived frames) {b : Client.Action M} {client : Client.State M}
    (hs : node.client.step b = some client) {msgs : List (TcpFromServer M)}
    (hmsgs : b.tcpFrame?.toList.filterMap Except.toOption = msgs)
    (howned : ∀ (c : ℕ) (conn : Server.Connection M), s.owners[c]? = some k →
      s.server.streams[c]? = some conn →
      node.client.arrivedTcp ++ msgs <+: conn.writer.sink.handed)
    (hunowned : k ∉ s.owners → msgs = []) :
    Fed s k { node with client := client, arrived := node.arrived + msgs.length } := by
  have harrived : client.arrivedTcp = node.client.arrivedTcp ++ msgs := by
    unfold Client.State.arrivedTcp
    rw [(hd.step hs).input, hd.input, List.filterMap_append, hmsgs]
  refine ⟨?_, fun c conn hc hconn ↦ ?_, fun hk ↦ ?_, h.readiness.step hs⟩
  · show client.arrivedTcp.length = _
    rw [harrived, List.length_append, h.length]
  · show client.arrivedTcp <+: _
    rw [harrived]
    exact howned c conn hc hconn
  · show client.arrivedTcp = []
    rw [harrived, h.unowned hk, hunowned hk]
    rfl

end Fed

/-- What was sent in order arrives in order. -/
theorem append_singleton_isPrefix {α : Type} {l l' : List α} {x : α} (h : l <+: l')
    (hx : l'[l.length]? = some x) : l ++ [x] <+: l' := by
  obtain ⟨hlt, rfl⟩ := List.getElem?_eq_some_iff.1 hx
  exact List.concat_get_prefix h hlt

/-- The nodes after one of them has changed. -/
theorem forall_set {P : ℕ → Node M → Prop} {nodes : List (Node M)} {k : ℕ} {node' : Node M}
    (h : ∀ i node, nodes[i]? = some node → i ≠ k → P i node) (hk : P k node') :
    ∀ i node, (nodes.set k node')[i]? = some node → P i node := by
  intro i node hi
  by_cases hik : k = i
  · subst hik
    rcases Nat.lt_or_ge k nodes.length with hlt | hge
    · obtain rfl := Option.some.inj ((List.getElem?_set_self hlt).symm.trans hi)
      exact hk
    · rw [List.getElem?_eq_none (by simpa using hge)] at hi
      cases hi
  · exact h i node ((List.getElem?_set_ne hik).symm.trans hi) fun heq ↦ hik heq.symm

/-- **TCP is first-in first-out.** -/
theorem Run.fed (h : Run hist s) :
    ∀ (k : ℕ) (node : Node M), s.nodes[k]? = some node → Fed s k node := by
  induction h with
  | start h =>
    obtain ⟨profile, config, rfl⟩ := h
    intro k node hnode
    cases hnode
  | @next hist s s' a h hs ih =>
    have hn := Server.Run.numbered (Run.server h)
    have hw := Run.wired h
    rcases step_cases hs with ⟨b, server, rfl, hb, hserver, rfl⟩ | ⟨addr, rfl, hnew, rfl⟩ |
      ⟨k, peerAddr, choice, node, server, rfl, hnode, hoff, hserver, rfl⟩ |
      ⟨k, b, node, client, rfl, hb, hnode, hclient, rfl⟩ |
      ⟨c, k, node, msg, client, rfl, hframe, hclient, rfl⟩ |
      ⟨k, i, msg, addr, server, rfl, hdata, hserver, rfl⟩
    · exact fun i node hi ↦ (ih i node hi).server hn hw.length_owners hserver
    · intro i node hi
      rcases Nat.lt_or_ge i s.nodes.length with hlt | hge
      · exact (ih i node ((List.getElem?_append_left hlt).symm.trans hi)).congr rfl rfl rfl rfl
      · have hi : (s.nodes ++ [⟨addr, false, 0, .start⟩])[i]? = some node := hi
        rw [List.getElem?_append_right hge] at hi
        obtain rfl := List.mem_singleton.1 (List.mem_of_getElem? hi)
        exact fed_start _ i addr
    · have hk : k ∉ s.owners := by
        intro hmem
        obtain ⟨node', hnode', hoff'⟩ := hw.offered k hmem
        obtain rfl := Option.some.inj (hnode.symm.trans hnode')
        exact absurd (hoff.symm.trans hoff') Bool.false_ne_true
      have hfed : ∀ i node, s.nodes[i]? = some node → Fed { s with
          server := server
          owners := if s.server.streams.length < server.streams.length then s.owners ++ [k]
            else s.owners } i node := by
        intro i node hi
        have hserved := (ih i node hi).server hn hw.length_owners hserver
        split
        · exact hserved.own hk
        · exact hserved
      exact forall_set (fun i node hi _ ↦ (hfed i node hi).congr rfl rfl rfl rfl)
        ((hfed k node hnode).congr rfl rfl rfl rfl)
    · obtain ⟨frames, hd, -⟩ := hw.frames k node hnode
      have hnone : b.tcpFrame?.toList.filterMap Except.toOption = ([] : List (TcpFromServer M)) := by
        cases hframe : b.tcpFrame? with
        | none => rfl
        | some frame =>
          cases frame with
          | error err => rfl
          | ok msg => exact absurd hframe (tcpFrame?_ne_of_nothingFromServer hb msg)
      refine forall_set (fun i node' hi _ ↦ (ih i node' hi).congr rfl rfl rfl rfl) ?_
      refine ((ih k node hnode).client hd hclient hnone (fun c conn hc hconn ↦ ?_)
        fun _ ↦ rfl).congr rfl rfl rfl rfl
      rw [List.append_nil]
      exact (ih k node hnode).owned c conn hc hconn
    · obtain ⟨howner, hnode, conn, hconn, hmsg⟩ := nextFrame_eq_some_iff.1 hframe
      obtain ⟨frames, hd, -⟩ := hw.frames k node hnode
      have hfed := ih k node hnode
      refine forall_set (fun i node' hi _ ↦ (ih i node' hi).congr rfl rfl rfl rfl) ?_
      have harrives : [msg] = [msg] := rfl
      refine (hfed.client hd hclient harrives (fun c' conn' hc' hconn' ↦ ?_)
        fun hk ↦ absurd (List.mem_of_getElem? howner) hk).congr rfl rfl rfl rfl
      -- the client owns one connection only
      obtain ⟨hlt, -⟩ := List.getElem?_eq_some_iff.1 howner
      obtain rfl := (List.getElem?_inj hlt hw.owners_nodup).1 (howner.trans hc'.symm)
      obtain rfl := Option.some.inj (hconn.symm.trans hconn')
      exact append_singleton_isPrefix (hfed.owned c conn howner hconn) (by rw [hfed.length, hmsg])
    · exact fun i node hi ↦ (ih i node hi).server hn hw.length_owners hserver

/-! ### What is acknowledged -/

/-- A Hello that the server accepts for a connection of the client is the first that it does, and it
carries the UUID of the connection. -/
def FirstHello (k : ℕ) (s : State M) (a : Action M) : Prop :=
  ∀ b ∈ s.serverAction a, ∀ x ∈ (s.server.op b).bound?,
    s.owners[x.1.tcpWriteActorHandle.connection]? = some k →
      x.1.udpSocketAddr = none ∧ x.2 = x.1.handshakeUuid

instance (k : ℕ) (s : State M) : DecidablePred (FirstHello k s) := fun a ↦
  inferInstanceAs (Decidable (∀ b ∈ s.serverAction a, ∀ x ∈ (s.server.op b).bound?, _))

theorem FirstHello.acceptsFirst {k c : ℕ} {a : Action M} (h : FirstHello k s a)
    (hc : s.owners[c]? = some k) {b : Server.Action M} (hb : s.serverAction a = some b) :
    AcceptsFirst s.server b c := by
  rintro x hx rfl
  exact h b hb x hx hc

/-- The acknowledgements that were commanded to a connection. -/
structure AcknowledgedOnce (H : List (Server.State M × Server.Action M)) (c : ℕ) : Prop where
  count : (commanded H c).countP TcpFromServer.isAcknowledgement ≤ 1
  /-- They answer a Hello with the UUID of the connection. -/
  hello : .udpHandshakeAcknowledged ∈ commanded H c →
    ∃ uuid addr, (issued H)[c]? = some uuid ∧ (uuid, addr) ∈ hellos H

/-- The server takes a step in which the Hello it accepts for the connection, if any, is the
first. -/
theorem AcknowledgedOnce.step {H : List (Server.State M × Server.Action M)}
    {t : Server.State M} {c : ℕ} (h : AcknowledgedOnce H c) (hrun : Server.Run H t)
    {b : Server.Action M} (hfirst : AcceptsFirst t b c) : AcknowledgedOnce (H ++ [(t, b)]) c where
  count := Server.Run.countP_acknowledged_le hrun hfirst h.count
  hello hack := by
    have hissued : ∀ {uuid}, (issued H)[c]? = some uuid →
        (issued (H ++ [(t, b)]))[c]? = some uuid := by
      intro uuid huuid
      obtain ⟨hlt, -⟩ := List.getElem?_eq_some_iff.1 huuid
      rw [Server.issued_append_singleton]
      exact (List.getElem?_append_left hlt).trans huuid
    rw [Server.commanded_append_singleton] at hack
    rcases List.mem_append.1 hack with hack | hack
    · obtain ⟨uuid, addr, huuid, hmem⟩ := h.hello hack
      refine ⟨uuid, addr, hissued huuid, ?_⟩
      rw [Server.hellos_append_singleton]
      exact List.mem_append_left _ hmem
    · obtain ⟨uuid, addr, huuid, hmem⟩ := Server.Run.hello_of_acknowledged hrun hfirst hack
      exact ⟨uuid, addr, hissued huuid, hmem⟩

/-- A connection that did not exist before the step has been sent its Welcome only. -/
theorem acknowledgedOnce_of_le {H : List (Server.State M × Server.Action M)} {t : Server.State M}
    (hrun : Server.Run H t) (b : Server.Action M) {c : ℕ}
    (hc : t.streams.length ≤ c) : AcknowledgedOnce (H ++ [(t, b)]) c := by
  have hnone : .udpHandshakeAcknowledged ∉ commanded (H ++ [(t, b)]) c := by
    rw [Server.commanded_append_singleton, Server.Run.commanded_of_le hrun hc,
      Server.commandedBy_of_le (Server.Run.numbered hrun) b hc, List.nil_append]
    split
    · simp
    · exact List.not_mem_nil
  refine ⟨?_, fun hack ↦ absurd hack hnone⟩
  rw [Server.countP_acknowledged_eq_zero hnone]
  exact Nat.zero_le 1

theorem Run.acknowledgedOnce (h : Run hist s) {k : ℕ} (hc : ∀ x ∈ hist, FirstHello k x.1 x.2) :
    ∀ c : ℕ, s.owners[c]? = some k → AcknowledgedOnce (serverHist hist) c := by
  induction h with
  | start h =>
    obtain ⟨profile, config, rfl⟩ := h
    intro c howner
    cases howner
  | @next hist s s' a h hs ih =>
    have ih := ih fun x hx ↦ hc x (List.mem_append_left _ hx)
    have hfirst := hc (s, a) (List.mem_append_right _ (List.mem_singleton_self _))
    have hrun := Run.server h
    have hlen := (Run.wired h).length_owners
    intro c howner
    rw [serverHist_append_singleton]
    cases hb : s.serverAction a with
    | none =>
      rw [Option.map_none, Option.toList_none, List.append_nil]
      rw [owners_eq_of_step hs hb] at howner
      exact ih c howner
    | some b =>
      rw [Option.map_some, Option.toList_some]
      rcases Nat.lt_or_ge c s.owners.length with hlt | hge
      · have hold : s.owners[c]? = some k := by
          obtain ⟨rest, hrest⟩ := owners_isPrefix_of_step hs
          rw [← howner, ← hrest, List.getElem?_append_left hlt]
        exact (ih c hold).step hrun (hfirst.acceptsFirst hold hb)
      · exact acknowledgedOnce_of_le hrun b (hlen ▸ hge)

/-! ### The claim of readiness -/

/-- What a client tells its application of the readiness of UDP. -/
structure ReadyOnce (hist : List (State M × Action M)) (s : State M) (k : ℕ) (node : Node M) :
    Prop where
  canSend_le_one : node.client.events.countP Client.Event.isCanSendUdpMessages ≤ 1
  canReceive_le_one : node.client.events.countP Client.Event.isCanReceiveUdpMessages ≤ 1
  /-- It can send only after the server has accepted a Hello with its UUID … -/
  canSend_after : .canSendUdpMessages ∈ node.client.events → ∃ (c : ℕ) (uuid : Uuid)
    (addr : SocketAddr), s.owners[c]? = some k ∧ (issued (serverHist hist))[c]? = some uuid ∧
      (uuid, addr) ∈ hellos (serverHist hist)
  /-- … and is given no message before it is told that it can receive. -/
  justified : EventLog.Justified Client.AfterCanReceive node.client.events

/-- **Each event of readiness is emitted once at most**, in a run in which the server accepts no
second Hello for the client's connection. -/
theorem Run.readyOnce (h : Run hist s) {k : ℕ} {node : Node M} (hnode : s.nodes[k]? = some node)
    (hc : ∀ x ∈ hist, FirstHello k x.1 x.2) : ReadyOnce hist s k node := by
  have hfed := Run.fed h k node hnode
  obtain ⟨frames, hd, -⟩ := (Run.wired h).frames k node hnode
  have hevents : node.client.events.Sublist node.client.announced := List.sublist_append_left _ _
  have harrived : node.client.events.countP Client.Event.isCanSendUdpMessages ≤
      node.client.arrivedTcp.countP TcpFromServer.isAcknowledgement :=
    calc node.client.events.countP Client.Event.isCanSendUdpMessages
        ≤ node.client.announced.countP Client.Event.isCanSendUdpMessages := hevents.countP_le
      _ ≤ node.client.takenTcp.countP TcpFromServer.isAcknowledgement := hfed.readiness.canSend
      _ ≤ node.client.arrivedTcp.countP TcpFromServer.isAcknowledgement :=
        (Client.State.takenTcp_isPrefix hd.tcpReader).sublist.countP_le
  have hcount : node.client.events.countP Client.Event.isCanSendUdpMessages ≤ 1 := by
    refine Nat.le_trans harrived ?_
    by_cases hk : k ∈ s.owners
    · obtain ⟨c, howner⟩ := List.mem_iff_getElem?.1 hk
      obtain ⟨hlt, -⟩ := List.getElem?_eq_some_iff.1 howner
      have hconn := List.getElem?_eq_getElem ((Run.wired h).length_owners ▸ hlt)
      have hsub := (hfed.owned c _ howner hconn).sublist.trans
        (Server.Run.handed_sublist_commanded (Run.server h) hconn)
      exact Nat.le_trans hsub.countP_le (Run.acknowledgedOnce h hc c howner).count
    · rw [hfed.unowned hk]
      exact Nat.zero_le 1
  refine ⟨hcount, ?_, fun hcan ↦ ?_, hfed.readiness.justified⟩
  · refine Nat.le_trans hevents.countP_le (Nat.le_trans hfed.readiness.canReceive ?_)
    exact Bool.toNat_le _
  · obtain ⟨c, howner, hack⟩ := Run.acknowledged_of_canSendUdp h hnode (Or.inr hcan)
    obtain ⟨uuid, addr, huuid, hmem⟩ := (Run.acknowledgedOnce h hc c howner).hello hack
    exact ⟨c, uuid, addr, howner, huuid, hmem⟩

/-- A client whose Hello arrives once. -/
theorem Run.readyOnce_of_hello : ∃ hist, ∃ s : State plainMessages, ∃ node, Run hist s ∧
    s.nodes[0]? = some node ∧ node.client.events = [.canSendUdpMessages] ∧
    ReadyOnce hist s 0 node := by
  have h : Run _ _ := TransitionSystem.run_of_exec (T := system plainMessages)
    (s := .start .release ⟨2⟩) (l := Action.connect 0 10 1 [] ++ Action.deliver 0 0 ++
      Action.sendUdp 0 ++ Action.datagram 0 0 [0] ++ Action.deliver 0 0 ++
      List.map (.client 0) [.send 0, .flush 0])
    ⟨.release, ⟨2⟩, rfl⟩ rfl
  exact ⟨_, _, _, h, rfl, rfl, Run.readyOnce h rfl (by decide)⟩

/-- The network duplicates the Hello, and the client announces twice that it can send. -/
theorem canSend_repeated : ¬ ∀ (hist : List (State plainMessages × Action plainMessages))
    (s : State plainMessages) (k : ℕ) (node : Node plainMessages), Run hist s →
    s.nodes[k]? = some node → ReadyOnce hist s k node := by
  intro hall
  have h : Run _ _ := TransitionSystem.run_of_exec (T := system plainMessages)
    (s := .start .release ⟨2⟩) (l := Action.connect 0 10 1 [] ++ Action.deliver 0 0 ++
      Action.sendUdp 0 ++ Action.datagram 0 0 [0] ++ Action.datagram 0 0 [0] ++
      Action.deliver 0 0 ++ List.map (.client 0) [.send 0, .flush 0] ++
      Action.deliver 0 0 ++ List.map (.client 0) [.send 0, .flush 0])
    ⟨.release, ⟨2⟩, rfl⟩ rfl
  exact absurd (hall _ _ 0 _ h rfl).canSend_le_one (by decide)

end NetStream.Network
