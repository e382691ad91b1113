import NetStream.Network.Route
import NetStream.Server.Handshake

/-!
# The UDP handshake among honest clients

By the route of the UUIDs (`Run.wired`) the accepted Hellos are honest, with the address of the
owner of a connection as its home, and the server's side of the handshake applies
(`Server.Run.udpSound_of_honest` and what goes with it): server and clients agree on who is where.

A uid stands for one connection as long as the counter has not wrapped around. It never does where
overflow is checked; where it is not, the agreement may break with connection number `2 ^ 64`
(`agreement_fails_after_wraparound`, in `Network.Wraparound`).
-/

namespace NetStream.Network

open Server (PeerUid commanded issued HonestHellos plainMessages)

variable {M : MessageTypes} {hist : List (State M × Action M)} {s : State M}

/-! ### The owners of the connections -/

/-- The client with this number owns a connection with this uid. -/
def State.Owns (s : State M) (k : ℕ) (p : PeerUid) : Prop :=
  ∃ (c : ℕ) (conn : Server.Connection M), s.server.streams[c]? = some conn ∧ conn.peerUid = p ∧
    s.owners[c]? = some k

/-- The address of the client that owns a connection. -/
def State.home (s : State M) (c : ℕ) : SocketAddr :=
  match s.owners[c]? with
  | none => .v4 0 0
  | some k => (s.nodes[k]?.map Node.udpSocketAddr).getD (.v4 0 0)

theorem State.home_eq {c k : ℕ} {node : Node M} (howner : s.owners[c]? = some k)
    (hnode : s.nodes[k]? = some node) : s.home c = node.udpSocketAddr := by
  simp only [home, howner, hnode, Option.map_some, Option.getD_some]

theorem Wired.exists_owner {uuids : List Uuid} {cmds : ℕ → List (TcpFromServer M)}
    {arrivals : List (Except UdpError (UdpToServer M) × SocketAddr)}
    (h : Wired s uuids cmds arrivals) {c : ℕ} (hc : c < s.server.streams.length) :
    ∃ k node, s.owners[c]? = some k ∧ s.nodes[k]? = some node := by
  rw [← h.length_owners] at hc
  obtain ⟨node, hnode, -⟩ := h.offered s.owners[c] (List.getElem_mem hc)
  exact ⟨_, node, List.getElem?_eq_getElem hc, hnode⟩

/-- **Honest clients say honest Hellos.** -/
theorem Run.honestHellos (h : Run hist s) : HonestHellos (serverHist hist) s.home where
  home_inj c c' hc hc' heq := by
    rw [Server.Run.length_issued h.server] at hc hc'
    obtain ⟨k, node, howner, hnode⟩ := h.wired.exists_owner hc
    obtain ⟨k', node', howner', hnode'⟩ := h.wired.exists_owner hc'
    rw [State.home_eq howner hnode, State.home_eq howner' hnode'] at heq
    have hk : k = k' := by
      obtain ⟨hlt, -⟩ := List.getElem?_eq_some_iff.1 hnode
      refine (List.getElem?_inj (by simpa using hlt) h.wired.addrs_nodup).1 ?_
      rw [List.getElem?_map, List.getElem?_map, hnode, hnode', Option.map_some, heq,
        Option.map_some]
    subst hk
    obtain ⟨hlt, -⟩ := List.getElem?_eq_some_iff.1 howner
    exact (List.getElem?_inj hlt h.wired.owners_nodup).1 (howner.trans howner'.symm)
  from_home x hx := by
    obtain ⟨c, k, node, huuid, howner, hnode, haddr⟩ :=
      h.wired.helloes x.1 x.2 (Server.Run.mem_datagrams_of_hello h.server hx)
    exact ⟨c, huuid, haddr.trans (State.home_eq howner hnode).symm⟩

/-- Each uid has been given to one connection at most: the counter has not wrapped around. -/
def State.UidsUnique (s : State M) : Prop :=
  s.server.profile.overflowChecks = true ∨ s.server.streams.length ≤ 2 ^ 64

theorem Run.length_streams_le (h : Run hist s) (huids : s.UidsUnique) :
    s.server.streams.length ≤ 2 ^ 64 :=
  Server.Run.length_streams_le h.server huids

/-- The owner of a connected peer is that of the connection in its record. -/
theorem Run.owns_iff (h : Run hist s) (huids : s.UidsUnique) {p : PeerUid} {peer : Server.Peer}
    (hp : s.server.peers.get? p = some peer) {k : ℕ} :
    s.Owns k p ↔ s.owners[peer.tcpWriteActorHandle.connection]? = some k := by
  have hle := h.length_streams_le huids
  obtain ⟨m, hm, rfl, -, hwrite⟩ := (Server.Run.numbered h.server).handles p peer hp
  rw [Server.State.length_connections] at hm
  rw [hwrite]
  constructor
  · rintro ⟨c, conn, hconn, huid, howner⟩
    obtain ⟨hlt, -⟩ := List.getElem?_eq_some_iff.1 hconn
    rw [Server.State.peerUid_eq (Server.Run.numbered h.server) hconn] at huid
    obtain rfl := PeerUid.ofNat_inj (by omega) (by omega) huid
    exact howner
  · intro howner
    have hconn := List.getElem?_eq_getElem hm
    exact ⟨m, _, hconn, Server.State.peerUid_eq (Server.Run.numbered h.server) hconn, howner⟩

/-! ### The agreement -/

/-- The client may send messages over UDP: the acknowledgement of its Hello has arrived, or it has
told its application so. -/
def CanSendUdp (client : Client.State M) : Prop :=
  .ok .udpHandshakeAcknowledged ∈ client.tcpReadActor.stream.sent ∨
    .canSendUdpMessages ∈ client.events

/-- The item that an action makes the broker handle. -/
def State.incoming? (s : State M) (a : Action M) : Option (Server.Incoming M) :=
  (s.serverAction a).bind s.server.incoming?

/-- **The agreement** of a server and its clients on who is where. -/
structure Agreement (s : State M) : Prop where
  /-- Each connected peer has one owner. -/
  owned : ∀ p ∈ s.server.peers.keys, ∃ k node, s.Owns k p ∧ s.nodes[k]? = some node ∧
    ∀ k', s.Owns k' p → k' = k
  /-- If an address is recorded for it, it is the owner's. -/
  recorded : ∀ p peer k node, s.server.peers.get? p = some peer → s.Owns k p →
    s.nodes[k]? = some node →
    peer.udpSocketAddr = none ∨ peer.udpSocketAddr = some node.udpSocketAddr
  /-- An address resolves only to a connected peer, which the client at the address owns. -/
  indexed : ∀ addr p, s.server.peerUdpSocketAddrToPeerUid.get? addr = some p →
    p ∈ s.server.peers.keys ∧
      ∃ k node, s.Owns k p ∧ s.nodes[k]? = some node ∧ node.udpSocketAddr = addr
  /-- Once the owner may send, each of its messages that the broker takes is emitted as one of the
  peer, as long as that is connected. -/
  emitted : ∀ p k node, p ∈ s.server.peers.keys → s.Owns k p → s.nodes[k]? = some node →
    CanSendUdp node.client → ∀ a s' m, s.step a = some s' →
    s.incoming? a = some (.udpReader (.streamItem (.ok (.applicationLogic m), node.udpSocketAddr))) →
    s'.server.events = s.server.events ++
      if s.server.eventSender.receiverAlive then [.udpMessage ⟨p, m⟩] else []

/-- What lets a client send was commanded to its connection. -/
theorem Run.acknowledged_of_canSendUdp (h : Run hist s) {k : ℕ} {node : Node M}
    (hnode : s.nodes[k]? = some node) (hcan : CanSendUdp node.client) :
    ∃ c : ℕ, s.owners[c]? = some k ∧
      .udpHandshakeAcknowledged ∈ commanded (serverHist hist) c := by
  obtain ⟨arrived, hderived, hmsgs⟩ := h.wired.frames k node hnode
  refine hmsgs _ ?_
  rcases hcan with hack | hevent
  · rw [← hderived.input]
    exact hack
  · exact hderived.acknowledged_of_canSend hevent

/-- **The UDP handshake among honest clients.** In every reachable state in which the uids are
unique, server and clients agree. -/
theorem Run.handshakeAgreement (h : Run hist s) (hfresh : (issued (serverHist hist)).Nodup)
    (huids : s.UidsUnique) : Agreement s where
  owned p hp := by
    obtain ⟨peer, hpeer⟩ := HashMap.mem_keys_iff.1 hp
    obtain ⟨c, hc, -, -, hwrite⟩ := (Server.Run.numbered h.server).handles p peer hpeer
    rw [Server.State.length_connections] at hc
    obtain ⟨k, node, howner, hnode⟩ := h.wired.exists_owner hc
    have howns : ∀ k', s.Owns k' p ↔ s.owners[c]? = some k' := by
      intro k'
      rw [h.owns_iff huids hpeer, hwrite]
    refine ⟨k, node, (howns k).2 howner, hnode, fun k' hk' ↦ ?_⟩
    exact Option.some.inj (((howns k').1 hk').symm.trans howner)
  recorded p peer k node hpeer howns hnode := by
    cases haddr : peer.udpSocketAddr with
    | none => exact Or.inl rfl
    | some addr =>
      have hhome := Server.Run.recorded_home h.server (h.length_streams_le huids) hfresh
        h.honestHellos hpeer haddr
      rw [State.home_eq ((h.owns_iff huids hpeer).1 howns) hnode] at hhome
      exact Or.inr (congrArg some hhome)
  indexed addr p hidx := by
    have hle := h.length_streams_le huids
    obtain ⟨peer, hpeer, haddr⟩ :=
      Server.Run.udpSound_of_honest h.server hle hfresh h.honestHellos addr p hidx
    have hhome := Server.Run.recorded_home h.server hle hfresh h.honestHellos hpeer haddr
    obtain ⟨c, hc, -, -, hwrite⟩ := (Server.Run.numbered h.server).handles p peer hpeer
    rw [Server.State.length_connections] at hc
    obtain ⟨k, node, howner, hnode⟩ := h.wired.exists_owner hc
    rw [hwrite, State.home_eq howner hnode] at hhome
    refine ⟨HashMap.mem_keys_of_get? hpeer, k, node, ?_, hnode, hhome.symm⟩
    rw [h.owns_iff huids hpeer, hwrite]
    exact howner
  emitted p k node hp howns hnode hcan a s' m hs hi := by
    obtain ⟨peer, hpeer⟩ := HashMap.mem_keys_iff.1 hp
    obtain ⟨b, hb, hi⟩ := Option.bind_eq_some_iff.1 hi
    have howner := (h.owns_iff huids hpeer).1 howns
    -- the acknowledgement was for the connection of the peer, the only one of its client
    obtain ⟨c, hc, hack⟩ := h.acknowledged_of_canSendUdp hnode hcan
    obtain ⟨hlt, -⟩ := List.getElem?_eq_some_iff.1 hc
    obtain rfl := (List.getElem?_inj hlt h.wired.owners_nodup).1 (hc.trans howner.symm)
    have hidx := Server.Run.resolves_of_acknowledged h.server (h.length_streams_le huids) hfresh
      h.honestHellos hpeer hack
    rw [State.home_eq howner hnode] at hidx
    exact Server.State.events_of_udpMessage (server_step hs hb) hi hidx

/-- Two clients, the first of which is heard over UDP; its Hello arrives twice. -/
theorem Run.handshakeAgreement_of_two : ∃ hist, ∃ s : State plainMessages, Run hist s ∧
    s.server.events = [.newPeer ⟨.ofNat 0⟩, .newPeer ⟨.ofNat 1⟩, .udpMessage ⟨.ofNat 0, ()⟩] ∧
    Agreement s := by
  have h : Run _ _ := TransitionSystem.run_of_exec (T := system plainMessages)
    (s := .start .release ⟨2⟩) (l := Action.connect 0 10 1 [] ++ Action.deliver 0 0 ++
      Action.sendUdp 0 ++ Action.connect 1 11 2 [0] ++
      Action.datagram 0 0 [0, 1] ++ Action.deliver 0 0 ++
      List.map (.client 0) [.send 0, .flush 0, .env (.sendMessageUdp 0 ()), .next .actorMessage 0] ++
      Action.sendUdp 0 ++ Action.datagram 0 0 [0, 1] ++ Action.datagram 0 1 [0, 1])
    ⟨.release, ⟨2⟩, rfl⟩ rfl
  exact ⟨_, _, h, rfl, Run.handshakeAgreement h (by decide) (Or.inr (by decide))⟩

end NetStream.Network
