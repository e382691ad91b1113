import NetStream.Server.System

/-!
# UDP announcements

An announcement, and likewise the heartbeat, feeds one datagram for each connected peer to the write
actor's queue and then flushes.

* Which datagrams: `announce_udp` addresses a peer by its **TCP** address, where a message to a
  single peer goes to the UDP address its Hello came from. The two agree exactly where the addresses
  do (`announceUdp_destinations_iff`).
* How many: the loop does not yield, and the queue holds 33 commands. Up to 32 peers all of it is
  queued, whatever the write actor does meanwhile; with more it is up to the actor, and if that does
  not run the rest is lost (`announceUdp_queued`).
-/

namespace NetStream

/-- What an announcement does to the write actor's channel: a `feed` for each item, and a
`flush`. -/
theorem WriteActor.feedAndFlush_eq_offerAll {T : Type} (w : WriteActor T) (items : List T)
    (schedule : List (List WriteActor.Step)) :
    w.feedAndFlush items schedule = w.offerAll (items.map .feed ++ [.flush]) schedule := by
  induction items generalizing w schedule with
  | nil => simp [feedAndFlush, offerAll]
  | cons item rest ih =>
    rw [feedAndFlush, List.map_cons, List.cons_append, offerAll, ← ih, logged_feed]

namespace Server

variable {M : MessageTypes} {s : State M}

/-- The datagrams of an announcement, in the order in which the map is iterated. -/
def announced (s : State M) (order : List PeerUid) (msg : UdpFromServer M) :
    List (UdpFromServer M × SocketAddr) :=
  (order.filterMap s.peers.get?).map fun peer ↦ (msg, peer.tcpSocketAddr)

/-- The commands of an announcement: one `feed` for each peer, and the final `flush`. -/
def announcement (s : State M) (order : List PeerUid) (msg : UdpFromServer M) :
    List (WriteActor.ActorMessage (UdpFromServer M × SocketAddr)) :=
  (announced s order msg).map .feed ++ [.flush]

theorem udpWriteActor_announceUdp (s : State M) (order : List PeerUid)
    (schedule : List (List WriteActor.Step)) (msg : UdpFromServer M) :
    (announceUdp s order schedule msg).udpWriteActor =
      s.udpWriteActor.offerAll (announcement s order msg) schedule :=
  WriteActor.feedAndFlush_eq_offerAll _ _ _

theorem length_announced {order : List PeerUid} (ho : s.peers.Enumerates order)
    (msg : UdpFromServer M) : (announced s order msg).length = s.peers.len := by
  rw [announced, List.length_map, ho.length_filterMap_get?]

theorem length_announcement {order : List PeerUid} (ho : s.peers.Enumerates order)
    (msg : UdpFromServer M) : (announcement s order msg).length = s.peers.len + 1 := by
  rw [announcement, List.length_append, List.length_map, length_announced ho,
    List.length_singleton]

/-! ### How much of it is queued -/

/-- All commands of the announcement are accepted by the channel. -/
def AnnouncedToAll (s : State M) (order : List PeerUid) (schedule : List (List WriteActor.Step))
    (msg : UdpFromServer M) : Prop :=
  (announceUdp s order schedule msg).udpWriteActor.actorMsg.sent =
    s.udpWriteActor.actorMsg.sent ++ announcement s order msg

/-- With room in the queue for all of it, an announcement is queued whole. -/
theorem announcedToAll_of_room {order : List PeerUid} (ho : s.peers.Enumerates order)
    {schedule : List (List WriteActor.Step)} {msg : UdpFromServer M}
    (hroom : s.udpWriteActor.actorMsg.queue.length + (s.peers.len + 1) ≤ 33)
    (halive : (announceUdp s order schedule msg).udpWriteActor.actorMsg.receiverAlive = true) :
    AnnouncedToAll s order schedule msg := by
  unfold AnnouncedToAll
  rw [udpWriteActor_announceUdp] at halive ⊢
  refine WriteActor.sent_offerAll halive ?_
  rw [length_announcement ho]
  exact hroom

/-- While the write actor does not run, the queue takes what fits into it. -/
theorem sent_announceUdp_nil (s : State M) (order : List PeerUid) (msg : UdpFromServer M)
    (halive : s.udpWriteActor.actorMsg.receiverAlive = true) :
    (announceUdp s order [] msg).udpWriteActor.actorMsg.sent = s.udpWriteActor.actorMsg.sent ++
      (announcement s order msg).take (33 - s.udpWriteActor.actorMsg.queue.length) := by
  rw [udpWriteActor_announceUdp]
  exact WriteActor.sent_offerAll_nil halive

theorem receiverAlive_announceUdp_nil (order : List PeerUid) (msg : UdpFromServer M)
    (halive : s.udpWriteActor.actorMsg.receiverAlive = true) :
    (announceUdp s order [] msg).udpWriteActor.actorMsg.receiverAlive = true := by
  rw [udpWriteActor_announceUdp]
  exact WriteActor.receiverAlive_offerAll_nil halive

/-- **How much of an announcement is queued**, where the write actor is alive and its queue empty:
all of it, whatever the actor does short of ending, exactly if there are at most 32 peers; and the
first 33 commands if it does not run. -/
theorem announceUdp_queued {order : List PeerUid} (ho : s.peers.Enumerates order)
    (msg : UdpFromServer M) (halive : s.udpWriteActor.actorMsg.receiverAlive = true)
    (hempty : s.udpWriteActor.actorMsg.queue = []) :
    ((∀ schedule,
        (announceUdp s order schedule msg).udpWriteActor.actorMsg.receiverAlive = true →
          AnnouncedToAll s order schedule msg) ↔ s.peers.len ≤ 32) ∧
      (announceUdp s order [] msg).udpWriteActor.actorMsg.sent = s.udpWriteActor.actorMsg.sent ++
        (announcement s order msg).take 33 := by
  have hnil := sent_announceUdp_nil s order msg halive
  rw [hempty] at hnil
  refine ⟨⟨fun hall ↦ ?_, fun hle schedule hend ↦ ?_⟩, hnil⟩
  · have heq := (hall [] (receiverAlive_announceUdp_nil order msg halive)).symm.trans hnil
    have hlen := congrArg List.length (List.append_cancel_left heq)
    rw [List.length_take, length_announcement ho, List.length_nil] at hlen
    omega
  · refine announcedToAll_of_room ho ?_ hend
    rw [hempty, List.length_nil]
    omega

/-- Two peers and an idle write actor. -/
theorem announceUdp_queued_two : ∃ hist, ∃ s : State plainMessages, Run hist s ∧ s.peers.len = 2 ∧
    ∀ schedule, (announceUdp s [.ofNat 1, .ofNat 0] schedule
        .heartbeat).udpWriteActor.actorMsg.receiverAlive = true →
      AnnouncedToAll s [.ofNat 1, .ofNat 0] schedule .heartbeat := by
  have h : Run _ _ := TransitionSystem.run_of_exec (T := system plainMessages)
    (s := .start .dev ⟨2⟩) (l := Action.connect 1 1 [] ++ Action.connect 2 2 [0])
    ⟨.dev, ⟨2⟩, rfl⟩ rfl
  exact ⟨_, _, h, rfl, (announceUdp_queued (by decide) .heartbeat rfl rfl).1.2 (by decide)⟩

set_option maxRecDepth 20000 in
/-- **An announcement that does not reach everybody.** With 33 peers and a write actor that does not
run, the final `flush` is lost; with more peers, datagrams are. -/
theorem announceUdp_not_to_all : ∃ hist, ∃ s : State plainMessages, ∃ order, Run hist s ∧
    s.peers.Enumerates order ∧ s.peers.len = 33 ∧ s.peers.len ≤ s.config.maxConnections ∧
    s.udpWriteActor.actorMsg.receiverAlive = true ∧ s.udpWriteActor.actorMsg.queue = [] ∧
    ¬ AnnouncedToAll s order [] .heartbeat := by
  have h : Run _ _ := TransitionSystem.run_of_exec (T := system plainMessages)
    (s := .start .dev ⟨100⟩)
    (l := (List.range 33).flatMap fun k ↦ Action.connect k k (List.range k))
    ⟨.dev, ⟨100⟩, rfl⟩ rfl
  refine ⟨_, _, (List.range 33).map PeerUid.ofNat, h, by decide, by decide, by decide, rfl, rfl,
    fun hall ↦ ?_⟩
  -- 34 commands would have been queued, and there is room for 33
  have hsent := hall.symm.trans (sent_announceUdp_nil _ _ _ rfl)
  have hlen := congrArg List.length (List.append_cancel_left hsent)
  rw [List.length_take, length_announcement (by decide)] at hlen
  exact absurd hlen (by decide)

/-! ### Which datagrams are queued -/

/-- The datagrams queued between two states, oldest first. -/
def queuedUdp (s s' : State M) : List (UdpFromServer M × SocketAddr) :=
  WriteActor.items (s'.udpWriteActor.actorMsg.sent.drop s.udpWriteActor.actorMsg.sent.length)

/-- The TCP addresses of the connected peers. -/
def tcpAddresses (s : State M) : Multiset SocketAddr :=
  s.peers.values.map Peer.tcpSocketAddr

/-- The UDP addresses of the connected peers with a completed handshake. -/
def udpDestinations (s : State M) : Multiset SocketAddr :=
  s.peers.values.filterMap Peer.udpSocketAddr

/-- A message over UDP to each peer by itself. -/
def toEachPeerUdp (s : State M) (order : List PeerUid) (msg : M.UdpFromServer) : State M :=
  order.foldl (fun s p ↦ handleActorMessage s (.toPeerUdp p msg) [] []) s

theorem queuedUdp_eq {s' : State M}
    {msgs : List (WriteActor.ActorMessage (UdpFromServer M × SocketAddr))}
    (h : s'.udpWriteActor.actorMsg.sent = s.udpWriteActor.actorMsg.sent ++ msgs) :
    queuedUdp s s' = WriteActor.items msgs := by
  rw [queuedUdp, h, List.drop_left]

/-- An announcement queues a datagram for the TCP address of every peer. -/
theorem queuedUdp_announceUdp {order : List PeerUid} (ho : s.peers.Enumerates order)
    {schedule : List (List WriteActor.Step)} {msg : UdpFromServer M}
    (hroom : s.udpWriteActor.actorMsg.queue.length + (s.peers.len + 1) ≤ 33)
    (halive : (announceUdp s order schedule msg).udpWriteActor.actorMsg.receiverAlive = true) :
    (queuedUdp s (announceUdp s order schedule msg) : Multiset _) =
      (tcpAddresses s).map fun addr ↦ (msg, addr) := by
  have hfeeds : WriteActor.items (announcement s order msg) = announced s order msg := by
    rw [announcement, WriteActor.items_append,
      WriteActor.items_map_of_item? (g := id) fun _ ↦ rfl, List.map_id]
    exact List.append_nil _
  rw [queuedUdp_eq (announcedToAll_of_room ho hroom halive), hfeeds, announced, tcpAddresses,
    ← ho.filterMap_get?, Multiset.map_coe, Multiset.map_coe, List.map_map]
  rfl

/-- The commands of a message to each peer by itself. -/
def messagesToEach (s : State M) (order : List PeerUid) (msg : M.UdpFromServer) :
    List (WriteActor.ActorMessage (UdpFromServer M × SocketAddr)) :=
  ((order.filterMap s.peers.get?).filterMap Peer.udpSocketAddr).map fun addr ↦
    .send (.applicationLogic msg, addr)

theorem length_messagesToEach_le {order : List PeerUid} (ho : s.peers.Enumerates order)
    (msg : M.UdpFromServer) : (messagesToEach s order msg).length ≤ s.peers.len := by
  rw [messagesToEach, List.length_map, ← ho.length_filterMap_get?]
  exact List.length_filterMap_le _ _

theorem udpWriteActor_toEachPeerUdp (s : State M) (order : List PeerUid)
    (msg : M.UdpFromServer) :
    (toEachPeerUdp s order msg).udpWriteActor =
      s.udpWriteActor.offerAll (messagesToEach s order msg) [] := by
  induction order generalizing s with
  | nil => rfl
  | cons p rest ih =>
    rw [toEachPeerUdp, List.foldl_cons]
    refine (ih _).trans ?_
    cases hp : s.peers.get? p with
    | none => simp only [messagesToEach, handleActorMessage, hp, List.filterMap_cons_none hp]
    | some peer =>
      cases haddr : peer.udpSocketAddr with
      | none =>
        simp only [messagesToEach, handleActorMessage, hp, haddr, List.filterMap_cons_some hp,
          List.filterMap_cons_none haddr]
      | some addr =>
        simp only [messagesToEach, handleActorMessage, hp, haddr, List.filterMap_cons_some hp,
          List.filterMap_cons_some haddr, List.map_cons]
        show (s.udpWriteActor.logged _).offerAll _ [] = _
        rw [WriteActor.logged_send]
        rfl

/-- A message to each peer by itself queues a datagram for the UDP address of every peer with a
completed handshake, and for no other address. -/
theorem queuedUdp_toEachPeerUdp {order : List PeerUid} (ho : s.peers.Enumerates order)
    (msg : M.UdpFromServer)
    (hroom : s.udpWriteActor.actorMsg.queue.length + (s.peers.len + 1) ≤ 33)
    (halive : s.udpWriteActor.actorMsg.receiverAlive = true) :
    (queuedUdp s (toEachPeerUdp s order msg) : Multiset (UdpFromServer M × SocketAddr)) =
      (udpDestinations s).map fun addr ↦ (UdpFromServer.applicationLogic msg, addr) := by
  have hlen := length_messagesToEach_le ho msg
  have hsent := WriteActor.sent_offerAll (w := s.udpWriteActor)
    (WriteActor.receiverAlive_offerAll_nil halive)
    (show s.udpWriteActor.actorMsg.queue.length + (messagesToEach s order msg).length ≤ 33 by omega)
  rw [← udpWriteActor_toEachPeerUdp] at hsent
  rw [queuedUdp_eq hsent, messagesToEach,
    WriteActor.items_map_of_item? (g := fun addr ↦ (UdpFromServer.applicationLogic msg, addr)) fun _ ↦ rfl,
    udpDestinations, ← ho.filterMap_get?,
    Multiset.filterMap_coe, Multiset.map_coe]

/-- Datagrams with one payload are the same exactly if the addresses are. -/
theorem map_payload_eq_iff {msg : UdpFromServer M} {A B : Multiset SocketAddr} :
    (A.map fun addr ↦ (msg, addr)) = (B.map fun addr ↦ (msg, addr)) ↔ A = B :=
  (Multiset.map_injective (Prod.mk_right_injective msg)).eq_iff

/-- **When announcements reach the peers where single messages do.** With room in the queue and the
write actor alive, the datagrams of an announcement are those of a message to each peer by itself
exactly if the TCP addresses of the connected peers are, up to order, the UDP addresses of their
completed handshakes; and so for a heartbeat with its own payload. The messages to each peer go to
those UDP addresses in any case. -/
theorem announceUdp_destinations_iff {order order' : List PeerUid} (ho : s.peers.Enumerates order)
    (ho' : s.peers.Enumerates order') (schedule : List (List WriteActor.Step)) (newV4 : Uuid)
    (msg : M.UdpFromServer)
    (hroom : s.udpWriteActor.actorMsg.queue.length + (s.peers.len + 1) ≤ 33)
    (halive : ∀ msg, (announceUdp s order schedule msg).udpWriteActor.actorMsg.receiverAlive =
      true) :
    ((queuedUdp s (handleActorMessage s (.announceUdp msg) order schedule) :
        Multiset (UdpFromServer M × SocketAddr)) = queuedUdp s (toEachPeerUdp s order' msg) ↔
      tcpAddresses s = udpDestinations s) ∧
    ((queuedUdp s (handleIncoming s .udpHeartbeat ⟨newV4, order, schedule⟩) :
        Multiset (UdpFromServer M × SocketAddr)) =
          (udpDestinations s).map (fun addr ↦ (UdpFromServer.heartbeat, addr)) ↔
      tcpAddresses s = udpDestinations s) ∧
    (queuedUdp s (toEachPeerUdp s order' msg) : Multiset (UdpFromServer M × SocketAddr)) =
      (udpDestinations s).map fun addr ↦ (UdpFromServer.applicationLogic msg, addr) := by
  have hstart : s.udpWriteActor.actorMsg.receiverAlive = true := by
    have hend := halive (.applicationLogic msg)
    rw [udpWriteActor_announceUdp] at hend
    exact WriteActor.receiverAlive_of_offerAll hend
  have heach := queuedUdp_toEachPeerUdp ho' msg hroom hstart
  refine ⟨?_, ?_, heach⟩
  · rw [heach]
    show (queuedUdp s (announceUdp s order schedule (.applicationLogic msg)) :
      Multiset (UdpFromServer M × SocketAddr)) = _ ↔ _
    rw [queuedUdp_announceUdp ho hroom (halive _), map_payload_eq_iff]
  · show (queuedUdp s (announceUdp s order schedule .heartbeat) :
      Multiset (UdpFromServer M × SocketAddr)) = _ ↔ _
    rw [queuedUdp_announceUdp ho hroom (halive _), map_payload_eq_iff]

/-- A peer whose UDP address is its TCP address. -/
theorem announceUdp_destinations_iff_of_loopback : ∃ hist, ∃ s : State plainMessages,
    Run hist s ∧ udpDestinations s = {address 1} ∧
    (queuedUdp s (handleActorMessage s (.announceUdp ()) [.ofNat 0] []) :
      Multiset (UdpFromServer plainMessages × SocketAddr)) =
        queuedUdp s (toEachPeerUdp s [.ofNat 0] ()) := by
  have h : Run _ _ := TransitionSystem.run_of_exec (T := system plainMessages)
    (s := .start .dev ⟨1⟩) (l := Action.connect 1 1 [] ++
      Action.datagram (.ok (.hello (uuid 1))) 1 [0])
    ⟨.dev, ⟨1⟩, rfl⟩ rfl
  refine ⟨_, _, h, by decide, ?_⟩
  refine Iff.mpr (And.left (announceUdp_destinations_iff (M := plainMessages) ?_ ?_ [] (uuid 0) () ?_ ?_)) ?_
  · decide
  · decide
  · decide
  · exact fun msg ↦ receiverAlive_announceUdp_nil _ msg rfl
  · decide

/-- **An announcement to the wrong address.** A peer behind an address translation connects from
address 1 and says Hello from address 10: a message to it alone goes to 10, an announcement to 1. -/
theorem announceUdp_to_tcp_address : ∃ hist, ∃ s : State plainMessages, Run hist s ∧
    s.peers.Enumerates [.ofNat 0] ∧
    s.udpWriteActor.actorMsg.queue.length + (s.peers.len + 1) ≤ 33 ∧
    (queuedUdp s (handleActorMessage s (.announceUdp ()) [.ofNat 0] [])).map Prod.snd =
      [address 1] ∧
    (queuedUdp s (toEachPeerUdp s [.ofNat 0] ())).map Prod.snd = [address 10] ∧
    (queuedUdp s (handleActorMessage s (.announceUdp ()) [.ofNat 0] []) :
      Multiset (UdpFromServer plainMessages × SocketAddr)) ≠
        queuedUdp s (toEachPeerUdp s [.ofNat 0] ()) := by
  have h : Run _ _ := TransitionSystem.run_of_exec (T := system plainMessages)
    (s := .start .dev ⟨1⟩) (l := Action.connect 1 1 [] ++
      Action.datagram (.ok (.hello (uuid 1))) 10 [0])
    ⟨.dev, ⟨1⟩, rfl⟩ rfl
  refine ⟨_, _, h, by decide, by decide, rfl, rfl, fun heq ↦ ?_⟩
  have haddr := congrArg (Multiset.map Prod.snd) heq
  exact absurd haddr (by decide)

end Server

end NetStream
