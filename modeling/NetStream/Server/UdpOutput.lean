import NetStream.Server.Announce
import NetStream.Server.Commands

/-!
# What the server sends over UDP

The broker has datagrams for its UDP write actor when it handles a message to a peer, an
announcement, a heartbeat, or a Hello, which it answers (`datagramsFor`). Nothing else reaches the
sink, and nothing out of order or twice (`Run.handedUdp_sublist`); what is missing has met a full
queue or a stopped actor. So what leaves the server has a reason, and its destination comes from the
record of a peer that was connected then (`Run.exists_reason_of_handed`).
-/

namespace NetStream

/-- An announcement offers its items, whatever the actor does meanwhile. -/
theorem WriteActor.Fed.feedAndFlush {T : Type} {w w' : WriteActor T} {l : List T} (h : Fed w l w')
    (items : List T) (schedule : List (List WriteActor.Step)) :
    Fed w (l ++ items) (w'.feedAndFlush items schedule) := by
  induction items generalizing w' l schedule with
  | nil =>
    rw [WriteActor.feedAndFlush, logged_flush]
    exact (h.steps _).offer .flush
  | cons item rest ih =>
    rw [WriteActor.feedAndFlush, logged_feed]
    exact List.append_assoc l [item] rest ▸ ih ((h.steps _).offer (.feed item)) _

namespace Server

variable {M : MessageTypes}

/-- A datagram for the peer at this address. -/
abbrev Datagram (M : MessageTypes) :=
  UdpFromServer M × SocketAddr

/-- The answer to a Hello from this address: the UUID is that of a connected peer. -/
def welcomeFor (s : State M) (handshakeUuid : Uuid) (addr : SocketAddr) : Option (Datagram M) :=
  ((s.peerHandshakeUuidToPeerUid.get? handshakeUuid).bind s.peers.get?).map fun _ ↦ (.welcome, addr)

/-- The datagrams that the broker has for its UDP write actor when it handles an item. -/
def datagramsFor (s : State M) (choice : Choice) : Incoming M → List (Datagram M)
  | .actorMessage (.toPeerUdp peerUid msg) =>
    (((s.peers.get? peerUid).bind Peer.udpSocketAddr).map fun addr ↦
      (.applicationLogic msg, addr)).toList
  | .actorMessage (.announceUdp msg) => announced s choice.order (.applicationLogic msg)
  | .udpReader (.streamItem (.ok (.hello handshakeUuid), addr)) =>
    (welcomeFor s handshakeUuid addr).toList
  | .udpHeartbeat => announced s choice.order .heartbeat
  | _ => []

/-- The datagrams that a step has for the UDP write actor. -/
def datagramsOf (s : State M) : Action M → List (Datagram M)
  | .next source choice =>
    ((s.incoming? (.next source choice)).map (datagramsFor s choice)).getD []
  | _ => []

/-- The datagrams that a run has for the UDP write actor, oldest first. -/
def offeredDatagrams (hist : List (State M × Action M)) : List (Datagram M) :=
  hist.flatMap fun x ↦ datagramsOf x.1 x.2

variable {s s' : State M}

/-! ### What the functions of the broker do -/

theorem fed_of_eq (h : s'.udpWriteActor = s.udpWriteActor) :
    s.udpWriteActor.Fed [] s'.udpWriteActor :=
  h ▸ .refl

theorem fed_panic (s : State M) (site : PanicSite) :
    s.udpWriteActor.Fed [] (s.panic site).udpWriteActor :=
  .dropHandle .refl

theorem fed_emit {t : State M} (h : t.udpWriteActor = s.udpWriteActor) (ev : Event M) :
    s.udpWriteActor.Fed [] (t.emit ev).udpWriteActor := by
  rw [← h]
  unfold State.emit
  split
  · exact fed_of_eq rfl
  · exact fed_panic t _

theorem fed_sendUdp (s : State M) (msg : UdpFromServer M) (addr : SocketAddr) :
    s.udpWriteActor.Fed [(msg, addr)] (s.sendUdp msg addr).udpWriteActor := by
  show s.udpWriteActor.Fed _ (s.udpWriteActor.logged (s.udpWriteActor.send (msg, addr)))
  rw [WriteActor.logged_send]
  exact .offer .refl (.send (msg, addr))

theorem udpWriteActor_announceTcp (s : State M) (order : List PeerUid) (msg : TcpFromServer M) :
    (announceTcp s order msg).udpWriteActor = s.udpWriteActor := by
  unfold announceTcp
  induction order generalizing s with
  | nil => rfl
  | cons p order ih =>
    rw [List.foldl_cons, ih]
    split <;> rfl

theorem udpWriteActor_insertPeer (s : State M) (p : PeerUid) (peer : Peer) :
    (s.insertPeer p peer).udpWriteActor = s.udpWriteActor := by
  unfold State.insertPeer
  dsimp only
  split <;> rfl

theorem fed_handleActorMessage (s : State M) (msg : Message M) (choice : Choice) :
    s.udpWriteActor.Fed (datagramsFor s choice (.actorMessage msg))
      (handleActorMessage s msg choice.order choice.schedule).udpWriteActor := by
  cases msg with
  | toPeerTcp p msg =>
    simp only [handleActorMessage]
    split <;> exact fed_of_eq rfl
  | toPeerUdp p msg =>
    simp only [handleActorMessage, datagramsFor]
    split
    · rename_i peer hpeer
      rw [hpeer, Option.bind_some]
      split
      · rename_i addr haddr
        rw [haddr]
        exact fed_sendUdp s _ addr
      · rename_i hnone
        rw [hnone]
        exact fed_of_eq rfl
    · rename_i hnone
      rw [hnone]
      exact fed_of_eq rfl
  | announceTcp msg => exact fed_of_eq (udpWriteActor_announceTcp s _ _)
  | announceUdp msg => exact WriteActor.Fed.refl.feedAndFlush _ _
  | getNumberOfConnectedPeers tx => exact fed_of_eq rfl

theorem fed_handleNewTcpConnection (s : State M) (tcpStream : TcpStream) (newV4 : Uuid) :
    s.udpWriteActor.Fed [] (handleNewTcpConnection s tcpStream newV4).udpWriteActor := by
  unfold handleNewTcpConnection
  split
  · exact fed_panic s _
  · split
    · exact fed_of_eq rfl
    · dsimp only
      split
      · exact fed_panic s _
      · refine fed_emit ?_ _
        exact udpWriteActor_insertPeer _ _ _

theorem fed_handleUdpReaderStreamItem (s : State M) (choice : Choice) (message : UdpToServer M)
    (addr : SocketAddr) :
    s.udpWriteActor.Fed (datagramsFor s choice (.udpReader (.streamItem (.ok message, addr))))
      (handleUdpReaderStreamItem s message addr).udpWriteActor := by
  cases message with
  | hello uuid =>
    simp only [handleUdpReaderStreamItem, datagramsFor, welcomeFor]
    split
    · rename_i hnone
      rw [hnone]
      exact fed_of_eq rfl
    · rename_i p hp
      rw [hp, Option.bind_some]
      split
      · rename_i hnone
        rw [hnone]
        exact fed_of_eq rfl
      · rename_i peer hpeer
        rw [hpeer]
        exact (fed_of_eq rfl).trans (fed_sendUdp _ .welcome addr)
  | applicationLogic msg =>
    simp only [handleUdpReaderStreamItem]
    split
    · exact fed_of_eq rfl
    · exact fed_emit rfl _

theorem fed_handleEndOfStream (s : State M) (kind : IncomingKind) :
    s.udpWriteActor.Fed [] (handleEndOfStream s kind).udpWriteActor := by
  unfold handleEndOfStream State.assertNotConnected
  repeat' split
  all_goals first
    | exact fed_panic s _
    | exact fed_of_eq rfl

/-- The body of the loop. -/
theorem fed_handleIncoming (s : State M) (incoming : Incoming M) (choice : Choice) :
    s.udpWriteActor.Fed (datagramsFor s choice incoming)
      (handleIncoming s incoming choice).udpWriteActor := by
  rcases incoming with
    msg | (_ | tcpStream) | ⟨⟨_ | ⟨msg⟩⟩, p⟩ | ⟨⟨⟨_ | message, addr⟩⟩⟩ | _ | kind
  · exact fed_handleActorMessage s msg choice
  · exact fed_of_eq rfl
  · exact fed_handleNewTcpConnection s tcpStream _
  · exact fed_of_eq rfl
  · exact fed_emit rfl _
  · simp only [handleIncoming]
    split <;> exact fed_of_eq rfl
  · exact fed_handleUdpReaderStreamItem s choice message addr
  · exact WriteActor.Fed.refl.feedAndFlush _ _
  · exact fed_handleEndOfStream s kind

theorem fed_dropPeer (s : State M) (p : PeerUid) (reason : DisconnectReason) :
    s.udpWriteActor.Fed [] (dropPeer s p reason).udpWriteActor := by
  unfold dropPeer
  split
  · exact fed_of_eq rfl
  · refine fed_emit ?_ _
    rfl

theorem fed_dropPeers {t : State M} (h : t.udpWriteActor = s.udpWriteActor)
    (l : List (PeerUid × DisconnectReason)) :
    s.udpWriteActor.Fed [] (dropPeers t l).udpWriteActor := by
  rw [← h]
  induction l generalizing s t with
  | nil => exact fed_of_eq rfl
  | cons x rest ih =>
    obtain ⟨p, reason⟩ := x
    have hdrop := fed_dropPeer t p reason
    simp only [dropPeers]
    split
    · exact hdrop
    · exact hdrop.trans (ih rfl)

theorem fed_loopTop (s : State M) : s.udpWriteActor.Fed [] (loopTop s).udpWriteActor := by
  unfold loopTop
  split
  · exact fed_panic s _
  · refine fed_dropPeers ?_ _
    rfl

/-! ### What a step and a run do -/

/-- Taking an item leaves the peers, their indexes and the UDP write actor alone. -/
theorem State.Taken.datagramsFor {incoming : Incoming M} (h : s.Taken incoming s')
    (choice : Choice) : s'.udpWriteActor = s.udpWriteActor ∧
      Server.datagramsFor s' choice incoming = Server.datagramsFor s choice incoming := by
  cases h <;> exact ⟨rfl, rfl⟩

/-- **What a step has for the UDP write actor.** -/
theorem State.fed_of_step {a : Action M} (hs : s.step a = some s') :
    s.udpWriteActor.Fed (datagramsOf s a) s'.udpWriteActor := by
  rcases State.step_cases hs with ⟨rfl, -, rfl⟩ | ⟨source, choice, incoming, t, rfl, -, hr, rfl⟩ |
    ⟨c, conn, conn', -, hmoves, rfl⟩ | ⟨st, reader, rfl, -, rfl⟩ | ⟨st, writer, rfl, hwriter, rfl⟩ |
    ⟨x, rfl, rfl⟩ | ⟨e, ch, sender, rfl, -, rfl⟩
  · exact fed_loopTop s
  · obtain ⟨hwriter, hdatagrams⟩ := (State.taken_of_nextIncoming hr).datagramsFor choice
    have hof : datagramsOf s (.next source choice) = Server.datagramsFor s choice incoming := by
      rw [datagramsOf, State.incoming?, hr]
      rfl
    have hfed := fed_handleIncoming { t with phase := .top } incoming choice
    rw [hof, ← hdatagrams, ← hwriter]
    exact hfed
  · cases hmoves <;> exact fed_of_eq rfl
  · exact fed_of_eq rfl
  · exact .step .refl hwriter
  · exact fed_of_eq rfl
  · exact fed_of_eq rfl

variable {hist : List (State M × Action M)}

theorem Run.fed (h : Run hist s) :
    WriteActor.spawnActor.Fed (offeredDatagrams hist) s.udpWriteActor := by
  induction h with
  | start h =>
    obtain ⟨profile, config, rfl⟩ := h
    exact .refl
  | @next hist s s' a _ hs ih =>
    rw [offeredDatagrams, List.flatMap_append, List.flatMap_singleton]
    exact ih.trans (State.fed_of_step hs)

/-- **The UDP sink is handed what the steps have for it**, in order and nothing twice. -/
theorem Run.handedUdp_sublist (h : Run hist s) :
    s.udpWriteActor.sink.handed.Sublist (offeredDatagrams hist) :=
  (Run.fed h).handed

/-! ### For whom a datagram is -/

/-- What an item has for a peer over UDP. -/
def Incoming.udpFor? (p : PeerUid) : Incoming M → Option (UdpFromServer M)
  | .actorMessage (.toPeerUdp peerUid msg) =>
    if peerUid = p then some (.applicationLogic msg) else none
  | .actorMessage (.announceUdp msg) => some (.applicationLogic msg)
  | .udpHeartbeat => some .heartbeat
  | _ => none

/-- An announced datagram goes to a connected peer. -/
theorem exists_peer_of_mem_announced {order : List PeerUid} {msg : UdpFromServer M}
    {x : Datagram M} (hx : x ∈ announced s order msg) :
    x.1 = msg ∧ ∃ p peer, s.peers.get? p = some peer ∧ peer.tcpSocketAddr = x.2 := by
  obtain ⟨peer, hpeer, rfl⟩ := List.mem_map.1 hx
  obtain ⟨p, -, hp⟩ := List.mem_filterMap.1 hpeer
  exact ⟨rfl, p, peer, hp, rfl⟩

/-- **A datagram is for a connected peer**, unless it answers a Hello: it goes to one of the addresses
in the peer's record. -/
theorem exists_peer_of_mem_datagramsFor {choice : Choice} {incoming : Incoming M} {x : Datagram M}
    (hx : x ∈ datagramsFor s choice incoming) (hne : x.1 ≠ .welcome) :
    ∃ p peer, s.peers.get? p = some peer ∧ incoming.udpFor? p = some x.1 ∧
      (peer.tcpSocketAddr = x.2 ∨ peer.udpSocketAddr = some x.2) := by
  unfold datagramsFor at hx
  split at hx
  · rename_i p msg
    obtain ⟨addr, haddr, rfl⟩ := Option.map_eq_some_iff.1 (Option.mem_toList.1 hx)
    obtain ⟨peer, hpeer, haddr⟩ := Option.bind_eq_some_iff.1 haddr
    exact ⟨p, peer, hpeer, if_pos rfl, Or.inr haddr⟩
  · obtain ⟨hmsg, p, peer, hpeer, haddr⟩ := exists_peer_of_mem_announced hx
    exact ⟨p, peer, hpeer, congrArg some hmsg.symm, Or.inl haddr⟩
  · obtain ⟨_, -, rfl⟩ := Option.map_eq_some_iff.1 (Option.mem_toList.1 hx)
    exact absurd rfl hne
  · obtain ⟨hmsg, p, peer, hpeer, haddr⟩ := exists_peer_of_mem_announced hx
    exact ⟨p, peer, hpeer, congrArg some hmsg.symm, Or.inl haddr⟩
  · cases hx

/-- **What left the server over UDP had a reason**: an item that the broker has handled, with the
peer connected. -/
theorem Run.exists_reason_of_handed (h : Run hist s) {x : Datagram M}
    (hx : x ∈ s.udpWriteActor.sink.handed) (hne : x.1 ≠ .welcome) :
    ∃ t a incoming p peer, (t, a) ∈ hist ∧ t.incoming? a = some incoming ∧
      t.peers.get? p = some peer ∧ incoming.udpFor? p = some x.1 ∧
      (peer.tcpSocketAddr = x.2 ∨ peer.udpSocketAddr = some x.2) := by
  obtain ⟨⟨t, a⟩, hmem, hof⟩ := List.mem_flatMap.1 (h.handedUdp_sublist.subset hx)
  cases a with
  | next source choice =>
    simp only [datagramsOf] at hof
    cases hi : t.incoming? (.next source choice) with
    | none =>
      rw [hi] at hof
      cases hof
    | some incoming =>
      rw [hi] at hof
      obtain ⟨p, peer, hpeer, hfor, haddr⟩ := exists_peer_of_mem_datagramsFor hof hne
      exact ⟨t, _, incoming, p, peer, hmem, hi, hpeer, hfor, haddr⟩
  | loopTop | task _ | env _ => cases hof

end Server

end NetStream
