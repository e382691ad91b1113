import NetStream.Server.System
import NetStream.Server.Registry

/-!
# The server refines the registry

`registry_step` and `enabled_op`: every step of the server performs on the registry exactly the
operation that `State.op` reads off the state before the step and the action, and that operation is
possible there, whatever the step does to channels and IO actors. So a run of the server is a run of
the registry (`Run.registry`), and what is proved of the registry holds of the server.
-/

namespace NetStream.Server

variable {M : MessageTypes}

namespace Registry

/-- The operation that the handling of an item performs. -/
def incomingOp (r : Registry M) (incoming : Incoming M) (newV4 : Uuid) : Op M :=
  match incoming with
  | .tcpListener (.ok tcpStream) =>
    match tcpStream.peerAddr with
    | .error _ => .idle
    | .ok addr =>
      if r.peers.len ≥ r.config.maxConnections then .idle
      else
        match r.nextPeerUid.increment r.profile with
        | none => .idle
        | some nextPeerUid => .accept addr newV4 nextPeerUid
  | .tcpReader (.streamItem (.ok (.applicationLogic msg))) peerUid => .tcpMessage ⟨peerUid, msg⟩
  | .udpReader (.streamItem (.ok (.hello handshakeUuid), socketAddr)) =>
    match r.handshakeIndex.get? handshakeUuid with
    | none => .idle
    | some peerUid =>
      match r.peers.get? peerUid with
      | none => .idle
      | some peer => .bind peerUid peer handshakeUuid socketAddr
  | .udpReader (.streamItem (.ok (.applicationLogic msg), socketAddr)) =>
    match r.udpIndex.get? socketAddr with
    | none => .idle
    | some peerUid => .udpMessage ⟨peerUid, msg⟩ socketAddr
  | _ => .idle

/-! ### Which item performs an operation -/

theorem incomingOp_eq_tcpMessage_iff {r : Registry M} {incoming : Incoming M} {newV4 : Uuid}
    {msg : PeerMessage M.TcpToServer} :
    r.incomingOp incoming newV4 = .tcpMessage msg ↔
      incoming = .tcpReader (.streamItem (.ok (.applicationLogic msg.message))) msg.from_ := by
  constructor
  · intro h
    unfold incomingOp at h
    repeat' split at h
    all_goals cases h
    rfl
  · rintro rfl
    rfl

theorem incomingOp_eq_udpMessage_iff {r : Registry M} {incoming : Incoming M} {newV4 : Uuid}
    {msg : PeerMessage M.UdpToServer} {addr : SocketAddr} :
    r.incomingOp incoming newV4 = .udpMessage msg addr ↔
      incoming = .udpReader (.streamItem (.ok (.applicationLogic msg.message), addr)) ∧
        r.udpIndex.get? addr = some msg.from_ := by
  constructor
  · intro h
    unfold incomingOp at h
    repeat' split at h
    all_goals cases h
    exact ⟨rfl, ‹_›⟩
  · rintro ⟨rfl, h⟩
    simp only [incomingOp, h]

theorem incomingOp_eq_bind_iff {r : Registry M} {incoming : Incoming M} {newV4 uuid : Uuid}
    {p : PeerUid} {peer : Peer} {addr : SocketAddr} :
    r.incomingOp incoming newV4 = .bind p peer uuid addr ↔
      incoming = .udpReader (.streamItem (.ok (.hello uuid), addr)) ∧
        r.handshakeIndex.get? uuid = some p ∧ r.peers.get? p = some peer := by
  constructor
  · intro h
    unfold incomingOp at h
    repeat' split at h
    all_goals cases h
    exact ⟨rfl, ‹_›, ‹_›⟩
  · rintro ⟨rfl, hp, hpeer⟩
    simp only [incomingOp, hp, hpeer]

theorem incomingOp_eq_accept_iff {r : Registry M} {incoming : Incoming M} {newV4 uuid : Uuid}
    {addr : SocketAddr} {next : PeerUid} :
    r.incomingOp incoming newV4 = .accept addr uuid next ↔
      incoming = .tcpListener (.ok ⟨.ok addr⟩) ∧ newV4 = uuid ∧
        r.peers.len < r.config.maxConnections ∧
        r.nextPeerUid.increment r.profile = some next := by
  constructor
  · intro h
    unfold incomingOp at h
    repeat' split at h
    all_goals cases h
    rename_i stream _ hcap _ haddr hnext
    obtain ⟨peerAddr⟩ := stream
    obtain rfl : peerAddr = .ok addr := haddr
    exact ⟨rfl, rfl, Nat.lt_of_not_le hcap, hnext⟩
  · rintro ⟨rfl, rfl, hcap, hnext⟩
    simp only [incomingOp, if_neg (Nat.not_le_of_lt hcap), hnext]

/-- No item drops a peer. -/
theorem incomingOp_ne_drop (r : Registry M) (incoming : Incoming M) (newV4 : Uuid)
    (l : List (PeerUid × DisconnectReason)) : r.incomingOp incoming newV4 ≠ .drop l := by
  unfold incomingOp
  repeat' split
  all_goals nofun

/-- What the handling of an item does to the registry is possible there, where an item of a TCP
reader is tagged with the uid of an accepted connection. -/
theorem enabled_incomingOp (r : Registry M) {incoming : Incoming M} (newV4 : Uuid)
    (htag : ∀ event peerUid, incoming = .tcpReader event peerUid → peerUid ∈ r.connections) :
    r.Enabled (r.incomingOp incoming newV4) := by
  unfold incomingOp
  split
  · split
    · trivial
    · split
      · trivial
      · rename_i hcap
        split
        · trivial
        · rename_i next hnext
          exact ⟨Nat.lt_of_not_le hcap, hnext⟩
  · exact htag _ _ rfl
  · split
    · trivial
    · rename_i p hp
      split
      · trivial
      · rename_i peer hpeer
        exact ⟨hp, hpeer⟩
  · split
    · trivial
    · rename_i p hp
      exact hp
  · trivial

end Registry

namespace State

/-- The registry in a state of the server. -/
def registry (s : State M) : Registry M where
  peers := s.peers
  nextPeerUid := s.nextPeerUid
  connections := s.streams.map Connection.peerUid
  tcpIndex := s.peerTcpSocketAddrToPeerUid
  udpIndex := s.peerUdpSocketAddrToPeerUid
  handshakeIndex := s.peerHandshakeUuidToPeerUid
  events := s.events
  eventsOpen := s.eventSender.receiverAlive
  config := s.config
  profile := s.profile

/-- The item that an action makes the broker handle. -/
def incoming? (s : State M) : Action M → Option (Incoming M)
  | .next source _ => (s.nextIncoming source).map Prod.fst
  | _ => none

/-- The operation that a step performs on the registry. -/
def op (s : State M) : Action M → Op M
  | .loopTop =>
    if s.profile.debugAssertions && !s.assertInvariants then .idle else .drop s.peersToDrop
  | .next source choice =>
    match s.nextIncoming source with
    | none => .idle
    | some r => s.registry.incomingOp r.1 choice.newV4
  | .task _ => .idle
  | .env .closeEvents => .closeEvents
  | .env _ => .idle

theorem length_connections (s : State M) : s.registry.connections.length = s.streams.length :=
  List.length_map _

/-! ### What leaves the registry alone -/

@[simp] theorem registry_panic (s : State M) (site : PanicSite) :
    (s.panic site).registry = s.registry := by
  have htags : (s.panic site).streams.map Connection.peerUid =
      s.streams.map Connection.peerUid := by
    simp [panic, Function.comp_def]
  simp only [registry, htags]
  rfl

/-- No change of a connection changes the uid it is tagged with. -/
theorem map_peerUid_modify {f : Connection M → Connection M}
    (hf : ∀ conn, (f conn).peerUid = conn.peerUid) (l : List (Connection M)) (c : ℕ) :
    (l.modify c f).map Connection.peerUid = l.map Connection.peerUid := by
  refine List.ext_getElem? fun i ↦ ?_
  rw [List.getElem?_map, List.getElem?_map, List.getElem?_modify]
  by_cases hi : c = i
  · simp [hi, hf, Function.comp_def]
  · simp [hi]

@[simp] theorem registry_modifyConnection (s : State M) (c : ℕ)
    {f : Connection M → Connection M} (hf : ∀ conn, (f conn).peerUid = conn.peerUid) :
    (s.modifyConnection c f).registry = s.registry := by
  have htags := map_peerUid_modify hf s.streams c
  simp only [registry, modifyConnection, htags]
  rfl

@[simp] theorem registry_sendTcp (s : State M) (handle : WriteActorHandle)
    (msg : TcpFromServer M) : (s.sendTcp handle msg).registry = s.registry :=
  registry_modifyConnection s _ fun _ ↦ rfl

@[simp] theorem registry_sendUdp (s : State M) (msg : UdpFromServer M) (addr : SocketAddr) :
    (s.sendUdp msg addr).registry = s.registry := rfl

@[simp] theorem registry_dropHandles (s : State M) (peer : Peer) :
    (s.dropHandles peer).registry = s.registry := by
  simp [dropHandles]

theorem registry_insertPeer (s : State M) (peerUid : PeerUid) (peer : Peer) :
    (s.insertPeer peerUid peer).registry =
      { s.registry with peers := s.peers.insert peerUid peer } := by
  unfold insertPeer
  dsimp only
  split
  · rw [registry_dropHandles]
    rfl
  · rfl

@[simp] theorem registry_shutdownActors (s : State M) (peer : Peer) :
    (s.shutdownActors peer).registry = s.registry := by
  simp [shutdownActors]

@[simp] theorem registry_announceTcp (s : State M) (order : List PeerUid)
    (msg : TcpFromServer M) : (announceTcp s order msg).registry = s.registry := by
  unfold announceTcp
  induction order generalizing s with
  | nil => rfl
  | cons p order ih =>
    rw [List.foldl_cons, ih]
    split <;> simp

@[simp] theorem registry_announceUdp (s : State M) (order : List PeerUid)
    (schedule : List (List WriteActor.Step)) (msg : UdpFromServer M) :
    (announceUdp s order schedule msg).registry = s.registry := rfl

@[simp] theorem registry_handleActorMessage (s : State M) (msg : Message M)
    (order : List PeerUid) (schedule : List (List WriteActor.Step)) :
    (handleActorMessage s msg order schedule).registry = s.registry := by
  cases msg with
  | toPeerTcp peerUid msg =>
    simp only [handleActorMessage]
    split <;> simp
  | toPeerUdp peerUid msg =>
    simp only [handleActorMessage]
    split
    · split <;> simp
    · rfl
  | announceTcp msg => simp [handleActorMessage]
  | announceUdp msg => simp [handleActorMessage]
  | getNumberOfConnectedPeers tx => rfl

@[simp] theorem registry_handleEndOfStream (s : State M) (kind : IncomingKind) :
    (handleEndOfStream s kind).registry = s.registry := by
  have hassert : ∀ p, (s.assertNotConnected p).registry = s.registry := by
    intro p
    unfold assertNotConnected
    split <;> simp
  unfold handleEndOfStream
  split
  · simp
  · simp
  all_goals
    split
    all_goals first
      | rfl
      | exact hassert _
      | exact registry_panic _ _

theorem registry_taken {s t : State M} {incoming : Incoming M} (h : s.Taken incoming t) :
    t.registry = s.registry := by
  cases h with
  | tcpReader _ _ | tcpReaderEnd _ _ | tcpWriterEnd _ _ =>
    exact registry_modifyConnection s _ fun _ ↦ rfl
  | actorMessage _ | actorMessageEnd | tcpListener _ | udpReader _ | udpReaderEnd _
  | udpWriterEnd _ | udpHeartbeat => rfl

theorem registry_updateConnection {s s' : State M} {c : ℕ}
    {f : Connection M → Option (Connection M)}
    (hf : ∀ conn conn', f conn = some conn' → conn'.peerUid = conn.peerUid)
    (h : s.updateConnection c f = some s') : s'.registry = s.registry := by
  unfold updateConnection at h
  split at h
  · cases h
  · rename_i conn hconn
    obtain ⟨conn', hconn', rfl⟩ := Option.map_eq_some_iff.1 h
    have htags : (s.streams.modify c fun _ ↦ conn').map Connection.peerUid =
        s.streams.map Connection.peerUid := by
      refine List.ext_getElem? fun i ↦ ?_
      rw [List.getElem?_map, List.getElem?_map, List.getElem?_modify]
      by_cases hi : c = i
      · subst hi
        simp [hconn, hf conn conn' hconn']
      · simp [hi]
    simp only [registry, modifyConnection, htags]
    rfl

theorem registry_taskStep {s s' : State M} {task : Task} (h : s.taskStep task = some s') :
    s'.registry = s.registry := by
  cases task with
  | tcpReader c st =>
    refine registry_updateConnection (fun conn conn' hconn ↦ ?_) h
    obtain ⟨x, -, rfl⟩ := Option.map_eq_some_iff.1 hconn
    rfl
  | tcpWriter c st =>
    refine registry_updateConnection (fun conn conn' hconn ↦ ?_) h
    obtain ⟨x, -, rfl⟩ := Option.map_eq_some_iff.1 hconn
    rfl
  | udpReader st =>
    obtain ⟨x, -, rfl⟩ := Option.map_eq_some_iff.1 h
    rfl
  | udpWriter st =>
    obtain ⟨x, -, rfl⟩ := Option.map_eq_some_iff.1 h
    rfl

theorem registry_envStep {s s' : State M} {env : Env M} (h : s.envStep env = some s') :
    s'.registry = s.registry.after (s.op (.env env)) := by
  cases env with
  | tcpFrame c frame =>
    refine registry_updateConnection (fun conn conn' hconn ↦ ?_) h
    split at hconn
    · obtain rfl := Option.some.inj hconn
      rfl
    · cases hconn
  | tcpEnd c =>
    refine registry_updateConnection (fun conn conn' hconn ↦ ?_) h
    obtain rfl := Option.some.inj hconn
    rfl
  | datagram message addr =>
    obtain rfl := Option.some.inj h
    rfl
  | command msg =>
    simp only [envStep] at h
    split at h
    · obtain rfl := Option.some.inj h
      rfl
    · cases h
  | dropHandles =>
    obtain rfl := Option.some.inj h
    rfl
  | closeEvents =>
    obtain rfl := Option.some.inj h
    rfl

/-! ### What changes it -/

theorem registry_emit (s : State M) (ev : Event M) : (s.emit ev).registry = s.registry.emit ev := by
  unfold emit Registry.emit
  split
  · rename_i ch h
    obtain ⟨ha, rfl⟩ := Channel.trySend_eq_ok_iff.1 h
    rw [if_pos (show s.registry.eventsOpen = true from Channel.accepts_iff_of_unbounded.1 ha)]
    rfl
  · rename_i e h
    rw [if_neg, registry_panic]
    intro ha
    rw [Channel.trySend_of_accepts (Channel.accepts_iff_of_unbounded.2 ha)] at h
    cases h

theorem registry_dropPeer (s : State M) (peerUid : PeerUid) (reason : DisconnectReason) :
    (Server.dropPeer s peerUid reason).registry = s.registry.dropPeer peerUid reason := by
  unfold Server.dropPeer Registry.dropPeer
  have hget : s.registry.peers.get? peerUid = s.peers.get? peerUid := rfl
  rw [hget]
  cases s.peers.get? peerUid with
  | none => rfl
  | some peer =>
    dsimp only
    rw [registry_emit, registry_shutdownActors]
    rfl

/-- After an emission the broker has panicked exactly if there was no receiver. -/
theorem phase_emit (s : State M) (ev : Event M) :
    (s.emit ev).phase =
      if s.eventSender.receiverAlive then s.phase else .panicked .emitEvent := by
  unfold emit
  split
  · rename_i ch h
    obtain ⟨ha, rfl⟩ := Channel.trySend_eq_ok_iff.1 h
    rw [if_pos (Channel.accepts_iff_of_unbounded.1 ha)]
  · rename_i e h
    rw [if_neg]
    · rfl
    · intro ha
      rw [Channel.trySend_of_accepts (Channel.accepts_iff_of_unbounded.2 ha)] at h
      cases h

theorem phase_dropPeer (s : State M) (peerUid : PeerUid) (reason : DisconnectReason) :
    (Server.dropPeer s peerUid reason).phase =
      if s.eventSender.receiverAlive = false ∧ s.peers.containsKey peerUid = true then
        .panicked .emitEvent
      else s.phase := by
  unfold Server.dropPeer HashMap.containsKey
  split
  · rename_i h
    simp [h]
  · rename_i peer h
    rw [phase_emit]
    show (if s.eventSender.receiverAlive then s.phase else _) = _
    cases s.eventSender.receiverAlive <;> simp [h]

theorem registry_dropPeers {s : State M} (hphase : s.phase = .waiting)
    (l : List (PeerUid × DisconnectReason)) :
    (Server.dropPeers s l).registry = s.registry.dropPeers l := by
  induction l generalizing s with
  | nil => rfl
  | cons x rest ih =>
    obtain ⟨peerUid, reason⟩ := x
    have hp := phase_dropPeer s peerUid reason
    rw [Server.dropPeers, Registry.dropPeers, ← registry_dropPeer]
    show _ = if s.eventSender.receiverAlive = false ∧ s.peers.containsKey peerUid = true then _
      else _
    split at hp
    · rename_i hstop
      simp only [hp]
      rw [if_pos hstop]
    · rename_i hgo
      simp only [hp, hphase]
      rw [if_neg hgo, ih (hp.trans hphase)]

theorem registry_handleIncoming (s : State M) (incoming : Incoming M) (choice : Choice) :
    (handleIncoming s incoming choice).registry =
      s.registry.after (s.registry.incomingOp incoming choice.newV4) := by
  unfold handleIncoming
  split
  · exact registry_handleActorMessage s _ _ _
  · rfl
  · rename_i tcpStream
    simp only [Registry.incomingOp, handleNewTcpConnection]
    cases tcpStream.peerAddr with
    | error e => exact registry_panic s _
    | ok addr =>
      dsimp only
      show _ = s.registry.after (if s.peers.len ≥ s.config.maxConnections then .idle else _)
      split
      · rfl
      · show _ = s.registry.after (match s.nextPeerUid.increment s.profile with
          | none => .idle
          | some nextPeerUid => .accept addr choice.newV4 nextPeerUid)
        cases s.nextPeerUid.increment s.profile with
        | none => exact registry_panic s _
        | some next =>
          dsimp only
          rw [registry_emit, registry_insertPeer]
          simp only [Registry.after, Registry.accept]
          congr 1
          simp [registry, sendTcp, modifyConnection, events, State.newPeer, Registry.register,
            Registry.newPeer, map_peerUid_modify, Connection.spawn]
  · rename_i message peerUid
    cases message with
    | applicationLogic msg => exact registry_emit s _
  · rfl
  · rename_i message socketAddr
    cases message with
    | hello uuid =>
      simp only [Registry.incomingOp, handleUdpReaderStreamItem]
      have hget : s.registry.handshakeIndex.get? uuid = s.peerHandshakeUuidToPeerUid.get? uuid := rfl
      rw [hget]
      cases s.peerHandshakeUuidToPeerUid.get? uuid with
      | none => rfl
      | some peerUid =>
        dsimp only
        have hget : s.registry.peers.get? peerUid = s.peers.get? peerUid := rfl
        rw [hget]
        cases s.peers.get? peerUid with
        | none => rfl
        | some peer =>
          dsimp only
          rw [registry_sendUdp, registry_sendTcp]
          rfl
    | applicationLogic msg =>
      simp only [Registry.incomingOp, handleUdpReaderStreamItem]
      have hget : s.registry.udpIndex.get? socketAddr =
          s.peerUdpSocketAddrToPeerUid.get? socketAddr := rfl
      rw [hget]
      cases s.peerUdpSocketAddrToPeerUid.get? socketAddr with
      | none => rfl
      | some peerUid => exact registry_emit s _
  · split <;> rfl
  · rfl
  · exact registry_handleEndOfStream s _

/-! ### Items and the steps that handle them -/

/-- An item is taken from a source. -/
theorem exists_next_of_incoming? {s : State M} {a : Action M} {incoming : Incoming M}
    (hi : s.incoming? a = some incoming) :
    ∃ source choice t, a = .next source choice ∧ s.nextIncoming source = some (incoming, t) := by
  cases a with
  | next source choice =>
    obtain ⟨⟨_, t⟩, hr, rfl⟩ := Option.map_eq_some_iff.1 hi
    exact ⟨source, choice, t, rfl, hr⟩
  | loopTop | task task | env env => cases hi

/-- A step that handles an item takes it from a source while the broker waits for one. -/
theorem exists_taken_of_incoming? {s s' : State M} {a : Action M} {incoming : Incoming M}
    (h : s.step a = some s') (hi : s.incoming? a = some incoming) :
    ∃ choice t, s.peers.Enumerates choice.order ∧ s.Taken incoming t ∧
      s' = handleIncoming { t with phase := .top } incoming choice := by
  obtain ⟨source, choice, t, rfl, hr⟩ := exists_next_of_incoming? hi
  obtain ⟨-, horder, incoming', t', hr', rfl⟩ := exists_taken_of_next h
  obtain ⟨rfl, rfl⟩ := Prod.mk.inj (Option.some.inj (hr.symm.trans hr'))
  exact ⟨choice, t, horder, taken_of_nextIncoming hr, rfl⟩

/-- An item is taken while the broker waits for one. -/
theorem taken_of_incoming? {s s' : State M} {a : Action M} {incoming : Incoming M}
    (h : s.step a = some s') (hi : s.incoming? a = some incoming) :
    s.phase = .waiting ∧ ∃ t, s.Taken incoming t := by
  obtain ⟨source, choice, t, rfl, hr⟩ := exists_next_of_incoming? hi
  exact ⟨(exists_taken_of_next h).1, t, taken_of_nextIncoming hr⟩

/-- A connection attempt comes from the listener. -/
theorem eq_next_of_tcpListener {s : State M} {a : Action M} {res : Except Unit TcpStream}
    (hi : s.incoming? a = some (.tcpListener res)) : ∃ choice, a = .next (.tcpListener res) choice := by
  obtain ⟨source, choice, t, rfl, hr⟩ := exists_next_of_incoming? hi
  refine ⟨choice, congrArg (Action.next · choice) ?_⟩
  cases source with
  | tcpListener res' =>
    obtain ⟨hres, -⟩ := Prod.mk.inj (Option.some.inj hr)
    rw [Incoming.tcpListener.inj hres]
  | _ =>
    simp only [nextIncoming] at hr
    repeat' split at hr
    all_goals simp at hr

/-- A frame comes from the channel of a connection. -/
theorem eq_next_of_tcpReader {s : State M} {a : Action M}
    {event : ReadActorEvent (Except TcpError (TcpToServer M))} {p : PeerUid}
    (hi : s.incoming? a = some (.tcpReader event p)) :
    ∃ c choice, a = .next (.tcpReader c) choice := by
  obtain ⟨source, choice, t, rfl, hr⟩ := exists_next_of_incoming? hi
  cases source with
  | tcpReader c => exact ⟨c, choice, rfl⟩
  | _ =>
    simp only [nextIncoming] at hr
    repeat' split at hr
    all_goals simp at hr

/-- The end of a read actor is reported for its connection, once its channel is drained. -/
theorem eq_next_of_tcpReaderEnd {s : State M} {a : Action M} {p : PeerUid}
    {reason : ActorShutdown ReadActorShutdownReason}
    (hi : s.incoming? a = some (.endOfStream (.tcpReader p reason))) :
    ∃ (c : ℕ) (choice : Choice) (conn : Connection M), a = .next (.tcpReaderEnd c) choice ∧
      s.streams[c]? = some conn ∧ conn.peerUid = p ∧ conn.reader.phase = .finished reason ∧
      conn.reader.tx.queue = [] := by
  obtain ⟨source, choice, t, rfl, hr⟩ := exists_next_of_incoming? hi
  cases source with
  | tcpReaderEnd c =>
    simp only [nextIncoming] at hr
    split at hr
    · cases hr
    · rename_i conn hconn
      split at hr
      · rename_i reason' hphase
        split at hr
        · rename_i hend
          rw [Bool.and_eq_true, List.isEmpty_iff] at hend
          obtain ⟨heq, -⟩ := Prod.mk.inj (Option.some.inj hr)
          obtain ⟨rfl, rfl⟩ := IncomingKind.tcpReader.inj (Incoming.endOfStream.inj heq)
          exact ⟨c, choice, conn, rfl, hconn, rfl, hphase, hend.1⟩
        · cases hr
      · cases hr
  | _ =>
    simp only [nextIncoming] at hr
    repeat' split at hr
    all_goals simp at hr

/-- **The refinement.** Every step of the server performs on the registry the operation that `op`
reads off. -/
theorem registry_step {s s' : State M} {a : Action M} (h : s.step a = some s') :
    s'.registry = s.registry.after (s.op a) := by
  cases a with
  | loopTop =>
    obtain ⟨-, rfl⟩ := eq_loopTop_of_step h
    unfold Server.loopTop op
    split
    · exact registry_panic s _
    · rw [registry_dropPeers rfl]
      rfl
  | next source choice =>
    obtain ⟨-, -, incoming, t, hr, rfl⟩ := exists_taken_of_next h
    have hreg : t.registry = s.registry := registry_taken (taken_of_nextIncoming hr)
    rw [registry_handleIncoming]
    show t.registry.after (t.registry.incomingOp incoming choice.newV4) = _
    simp only [hreg, op, hr]
  | task task => exact registry_taskStep h
  | env env => exact registry_envStep h

/-- An item of a TCP reader is tagged with the uid of its connection. -/
theorem mem_connections_of_taken {s t : State M}
    {event : ReadActorEvent (Except TcpError (TcpToServer M))} {peerUid : PeerUid}
    (h : s.Taken (.tcpReader event peerUid) t) : peerUid ∈ s.registry.connections := by
  cases h with
  | tcpReader hconn _ => exact List.mem_map_of_mem (List.mem_of_getElem? hconn)

theorem enabled_op {s s' : State M} {a : Action M} (h : s.step a = some s') :
    s.registry.Enabled (s.op a) := by
  cases a with
  | loopTop =>
    show s.registry.Enabled (if _ then _ else _)
    split <;> trivial
  | next source choice =>
    unfold op
    dsimp only
    split
    · trivial
    · rename_i r hr
      refine Registry.enabled_incomingOp _ _ fun event p hevent ↦ ?_
      obtain ⟨item, t⟩ := r
      subst hevent
      exact mem_connections_of_taken (taken_of_nextIncoming hr)
  | task task => trivial
  | env env => cases env <;> trivial

end State

/-- **A run of the server is a run of the registry**, with the operations that its steps perform. -/
theorem Run.registry {hist : List (State M × Action M)} {s : State M} (h : Run hist s) :
    Registry.Run (TransitionSystem.mapHist State.registry State.op hist) s.registry := by
  refine TransitionSystem.Run.map (U := Registry.system M) ?_ ?_ h
  · rintro s ⟨profile, config, rfl⟩
    exact ⟨profile, config, rfl⟩
  · intro s a s' hs
    exact Registry.step_eq_some_iff.2 ⟨State.enabled_op hs, State.registry_step hs⟩

/-! ### Connections are only added -/

theorem State.length_streams_le_of_step {s s' : State M} {a : Action M} (h : s.step a = some s') :
    s.streams.length ≤ s'.streams.length := by
  rw [← s.length_connections, ← s'.length_connections, State.registry_step h]
  exact Registry.length_connections_le_after _ _

/-- Connections are only ever added. -/
theorem Run.length_streams_le_of_visited {hist : List (State M × Action M)} {s : State M}
    (h : Run hist s) {t : State M}
    (ht : TransitionSystem.Visited hist s t) : t.streams.length ≤ s.streams.length :=
  TransitionSystem.Run.le_of_visited (T := system M) (f := fun t ↦ t.streams.length)
    (fun _ _ _ ↦ State.length_streams_le_of_step) h ht

/-! ### The operations in terms of the items -/

namespace State

/-- The UUID drawn in a step. -/
def newV4? : Action M → Option Uuid
  | .next _ choice => some choice.newV4
  | _ => none

/-- An operation that neither drops peers nor closes the receiver is that of an item. -/
theorem op_eq_iff {s : State M} {a : Action M} {o : Op M} (hdrop : ∀ l, o ≠ .drop l)
    (hclose : o ≠ .closeEvents) (hidle : o ≠ .idle) :
    s.op a = o ↔ ∃ incoming newV4, s.incoming? a = some incoming ∧ newV4? a = some newV4 ∧
      s.registry.incomingOp incoming newV4 = o := by
  cases a with
  | loopTop =>
    show (if _ then Op.idle else Op.drop _) = o ↔ _
    simp only [incoming?, reduceCtorEq, false_and, exists_false, iff_false]
    split
    · exact hidle.symm
    · exact (hdrop _).symm
  | next source choice =>
    simp only [op, incoming?, newV4?]
    cases s.nextIncoming source with
    | none => simpa using hidle.symm
    | some r => simp
  | task task => simpa [op, incoming?] using hidle.symm
  | env env =>
    simp only [incoming?, reduceCtorEq, false_and, exists_false, iff_false]
    cases env <;> first | exact hclose.symm | exact hidle.symm

theorem exists_newV4 {s : State M} {a : Action M} {incoming : Incoming M}
    (h : s.incoming? a = some incoming) : ∃ newV4, newV4? a = some newV4 := by
  obtain ⟨source, choice, -, rfl, -⟩ := exists_next_of_incoming? h
  exact ⟨choice.newV4, rfl⟩

/-- A message that came over TCP is emitted exactly when a decoded frame is taken. -/
theorem op_eq_tcpMessage_iff {s : State M} {a : Action M} {msg : PeerMessage M.TcpToServer} :
    s.op a = .tcpMessage msg ↔
      s.incoming? a =
        some (.tcpReader (.streamItem (.ok (.applicationLogic msg.message))) msg.from_) := by
  rw [op_eq_iff (by simp) (by simp) (by simp)]
  constructor
  · rintro ⟨incoming, newV4, hi, -, ho⟩
    rw [hi, Registry.incomingOp_eq_tcpMessage_iff.1 ho]
  · intro hi
    obtain ⟨newV4, hv⟩ := exists_newV4 hi
    exact ⟨_, newV4, hi, hv, rfl⟩

/-- A message that came over UDP is emitted exactly when a datagram is taken whose address the index
resolves. -/
theorem op_eq_udpMessage_iff {s : State M} {a : Action M} {msg : PeerMessage M.UdpToServer}
    {addr : SocketAddr} :
    s.op a = .udpMessage msg addr ↔
      s.incoming? a =
          some (.udpReader (.streamItem (.ok (.applicationLogic msg.message), addr))) ∧
        s.peerUdpSocketAddrToPeerUid.get? addr = some msg.from_ := by
  rw [op_eq_iff (by simp) (by simp) (by simp)]
  constructor
  · rintro ⟨incoming, newV4, hi, -, ho⟩
    obtain ⟨rfl, hp⟩ := Registry.incomingOp_eq_udpMessage_iff.1 ho
    exact ⟨hi, hp⟩
  · rintro ⟨hi, hp⟩
    obtain ⟨newV4, hv⟩ := exists_newV4 hi
    exact ⟨_, newV4, hi, hv, Registry.incomingOp_eq_udpMessage_iff.2 ⟨rfl, hp⟩⟩

/-- A Hello is accepted exactly when its UUID is that of a connected peer. -/
theorem op_eq_bind_iff {s : State M} {a : Action M} {p : PeerUid} {peer : Peer} {uuid : Uuid}
    {addr : SocketAddr} :
    s.op a = .bind p peer uuid addr ↔
      s.incoming? a = some (.udpReader (.streamItem (.ok (.hello uuid), addr))) ∧
        s.peerHandshakeUuidToPeerUid.get? uuid = some p ∧ s.peers.get? p = some peer := by
  rw [op_eq_iff (by simp) (by simp) (by simp)]
  constructor
  · rintro ⟨incoming, newV4, hi, -, ho⟩
    obtain ⟨rfl, hp⟩ := Registry.incomingOp_eq_bind_iff.1 ho
    exact ⟨hi, hp⟩
  · rintro ⟨hi, hp⟩
    obtain ⟨newV4, hv⟩ := exists_newV4 hi
    exact ⟨_, newV4, hi, hv, Registry.incomingOp_eq_bind_iff.2 ⟨rfl, hp⟩⟩

/-- A connection is accepted exactly when the server is below capacity and the counter does not
overflow. -/
theorem op_eq_accept_iff {s : State M} {a : Action M} {addr : SocketAddr} {uuid : Uuid}
    {next : PeerUid} :
    s.op a = .accept addr uuid next ↔
      s.incoming? a = some (.tcpListener (.ok ⟨.ok addr⟩)) ∧ newV4? a = some uuid ∧
        s.peers.len < s.config.maxConnections ∧
        s.nextPeerUid.increment s.profile = some next := by
  rw [op_eq_iff (by simp) (by simp) (by simp)]
  constructor
  · rintro ⟨incoming, newV4, hi, hv, ho⟩
    obtain ⟨rfl, rfl, hcap, hnext⟩ := Registry.incomingOp_eq_accept_iff.1 ho
    exact ⟨hi, hv, hcap, hnext⟩
  · rintro ⟨hi, hv, hcap, hnext⟩
    exact ⟨_, uuid, hi, hv, Registry.incomingOp_eq_accept_iff.2 ⟨rfl, rfl, hcap, hnext⟩⟩

end State

end NetStream.Server
