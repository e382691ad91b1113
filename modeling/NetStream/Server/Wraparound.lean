import NetStream.Server.Connections
import NetStream.Server.Panics
import NetStream.Server.Writers

/-!
# Visits, and the wraparound of the uid counter

A visit is a connection that is accepted and then closed by its peer. It leaves the server as it
was, but for the counter, the connection and the two events about it (`Hospitable.path_visit`), so
visits may be repeated without end. In a build without overflow checks the counter is back at 0 after
`2 ^ 64` connections (`Run.exists_wrapped`), whoever has that uid.
-/

/-- A change before the end of a list. -/
theorem List.modify_append_singleton_of_lt {α : Type*} {l : List α} {c : ℕ} (h : c < l.length)
    (x : α) (f : α → α) : (l ++ [x]).modify c f = l.modify c f ++ [x] := by
  induction l generalizing c with
  | nil => exact absurd h (Nat.not_lt_zero c)
  | cons y l ih =>
    cases c with
    | zero => rfl
    | succ c => exact congrArg (y :: ·) (ih (Nat.lt_of_succ_lt_succ h))

namespace NetStream.Server

variable {M : MessageTypes} {s : State M}

/-- A connection that has been sent its Welcome. -/
def Connection.welcomed (p : PeerUid) (uuid : Uuid) : Connection M :=
  { (Connection.spawn p : Connection M) with
    writer := WriteActor.spawnActor.offer (.send (.welcome uuid)) }

namespace State

/-- The connections, without the handles that a replaced record had. -/
def streamsWithout (s : State M) : Option Peer → List (Connection M)
  | none => s.streams
  | some replaced => (s.dropHandles replaced).streams

/-- The state after a connection is accepted. -/
def accepted (s : State M) (addr : SocketAddr) (uuid : Uuid) : State M :=
  { s with
    phase := .top
    nextPeerUid := ⟨s.nextPeerUid.val + 1⟩
    streams := s.streamsWithout (s.peers.get? s.nextPeerUid) ++
      [Connection.welcomed s.nextPeerUid uuid]
    peers := s.peers.insert s.nextPeerUid (s.newPeer addr uuid)
    peerTcpSocketAddrToPeerUid := s.peerTcpSocketAddrToPeerUid.insert addr s.nextPeerUid
    peerHandshakeUuidToPeerUid := s.peerHandshakeUuidToPeerUid.insert uuid s.nextPeerUid
    eventSender := s.eventSender.push (.newPeer ⟨s.nextPeerUid⟩) }

/-- **Acceptance** where there is room and someone listens, without overflow checks. -/
theorem handleNewTcpConnection_eq (hprofile : s.profile = .release)
    (hopen : s.eventSender.receiverAlive = true) (hroom : s.peers.len < s.config.maxConnections)
    (hhandles : ∀ peer, s.peers.get? s.nextPeerUid = some peer →
      peer.tcpReadActorHandle.connection < s.streams.length ∧
        peer.tcpWriteActorHandle.connection < s.streams.length)
    (hphase : s.phase = .top) (addr : SocketAddr) (uuid : Uuid) :
    handleNewTcpConnection s ⟨.ok addr⟩ uuid = s.accepted addr uuid := by
  have hinc : s.nextPeerUid.increment s.profile = some ⟨s.nextPeerUid.val + 1⟩ := by
    rw [hprofile]
    rfl
  have hwelcome : (s.streams ++ [Connection.spawn s.nextPeerUid]).modify s.streams.length
      (fun conn ↦ { conn with writer := conn.writer.logged (conn.writer.send (.welcome uuid)) }) =
      s.streams ++ [Connection.welcomed s.nextPeerUid uuid] := by
    rw [List.modify_length_append_singleton, WriteActor.logged_send]
    rfl
  simp only [handleNewTcpConnection, if_neg (Nat.not_le_of_lt hroom), hinc, sendTcp,
    modifyConnection, newPeer, hwelcome, insertPeer]
  cases hold : s.peers.get? s.nextPeerUid with
  | none =>
    refine (emit_of_alive ?_ _).trans ?_
    · exact hopen
    · simp only [accepted, hold, streamsWithout, hphase]
      rfl
  | some replaced =>
    obtain ⟨hread, hwrite⟩ := hhandles replaced hold
    refine (emit_of_alive ?_ _).trans ?_
    · exact hopen
    · simp only [accepted, hold, streamsWithout, hphase, dropHandles, modifyConnection]
      rw [List.modify_append_singleton_of_lt hread,
        List.modify_append_singleton_of_lt (by rwa [List.length_modify])]
      rfl

theorem step_accept (hphase : s.phase = .waiting) (hprofile : s.profile = .release)
    (hopen : s.eventSender.receiverAlive = true) (hroom : s.peers.len < s.config.maxConnections)
    (hhandles : ∀ peer, s.peers.get? s.nextPeerUid = some peer →
      peer.tcpReadActorHandle.connection < s.streams.length ∧
        peer.tcpWriteActorHandle.connection < s.streams.length)
    {order : List PeerUid} (horder : s.peers.Enumerates order) (addr : SocketAddr) (uuid : Uuid) :
    s.step (.next (.tcpListener (.ok ⟨.ok addr⟩)) ⟨uuid, order, []⟩) =
      some (s.accepted addr uuid) := by
  simp only [step, hphase, horder, and_self, if_true, nextIncoming, Option.map_some, handleIncoming]
  exact congrArg some
    (handleNewTcpConnection_eq (s := { s with phase := .top }) hprofile hopen hroom hhandles rfl _ _)

/-! ### The end of a connection -/

/-- The peer of connection `c` closes it, and the broker drops the peer. -/
def leave (c : ℕ) (order : List PeerUid) : List (Action M) :=
  [.env (.tcpEnd c), .task (.tcpReader c .streamEnd), .loopTop,
    .next (.tcpReaderEnd c) ⟨uuid 0, order, []⟩, .loopTop]

/-- The state after the peer `p` of the last connection has left. -/
def left (s : State M) (p : PeerUid) (peer : Peer) (streams : List (Connection M)) : State M :=
  { s with
    phase := .waiting
    streams := streams
    peers := s.peers.remove p
    peerTcpSocketAddrToPeerUid := s.peerTcpSocketAddrToPeerUid.remove peer.tcpSocketAddr
    peerUdpSocketAddrToPeerUid := s.peerUdpSocketAddrToPeerUid.removeSome peer.udpSocketAddr
    peerHandshakeUuidToPeerUid := s.peerHandshakeUuidToPeerUid.remove peer.handshakeUuid
    eventSender := s.eventSender.push (.peerDisconnect ⟨p, .peerClosedConnection⟩) }

theorem updateConnection_last {old : List (Connection M)} {conn conn' : Connection M}
    (hstreams : s.streams = old ++ [conn]) {f : Connection M → Option (Connection M)}
    (hf : f conn = some conn') :
    s.updateConnection old.length f = some { s with streams := old ++ [conn'] } := by
  simp only [updateConnection, modifyConnection, hstreams, List.getElem?_concat_length, hf,
    Option.map_some, List.modify_length_append_singleton]

theorem sanityChecked_of_release (hprofile : s.profile = .release) : s.SanityChecked := by
  intro hdebug
  rw [hprofile] at hdebug
  cases hdebug

/-- The drop of the peer of the last connection. -/
theorem dropPeer_last (hopen : s.eventSender.receiverAlive = true) (hphase : s.phase = .waiting)
    {p : PeerUid} {peer : Peer} (hp : s.peers.get? p = some peer) {old : List (Connection M)}
    {conn : Connection M} (hstreams : s.streams = old ++ [conn])
    (hread : peer.tcpReadActorHandle = ⟨old.length⟩)
    (hwrite : peer.tcpWriteActorHandle = ⟨old.length⟩) : ∃ gone : Connection M,
      dropPeer s p .peerClosedConnection = s.left p peer (old ++ [gone]) := by
  refine ⟨{ conn with
    reader := (conn.reader.logged conn.reader.signalShutdown).dropHandle
    writer := (conn.writer.logged conn.writer.signalShutdown).dropHandle }, ?_⟩
  simp only [dropPeer, hp, shutdownActors, dropHandles, modifyConnection, hread, hwrite, hstreams,
    List.modify_length_append_singleton]
  refine (emit_of_alive ?_ _).trans ?_
  · exact hopen
  · simp only [left, hphase]

theorem path_leave (hphase : s.phase = .top) (hprofile : s.profile = .release)
    (hdrop : s.peersToDrop = []) (hopen : s.eventSender.receiverAlive = true) {p : PeerUid}
    {peer : Peer} (hp : s.peers.get? p = some peer) {old : List (Connection M)}
    {conn : Connection M} (hstreams : s.streams = old ++ [conn]) (huid : conn.peerUid = p)
    (hreader : conn.reader = .spawnActor) (hended : conn.readerEnded = false)
    (hread : peer.tcpReadActorHandle = ⟨old.length⟩) (hwrite : peer.tcpWriteActorHandle = ⟨old.length⟩)
    {order : List PeerUid} (horder : s.peers.Enumerates order) : ∃ gone,
      (system M).Path s (leave old.length order) (s.left p peer (old ++ [gone])) := by
  obtain ⟨c, r, w, re, we⟩ := conn
  obtain rfl : c = p := huid
  obtain rfl : r = .spawnActor := hreader
  obtain rfl : re = false := hended
  let r₁ : ReadActor 64 (Except TcpError (TcpToServer M)) := .endStream .spawnActor
  let r₂ : ReadActor 64 (Except TcpError (TcpToServer M)) := r₁.finish (.controlled .endOfStream)
  have h1 : s.step (.env (.tcpEnd old.length)) =
      some { s with streams := old ++ [⟨c, r₁, w, false, we⟩] } :=
    updateConnection_last hstreams rfl
  have h2 : State.step { s with streams := old ++ [⟨c, r₁, w, false, we⟩] }
      (.task (.tcpReader old.length .streamEnd)) =
      some { s with streams := old ++ [⟨c, r₂, w, false, we⟩] } :=
    updateConnection_last rfl rfl
  have h3 : State.step { s with streams := old ++ [⟨c, r₂, w, false, we⟩] } .loopTop =
      some { s with streams := old ++ [⟨c, r₂, w, false, we⟩], phase := .waiting } := by
    simp only [step, hphase, if_true]
    exact congrArg some (loopTop_of_nil hdrop (sanityChecked_of_release hprofile))
  have h4 : State.step { s with streams := old ++ [⟨c, r₂, w, false, we⟩], phase := .waiting }
      (.next (.tcpReaderEnd old.length) ⟨uuid 0, order, []⟩) =
      some { s with
        streams := old ++ [⟨c, r₂, w, true, we⟩]
        peersToDrop := [(c, .peerClosedConnection)] } := by
    simp only [step, horder, and_self, if_true, nextIncoming, List.getElem?_concat_length,
      modifyConnection, List.modify_length_append_singleton]
    show some (State.scheduleDrop _ _ _) = _
    simp only [scheduleDrop, hdrop, hphase]
    rfl
  obtain ⟨gone, h5⟩ := dropPeer_last (s := { s with
      streams := old ++ [⟨c, r₂, w, true, we⟩], peersToDrop := [], phase := .waiting })
    hopen rfl hp rfl hread hwrite
  have h5 : State.step { s with
      streams := old ++ [⟨c, r₂, w, true, we⟩], peersToDrop := [(c, .peerClosedConnection)] }
      .loopTop = some (s.left c peer (old ++ [gone])) := by
    simp only [step, hphase, if_true]
    refine congrArg some ((loopTop_of_singleton rfl ?_).trans (h5.trans ?_))
    · exact sanityChecked_of_release hprofile
    · simp only [left, hdrop]
  exact ⟨gone, .cons h1 (.cons h2 (.cons h3 (.cons h4 (.cons h5 (.nil _)))))⟩

/-! ### Visits -/

/-- The state after connections have come and gone. -/
def later (s : State M) (gone : List (Connection M)) (evs : List (Event M)) : State M :=
  { s with
    nextPeerUid := .ofNat (s.streams.length + gone.length)
    streams := s.streams ++ gone
    eventSender := evs.foldl Channel.push s.eventSender }

theorem later_later (s : State M) (gone gone' : List (Connection M)) (evs evs' : List (Event M)) :
    (s.later gone evs).later gone' evs' = s.later (gone ++ gone') (evs ++ evs') := by
  simp only [later, List.length_append, List.append_assoc, List.foldl_append, Nat.add_assoc]

theorem receiverAlive_foldl_push {ch : Channel none (Event M)} (evs : List (Event M)) :
    (evs.foldl Channel.push ch).receiverAlive = ch.receiverAlive := by
  induction evs generalizing ch with
  | nil => rfl
  | cons ev evs ih => exact ih

theorem sent_foldl_push {ch : Channel none (Event M)} (evs : List (Event M)) :
    (evs.foldl Channel.push ch).sent = ch.sent ++ evs := by
  induction evs generalizing ch with
  | nil => exact (List.append_nil _).symm
  | cons ev evs ih =>
    rw [List.foldl_cons, ih, Channel.sent_push, List.append_assoc]
    rfl

/-- The broker waits for a further visitor. -/
structure Hospitable (s : State M) : Prop where
  waiting : s.phase = .waiting
  release : s.profile = .release
  drained : s.peersToDrop = []
  open_ : s.eventSender.receiverAlive = true
  room : s.peers.len < s.config.maxConnections
  numbered : s.nextPeerUid = .ofNat s.streams.length

theorem Hospitable.later (h : s.Hospitable) (gone : List (Connection M)) (evs : List (Event M)) :
    (s.later gone evs).Hospitable where
  waiting := h.waiting
  release := h.release
  drained := h.drained
  open_ := (receiverAlive_foldl_push evs).trans h.open_
  room := h.room
  numbered := by
    show PeerUid.ofNat _ = PeerUid.ofNat (s.streams ++ gone).length
    rw [List.length_append]

/-- **A visit** under names that are free leaves the server as it was, but for the counter, the
connection and the events. -/
theorem Hospitable.path_visit (h : s.Hospitable) (hnew : s.peers.get? s.nextPeerUid = none)
    {addr : SocketAddr} (haddr : s.peerTcpSocketAddrToPeerUid.get? addr = none) {uuid : Uuid}
    (huuid : s.peerHandshakeUuidToPeerUid.get? uuid = none) {order order' : List PeerUid}
    (horder : s.peers.Enumerates order)
    (horder' : (s.accepted addr uuid).peers.Enumerates order') : ∃ gone,
      (system M).Path s (.next (.tcpListener (.ok ⟨.ok addr⟩)) ⟨uuid, order, []⟩ ::
          leave s.streams.length order')
        (s.later [gone] [.newPeer ⟨s.nextPeerUid⟩,
          .peerDisconnect ⟨s.nextPeerUid, .peerClosedConnection⟩]) := by
  have haccept : s.step (.next (.tcpListener (.ok ⟨.ok addr⟩)) ⟨uuid, order, []⟩) =
      some (s.accepted addr uuid) := by
    refine step_accept h.waiting h.release h.open_ h.room (fun peer hpeer ↦ ?_) horder addr uuid
    rw [hnew] at hpeer
    cases hpeer
  have hstreams : (s.accepted addr uuid).streams =
      s.streams ++ [Connection.welcomed s.nextPeerUid uuid] := by
    simp only [accepted, hnew, streamsWithout]
  obtain ⟨gone, hleave⟩ := path_leave (s := s.accepted addr uuid) rfl h.release h.drained h.open_
    HashMap.get?_insert_self hstreams rfl rfl rfl rfl rfl horder'
  refine ⟨gone, .cons haccept ?_⟩
  have hnext : (⟨s.nextPeerUid.val + 1⟩ : PeerUid) = .ofNat (s.streams.length + 1) := by
    rw [h.numbered]
    show (⟨UInt64.ofNat _ + 1⟩ : PeerUid) = ⟨UInt64.ofNat _⟩
    rw [UInt64.ofNat_add]
    rfl
  have heq : (s.accepted addr uuid).left s.nextPeerUid (s.newPeer addr uuid)
      (s.streams ++ [gone]) = s.later [gone] [.newPeer ⟨s.nextPeerUid⟩,
        .peerDisconnect ⟨s.nextPeerUid, .peerClosedConnection⟩] := by
    simp only [left, accepted, State.later, newPeer, HashMap.removeSome, hnext, List.length_singleton,
      HashMap.remove_insert_of_get?_eq_none hnew, HashMap.remove_insert_of_get?_eq_none haddr,
      HashMap.remove_insert_of_get?_eq_none huuid, List.foldl_cons, List.foldl_nil, h.waiting]
  rw [← heq]
  exact hleave

/-- The events about a visit. -/
def visitEvents (n : ℕ) : List (Event M) :=
  [.newPeer ⟨.ofNat n⟩, .peerDisconnect ⟨.ofNat n, .peerClosedConnection⟩]

end State

/-- The UUID that is drawn for a connection attempt. -/
def Action.drawn? : Action M → Option Uuid
  | .next (.tcpListener _) choice => some choice.newV4
  | _ => none

/-- A datagram arrives. -/
def Action.isDatagram : Action M → Bool
  | .env (.datagram _ _) => true
  | _ => false

/-- The UUIDs given out are among those drawn. -/
theorem issued_sublist (hist : List (State M × Action M)) :
    (issued hist).Sublist ((hist.map Prod.snd).filterMap Action.drawn?) := by
  induction hist with
  | nil => exact List.Sublist.refl _
  | cons x hist ih =>
    obtain ⟨s, a⟩ := x
    cases hop : (s.op a).issued? with
    | none =>
      have hnil : issued ((s, a) :: hist) = issued hist := List.filterMap_cons_none hop
      rw [hnil, List.map_cons, List.filterMap_cons]
      split
      · exact ih
      · exact ih.cons _
    | some uuid =>
      have hcons : issued ((s, a) :: hist) = uuid :: issued hist := List.filterMap_cons_some hop
      have hnew : a.drawn? = some uuid := by
        cases hop' : s.op a with
        | accept addr u next =>
          rw [hop'] at hop
          obtain rfl := Option.some.inj hop
          obtain ⟨hi, huuid, -⟩ := State.op_eq_accept_iff.1 hop'
          obtain ⟨choice, rfl⟩ := State.eq_next_of_tcpListener hi
          exact huuid
        | _ =>
          rw [hop'] at hop
          cases hop
      rw [hcons, List.map_cons, List.filterMap_cons_some hnew]
      exact ih.cons_cons uuid

namespace State

/-- **Visits in a row.** -/
theorem Hospitable.path_visits (h : s.Hospitable) {addr : SocketAddr}
    (haddr : s.peerTcpSocketAddrToPeerUid.get? addr = none) (k : ℕ)
    (hnew : ∀ n, s.streams.length ≤ n → n < s.streams.length + k → s.peers.get? (.ofNat n) = none)
    (huuid : ∀ n, s.streams.length ≤ n → n < s.streams.length + k →
      s.peerHandshakeUuidToPeerUid.get? (uuid n) = none) : ∃ l gone, gone.length = k ∧
      l.filterMap Action.drawn? = (List.range' s.streams.length k).map uuid ∧
      (∀ a ∈ l, a.isDatagram = false) ∧
      (system M).Path s l
        (s.later gone ((List.range' s.streams.length k).flatMap visitEvents)) := by
  induction k with
  | zero =>
    refine ⟨[], [], rfl, rfl, nofun, ?_⟩
    have hsame : s.later [] [] = s := by
      simp only [State.later, List.length_nil, Nat.add_zero, List.append_nil, List.foldl_nil,
        ← h.numbered]
    show (system M).Path s [] (s.later [] [])
    rw [hsame]
    exact .nil s
  | succ k ih =>
    obtain ⟨l, gone, hlen, hl, hno, hpath⟩ := ih (fun n hge hlt ↦ hnew n hge (by omega))
      fun n hge hlt ↦ huuid n hge (by omega)
    -- one more visitor, of number `s.streams.length + k`
    let t := s.later gone ((List.range' s.streams.length k).flatMap visitEvents)
    have hcount : t.streams.length = s.streams.length + k := by
      show (s.streams ++ gone).length = _
      rw [List.length_append, hlen]
    have hnext : t.nextPeerUid = .ofNat (s.streams.length + k) := by
      show PeerUid.ofNat _ = _
      rw [hlen]
    have hfree : t.peers.get? t.nextPeerUid = none := by
      rw [hnext]
      exact hnew _ (by omega) (by omega)
    obtain ⟨order, horder⟩ := t.peers.exists_enumerates
    obtain ⟨order', horder'⟩ :=
      (t.accepted addr (uuid (s.streams.length + k))).peers.exists_enumerates
    obtain ⟨gone', hvisit⟩ := (h.later gone _).path_visit hfree haddr
      (huuid (s.streams.length + k) (by omega) (by omega)) horder horder'
    refine ⟨_, gone ++ [gone'], ?_, ?_, ?_, hpath.append (?_ : (system M).Path t (.next
      (.tcpListener (.ok ⟨.ok addr⟩)) ⟨uuid (s.streams.length + k), order, []⟩ ::
        leave t.streams.length order') _)⟩
    · rw [List.length_append, hlen, List.length_singleton]
    · rw [List.filterMap_append, hl, List.range'_1_concat, List.map_append]
      rfl
    · exact List.forall_mem_append.2 ⟨hno, by simp [leave, Action.isDatagram]⟩
    · rw [List.range'_1_concat, List.flatMap_append, ← State.later_later]
      show (system M).Path t _ (t.later [gone'] [.newPeer ⟨.ofNat (s.streams.length + k)⟩,
        .peerDisconnect ⟨.ofNat (s.streams.length + k), .peerClosedConnection⟩])
      rw [← hnext]
      exact hvisit

/-- In all, the counter starts again. -/
theorem nextPeerUid_later {gone : List (Connection M)} {evs : List (Event M)}
    (hlen : s.streams.length + gone.length = 2 ^ 64) :
    (s.later gone evs).nextPeerUid = .ofNat 0 := by
  show PeerUid.ofNat (s.streams.length + gone.length) = .ofNat 0
  rw [hlen]
  rfl

end State

theorem uuid_inj {m n : ℕ} (hm : m < 2 ^ 128) (hn : n < 2 ^ 128) (h : uuid m = uuid n) : m = n := by
  have hval : m % 2 ^ 128 = n % 2 ^ 128 := congrArg (fun u : Uuid ↦ u.val.toNat) h
  rwa [Nat.mod_eq_of_lt hm, Nat.mod_eq_of_lt hn] at hval

/-- UUIDs drawn by number are fresh. -/
theorem nodup_issued {hist : List (State M × Action M)} {n : ℕ} (hn : n ≤ 2 ^ 128)
    (h : (hist.map Prod.snd).filterMap Action.drawn? = (List.range' 0 n).map uuid) :
    (issued hist).Nodup := by
  refine List.Nodup.sublist (h ▸ issued_sublist hist) ?_
  refine List.Nodup.map_on (fun i hi j hj heq ↦ ?_) List.nodup_range'
  have hi' := (List.mem_range'_1.1 hi).2
  have hj' := (List.mem_range'_1.1 hj).2
  exact uuid_inj (by omega) (by omega) heq

/-- **The counter wraps around**, where the broker waits for visitors. -/
theorem State.Hospitable.path_wrapped (hs : s.Hospitable) (hn : s.registry.Numbered) {k : ℕ}
    (hk : s.streams.length + k = 2 ^ 64) {addr : SocketAddr}
    (haddr : s.peerTcpSocketAddrToPeerUid.get? addr = none)
    (huuid : ∀ n, s.streams.length ≤ n → n < 2 ^ 64 →
      s.peerHandshakeUuidToPeerUid.get? (uuid n) = none) : ∃ l gone evs, gone.length = k ∧
      l.filterMap Action.drawn? = (List.range' s.streams.length k).map uuid ∧
      (∀ a ∈ l, a.isDatagram = false) ∧ (system M).Path s l (s.later gone evs) := by
  have hnew : ∀ n, s.streams.length ≤ n → n < s.streams.length + k →
      s.peers.get? (.ofNat n) = none := by
    intro n hge hlt
    rw [Option.eq_none_iff_forall_ne_some]
    intro peer hpeer
    -- the peers have the uids of connections that were accepted before
    obtain ⟨c, hc, heq, -, -⟩ := hn.handles _ peer hpeer
    rw [State.length_connections] at hc
    have hne := PeerUid.ofNat_inj (by omega) (by omega) heq
    omega
  obtain ⟨l, gone, hlen, hl, hno, hpath⟩ :=
    hs.path_visits haddr k hnew fun n hge hlt ↦ huuid n hge (by omega)
  exact ⟨l, gone, _, hlen, hl, hno, hpath⟩

/-- The handles in a record are of connections that were accepted. -/
theorem State.handles_lt (hn : s.registry.Numbered) (peer : Peer)
    (hpeer : s.peers.get? s.nextPeerUid = some peer) :
    peer.tcpReadActorHandle.connection < s.streams.length ∧
      peer.tcpWriteActorHandle.connection < s.streams.length := by
  obtain ⟨c, hc, -, hread, hwrite⟩ := hn.handles _ peer hpeer
  rw [State.length_connections] at hc
  rw [hread, hwrite]
  exact ⟨hc, hc⟩

theorem State.length_streamsWithout (s : State M) (replaced : Option Peer) :
    (s.streamsWithout replaced).length = s.streams.length := by
  cases replaced with
  | none => rfl
  | some peer =>
    simp only [streamsWithout, dropHandles, modifyConnection, List.length_modify]

/-- **A visit under any uid**: the record that has it is replaced, and what replaces it goes. -/
theorem State.Hospitable.path_replaced (hs : s.Hospitable) (hn : s.registry.Numbered)
    (addr : SocketAddr) (uuid : Uuid) : ∃ l streams, l.filterMap Action.drawn? = [uuid] ∧
      (∀ a ∈ l, a.isDatagram = false) ∧ (system M).Path s l
        ((s.accepted addr uuid).left s.nextPeerUid (s.newPeer addr uuid) streams) := by
  obtain ⟨order, horder⟩ := s.peers.exists_enumerates
  obtain ⟨order', horder'⟩ := (s.accepted addr uuid).peers.exists_enumerates
  have haccept : s.step (.next (.tcpListener (.ok ⟨.ok addr⟩)) ⟨uuid, order, []⟩) =
      some (s.accepted addr uuid) :=
    step_accept hs.waiting hs.release hs.open_ hs.room (handles_lt hn) horder addr uuid
  have hold := s.length_streamsWithout (s.peers.get? s.nextPeerUid)
  have hpeer : (s.accepted addr uuid).peers.get? s.nextPeerUid = some (s.newPeer addr uuid) :=
    HashMap.get?_insert_self
  obtain ⟨gone, hleave⟩ := path_leave (s := s.accepted addr uuid) rfl
    hs.release hs.drained hs.open_ hpeer rfl rfl rfl rfl
    (congrArg ReadActorHandle.mk hold.symm) (congrArg WriteActorHandle.mk hold.symm) horder'
  refine ⟨.next (.tcpListener (.ok ⟨.ok addr⟩)) ⟨uuid, order, []⟩ ::
    leave (s.streamsWithout (s.peers.get? s.nextPeerUid)).length order', _, rfl, ?_,
    .cons haccept hleave⟩
  simp [leave, Action.isDatagram]

/-! ### A guest who stays -/

/-- No other UUID is in use. -/
theorem get?_uuid_eq_none {m : HashMap Uuid PeerUid} {p : PeerUid} (hm : m = HashMap.new.insert (uuid 0) p)
    {n : ℕ} (hge : 1 ≤ n) (hlt : n < 2 ^ 64) : m.get? (uuid n) = none := by
  have hne : uuid n ≠ uuid 0 := fun heq ↦ by
    have hzero := uuid_inj (by omega) (by omega) heq
    omega
  rw [hm, HashMap.get?_insert_of_ne hne, HashMap.get?_new]

/-- The numbers of the first connection, of `n` further ones, and of one more. -/
theorem range'_first_last (n : ℕ) :
    List.range' 0 (1 + n + 1) = 0 :: List.range' 1 n ++ [1 + n] := by
  rw [List.range'_1_concat, Nat.add_comm 1 n, List.range'_succ, Nat.zero_add (n + 1)]

/-- **After `2 ^ 64` connections** the first of them may be the only one left, and then the next one
gets its uid. -/
theorem Run.exists_wrapped {hist : List (State M × Action M)} (h : Run hist s) (hs : s.Hospitable)
    (hlen : s.streams.length = 1) (hfirst : (hist.map Prod.snd).filterMap Action.drawn? = [uuid 0])
    (haddr : s.peerTcpSocketAddrToPeerUid.get? (address 11) = none) {p : PeerUid}
    (huuid : s.peerHandshakeUuidToPeerUid = HashMap.new.insert (uuid 0) p) :
    ∃ hist' gone evs choice, s.streams.length + gone.length = 2 ^ 64 ∧ Run hist' (s.later gone evs) ∧
      (s.later gone evs).step (.next (.tcpListener (.ok ⟨.ok (address 12)⟩)) choice) =
        some ((s.later gone evs).accepted (address 12) (uuid (2 ^ 64))) ∧
      (issued (hist' ++ [(s.later gone evs,
        .next (.tcpListener (.ok ⟨.ok (address 12)⟩)) choice)])).Nodup := by
  obtain ⟨k, hk⟩ : ∃ k, 1 + k = 2 ^ 64 := ⟨2 ^ 64 - 1, rfl⟩
  obtain ⟨l, gone, evs, rfl, hdrawn, -, hpath⟩ := hs.path_wrapped (Run.numbered h) (hlen ▸ hk) haddr
    fun n hge ↦ get?_uuid_eq_none huuid (hlen ▸ hge)
  obtain ⟨hist', rfl, h'⟩ := TransitionSystem.Run.append_path h hpath
  have hs' := hs.later gone evs
  obtain ⟨order, horder⟩ := (s.later gone evs).peers.exists_enumerates
  refine ⟨hist ++ hist', gone, evs, ⟨uuid (2 ^ 64), order, []⟩, hlen ▸ hk, h', ?_,
    nodup_issued (n := 1 + gone.length + 1) (by omega) ?_⟩
  · exact State.step_accept hs'.waiting hs'.release hs'.open_ hs'.room
      (State.handles_lt (Run.numbered h')) horder _ _
  · rw [List.map_append, List.map_append, List.filterMap_append, List.filterMap_append, hfirst,
      hdrawn, hlen, range'_first_last, List.map_append, List.map_cons, hk]
    rfl

/-- The run in which it does. -/
theorem Run.exists_replaced {hist : List (State M × Action M)} (h : Run hist s) (hs : s.Hospitable)
    (hlen : s.streams.length = 1) (hfirst : (hist.map Prod.snd).filterMap Action.drawn? = [uuid 0])
    (haddr : s.peerTcpSocketAddrToPeerUid.get? (address 11) = none) {p : PeerUid}
    (huuid : s.peerHandshakeUuidToPeerUid = HashMap.new.insert (uuid 0) p) : ∃ hist' gone evs,
      s.streams.length + gone.length = 2 ^ 64 ∧ (issued hist').Nodup ∧
      Run hist' ((s.later gone evs).accepted (address 12) (uuid (2 ^ 64))) := by
  obtain ⟨hist', gone, evs, choice, hcount, h', hstep, hfresh⟩ :=
    h.exists_wrapped hs hlen hfirst haddr huuid
  have hs : (system M).step (s.later gone evs)
      (.next (.tcpListener (.ok ⟨.ok (address 12)⟩)) choice) = some _ := hstep
  exact ⟨_, gone, evs, hcount, hfresh, h'.next hs⟩

end NetStream.Server
