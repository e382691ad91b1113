import NetStream.Server.Announce
import NetStream.Server.Writers

/-!
# Whose address it is

The broker knows a peer by the source address of its datagrams, and it learns the address from a
Hello that carries the peer's handshake UUID. `hellos` lists the Hellos that were accepted in a run,
and `Traced` says what the records and the indexes owe to them:

* an entry of the UDP index goes back to the most recent Hello from its address;
* the address in a record goes back to the most recent Hello with a UUID of the peer.

Nothing is assumed of who sends datagrams. The UUIDs are assumed to be fresh, without which two
peers could share one; how many connections are accepted does not matter, where a uid that is given
twice has the UUIDs of all its connections.
-/

namespace NetStream.Server

variable {M : MessageTypes}

/-! ### UUIDs and Hellos -/

/-- The Hello that an operation accepts: its UUID and its source address. -/
def Op.hello? : Op M → Option (Uuid × SocketAddr)
  | .bind _ _ uuid addr => some (uuid, addr)
  | _ => none

/-- The Hellos accepted in a run, oldest first. -/
def hellos (hist : List (State M × Action M)) : List (Uuid × SocketAddr) :=
  hist.filterMap fun x ↦ (x.1.op x.2).hello?

/-- The most recent Hello that meets a condition. -/
def lastHello (hellos : List (Uuid × SocketAddr)) (q : Uuid × SocketAddr → Bool) :
    Option (Uuid × SocketAddr) :=
  hellos.reverse.find? q

/-- The UUIDs given out to the connections with a uid. -/
def uuidsOf (issued : List Uuid) (p : PeerUid) : List Uuid :=
  (issued.zipIdx.filter fun x ↦ p = PeerUid.ofNat x.2).map Prod.fst

section Logs

variable {log : List (Uuid × SocketAddr)} {q : Uuid × SocketAddr → Bool} {uuids : List Uuid}
  {uuid : Uuid} {p p' : PeerUid}

theorem hellos_append_singleton (hist : List (State M × Action M)) (s : State M) (a : Action M) :
    hellos (hist ++ [(s, a)]) = hellos hist ++ (s.op a).hello?.toList :=
  List.filterMap_append_singleton _ hist (s, a)

theorem lastHello_append_of_true {x : Uuid × SocketAddr} (h : q x = true) :
    lastHello (log ++ [x]) q = some x := by
  simp [lastHello, h]

theorem lastHello_append_of_false {x : Uuid × SocketAddr} (h : q x = false) :
    lastHello (log ++ [x]) q = lastHello log q := by
  simp [lastHello, h]

theorem mem_uuidsOf_iff :
    uuid ∈ uuidsOf uuids p ↔ ∃ c, uuids[c]? = some uuid ∧ p = .ofNat c := by
  simp only [uuidsOf, List.mem_map, List.mem_filter, decide_eq_true_eq]
  constructor
  · rintro ⟨⟨u, c⟩, ⟨hmem, hp⟩, rfl⟩
    exact ⟨c, List.mem_zipIdx_iff_getElem?.1 hmem, hp⟩
  · rintro ⟨c, hc, hp⟩
    exact ⟨(uuid, c), ⟨List.mem_zipIdx_iff_getElem?.2 hc, hp⟩, rfl⟩

theorem mem_uuidsOf_append_iff {u : Uuid} : uuid ∈ uuidsOf (uuids ++ [u]) p ↔
    uuid ∈ uuidsOf uuids p ∨ uuid = u ∧ p = .ofNat uuids.length := by
  simp only [mem_uuidsOf_iff]
  constructor
  · rintro ⟨c, hc, hp⟩
    rcases Nat.lt_or_ge c uuids.length with hlt | hge
    · exact Or.inl ⟨c, (List.getElem?_append_left hlt).symm.trans hc, hp⟩
    · rw [List.getElem?_append_right hge] at hc
      obtain ⟨hlt, hu⟩ := List.getElem?_eq_some_iff.1 hc
      have hc0 : c = uuids.length := by
        simp only [List.length_singleton] at hlt
        omega
      subst hc0
      exact Or.inr ⟨by simpa using hu.symm, hp⟩
  · rintro (⟨c, hc, hp⟩ | ⟨rfl, hp⟩)
    · obtain ⟨hlt, -⟩ := List.getElem?_eq_some_iff.1 hc
      exact ⟨c, (List.getElem?_append_left hlt).trans hc, hp⟩
    · exact ⟨_, List.getElem?_concat_length, hp⟩

/-- A UUID that is given out once belongs to one uid. -/
theorem eq_of_mem_uuidsOf (hfresh : uuids.Nodup) (h : uuid ∈ uuidsOf uuids p)
    (h' : uuid ∈ uuidsOf uuids p') : p = p' := by
  obtain ⟨c, hc, rfl⟩ := mem_uuidsOf_iff.1 h
  obtain ⟨c', hc', rfl⟩ := mem_uuidsOf_iff.1 h'
  obtain ⟨hlt, hget⟩ := List.getElem?_eq_some_iff.1 hc
  obtain ⟨hlt', hget'⟩ := List.getElem?_eq_some_iff.1 hc'
  rw [(hfresh.getElem_inj_iff).1 (hget.trans hget'.symm)]

end Logs

/-! ### What goes back to which Hello -/

namespace Registry

variable {r : Registry M} {uuids : List Uuid} {log : List (Uuid × SocketAddr)}

/-- The indexes and records of a registry go back to the UUIDs given out and the Hellos accepted. -/
structure Traced (r : Registry M) (uuids : List Uuid) (log : List (Uuid × SocketAddr)) : Prop where
  handshake : ∀ uuid p, r.handshakeIndex.get? uuid = some p → uuid ∈ uuidsOf uuids p
  udp : ∀ addr p, r.udpIndex.get? addr = some p → ∃ uuid,
    lastHello log (·.2 = addr) = some (uuid, addr) ∧ uuid ∈ uuidsOf uuids p
  record : ∀ p peer addr, r.peers.get? p = some peer → peer.udpSocketAddr = some addr → ∃ uuid,
    lastHello log (·.1 ∈ uuidsOf uuids p) = some (uuid, addr)

theorem traced_start (profile : Profile) (config : Config) :
    (start profile config : Registry M).Traced [] [] where
  handshake uuid p h := by simp [start] at h
  udp addr p h := by simp [start] at h
  record p peer addr h := by simp [start] at h

theorem Traced.emit (h : r.Traced uuids log) (ev : Event M) : (r.emit ev).Traced uuids log where
  handshake := by simpa using h.handshake
  udp := by simpa using h.udp
  record := by simpa using h.record

theorem Traced.remove (h : r.Traced uuids log) (p : PeerUid) (peer : Peer) :
    (r.remove p peer).Traced uuids log where
  handshake uuid q hq := h.handshake uuid q (HashMap.get?_remove_eq_some_iff.1 hq).2
  udp addr q hq := h.udp addr q (HashMap.get?_removeSome_eq_some_iff.1 hq).2
  record q peer' addr hq := h.record q peer' addr (HashMap.get?_remove_eq_some_iff.1 hq).2

/-- A new record has no address yet, and its UUID is added to those of its uid only. -/
theorem Traced.register (h : r.Traced uuids log) (hnext : r.nextPeerUid = .ofNat uuids.length)
    (addr : SocketAddr) (uuid : Uuid) (next : PeerUid) :
    (r.register addr uuid next).Traced (uuids ++ [uuid]) log where
  handshake u p hp := by
    rw [mem_uuidsOf_append_iff]
    by_cases hu : u = uuid
    · subst hu
      obtain rfl := Option.some.inj (HashMap.get?_insert_self.symm.trans hp)
      exact Or.inr ⟨rfl, hnext⟩
    · exact Or.inl (h.handshake u p ((HashMap.get?_insert_of_ne hu).symm.trans hp))
  udp a p hp := by
    obtain ⟨u, hlast, hmem⟩ := h.udp a p hp
    exact ⟨u, hlast, mem_uuidsOf_append_iff.2 (Or.inl hmem)⟩
  record p peer a hp ha := by
    by_cases hpn : p = r.nextPeerUid
    · subst hpn
      obtain rfl := Option.some.inj (HashMap.get?_insert_self.symm.trans hp)
      cases ha
    · obtain ⟨u, hlast⟩ := h.record p peer a ((HashMap.get?_insert_of_ne hpn).symm.trans hp) ha
      have hsame : ∀ v, v ∈ uuidsOf (uuids ++ [uuid]) p ↔ v ∈ uuidsOf uuids p := by
        intro v
        rw [mem_uuidsOf_append_iff, ← hnext]
        simp [hpn]
      exact ⟨u, by simpa only [hsame] using hlast⟩

/-- **A Hello** is the most recent one from its address, and the most recent one with a UUID of its
peer; it is none for any other address or peer. -/
theorem Traced.bind (h : r.Traced uuids log) (hfresh : uuids.Nodup) {p : PeerUid} {uuid : Uuid}
    (hp : r.handshakeIndex.get? uuid = some p) (peer : Peer) (addr : SocketAddr) :
    (r.bind p peer addr).Traced uuids (log ++ [(uuid, addr)]) where
  handshake := h.handshake
  udp a q hq := by
    by_cases ha : a = addr
    · subst ha
      obtain rfl := Option.some.inj (HashMap.get?_insert_self.symm.trans hq)
      exact ⟨uuid, lastHello_append_of_true (by simp), h.handshake uuid p hp⟩
    · obtain ⟨u, hlast, hmem⟩ := h.udp a q ((HashMap.get?_insert_of_ne ha).symm.trans hq)
      refine ⟨u, ?_, hmem⟩
      rw [lastHello_append_of_false (by simpa using Ne.symm ha)]
      exact hlast
  record q peer' a hq ha := by
    by_cases hqp : q = p
    · subst hqp
      obtain rfl := Option.some.inj (HashMap.get?_insert_self.symm.trans hq)
      obtain rfl := Option.some.inj ha
      exact ⟨uuid, lastHello_append_of_true (by simpa using h.handshake uuid q hp)⟩
    · -- the UUID of the Hello is not one of `q`
      have hnot : uuid ∉ uuidsOf uuids q := fun hmem ↦
        hqp (eq_of_mem_uuidsOf hfresh hmem (h.handshake uuid p hp))
      obtain ⟨u, hlast⟩ := h.record q peer' a ((HashMap.get?_insert_of_ne hqp).symm.trans hq) ha
      refine ⟨u, ?_⟩
      rw [lastHello_append_of_false (by simpa using hnot)]
      exact hlast

theorem Traced.after {op : Op M} (h : r.Traced uuids log) (he : r.Enabled op)
    (hfresh : uuids.Nodup) (hnext : r.nextPeerUid = .ofNat uuids.length) :
    (r.after op).Traced (uuids ++ op.issued?.toList) (log ++ op.hello?.toList) := by
  have hquiet : ∀ {r' : Registry M}, r'.Traced uuids log →
      r'.Traced (uuids ++ []) (log ++ []) := by
    intro r' hr'
    rwa [List.append_nil, List.append_nil]
  cases op with
  | drop l =>
    refine hquiet (dropPeers_induction (I := fun r ↦ r.Traced uuids log) ?_ h l)
    exact fun r p peer reason hr _ ↦ (hr.remove p peer).emit _
  | accept addr uuid next =>
    show Traced _ _ (log ++ [])
    rw [List.append_nil]
    exact (h.register hnext addr uuid next).emit _
  | bind p peer uuid addr =>
    show Traced _ (uuids ++ []) _
    rw [List.append_nil]
    exact h.bind hfresh he.1 peer addr
  | tcpMessage msg => exact hquiet (h.emit _)
  | udpMessage msg addr => exact hquiet (h.emit _)
  | closeEvents => exact hquiet ⟨h.handshake, h.udp, h.record⟩
  | idle => exact hquiet h

end Registry

section Server

variable {hist : List (State M × Action M)} {s : State M}

/-- **Over a whole run** with fresh UUIDs. -/
theorem Run.traced (h : Run hist s) (hfresh : (issued hist).Nodup) :
    s.registry.Traced (issued hist) (hellos hist) := by
  induction h with
  | start h =>
    obtain ⟨profile, config, rfl⟩ := h
    exact Registry.traced_start profile config
  | @next hist s s' a h hs ih =>
    rw [issued_append_singleton] at hfresh ⊢
    have hbefore := (List.nodup_append.1 hfresh).1
    have hnext : s.registry.nextPeerUid = .ofNat (issued hist).length := by
      rw [(Run.numbered h).nextPeerUid_eq, State.length_connections, Run.length_issued h]
    rw [hellos_append_singleton, State.registry_step hs]
    exact (ih hbefore).after (State.enabled_op hs) hbefore hnext

/-! ### Messages that carry a UUID -/

/-- **The Welcome is the first message** queued on a connection, and the only one with a UUID. -/
theorem Run.sent_eq (h : Run hist s) {c : ℕ} {conn : Connection M} (hc : s.streams[c]? = some conn) :
    ∃ uuid msgs, (issued hist)[c]? = some uuid ∧
      conn.writer.actorMsg.sent = .send (.welcome uuid) :: msgs ∧
      ∀ m ∈ WriteActor.items msgs, m.handshakeUuid? = none := by
  obtain ⟨hlt, -⟩ := List.getElem?_eq_some_iff.1 hc
  have hissued : (issued hist)[c]? = some ((issued hist).get ⟨c, by rwa [Run.length_issued h]⟩) :=
    List.getElem?_eq_getElem _
  obtain ⟨rest, hrest, hnot⟩ := Run.commanded_eq h hissued
  obtain ⟨x, rest', msgs, hl, hsent, hsub⟩ := (Run.writers h WriteActor.offerRule_receives
    fun _ _ _ _ _ _ ↦ trivial).related c conn hc
  rw [hrest] at hl
  obtain ⟨rfl, rfl⟩ := List.cons.inj hl
  refine ⟨_, msgs, hissued, hsent, fun m hm ↦ ?_⟩
  cases m with
  | welcome u => exact absurd (hsub.subset hm) (hnot u)
  | applicationLogic msg | udpHandshakeAcknowledged => rfl

/-! ### Messages over UDP -/

/-- The message over UDP that an event brings. -/
def Event.udpMessage? : Event M → Option (PeerMessage M.UdpToServer)
  | .udpMessage msg => some msg
  | _ => none

/-- Only the operation that emits a message over UDP adds one to the events. -/
theorem Registry.op_of_udpMessage {r : Registry M} {op : Op M} {msg : PeerMessage M.UdpToServer}
    (h : (r.after op).events = r.events ++ [.udpMessage msg]) : ∃ addr, op = .udpMessage msg addr := by
  have hmsgs := congrArg (List.filterMap Event.udpMessage?) h
  rw [List.filterMap_append] at hmsgs
  -- the messages over UDP before and after the operation
  have hother : (r.after op).events.filterMap Event.udpMessage? ≠
      r.events.filterMap Event.udpMessage? := by
    rw [hmsgs]
    exact fun heq ↦ by simpa [Event.udpMessage?] using congrArg List.length heq
  cases op with
  | udpMessage msg' addr =>
    by_cases hopen : r.eventsOpen = true
    · have hlast : r.events ++ [Event.udpMessage msg'] = r.events ++ [.udpMessage msg] := by
        rw [← h]
        exact (events_emit_of_open hopen _).symm
      have hev := List.singleton_inj.1 (List.append_cancel_left hlast)
      exact ⟨addr, by rw [Event.udpMessage.inj hev]⟩
    · refine absurd ?_ hother
      show (r.emit _).events.filterMap _ = _
      rw [Registry.emit, if_neg hopen]
  | drop l =>
    refine absurd (dropPeers_eq (f := fun r ↦ r.events.filterMap Event.udpMessage?) ?_ r l) hother
    intro r p peer reason
    rw [events_emit, List.filterMap_append]
    split <;> simp [Event.udpMessage?, Registry.remove]
  | accept addr uuid next =>
    refine absurd ?_ hother
    show ((r.register addr uuid next).emit _).events.filterMap _ = _
    rw [events_emit, List.filterMap_append]
    split <;> simp [Event.udpMessage?, register]
  | tcpMessage msg =>
    refine absurd ?_ hother
    show (r.emit _).events.filterMap _ = _
    rw [events_emit, List.filterMap_append]
    split <;> simp [Event.udpMessage?]
  | bind p peer uuid addr | closeEvents | idle => exact absurd rfl hother

/-- A message to a peer over UDP queues at most a datagram for the address in the peer's record. -/
theorem mem_queuedUdp_of_toPeerUdp {s' : State M} {a : Action M} {p : PeerUid}
    {msg : M.UdpFromServer} (hs : s.step a = some s')
    (hi : s.incoming? a = some (.actorMessage (.toPeerUdp p msg)))
    {x : UdpFromServer M × SocketAddr} (hx : x ∈ queuedUdp s s') :
    x.1 = .applicationLogic msg ∧
      ∃ peer, s.peers.get? p = some peer ∧ peer.udpSocketAddr = some x.2 := by
  obtain ⟨choice, t, -, ht, rfl⟩ := State.exists_taken_of_incoming? hs hi
  cases ht
  rename_i ch hrecv
  have hnone : ∀ t : State M, t.udpWriteActor = s.udpWriteActor → x ∉ queuedUdp s t := by
    intro t ht
    simp [queuedUdp, ht]
  simp only [handleIncoming, handleActorMessage] at hx
  split at hx
  · rename_i peer hpeer
    split at hx
    · rename_i addr haddr
      have hsent : ∀ t : State M, t.udpWriteActor = s.udpWriteActor.offer
          (.send (.applicationLogic msg, addr)) → x ∈ queuedUdp s t →
            x = (.applicationLogic msg, addr) := by
        intro t ht hx
        rw [queuedUdp, ht, WriteActor.actorMsg_offer, Channel.sent_offer] at hx
        split at hx
        · rw [List.drop_left] at hx
          simpa [WriteActor.ActorMessage.item?] using hx
        · simp at hx
      obtain rfl := hsent _ (WriteActor.logged_send _ _) hx
      exact ⟨rfl, peer, hpeer, haddr⟩
    · exact absurd hx (hnone _ rfl)
  · exact absurd hx (hnone _ rfl)

/-! ### Provenance -/

/-- Where the identity of peers on UDP comes from. -/
structure Provenance (hist : List (State M × Action M)) (s : State M) : Prop where
  /-- A message over UDP is emitted for a datagram, and the most recent Hello from its address
  carried a UUID of the peer. -/
  udpMessage : ∀ a s' p m, s.step a = some s' → s'.events = s.events ++ [.udpMessage ⟨p, m⟩] →
    ∃ addr uuid, s.incoming? a =
        some (.udpReader (.streamItem (.ok (.applicationLogic m), addr))) ∧
      lastHello (hellos hist) (·.2 = addr) = some (uuid, addr) ∧ uuid ∈ uuidsOf (issued hist) p
  /-- A datagram for a peer goes where the most recent Hello with a UUID of the peer came from. -/
  toPeerUdp : ∀ a s' p msg, s.step a = some s' →
    s.incoming? a = some (.actorMessage (.toPeerUdp p msg)) → ∀ x ∈ queuedUdp s s', ∃ uuid,
      lastHello (hellos hist) (·.1 ∈ uuidsOf (issued hist) p) = some (uuid, x.2)
  /-- The first message on a connection is the Welcome with its UUID, and no other has one. -/
  welcome : ∀ (c : ℕ) (conn : Connection M), s.streams[c]? = some conn → ∃ uuid msgs,
    (issued hist)[c]? = some uuid ∧ conn.writer.actorMsg.sent = .send (.welcome uuid) :: msgs ∧
    ∀ m ∈ WriteActor.items msgs, m.handshakeUuid? = none
  /-- So the UUID of a connection is in no message on another. -/
  elsewhere : ∀ (c c' : ℕ) (uuid : Uuid) (conn : Connection M), (issued hist)[c]? = some uuid →
    s.streams[c']? = some conn → c' ≠ c →
    ∀ m ∈ WriteActor.items conn.writer.actorMsg.sent, m.handshakeUuid? ≠ some uuid
  /-- No datagram has a UUID. -/
  datagrams : ∀ x ∈ WriteActor.items s.udpWriteActor.actorMsg.sent, x.1.handshakeUuid? = none
  /-- A uid that is not given twice has the UUID of its connection and no other. -/
  unique : s.streams.length ≤ 2 ^ 64 → ∀ c uuid, (issued hist)[c]? = some uuid →
    ∀ u, u ∈ uuidsOf (issued hist) (.ofNat c) ↔ u = uuid

/-- **Provenance**, in every run with fresh UUIDs, whoever sends the datagrams. -/
theorem Run.provenance (h : Run hist s) (hfresh : (issued hist).Nodup) : Provenance hist s where
  udpMessage a s' p m hs hev := by
    rw [show s'.events = (s.registry.after (s.op a)).events from
      congrArg Registry.events (State.registry_step hs)] at hev
    obtain ⟨addr, hop⟩ := Registry.op_of_udpMessage hev
    obtain ⟨hi, hidx⟩ := State.op_eq_udpMessage_iff.1 hop
    obtain ⟨uuid, hlast, hmem⟩ := (Run.traced h hfresh).udp addr p hidx
    exact ⟨addr, uuid, hi, hlast, hmem⟩
  toPeerUdp a s' p msg hs hi x hx := by
    obtain ⟨-, peer, hpeer, haddr⟩ := mem_queuedUdp_of_toPeerUdp hs hi hx
    exact (Run.traced h hfresh).record p peer x.2 hpeer haddr
  welcome c conn hc := Run.sent_eq h hc
  elsewhere c c' uuid conn hc hc' hne m hm := by
    intro hu
    obtain ⟨uuid', msgs, hissued, hsent, hnone⟩ := Run.sent_eq h hc'
    have huuid : uuid' = uuid := by
      rw [hsent, WriteActor.items_cons] at hm
      rcases List.mem_append.1 hm with hm | hm
      · obtain rfl : m = .welcome uuid' := by simpa [WriteActor.ActorMessage.item?] using hm
        exact Option.some.inj hu
      · exact absurd ((hnone m hm).symm.trans hu) (by simp)
    subst huuid
    obtain ⟨hlt, hget⟩ := List.getElem?_eq_some_iff.1 hc
    obtain ⟨hlt', hget'⟩ := List.getElem?_eq_some_iff.1 hissued
    exact hne ((hfresh.getElem_inj_iff).1 (hget'.trans hget.symm))
  datagrams x _ := by
    cases x.1 <;> rfl
  unique hle c uuid hc u := by
    have hlen := Run.length_issued h
    obtain ⟨hlt, -⟩ := List.getElem?_eq_some_iff.1 hc
    rw [mem_uuidsOf_iff]
    constructor
    · rintro ⟨c', hc', heq⟩
      obtain ⟨hlt', -⟩ := List.getElem?_eq_some_iff.1 hc'
      obtain rfl := PeerUid.ofNat_inj (by omega) (by omega) heq
      exact Option.some.inj (hc'.symm.trans hc)
    · rintro rfl
      exact ⟨c, hc, rfl⟩

/-- Two peers, the first of which moves to another address and is heard and told there. -/
theorem Run.provenance_of_two : ∃ hist, ∃ s : State plainMessages, Run hist s ∧
    issued hist = [uuid 1, uuid 2] ∧
    hellos hist = [(uuid 1, address 10), (uuid 2, address 11), (uuid 1, address 12)] ∧
    s.events = [.newPeer ⟨.ofNat 0⟩, .newPeer ⟨.ofNat 1⟩, .udpMessage ⟨.ofNat 0, ()⟩] ∧
    (WriteActor.items s.udpWriteActor.actorMsg.sent).map Prod.snd =
      [address 10, address 11, address 12, address 12] ∧ Provenance hist s := by
  have h : Run _ _ := TransitionSystem.run_of_exec (T := system plainMessages)
    (s := .start .release ⟨2⟩) (l := Action.connect 1 1 [] ++ Action.connect 2 2 [0] ++
      Action.datagram (.ok (.hello (uuid 1))) 10 [0, 1] ++
      Action.datagram (.ok (.hello (uuid 2))) 11 [0, 1] ++
      Action.datagram (.ok (.hello (uuid 1))) 12 [0, 1] ++
      Action.datagram (.ok (.applicationLogic ())) 12 [0, 1] ++
      Action.command (.toPeerUdp (.ofNat 0) ()) [0, 1])
    ⟨.release, ⟨2⟩, rfl⟩ rfl
  exact ⟨_, _, h, rfl, rfl, rfl, rfl, Run.provenance h (by decide)⟩

end Server

end NetStream.Server
