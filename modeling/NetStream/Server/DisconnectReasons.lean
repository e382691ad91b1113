import NetStream.Server.DeadConnections
import NetStream.Server.Datagrams
import NetStream.Server.ReadPipeline

/-!
# Where the reason of a disconnect comes from

The reason that is reported of a disconnect is chosen when an item is handled: a frame or a datagram
that brought an error, the end of a reader at the end of its stream, the end of a writer whose sink
failed (`Incoming.schedules?`). The peer is dropped at the next passage through the top of the loop,
if it is still there.

`Run.exists_cause` follows each of the four back through the channel and the actor to the step of
the environment or of the sink that started it. The end of a stream may itself be the trace of an
earlier failure, since nothing is read after one; but by then the failure has been handled, and the
peer is gone (`Run.failureAnswered`).
-/

namespace NetStream.Server

variable {M : MessageTypes}

/-! ### The choice of a reason -/

/-- The drop that the handling of an item schedules, with the UDP index of the broker. -/
def Incoming.schedules? (udpIndex : HashMap SocketAddr PeerUid) :
    Incoming M → Option (PeerUid × DisconnectReason)
  | .tcpReader (.streamItem (.error _)) peerUid =>
    some (peerUid, .peerSubmittedUnintelligibleData)
  | .udpReader (.streamItem (.error _, socketAddr)) =>
    (udpIndex.get? socketAddr).map fun peerUid ↦ (peerUid, .peerSubmittedUnintelligibleData)
  | .endOfStream (.tcpReader peerUid (.controlled .endOfStream)) =>
    some (peerUid, .peerClosedConnection)
  | .endOfStream (.tcpWriter peerUid (.controlled .sinkError)) =>
    some (peerUid, .peerClosedConnection)
  | _ => none

/-- The drop that a step schedules. -/
def State.schedules? (s : State M) (a : Action M) : Option (PeerUid × DisconnectReason) :=
  (s.incoming? a).bind (Incoming.schedules? s.peerUdpSocketAddrToPeerUid)

theorem Registry.incomingOp_of_schedules? {r : Registry M} {incoming : Incoming M} {newV4 : Uuid}
    {index : HashMap SocketAddr PeerUid} {x : PeerUid × DisconnectReason}
    (h : incoming.schedules? index = some x) : r.incomingOp incoming newV4 = .idle := by
  unfold Incoming.schedules? at h
  repeat' split at h
  all_goals first
    | rfl
    | cases h

namespace State

variable {s s' : State M}

theorem peersToDrop_insertPeer (s : State M) (p : PeerUid) (peer : Peer) :
    (s.insertPeer p peer).peersToDrop = s.peersToDrop := by
  unfold insertPeer
  dsimp only
  split <;> rfl

theorem peersToDrop_announceTcp (s : State M) (order : List PeerUid) (msg : TcpFromServer M) :
    (Server.announceTcp s order msg).peersToDrop = s.peersToDrop := by
  unfold Server.announceTcp
  induction order generalizing s with
  | nil => rfl
  | cons p order ih =>
    rw [List.foldl_cons, ih]
    split <;> rfl

theorem peersToDrop_handleNewTcpConnection (s : State M) (tcpStream : TcpStream) (newV4 : Uuid) :
    (Server.handleNewTcpConnection s tcpStream newV4).peersToDrop = s.peersToDrop := by
  unfold Server.handleNewTcpConnection
  dsimp only
  repeat' split
  · rfl
  · rfl
  · rfl
  · exact (peersToDrop_emit _ _).trans (peersToDrop_insertPeer _ _ _)

theorem peersToDrop_handleActorMessage (s : State M) (msg : Message M) (order : List PeerUid)
    (schedule : List (List WriteActor.Step)) :
    (Server.handleActorMessage s msg order schedule).peersToDrop = s.peersToDrop := by
  cases msg with
  | announceTcp msg => exact peersToDrop_announceTcp s order _
  | announceUdp msg | getNumberOfConnectedPeers tx => rfl
  | toPeerTcp p msg | toPeerUdp p msg =>
    simp only [Server.handleActorMessage]
    repeat' split
    all_goals rfl

theorem peersToDrop_handleUdpReaderStreamItem (s : State M) (message : UdpToServer M)
    (addr : SocketAddr) :
    (Server.handleUdpReaderStreamItem s message addr).peersToDrop = s.peersToDrop := by
  unfold Server.handleUdpReaderStreamItem
  repeat' split
  all_goals first
    | rfl
    | exact peersToDrop_emit _ _

theorem peersToDrop_handleEndOfStream (s : State M) (kind : IncomingKind)
    (index : HashMap SocketAddr PeerUid) :
    (handleEndOfStream s kind).peersToDrop =
      s.peersToDrop ++ ((Incoming.endOfStream kind : Incoming M).schedules? index).toList := by
  have hassert : ∀ p : PeerUid, (s.assertNotConnected p).peersToDrop = s.peersToDrop ++ [] := by
    intro p
    rw [List.append_nil, assertNotConnected]
    split <;> rfl
  unfold handleEndOfStream
  repeat' split
  all_goals first
    | exact hassert _
    | exact (List.append_nil _).symm
    | rfl

/-- **What the handling of an item schedules.** -/
theorem peersToDrop_handleIncoming (s : State M) (incoming : Incoming M) (choice : Choice) :
    (handleIncoming s incoming choice).peersToDrop =
      s.peersToDrop ++ (incoming.schedules? s.peerUdpSocketAddrToPeerUid).toList := by
  unfold handleIncoming
  split
  · exact (peersToDrop_handleActorMessage s _ _ _).trans (List.append_nil _).symm
  · exact (List.append_nil _).symm
  · exact (peersToDrop_handleNewTcpConnection s _ _).trans (List.append_nil _).symm
  · exact (peersToDrop_emit s _).trans (List.append_nil _).symm
  · rfl
  · exact (peersToDrop_handleUdpReaderStreamItem s _ _).trans (List.append_nil _).symm
  · simp only [Incoming.schedules?]
    split
    · rename_i p hp
      rw [hp]
      rfl
    · rename_i hp
      rw [hp]
      exact (List.append_nil _).symm
  · exact (List.append_nil _).symm
  · exact peersToDrop_handleEndOfStream s _ _

/-- What waits to be dropped after a step waited before it, or is scheduled by it. -/
theorem mem_peersToDrop_of_step {a : Action M} (hs : s.step a = some s')
    {x : PeerUid × DisconnectReason} (hx : x ∈ s'.peersToDrop) :
    x ∈ s.peersToDrop ∨ s.schedules? a = some x := by
  rcases step_cases hs with ⟨-, -, rfl⟩ | ⟨source, choice, incoming, t, rfl, -, hr, rfl⟩ |
    ⟨c, conn, conn', -, -, rfl⟩ | ⟨st, reader, -, -, rfl⟩ | ⟨st, writer, -, -, rfl⟩ |
    ⟨y, -, rfl⟩ | ⟨e, ch, sender, -, -, rfl⟩
  · left
    unfold Server.loopTop at hx
    split at hx
    · exact hx
    · rw [peersToDrop_dropPeers] at hx
      cases hx
  · have ht := taken_of_nextIncoming hr
    have hindex : t.peerUdpSocketAddrToPeerUid = s.peerUdpSocketAddrToPeerUid :=
      congrArg Registry.udpIndex (registry_taken ht)
    have hdrop : t.peersToDrop = s.peersToDrop := by
      cases ht <;> rfl
    rw [peersToDrop_handleIncoming] at hx
    rcases List.mem_append.1 hx with hx | hx
    · exact Or.inl (hdrop ▸ hx)
    · refine Or.inr ?_
      rw [schedules?, incoming?, hr, Option.map_some, Option.bind_some, ← hindex]
      exact Option.mem_toList.1 hx
  all_goals exact Or.inl hx

/-- The peers that a step drops are those that wait to be dropped. -/
theorem eq_peersToDrop_of_op {a : Action M} {l : List (PeerUid × DisconnectReason)}
    (h : s.op a = .drop l) : l = s.peersToDrop := by
  cases a with
  | loopTop =>
    simp only [op] at h
    split at h
    · cases h
    · exact (Op.drop.inj h).symm
  | next source choice =>
    simp only [op] at h
    split at h
    · cases h
    · exact absurd h (Registry.incomingOp_ne_drop _ _ _ _)
  | task task => cases h
  | env env => cases env <;> cases h

/-- To schedule a drop is all that such a step does to the registry. -/
theorem registry_of_schedules? {a : Action M} (hs : s.step a = some s')
    {x : PeerUid × DisconnectReason} (hx : s.schedules? a = some x) : s'.registry = s.registry := by
  obtain ⟨incoming, hi, hscheduled⟩ := Option.bind_eq_some_iff.1 hx
  obtain ⟨source, choice, t, rfl, hr⟩ := exists_next_of_incoming? hi
  have hop : s.op (.next source choice) = .idle := by
    simp only [op, hr]
    exact Registry.incomingOp_of_schedules? hscheduled
  rw [registry_step hs, hop]
  rfl

end State

/-! ### The step that chose the reason -/

/-- A drop reports a disconnect that was asked for, of a connected peer. -/
theorem Registry.mem_events_dropPeers {r : Registry M} {l : List (PeerUid × DisconnectReason)}
    {p : PeerUid} {reason : DisconnectReason}
    (h : .peerDisconnect ⟨p, reason⟩ ∈ (r.dropPeers l).events) :
    .peerDisconnect ⟨p, reason⟩ ∈ r.events ∨ (p, reason) ∈ l ∧ p ∈ r.peers.keys := by
  induction l generalizing r with
  | nil => exact Or.inl h
  | cons x rest ih =>
    have hdrop : .peerDisconnect ⟨p, reason⟩ ∈ (r.dropPeer x.1 x.2).events →
        .peerDisconnect ⟨p, reason⟩ ∈ r.events ∨ x = (p, reason) ∧ p ∈ r.peers.keys := by
      intro h
      unfold dropPeer at h
      split at h
      · exact Or.inl h
      · rename_i peer hpeer
        rw [events_emit] at h
        refine (List.mem_append.1 h).imp_right fun h ↦ ?_
        split at h
        · obtain ⟨rfl, rfl⟩ := PeerDisconnect.mk.inj (Event.peerDisconnect.inj (List.mem_singleton.1 h))
          exact ⟨rfl, HashMap.mem_keys_of_get? hpeer⟩
        · cases h
    have hfirst : .peerDisconnect ⟨p, reason⟩ ∈ (r.dropPeer x.1 x.2).events →
        .peerDisconnect ⟨p, reason⟩ ∈ r.events ∨ (p, reason) ∈ x :: rest ∧ p ∈ r.peers.keys := by
      intro h
      refine (hdrop h).imp_right fun hx ↦ ⟨?_, hx.2⟩
      rw [hx.1]
      exact List.mem_cons_self
    rw [dropPeers] at h
    split at h
    · exact hfirst h
    · rcases ih h with h | ⟨hmem, hkey⟩
      · exact hfirst h
      · rw [keys_dropPeer] at hkey
        exact Or.inr ⟨List.mem_cons_of_mem _ hmem, Finset.mem_of_mem_erase hkey⟩

/-- No other operation reports one. -/
theorem Registry.mem_events_after {r : Registry M} {op : Op M} {p : PeerUid}
    {reason : DisconnectReason} (h : .peerDisconnect ⟨p, reason⟩ ∈ (r.after op).events) :
    .peerDisconnect ⟨p, reason⟩ ∈ r.events ∨
      ∃ l, op = .drop l ∧ (p, reason) ∈ l ∧ p ∈ r.peers.keys := by
  have hemit : ∀ (r : Registry M) (ev : Event M), ev ≠ .peerDisconnect ⟨p, reason⟩ →
      .peerDisconnect ⟨p, reason⟩ ∈ (r.emit ev).events → .peerDisconnect ⟨p, reason⟩ ∈ r.events := by
    intro r ev hne h
    rw [events_emit] at h
    refine (List.mem_append.1 h).resolve_right fun h ↦ ?_
    split at h
    · exact hne (List.mem_singleton.1 h).symm
    · cases h
  cases op with
  | drop l => exact (mem_events_dropPeers h).imp_right fun h ↦ ⟨l, rfl, h⟩
  | accept addr uuid next =>
    exact Or.inl (hemit (r.register addr uuid next) (.newPeer ⟨r.nextPeerUid⟩) nofun h)
  | tcpMessage msg => exact Or.inl (hemit r (.tcpMessage msg) nofun h)
  | udpMessage msg addr => exact Or.inl (hemit r (.udpMessage msg) nofun h)
  | bind q peer uuid addr => exact Or.inl h
  | closeEvents => exact Or.inl h
  | idle => exact Or.inl h

/-- A peer that is connected after a step was so before, or is accepted by it. -/
theorem Registry.mem_keys_after {r : Registry M} {op : Op M} (he : r.Enabled op) {p : PeerUid}
    (hp : p ∈ (r.after op).peers.keys) :
    p ∈ r.peers.keys ∨ ∃ addr uuid next, op = .accept addr uuid next ∧ p = r.nextPeerUid := by
  cases op with
  | drop l =>
    refine Or.inl (dropPeers_induction (I := fun r' ↦ p ∈ r'.peers.keys → p ∈ r.peers.keys) ?_ id l hp)
    intro r' q peer reason hr' _ hp
    rw [emit_peers] at hp
    refine hr' (Finset.mem_of_mem_erase (a := q) ?_)
    rw [← HashMap.keys_remove]
    exact hp
  | accept addr uuid next =>
    have hp : p ∈ ((r.register addr uuid next).emit _).peers.keys := hp
    rw [emit_peers] at hp
    have hp : p ∈ (r.peers.insert r.nextPeerUid _).keys := hp
    rw [HashMap.keys_insert] at hp
    exact (Finset.mem_insert.1 hp).symm.imp_right fun h ↦ ⟨addr, uuid, next, rfl, h⟩
  | tcpMessage msg => exact Or.inl ((emit_peers r _) ▸ hp)
  | udpMessage msg addr => exact Or.inl ((emit_peers r _) ▸ hp)
  | bind q peer uuid addr =>
    have hp : p ∈ (r.peers.insert q _).keys := hp
    rw [HashMap.keys_insert] at hp
    left
    rcases Finset.mem_insert.1 hp with rfl | hp
    · exact HashMap.mem_keys_of_get? he.2
    · exact hp
  | closeEvents => exact Or.inl hp
  | idle => exact Or.inl hp

variable {hist : List (State M × Action M)} {s : State M}

/-- **The step that chose the reason**, when the peer was connected. -/
def Scheduled (hist : List (State M × Action M)) (x : PeerUid × DisconnectReason) : Prop :=
  ∃ t a, (t, a) ∈ hist ∧ t.schedules? a = some x ∧ x.1 ∈ t.peers.keys

theorem Scheduled.append {x : PeerUid × DisconnectReason} (h : Scheduled hist x)
    (hist' : List (State M × Action M)) : Scheduled (hist ++ hist') x := by
  obtain ⟨t, a, hmem, hx⟩ := h
  exact ⟨t, a, List.mem_append_left _ hmem, hx⟩

/-- What waits to be dropped was scheduled, when its peer was connected if it still is. -/
theorem Run.scheduled_of_mem_peersToDrop (h : Run hist s) {x : PeerUid × DisconnectReason}
    (hx : x ∈ s.peersToDrop) (hkey : x.1 ∈ s.peers.keys) : Scheduled hist x := by
  induction h with
  | start h =>
    obtain ⟨profile, config, rfl⟩ := h
    cases hx
  | @next hist s s' a h hs ih =>
    rcases State.mem_peersToDrop_of_step hs hx with hbefore | hnow
    · refine (ih hbefore ?_).append _
      have hkey : x.1 ∈ s'.registry.peers.keys := hkey
      rw [State.registry_step hs] at hkey
      refine (Registry.mem_keys_after (State.enabled_op hs) hkey).resolve_right ?_
      rintro ⟨addr, uuid, next, hop, -⟩
      -- a connection is accepted while nothing is left to drop
      obtain ⟨hi, -⟩ := State.op_eq_accept_iff.1 hop
      obtain ⟨hwait, -⟩ := State.taken_of_incoming? hs hi
      rw [Run.drained h hwait] at hbefore
      cases hbefore
    · refine ⟨s, a, List.mem_append_right _ (List.mem_singleton_self _), hnow, ?_⟩
      have hpeers : s'.peers = s.peers :=
        congrArg Registry.peers (State.registry_of_schedules? hs hnow)
      rwa [← hpeers]

/-- **Every disconnect was scheduled** when its peer was connected. -/
theorem Run.scheduled_of_peerDisconnect (h : Run hist s) {p : PeerUid} {reason : DisconnectReason}
    (hev : .peerDisconnect ⟨p, reason⟩ ∈ s.events) : Scheduled hist (p, reason) := by
  induction h with
  | start h =>
    obtain ⟨profile, config, rfl⟩ := h
    cases hev
  | @next hist s s' a h hs ih =>
    have hev : .peerDisconnect ⟨p, reason⟩ ∈ s'.registry.events := hev
    rw [State.registry_step hs] at hev
    rcases Registry.mem_events_after hev with hbefore | ⟨l, hop, hmem, hkey⟩
    · exact (ih hbefore).append _
    · obtain rfl : l = s.peersToDrop := State.eq_peersToDrop_of_op hop
      exact (Run.scheduled_of_mem_peersToDrop h hmem hkey).append _

/-! ### From a connection back to its steps -/

/-- The stream of the connection has failed: nothing more is read from it. -/
def Connection.readFailed (conn : Connection M) : Bool :=
  conn.reader.stream.sent.any fun
    | .error .io => true
    | _ => false

theorem Connection.readFailed_iff {conn : Connection M} :
    conn.readFailed = true ↔ .error .io ∈ conn.reader.stream.sent := by
  refine List.any_eq_true.trans ⟨?_, fun h ↦ ⟨_, h, rfl⟩⟩
  rintro ⟨frame, hmem, hframe⟩
  match frame with
  | .error .io => exact hmem
  | .error .bincode => cases hframe
  | .ok _ => cases hframe

/-- The broker touches neither the stream of a connection nor the state of its writer's task. -/
theorem Connection.Touch.stream_phase {released : Prop} {conn conn' : Connection M}
    (h : conn.Touch released conn') :
    conn'.reader.stream = conn.reader.stream ∧ conn'.writer.phase = conn.writer.phase := by
  induction h with
  | refl => exact ⟨rfl, rfl⟩
  | send _ _ ih | shutdownReader _ _ ih | shutdownWriter _ _ ih | dropReader _ _ ih
  | dropWriter _ _ ih | closeReader _ _ ih => exact ih

/-- **What a step does to the stream** of a connection: a frame is read from it, or its end, or it
does not change. -/
theorem Connection.Steps.stream {released : Prop} {c : ℕ} {a : Action M}
    {taken : Option (Incoming M)} {conn conn' : Connection M}
    (h : conn.Steps released c a taken conn') :
    (conn'.reader.stream.sent = conn.reader.stream.sent ∧
      conn'.reader.stream.senderAlive = conn.reader.stream.senderAlive) ∨
    (∃ frame, a = .env (.tcpFrame c frame) ∧ conn.reader.stream.senderAlive = true ∧
      conn'.reader.stream.sent = conn.reader.stream.sent ++ [frame] ∧
      conn'.reader.stream.senderAlive = conn.reader.stream.senderAlive) ∨
    (a = .env (.tcpEnd c) ∧ conn'.reader.stream.sent = conn.reader.stream.sent) := by
  cases h with
  | touched ht =>
    left
    rw [ht.stream_phase.1]
    exact ⟨rfl, rfl⟩
  | taken hi htaken ht =>
    left
    rw [ht.stream_phase.1]
    cases htaken <;> exact ⟨rfl, rfl⟩
  | moves hm =>
    cases hm with
    | reader hstep =>
      exact Or.inl ⟨ReadActor.stream_sent_step hstep, ReadActor.streamAlive_of_step hstep⟩
    | writer hstep => exact Or.inl ⟨rfl, rfl⟩
    | frame halive => exact Or.inr (Or.inl ⟨_, rfl, halive, rfl, rfl⟩)
    | ends => exact Or.inr (Or.inr ⟨rfl, rfl⟩)

/-- **Where a connection comes from**: the step for each frame that was read, for the end of its
stream, and for the failure of its sink. -/
structure Recorded (hist : List (State M × Action M)) (c : ℕ) (conn : Connection M) : Prop where
  frame : ∀ frame ∈ conn.reader.stream.sent, ∃ t, (t, .env (.tcpFrame c frame)) ∈ hist
  /-- The stream ended by itself, or after it had failed. -/
  ended : conn.reader.stream.senderAlive = false → conn.readFailed = true ∨
    ∃ (t : State M) (old : Connection M), (t, .env (.tcpEnd c)) ∈ hist ∧
      t.streams[c]? = some old ∧ old.readFailed = false
  sinkError : conn.writer.Left .sinkError →
    ∃ t, (t, .task (.tcpWriter c (.operate false))) ∈ hist

namespace Recorded

variable {c : ℕ} {conn conn' : Connection M}

/-- Nothing was read from a stream that has not ended, and its sink has not failed. -/
theorem of_new (hsent : conn.reader.stream.sent = [])
    (halive : conn.reader.stream.senderAlive = true) (hleft : ¬ conn.writer.Left .sinkError) :
    Recorded hist c conn where
  frame frame hframe := by
    rw [hsent] at hframe
    cases hframe
  ended hended := absurd (halive.symm.trans hended) Bool.noConfusion
  sinkError hl := absurd hl hleft

theorem same (h : Recorded hist c conn) (hstream : conn'.reader.stream.sent = conn.reader.stream.sent)
    (halive : conn'.reader.stream.senderAlive = conn.reader.stream.senderAlive)
    (hleft : conn'.writer.Left .sinkError → conn.writer.Left .sinkError) :
    Recorded hist c conn' where
  frame := hstream ▸ h.frame
  ended hended := by
    rw [Connection.readFailed, hstream]
    exact h.ended (halive ▸ hended)
  sinkError hl := h.sinkError (hleft hl)

theorem append (h : Recorded hist c conn) (hist' : List (State M × Action M)) :
    Recorded (hist ++ hist') c conn where
  frame frame hframe := by
    obtain ⟨t, ht⟩ := h.frame frame hframe
    exact ⟨t, List.mem_append_left _ ht⟩
  ended hended := by
    refine (h.ended hended).imp_right ?_
    rintro ⟨t, old, ht, hold⟩
    exact ⟨t, old, List.mem_append_left _ ht, hold⟩
  sinkError hl := by
    obtain ⟨t, ht⟩ := h.sinkError hl
    exact ⟨t, List.mem_append_left _ ht⟩

theorem touch {released : Prop} (h : Recorded hist c conn) (ht : conn.Touch released conn') :
    Recorded hist c conn' := by
  obtain ⟨hstream, hphase⟩ := ht.stream_phase
  refine h.same (by rw [hstream]) (by rw [hstream]) fun hl ↦ ?_
  unfold WriteActor.Left at hl ⊢
  rwa [hphase] at hl

/-- A step that the connection takes by itself is recorded. -/
theorem moves (h : Recorded hist c conn) {a : Action M} (hconn : s.streams[c]? = some conn)
    (hm : conn.Moves c a conn') : Recorded (hist ++ [(s, a)]) c conn' := by
  have hlast : (s, a) ∈ hist ++ [(s, a)] := List.mem_append_right _ (List.mem_singleton_self _)
  cases hm with
  | reader hstep =>
    exact (h.append _).same (ReadActor.stream_sent_step hstep) (ReadActor.streamAlive_of_step hstep) id
  | writer hstep =>
    refine ⟨(h.append _).frame, (h.append _).ended, fun hl ↦ ?_⟩
    rcases WriteActor.left_of_step hstep hl with hl | rfl
    · exact (h.append _).sinkError hl
    · exact ⟨s, hlast⟩
  | frame halive =>
    refine ⟨fun frame' hframe ↦ ?_, fun hended ↦ absurd (halive.symm.trans hended) Bool.noConfusion,
      (h.append _).sinkError⟩
    rcases List.mem_append.1 hframe with hframe | hframe
    · exact (h.append _).frame frame' hframe
    · obtain rfl := List.mem_singleton.1 hframe
      exact ⟨s, hlast⟩
  | ends =>
    refine ⟨(h.append _).frame, fun _ ↦ ?_, (h.append _).sinkError⟩
    cases hfailed : conn.readFailed with
    | true => exact Or.inl hfailed
    | false => exact Or.inr ⟨s, conn, hlast, hconn, hfailed⟩

end Recorded

theorem Run.recorded (h : Run hist s) {c : ℕ} {conn : Connection M}
    (hconn : s.streams[c]? = some conn) : Recorded hist c conn := by
  refine Run.connection_induction (I := Recorded) ?_ ?_ h hconn
  · intro hist c p released conn htouch
    obtain ⟨hstream, hphase⟩ := htouch.stream_phase
    refine .of_new (by rw [hstream]; rfl) (by rw [hstream]; rfl) ?_
    unfold WriteActor.Left
    rw [hphase]
    rintro (hl | hl) <;> cases hl
  · intro hist s a c conn conn' released hI hconn hsteps
    cases hsteps with
    | touched ht => exact (hI.append _).touch ht
    | taken hi htaken ht =>
      refine ((hI.append _).same ?_ ?_ ?_).touch ht
      · cases htaken <;> rfl
      · cases htaken <;> rfl
      · cases htaken <;> exact id
    | moves hm => exact hI.moves hconn hm

/-! ### After the failure of a stream -/

/-- A connection is accepted under the uid of one whose stream has failed. -/
def InheritsFailure (s : State M) (a : Action M) : Prop :=
  (s.op a).issued?.isSome = true ∧
    ∃ conn ∈ s.streams, conn.peerUid = s.nextPeerUid ∧ conn.readFailed = true

instance (s : State M) : DecidablePred (InheritsFailure s) := fun a ↦
  inferInstanceAs (Decidable ((s.op a).issued?.isSome = true ∧
    ∃ conn ∈ s.streams, conn.peerUid = s.nextPeerUid ∧ conn.readFailed = true))

/-- A connection is accepted under the uid of this one, whose stream has failed. -/
def InheritsFailureOf (s : State M) (a : Action M) (c : ℕ) : Prop :=
  (s.op a).issued?.isSome = true ∧
    ∃ conn, s.streams[c]? = some conn ∧ conn.peerUid = s.nextPeerUid ∧ conn.readFailed = true

theorem InheritsFailureOf.inheritsFailure {s : State M} {a : Action M} {c : ℕ}
    (h : InheritsFailureOf s a c) : InheritsFailure s a := by
  obtain ⟨haccept, conn, hconn, huid, hfailed⟩ := h
  exact ⟨haccept, conn, List.mem_of_getElem? hconn, huid, hfailed⟩

theorem State.length_streams_of_issued {s s' : State M} {a : Action M}
    (h : (s.op a).issued?.isSome = true) (hs : s.step a = some s') :
    s'.streams.length = s.streams.length + 1 := by
  obtain ⟨uuid, huuid⟩ := Option.isSome_iff_exists.1 h
  rw [State.length_streams_of_step hs, huuid]
  rfl

/-- A connection that has its uid to itself has no heir. -/
theorem Run.not_inheritsFailureOf (h : Run hist s) {c : ℕ} (hsole : s.SoleUid c) :
    ∀ x ∈ hist, ¬ InheritsFailureOf x.1 x.2 c := by
  rintro ⟨t, a⟩ hmem ⟨haccept, conn, hconn, huid, -⟩
  obtain ⟨hist₁, hist₂, t', heq, ht, hs⟩ := TransitionSystem.Run.exists_step_of_mem h hmem
  have hlen : t'.streams.length = t.streams.length + 1 :=
    State.length_streams_of_issued haccept hs
  have hle := h.le_of_step_of_mem (fun _ _ _ ↦ State.length_streams_le_of_step) _ hmem t' hs
  have hlt : c < t.streams.length := (List.getElem?_eq_some_iff.1 hconn).1
  -- the uid that is given out is that of the next connection
  have hnext : t.nextPeerUid = .ofNat t.streams.length := by
    rw [← t.length_connections]
    exact (Run.numbered ht).nextPeerUid_eq
  have hsame : t.streams.length = c := by
    refine hsole _ (by omega) ?_
    rw [← hnext, ← huid, State.peerUid_eq (Run.numbered ht) hconn]
  omega

/-- None is up to `2 ^ 64` connections, nor where overflow is checked. -/
theorem Run.not_inheritsFailure (h : Run hist s)
    (huids : s.profile.overflowChecks = true ∨ s.streams.length ≤ 2 ^ 64) :
    ∀ x ∈ hist, ¬ InheritsFailure x.1 x.2 := by
  rintro ⟨t, a⟩ hmem ⟨haccept, conn, hconn, huid, -⟩
  obtain ⟨hist₁, hist₂, t', heq, ht, hs⟩ := TransitionSystem.Run.exists_step_of_mem h hmem
  have hlen : t'.streams.length = t.streams.length + 1 :=
    State.length_streams_of_issued haccept hs
  have hle := h.le_of_step_of_mem (fun _ _ _ ↦ State.length_streams_le_of_step) _ hmem t' hs
  have hlt : t.registry.connections.length < 2 ^ 64 := by
    rw [State.length_connections]
    have := Run.length_streams_le h huids
    omega
  exact (Run.numbered ht).next_notMem hlt (List.mem_map.2 ⟨conn, hconn, huid⟩)

/-- The items taken from a connection were read from its stream. -/
theorem Run.readFailed_of_takenFrames (h : Run hist s) {c : ℕ}
    (hmem : .streamItem (.error .io) ∈ s.takenFrames c) :
    ∃ conn, s.streams[c]? = some conn ∧ conn.peerUid = .ofNat c ∧ conn.readFailed = true := by
  cases hconn : s.streams[c]? with
  | none => simp [State.takenFrames, hconn] at hmem
  | some conn =>
    obtain ⟨frame, hframe, heq⟩ :=
      List.mem_map.1 ((Run.takenFrames_isPrefix h hconn).subset hmem)
    obtain rfl := ReadActorEvent.streamItem.inj heq
    exact ⟨conn, rfl, State.peerUid_eq (Run.numbered h) hconn,
      Connection.readFailed_iff.2 (List.mem_of_mem_take hframe)⟩

/-- A peer that no longer waits to be dropped is gone. -/
theorem Run.notMem_keys_of_dropped (h : Run hist s) {a : Action M} {s' : State M}
    (hs : s.step a = some s') (hnot : ¬ s'.Panicked) {p : PeerUid}
    (hp : p ∈ s.peersToDrop.map Prod.fst) (hp' : p ∉ s'.peersToDrop.map Prod.fst) :
    p ∉ s'.peers.keys := by
  rcases State.step_cases hs with ⟨-, hphase, rfl⟩ | ⟨source, choice, incoming, t, -, hwait, -, -⟩ |
    ⟨c, conn, conn', -, -, rfl⟩ | ⟨st, reader, -, -, rfl⟩ | ⟨st, writer, -, -, rfl⟩ |
    ⟨y, -, rfl⟩ | ⟨e, ch, sender, -, -, rfl⟩
  · rw [State.keys_loopTop hphase hnot, Finset.mem_sdiff, List.mem_toFinset]
    exact fun hmem ↦ hmem.2 hp
  · rw [Run.drained h hwait] at hp
    cases hp
  all_goals exact absurd hp hp'

/-- **A failure is answered**, while the connection has no heir. -/
theorem Run.failureAnswered (h : Run hist s) {c : ℕ}
    (hC : ∀ x ∈ hist, ¬ InheritsFailureOf x.1 x.2 c) (hnot : ¬ s.Panicked)
    (hmem : .streamItem (.error .io) ∈ s.takenFrames c) :
    .ofNat c ∈ s.peersToDrop.map Prod.fst ∨ .ofNat c ∉ s.peers.keys := by
  induction h with
  | start h =>
    obtain ⟨profile, config, rfl⟩ := h
    exact absurd hmem List.not_mem_nil
  | @next hist s s' a h hs ih =>
    have hn := Run.numbered h
    have ih := ih (fun x hx ↦ hC x (List.mem_append_left _ hx)) (State.not_panicked_of_step hs hnot)
    have hlast : ¬ InheritsFailureOf s a c := hC (s, a) (List.mem_append_right _ List.mem_cons_self)
    have hkeys : .ofNat c ∈ s'.peers.keys → .ofNat c ∈ s.peers.keys ∨
        ∃ addr uuid next, s.op a = .accept addr uuid next ∧ .ofNat c = s.nextPeerUid := by
      intro hkey
      have hkey : .ofNat c ∈ s'.registry.peers.keys := hkey
      rw [State.registry_step hs] at hkey
      exact Registry.mem_keys_after (State.enabled_op hs) hkey
    rw [State.takenFrames_of_step hn hs] at hmem
    rcases List.mem_append.1 hmem with hold | hnew
    · -- no connection with this uid is accepted
      have hkeys : .ofNat c ∈ s'.peers.keys → .ofNat c ∈ s.peers.keys := by
        refine fun hkey ↦ (hkeys hkey).resolve_right ?_
        rintro ⟨addr, uuid, next, hop, huid⟩
        obtain ⟨conn, hconn, huid', hfailed⟩ := Run.readFailed_of_takenFrames h hold
        exact hlast ⟨by rw [hop]; rfl, conn, hconn, huid'.trans huid, hfailed⟩
      rcases ih hold with hdrop | hgone
      · by_cases hdrop' : .ofNat c ∈ s'.peersToDrop.map Prod.fst
        · exact Or.inl hdrop'
        · exact Or.inr (Run.notMem_keys_of_dropped h hs hnot hdrop hdrop')
      · exact Or.inr fun hkey ↦ hgone (hkeys hkey)
    · have hi := State.incoming?_of_takes hn (Option.mem_toList.1 hnew)
      obtain ⟨choice, t, -, ht, rfl⟩ := State.exists_taken_of_incoming? hs hi
      rw [State.peersToDrop_handleIncoming, List.map_append]
      exact Or.inl (List.mem_append_right _ List.mem_cons_self)

/-- The end of a stream that is reported for a connected peer is not that of a failed one. -/
theorem Run.readFailed_eq_false (h : Run hist s) {c : ℕ}
    (hC : ∀ x ∈ hist, ¬ InheritsFailureOf x.1 x.2 c) {conn : Connection M}
    (hconn : s.streams[c]? = some conn)
    (hphase : conn.reader.phase = .finished (.controlled .endOfStream))
    (hqueue : conn.reader.tx.queue = []) (hwait : s.phase = .waiting)
    (hkey : .ofNat c ∈ s.peers.keys) : conn.readFailed = false := by
  by_contra hfailed
  rw [Bool.not_eq_false, Connection.readFailed_iff] at hfailed
  obtain ⟨hsent, -⟩ := (h.tended.sound c conn hconn).caused.endOfStream hphase
  -- the failure has been taken, so the peer would be gone
  have htaken : .streamItem (.error .io) ∈ s.takenFrames c := by
    have hall : s.takenFrames c = conn.reader.tx.sent := by
      simp only [State.takenFrames, hconn]
      rw [← Channel.taken_append_queue, hqueue, List.append_nil]
    rw [hall, hsent]
    exact List.mem_map_of_mem hfailed
  have hanswered := Run.failureAnswered h hC (State.not_panicked_of_waiting hwait) htaken
  rw [Run.drained h hwait] at hanswered
  exact absurd hkey (hanswered.resolve_left List.not_mem_nil)

/-- When the end of its stream has been reported while the peer was connected, the stream of a
connection had not failed. -/
theorem Run.readFailed_of_reported (h : Run hist s) {c : ℕ} {conn : Connection M}
    (hconn : s.streams[c]? = some conn) (hsole : s.SoleUid c) {t : State M} {a : Action M}
    (hmem : (t, a) ∈ hist)
    (hi : t.incoming? a = some (.endOfStream (.tcpReader (.ofNat c) (.controlled .endOfStream))))
    (hkey : .ofNat c ∈ t.peers.keys) : conn.readFailed = false := by
  obtain ⟨hist₁, hist₂, t', heq, ht, hs⟩ := TransitionSystem.Run.exists_step_of_mem h hmem
  have hsole' := hsole.of_le (h.length_streams_le_of_visited (Or.inr ⟨a, hmem⟩))
  obtain ⟨hwait, -⟩ := State.taken_of_incoming? hs hi
  obtain ⟨frames, hbefore⟩ := Run.exhausted_of_endOfStream ht hsole' hs hi
  obtain ⟨old, hold, hd⟩ := hbefore.drained
  have hclean := Run.readFailed_eq_false ht (Run.not_inheritsFailureOf ht hsole') hold hd.finished
    hd.empty hwait hkey
  -- nothing has been read since
  have hnext : t'.Exhausted c frames := hbefore.step hs
  have hafter : s.Exhausted c frames := TransitionSystem.Run.invariant_from
    (I := fun u ↦ u.Exhausted c frames) (fun _ _ _ hu hb ↦ State.Exhausted.step hu hb) h heq hs
    hnext
  obtain ⟨conn', hconn', hd'⟩ := hafter.drained
  obtain rfl := Option.some.inj (hconn'.symm.trans hconn)
  rw [Connection.readFailed, hd'.sent, ← hd.sent]
  exact hclean

/-! ### Causes -/

/-- The steps that a disconnect with this reason goes back to. -/
inductive Cause (hist : List (State M × Action M)) (p : PeerUid) : DisconnectReason → Prop
  /-- A frame of the peer's connection brought an error. -/
  | frame {t : State M} {c : ℕ} {conn : Connection M} {err : TcpError}
      (hmem : (t, .env (.tcpFrame c (.error err))) ∈ hist) (hconn : t.streams[c]? = some conn)
      (huid : conn.peerUid = p) : Cause hist p .peerSubmittedUnintelligibleData
  /-- So did a datagram, and it was handled when its address was that of the peer. -/
  | datagram {t t' : State M} {a : Action M} {err : UdpError} {addr : SocketAddr}
      (hmem : (t, .env (.datagram (.error err) addr)) ∈ hist) (hmem' : (t', a) ∈ hist)
      (hi : t'.incoming? a = some (.udpReader (.streamItem (.error err, addr))))
      (hindex : t'.peerUdpSocketAddrToPeerUid.get? addr = some p) :
      Cause hist p .peerSubmittedUnintelligibleData
  /-- The stream of the peer's connection ended, and not because it had failed. -/
  | ended {t : State M} {c : ℕ} {conn : Connection M} (hmem : (t, .env (.tcpEnd c)) ∈ hist)
      (hconn : t.streams[c]? = some conn) (huid : conn.peerUid = p)
      (hclean : conn.readFailed = false) : Cause hist p .peerClosedConnection
  /-- An operation on the sink of the peer's connection failed. -/
  | sinkError {t : State M} {c : ℕ} {conn : Connection M}
      (hmem : (t, .task (.tcpWriter c (.operate false))) ∈ hist) (hconn : t.streams[c]? = some conn)
      (huid : conn.peerUid = p) : Cause hist p .peerClosedConnection

/-- A step of a connection finds it under its uid. -/
theorem Run.exists_connection_of_mem (h : Run hist s) {t : State M} {a : Action M} {c : ℕ}
    {f : Connection M → Option (Connection M)} (hmem : (t, a) ∈ hist)
    (hstep : t.step a = t.updateConnection c f) :
    ∃ conn, t.streams[c]? = some conn ∧ conn.peerUid = .ofNat c := by
  obtain ⟨hist₁, hist₂, t', heq, ht, hs⟩ := TransitionSystem.Run.exists_step_of_mem h hmem
  have hs : t.step a = some t' := hs
  rw [hstep] at hs
  obtain ⟨conn, -, hconn, -, -⟩ := State.updateConnection_eq_some_iff.1 hs
  exact ⟨conn, hconn, State.peerUid_eq (Run.numbered ht) hconn⟩

/-- A frame with an error that is handled was read. -/
theorem Run.cause_of_tcpReader (h : Run hist s) {a : Action M} {err : TcpError} {p : PeerUid}
    (hi : s.incoming? a = some (.tcpReader (.streamItem (.error err)) p)) :
    Cause hist p .peerSubmittedUnintelligibleData := by
  obtain ⟨c, conn, hconn, rfl, hsent, -⟩ := State.exists_takes_of_incoming? (Run.numbered h) hi
  have hframe := (h.tended.sound c conn hconn).tracks.mem_stream hsent
  obtain ⟨t, hmem⟩ := (Run.recorded h hconn).frame _ hframe
  obtain ⟨old, hold, huid⟩ := Run.exists_connection_of_mem h hmem rfl
  exact .frame hmem hold huid

/-- The end of a stream that is reported for a connected peer came before any failure of it. -/
theorem Run.cause_of_tcpReaderEnd (h : Run hist s) (hC : ∀ x ∈ hist, ¬ InheritsFailure x.1 x.2)
    {a : Action M} {s' : State M} (hs : s.step a = some s') {p : PeerUid}
    (hi : s.incoming? a = some (.endOfStream (.tcpReader p (.controlled .endOfStream))))
    (hkey : p ∈ s.peers.keys) : Cause hist p .peerClosedConnection := by
  obtain ⟨c, choice, conn, rfl, hconn, rfl, hphase, hqueue⟩ := State.eq_next_of_tcpReaderEnd hi
  obtain ⟨hsent, hended⟩ := (h.tended.sound c conn hconn).caused.endOfStream hphase
  have huid := State.peerUid_eq (Run.numbered h) hconn
  obtain ⟨hwait, -⟩ := State.taken_of_incoming? hs hi
  have hclean := Run.readFailed_eq_false h (fun x hx hf ↦ hC x hx hf.inheritsFailure) hconn hphase
    hqueue hwait (huid ▸ hkey)
  rcases (Run.recorded h hconn).ended hended with hfailed | ⟨t, old, hmem, hold, hclean⟩
  · exact absurd (hclean.symm.trans hfailed) Bool.noConfusion
  · obtain ⟨old', hold', huid'⟩ := Run.exists_connection_of_mem h hmem rfl
    obtain rfl := Option.some.inj (hold.symm.trans hold')
    exact .ended hmem hold (huid'.trans huid.symm) hclean

/-- The failure of a sink that is reported goes back to an operation on it. -/
theorem Run.cause_of_tcpWriterEnd (h : Run hist s) {a : Action M} {s' : State M}
    (hs : s.step a = some s') {p : PeerUid}
    (hi : s.incoming? a = some (.endOfStream (.tcpWriter p (.controlled .sinkError)))) :
    Cause hist p .peerClosedConnection := by
  obtain ⟨hwait, t, ht⟩ := State.taken_of_incoming? hs hi
  cases ht with
  | @tcpWriterEnd c conn _ hconn hphase =>
    obtain ⟨t, hmem⟩ := (Run.recorded h hconn).sinkError (Or.inr hphase)
    obtain ⟨old, hold, huid⟩ := Run.exists_connection_of_mem h hmem rfl
    exact .sinkError hmem hold (huid.trans (State.peerUid_eq (Run.numbered h) hconn).symm)

theorem Cause.append {p : PeerUid} {reason : DisconnectReason} (h : Cause hist p reason)
    (hist' : List (State M × Action M)) : Cause (hist ++ hist') p reason := by
  cases h with
  | frame hmem hconn huid => exact .frame (List.mem_append_left _ hmem) hconn huid
  | datagram hmem hmem' hi hindex =>
    exact .datagram (List.mem_append_left _ hmem) (List.mem_append_left _ hmem') hi hindex
  | ended hmem hconn huid hclean => exact .ended (List.mem_append_left _ hmem) hconn huid hclean
  | sinkError hmem hconn huid => exact .sinkError (List.mem_append_left _ hmem) hconn huid

/-- **Every disconnect has its cause**, while no connection inherits the uid of one that has
failed. -/
theorem Run.exists_cause (h : Run hist s) (hC : ∀ x ∈ hist, ¬ InheritsFailure x.1 x.2)
    {p : PeerUid} {reason : DisconnectReason} (hev : .peerDisconnect ⟨p, reason⟩ ∈ s.events) :
    Cause hist p reason := by
  obtain ⟨t, a, hmem, hscheduled, hkey⟩ := Run.scheduled_of_peerDisconnect h hev
  obtain ⟨hist₁, hist₂, t', rfl, ht, hs⟩ := TransitionSystem.Run.exists_step_of_mem h hmem
  obtain ⟨incoming, hi, hscheduled⟩ := Option.bind_eq_some_iff.1 hscheduled
  unfold Incoming.schedules? at hscheduled
  split at hscheduled
  · obtain ⟨rfl, rfl⟩ := Prod.mk.inj (Option.some.inj hscheduled)
    exact (Run.cause_of_tcpReader ht hi).append _
  · rename_i err addr
    obtain ⟨q, hindex, heq⟩ := Option.map_eq_some_iff.1 hscheduled
    obtain ⟨rfl, rfl⟩ := Prod.mk.inj heq
    obtain ⟨⟨t₀, a₀⟩, hmem₀, hdatagram⟩ :=
      List.mem_filterMap.1 (Run.mem_datagrams_of_incoming ht hi)
    obtain rfl := Action.datagram?_eq_some_iff.1 hdatagram
    exact .datagram (List.mem_append_left _ hmem₀) hmem hi hindex
  · obtain ⟨rfl, rfl⟩ := Prod.mk.inj (Option.some.inj hscheduled)
    have hC₁ : ∀ x ∈ hist₁, ¬ InheritsFailure x.1 x.2 :=
      fun x hx ↦ hC x (List.mem_append_left _ hx)
    exact (Run.cause_of_tcpReaderEnd ht hC₁ hs hi hkey).append _
  · obtain ⟨rfl, rfl⟩ := Prod.mk.inj (Option.some.inj hscheduled)
    exact (Run.cause_of_tcpWriterEnd ht hs hi).append _
  · cases hscheduled

end NetStream.Server
