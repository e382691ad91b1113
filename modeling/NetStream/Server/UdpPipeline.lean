import NetStream.Server.AddressIndex
import NetStream.Server.Datagrams
import NetStream.Server.Connections

/-!
# From the datagrams to the events of their peers

All datagrams pass through one read actor and its channel, and the broker handles each in the step
that takes it, so the datagrams handled are an initial part of those that arrived
(`Run.takenDatagrams_yielded`). A message is emitted as one of the peer to which the address
resolves then. As long as only one address ever resolves to a peer, its messages are some of those
that arrived from there, in the order of arrival and none more often than it arrived
(`Run.udpMessagesFrom_sublist`).
-/

namespace NetStream.Server

variable {M : MessageTypes}

/-- The message over UDP from this peer that an event brings. -/
def Event.udpMessageFrom? (p : PeerUid) : Event M → Option M.UdpToServer
  | .udpMessage msg => if msg.from_ = p then some msg.message else none
  | _ => none

/-- The messages over UDP from a peer, in order. -/
def udpMessagesFrom (p : PeerUid) (events : List (Event M)) : List M.UdpToServer :=
  events.filterMap (Event.udpMessageFrom? p)

/-- The message in a datagram from this address. -/
def messageFromAddress? (addr : SocketAddr) :
    Except UdpError (UdpToServer M) × SocketAddr → Option M.UdpToServer
  | (.ok (.applicationLogic msg), addr') => if addr' = addr then some msg else none
  | _ => none

/-- The datagram that a step takes. -/
def takenDatagram? (s : State M) (a : Action M) :
    Option (Except UdpError (UdpToServer M) × SocketAddr) :=
  match s.incoming? a with
  | some (.udpReader (.streamItem x)) => some x
  | _ => none

/-- The datagrams that the broker has taken, oldest first. -/
def takenDatagrams (hist : List (State M × Action M)) :
    List (Except UdpError (UdpToServer M) × SocketAddr) :=
  hist.filterMap fun x ↦ takenDatagram? x.1 x.2

theorem takenDatagrams_append_singleton (hist : List (State M × Action M)) (s : State M)
    (a : Action M) :
    takenDatagrams (hist ++ [(s, a)]) = takenDatagrams hist ++ (takenDatagram? s a).toList :=
  List.filterMap_append_singleton _ hist (s, a)

theorem takenDatagram?_eq_some_iff {s : State M} {a : Action M}
    {x : Except UdpError (UdpToServer M) × SocketAddr} :
    takenDatagram? s a = some x ↔ s.incoming? a = some (.udpReader (.streamItem x)) := by
  unfold takenDatagram?
  split
  · rename_i y hi
    rw [hi, Option.some.injEq, Option.some.injEq, Incoming.udpReader.injEq,
      ReadActorEvent.streamItem.injEq]
  · rename_i hi
    exact ⟨nofun, fun heq ↦ absurd heq (hi x)⟩

/-- The message that an operation emits. -/
def Op.message? : Op M → Option (Event M)
  | .tcpMessage msg => some (.tcpMessage msg)
  | .udpMessage msg _ => some (.udpMessage msg)
  | _ => none

/-- What an operation adds to the events, apart from those of connections. -/
theorem Registry.filterMap_events_after {β : Type} {f : Event M → Option β}
    (hnew : ∀ ev, f (.newPeer ev) = none) (hgone : ∀ ev, f (.peerDisconnect ev) = none)
    (r : Registry M) (op : Op M) :
    (r.after op).events.filterMap f = r.events.filterMap f ++
      if r.eventsOpen then (op.message?.bind f).toList else [] := by
  have hemit : ∀ (r : Registry M) ev, (r.emit ev).events.filterMap f =
      r.events.filterMap f ++ if r.eventsOpen then (f ev).toList else [] := by
    intro r ev
    rw [Registry.events_emit]
    split
    · exact List.filterMap_append_singleton _ _ ev
    · rw [List.append_nil, List.append_nil]
  have hquiet : r.events.filterMap f =
      r.events.filterMap f ++ if r.eventsOpen then ([] : List β) else [] := by
    rw [ite_self, List.append_nil]
  cases op with
  | drop l =>
    refine Eq.trans ?_ hquiet
    refine dropPeers_eq (f := fun r ↦ r.events.filterMap f) (fun r q peer reason ↦ ?_) r l
    show ((r.remove q peer).emit _).events.filterMap f = _
    rw [hemit, hgone, Option.toList_none, ite_self, List.append_nil]
    rfl
  | accept addr uuid next =>
    refine Eq.trans ?_ hquiet
    show ((r.register addr uuid next).emit _).events.filterMap f = _
    rw [hemit, hnew, Option.toList_none, ite_self, List.append_nil]
    rfl
  | tcpMessage msg => exact hemit r _
  | udpMessage msg addr => exact hemit r _
  | bind _ _ _ _ | closeEvents | idle => exact hquiet

section Run

variable {hist : List (State M × Action M)} {s : State M}

/-- What a step adds to the messages over UDP from a peer. -/
theorem State.udpMessagesFrom_step {s' : State M} {a : Action M} (hs : s.step a = some s')
    (p : PeerUid) : udpMessagesFrom p s'.events = udpMessagesFrom p s.events ++
      if s.eventSender.receiverAlive then
        ((s.op a).message?.bind (Event.udpMessageFrom? p)).toList else [] := by
  have hevents : s'.events = (s.registry.after (s.op a)).events :=
    congrArg Registry.events (State.registry_step hs)
  rw [hevents]
  exact Registry.filterMap_events_after (fun _ ↦ rfl) (fun _ ↦ rfl) s.registry (s.op a)

/-- A message over UDP is in the datagram that is taken, from an address that resolves to its
sender. -/
theorem State.exists_takenDatagram_of_op {a : Action M} {p : PeerUid} {m : M.UdpToServer}
    (hm : (s.op a).message?.bind (Event.udpMessageFrom? p) = some m) :
    ∃ addr, takenDatagram? s a = some (.ok (.applicationLogic m), addr) ∧
      s.peerUdpSocketAddrToPeerUid.get? addr = some p := by
  obtain ⟨ev, hev, hm⟩ := Option.bind_eq_some_iff.1 hm
  unfold Op.message? at hev
  split at hev
  · obtain rfl := Option.some.inj hev
    cases hm
  · rename_i msg addr hop
    obtain rfl := Option.some.inj hev
    obtain ⟨q, m'⟩ := msg
    simp only [Event.udpMessageFrom?] at hm
    split at hm
    · rename_i hq
      obtain rfl := Option.some.inj hm
      obtain rfl : q = p := hq
      obtain ⟨hi, hidx⟩ := State.op_eq_udpMessage_iff.1 hop
      exact ⟨addr, takenDatagram?_eq_some_iff.2 hi, hidx⟩
    · cases hm
  · cases hev

/-- **What the broker takes has arrived**, in this order and without a gap. -/
theorem Run.takenDatagrams_yielded (h : Run hist s) :
    takenDatagrams hist <+: datagrams hist ∧
      (¬ s.Panicked → s.udpReadActor.Yields (takenDatagrams hist)) := by
  induction h with
  | start h =>
    obtain ⟨profile, config, rfl⟩ := h
    exact ⟨List.prefix_rfl, fun _ ↦ ReadActor.yields_spawnActor⟩
  | @next hist s s' a h hs ih =>
    obtain ⟨hinitial, hyields⟩ := ih
    have hstream := (Run.readsDatagrams h).stream
    have hn := Run.numbered h
    rw [takenDatagrams_append_singleton, datagrams_append_singleton]
    refine ⟨?_, fun hnot ↦ ?_⟩
    · refine List.IsPrefix.trans ?_ (List.prefix_append _ _)
      cases hx : takenDatagram? s a with
      | none => rwa [Option.toList_none, List.append_nil]
      | some x =>
        obtain ⟨source, choice, t, rfl, hr⟩ :=
          State.exists_next_of_incoming? (takenDatagram?_eq_some_iff.1 hx)
        have hyields := hyields (State.not_panicked_of_waiting (State.exists_taken_of_next hs).1)
        rw [← hstream]
        cases State.taken_of_nextIncoming hr with
        | udpReader hrecv => exact (hyields.recv hrecv).isPrefix
    · have hyields := hyields (State.not_panicked_of_step hs hnot)
      have hquiet : takenDatagram? s a = none → s'.udpReadActor = s.udpReadActor →
          s'.udpReadActor.Yields (takenDatagrams hist ++ (takenDatagram? s a).toList) := by
        intro hnone hreader
        rw [hnone, Option.toList_none, List.append_nil, hreader]
        exact hyields
      rcases State.step_cases hs with ⟨rfl, hphase, rfl⟩ |
        ⟨source, choice, incoming, t, rfl, -, hr, rfl⟩ | ⟨c, conn, conn', -, hmoves, rfl⟩ |
        ⟨st, reader, rfl, hreader, rfl⟩ | ⟨st, writer, rfl, -, rfl⟩ | ⟨x, rfl, rfl⟩ |
        ⟨e, ch, sender, rfl, -, rfl⟩
      · exact hquiet rfl ((Handled.loopTop hphase hn).udpReader hnot)
      · have ht := State.taken_of_nextIncoming hr
        have hi : s.incoming? (.next source choice) = some incoming := by
          rw [State.incoming?, hr, Option.map_some]
        have hnt : ({ t with phase := .top } : State M).registry.Numbered := by
          show t.registry.Numbered
          rwa [State.registry_taken ht]
        have hreader := (Handled.handleIncoming { t with phase := .top } hnt incoming choice).udpReader hnot
        cases ht with
        | udpReader hrecv =>
          rename_i event ch
          obtain ⟨x⟩ := event
          rw [hreader, takenDatagram?_eq_some_iff.2 hi]
          exact hyields.recv hrecv
        | actorMessage _ | actorMessageEnd | tcpListener _ | tcpReader _ _ | tcpReaderEnd _ _
        | tcpWriterEnd _ _ | udpReaderEnd _ | udpWriterEnd _ | udpHeartbeat =>
          refine hquiet ?_ hreader
          rw [takenDatagram?, hi]
      · refine hquiet ?_ rfl
        cases hmoves <;> rfl
      · exact (List.append_nil _).symm ▸ hyields.step hreader
      · exact hquiet rfl rfl
      · exact (List.append_nil _).symm ▸ hyields.arrive x
      · exact hquiet rfl rfl

/-- **The messages over UDP from a peer**, where only one address ever resolves to it, are some of
those that arrived from there, in the order of arrival and each at most as often. -/
theorem Run.udpMessagesFrom_sublist (h : Run hist s) {p : PeerUid} {addr : SocketAddr}
    (hsole : ∀ x ∈ hist, ∀ addr', x.1.peerUdpSocketAddrToPeerUid.get? addr' = some p →
      addr' = addr) :
    (udpMessagesFrom p s.events).Sublist
      ((datagrams hist).filterMap (messageFromAddress? addr)) := by
  refine List.Sublist.trans ?_ ((Run.takenDatagrams_yielded h).1.filterMap _).sublist
  induction h with
  | start h =>
    obtain ⟨profile, config, rfl⟩ := h
    exact List.Sublist.slnil
  | @next hist s s' a h hs ih =>
    have ih := ih fun x hx ↦ hsole x (List.mem_append_left _ hx)
    have hlast := hsole (s, a) (List.mem_append_right _ (List.mem_singleton_self _))
    rw [State.udpMessagesFrom_step hs, takenDatagrams_append_singleton, List.filterMap_append]
    refine ih.append ?_
    split
    · cases hm : (s.op a).message?.bind (Event.udpMessageFrom? p) with
      | none => exact List.nil_sublist _
      | some m =>
        obtain ⟨addr', htaken, hidx⟩ := State.exists_takenDatagram_of_op hm
        obtain rfl := hlast addr' hidx
        rw [htaken]
        simp [messageFromAddress?]
    · exact List.nil_sublist _

end Run

end NetStream.Server
