import NetStream.Server.Provenance

/-!
# The datagrams that reach the broker

The read actor of the UDP socket hands on what it reads, in order, so a datagram that the broker
handles has arrived before (`Run.mem_datagrams_of_incoming`). The broker's part is to leave the
actor alone, apart from dropping its ends of the channels when it panics (`SameReader`).
-/

namespace NetStream.Server

variable {M : MessageTypes}

/-- The datagram that an action lets arrive. -/
def Action.datagram? : Action M → Option (Except UdpError (UdpToServer M) × SocketAddr)
  | .env (.datagram message socketAddr) => some (message, socketAddr)
  | _ => none

theorem Action.datagram?_eq_some_iff {a : Action M}
    {x : Except UdpError (UdpToServer M) × SocketAddr} :
    a.datagram? = some x ↔ a = .env (.datagram x.1 x.2) := by
  constructor
  · intro h
    unfold datagram? at h
    split at h
    · obtain rfl := Option.some.inj h
      rfl
    · cases h
  · rintro rfl
    rfl

/-- The datagrams that arrived in a run, oldest first. -/
def datagrams (hist : List (State M × Action M)) :
    List (Except UdpError (UdpToServer M) × SocketAddr) :=
  hist.filterMap fun x ↦ x.2.datagram?

theorem datagrams_append_singleton (hist : List (State M × Action M)) (s : State M)
    (a : Action M) : datagrams (hist ++ [(s, a)]) = datagrams hist ++ a.datagram?.toList :=
  List.filterMap_append_singleton _ hist (s, a)

/-- The UDP reader is where it was, with the same input and output. -/
structure SameReader (s s' : State M) : Prop where
  stream : s'.udpReadActor.stream = s.udpReadActor.stream
  sent : s'.udpReadActor.tx.sent = s.udpReadActor.tx.sent
  phase : s'.udpReadActor.phase = s.udpReadActor.phase

namespace SameReader

variable {s s' s'' : State M}

theorem of_eq (h : s'.udpReadActor = s.udpReadActor) : SameReader s s' :=
  ⟨by rw [h], by rw [h], by rw [h]⟩

theorem trans (h : SameReader s s') (h' : SameReader s' s'') : SameReader s s'' :=
  ⟨h'.stream.trans h.stream, h'.sent.trans h.sent, h'.phase.trans h.phase⟩

theorem panic (s : State M) (site : PanicSite) : SameReader s (s.panic site) :=
  ⟨rfl, rfl, rfl⟩

theorem emit (s : State M) (ev : Event M) : SameReader s (s.emit ev) := by
  unfold State.emit
  split
  · exact of_eq rfl
  · exact panic s _

theorem insertPeer (s : State M) (p : PeerUid) (peer : Peer) :
    SameReader s (s.insertPeer p peer) := by
  unfold State.insertPeer
  dsimp only
  split <;> exact of_eq rfl

theorem dropPeer (s : State M) (p : PeerUid) (reason : DisconnectReason) :
    SameReader s (Server.dropPeer s p reason) := by
  unfold Server.dropPeer
  split
  · exact of_eq rfl
  · refine trans ?_ (emit _ _)
    exact of_eq rfl

theorem dropPeers (s : State M) (l : List (PeerUid × DisconnectReason)) :
    SameReader s (Server.dropPeers s l) := by
  induction l generalizing s with
  | nil => exact of_eq rfl
  | cons x rest ih =>
    rw [Server.dropPeers]
    split
    · exact dropPeer s x.1 x.2
    · exact (dropPeer s x.1 x.2).trans (ih _)

theorem loopTop (s : State M) : SameReader s (Server.loopTop s) := by
  unfold Server.loopTop
  split
  · exact panic s _
  · refine trans ?_ (dropPeers _ _)
    exact of_eq rfl

theorem announceTcp (s : State M) (order : List PeerUid) (msg : TcpFromServer M) :
    SameReader s (Server.announceTcp s order msg) := by
  rw [announceTcp_eq_foldl]
  induction order.filterMap s.registry.writerOf generalizing s with
  | nil => exact of_eq rfl
  | cons c rest ih =>
    refine trans ?_ (ih (s.sendTcp ⟨c⟩ msg))
    exact of_eq rfl

theorem handleActorMessage (s : State M) (msg : Message M) (order : List PeerUid)
    (schedule : List (List WriteActor.Step)) :
    SameReader s (Server.handleActorMessage s msg order schedule) := by
  cases msg with
  | toPeerTcp p msg =>
    simp only [Server.handleActorMessage]
    split <;> exact of_eq rfl
  | toPeerUdp p msg =>
    simp only [Server.handleActorMessage]
    repeat' split
    all_goals exact of_eq rfl
  | announceTcp msg => exact announceTcp s order _
  | announceUdp msg | getNumberOfConnectedPeers tx => exact of_eq rfl

theorem handleNewTcpConnection (s : State M) (tcpStream : TcpStream) (newV4 : Uuid) :
    SameReader s (Server.handleNewTcpConnection s tcpStream newV4) := by
  unfold Server.handleNewTcpConnection
  split
  · exact panic s _
  · split
    · exact of_eq rfl
    · dsimp only
      split
      · exact panic s _
      · refine trans (trans ?_ (insertPeer _ _ _)) (emit _ _)
        exact of_eq rfl

theorem handleUdpReaderStreamItem (s : State M) (message : UdpToServer M) (addr : SocketAddr) :
    SameReader s (Server.handleUdpReaderStreamItem s message addr) := by
  cases message with
  | hello uuid =>
    simp only [Server.handleUdpReaderStreamItem]
    repeat' split
    all_goals exact of_eq rfl
  | applicationLogic msg =>
    simp only [Server.handleUdpReaderStreamItem]
    split
    · exact of_eq rfl
    · exact emit s _

theorem handleEndOfStream (s : State M) (kind : IncomingKind) :
    SameReader s (Server.handleEndOfStream s kind) := by
  have hassert : ∀ p, SameReader s (s.assertNotConnected p) := by
    intro p
    unfold State.assertNotConnected
    split
    · exact panic s _
    · exact of_eq rfl
  unfold Server.handleEndOfStream
  split
  · exact panic s _
  · exact panic s _
  all_goals
    split
    all_goals first
      | exact of_eq rfl
      | exact hassert _
      | exact panic s _

theorem handleIncoming (s : State M) (incoming : Incoming M) (choice : Choice) :
    SameReader s (Server.handleIncoming s incoming choice) := by
  unfold Server.handleIncoming
  split
  · exact handleActorMessage s _ _ _
  · exact of_eq rfl
  · exact handleNewTcpConnection s _ _
  · rename_i message p
    cases message with
    | applicationLogic msg => exact emit s _
  · exact of_eq rfl
  · exact handleUdpReaderStreamItem s _ _
  · split <;> exact of_eq rfl
  · exact of_eq rfl
  · exact handleEndOfStream s _

theorem taken {incoming : Incoming M} (ht : s.Taken incoming s') : SameReader s s' := by
  cases ht with
  | udpReader hrecv => exact ⟨rfl, (Channel.recv_spec hrecv).2.2.1, rfl⟩
  | actorMessage _ | actorMessageEnd | tcpListener _ | tcpReader _ _ | tcpReaderEnd _ _
  | tcpWriterEnd _ _ | udpReaderEnd _ | udpWriterEnd _ | udpHeartbeat => exact of_eq rfl

end SameReader

/-- **What a step does to the reader**: a datagram arrives, or its task takes a step, or it is left
alone. -/
theorem State.udpReadActor_of_step {s s' : State M} {a : Action M} (hs : s.step a = some s') :
    (∃ message addr, a = .env (.datagram message addr) ∧
      s'.udpReadActor = s.udpReadActor.arrive (message, addr)) ∨
    (∃ st, a = .task (.udpReader st) ∧ s.udpReadActor.step st = some s'.udpReadActor) ∨
    a.datagram? = none ∧ SameReader s s' := by
  rcases State.step_cases hs with ⟨rfl, -, rfl⟩ | ⟨source, choice, incoming, t, rfl, -, hr, rfl⟩ |
    ⟨c, conn, conn', -, hmoves, rfl⟩ | ⟨st, reader, rfl, hreader, rfl⟩ | ⟨st, writer, rfl, -, rfl⟩ |
    ⟨x, rfl, rfl⟩ | ⟨e, ch, sender, rfl, -, rfl⟩
  · exact Or.inr (Or.inr ⟨rfl, .loopTop s⟩)
  · have htop : SameReader s { t with phase := .top } :=
      (SameReader.taken (State.taken_of_nextIncoming hr)).trans (.of_eq rfl)
    exact Or.inr (Or.inr ⟨rfl, htop.trans (.handleIncoming _ _ _)⟩)
  · refine Or.inr (Or.inr ⟨?_, .of_eq rfl⟩)
    cases hmoves <;> rfl
  · exact Or.inr (Or.inl ⟨st, rfl, hreader⟩)
  · exact Or.inr (Or.inr ⟨rfl, .of_eq rfl⟩)
  · exact Or.inl ⟨_, _, rfl, rfl⟩
  · cases e with
    | datagram message addr =>
      exact Or.inl ⟨_, _, rfl, congrArg State.udpReadActor (Option.some.inj hs).symm⟩
    | _ => exact Or.inr (Or.inr ⟨rfl, .of_eq rfl⟩)

section Server

variable {hist : List (State M × Action M)} {s : State M}

/-- The UDP reader hands on the datagrams that have arrived. -/
structure ReadsDatagrams (s : State M)
    (arrived : List (Except UdpError (UdpToServer M) × SocketAddr)) : Prop where
  tracks : s.udpReadActor.Tracks
  stream : s.udpReadActor.stream.sent = arrived

namespace ReadsDatagrams

variable {s' : State M} {arrived : List (Except UdpError (UdpToServer M) × SocketAddr)}

theorem same (h : ReadsDatagrams s arrived) (hs : SameReader s s') : ReadsDatagrams s' arrived where
  tracks := h.tracks.of_eq hs.phase hs.sent (by rw [hs.stream])
  stream := by rw [hs.stream, h.stream]

theorem step (h : ReadsDatagrams s arrived) {a : Action M} (hs : s.step a = some s') :
    ReadsDatagrams s' (arrived ++ a.datagram?.toList) := by
  rcases State.udpReadActor_of_step hs with ⟨message, addr, rfl, hreader⟩ | ⟨st, rfl, hreader⟩ |
    ⟨hnone, hsame⟩
  · refine ⟨?_, ?_⟩
    · rw [hreader]
      exact h.tracks.arrive (message, addr)
    · rw [hreader, ← h.stream]
      rfl
  · refine ⟨h.tracks.step hreader, ?_⟩
    exact (ReadActor.stream_sent_step hreader).trans (h.stream.trans (List.append_nil _).symm)
  · rw [hnone, Option.toList_none, List.append_nil]
    exact h.same hsame

end ReadsDatagrams

theorem Run.readsDatagrams (h : Run hist s) : ReadsDatagrams s (datagrams hist) := by
  induction h with
  | start h =>
    obtain ⟨profile, config, rfl⟩ := h
    exact ⟨ReadActor.tracks_spawnActor, rfl⟩
  | next _ hs ih =>
    rw [datagrams_append_singleton]
    exact ih.step hs

/-- **A datagram that the broker handles has arrived.** -/
theorem Run.mem_datagrams_of_incoming (h : Run hist s) {a : Action M}
    {x : Except UdpError (UdpToServer M) × SocketAddr}
    (hi : s.incoming? a = some (.udpReader (.streamItem x))) : x ∈ datagrams hist := by
  obtain ⟨source, choice, t, rfl, hr⟩ := State.exists_next_of_incoming? hi
  have hreads := h.readsDatagrams
  cases State.taken_of_nextIncoming hr with
  | udpReader hrecv =>
    obtain ⟨hqueue, -, -, -, -⟩ := Channel.recv_spec hrecv
    rw [← hreads.stream]
    refine hreads.tracks.mem_stream ?_
    rw [← Channel.taken_append_queue, hqueue]
    exact List.mem_append_right _ List.mem_cons_self

/-- So have the Hellos that it accepts. -/
theorem Run.mem_datagrams_of_hello (h : Run hist s) {x : Uuid × SocketAddr}
    (hx : x ∈ hellos hist) : (.ok (.hello x.1), x.2) ∈ datagrams hist := by
  obtain ⟨⟨t, a⟩, hmem, hop⟩ := List.mem_filterMap.1 hx
  obtain ⟨hist₁, hist₂, t', rfl, ht, -⟩ := TransitionSystem.Run.exists_step_of_mem h hmem
  have hhist : datagrams (hist₁ ++ (t, a) :: hist₂) =
      datagrams hist₁ ++ datagrams ((t, a) :: hist₂) := List.filterMap_append
  rw [hhist]
  refine List.mem_append_left _ (Run.mem_datagrams_of_incoming ht (a := a) ?_)
  cases hb : t.op a with
  | bind p peer uuid addr =>
    rw [hb] at hop
    obtain rfl := Option.some.inj hop
    exact (State.op_eq_bind_iff.1 hb).1
  | _ =>
    rw [hb] at hop
    cases hop

end Server

end NetStream.Server
