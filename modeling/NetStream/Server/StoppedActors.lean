import NetStream.Server.Connections
import NetStream.Server.Panics

/-!
# The broker's assertions about stopped actors

When an actor reports that it stopped on behalf of its handle or for want of a receiver, the broker
asserts that the peer is gone. `Tended` is why that holds: each read actor's reason has its cause in
the actor's own channels (`Connection.Sound`), and a connection whose handles are held by a record is
`Attended`, that is, none of these causes is there. It does not matter how the handles went when the
record did.
-/

namespace NetStream.Server

variable {M : MessageTypes}

/-- The read actor's reason for its end has its cause. -/
def Connection.Sound (conn : Connection M) : Prop :=
  conn.reader.Sound

/-- Both actors are left to work. -/
structure Connection.Attended (conn : Connection M) : Prop where
  reader : conn.reader.Attended
  writer : conn.writer.Attended

namespace Connection

variable {released : Prop} {conn conn' : Connection M}

theorem sound_spawn (p : PeerUid) : (spawn p : Connection M).Sound :=
  ReadActor.sound_spawnActor

theorem attended_spawn (p : PeerUid) : (spawn p : Connection M).Attended :=
  ⟨ReadActor.attended_spawnActor, WriteActor.attended_spawnActor⟩

theorem Touch.sound (h : conn.Touch released conn') (hs : conn.Sound) : conn'.Sound := by
  induction h with
  | refl => exact hs
  | send _ _ ih => exact ih
  | shutdownReader _ _ ih => exact ⟨ih.tracks.of_eq rfl rfl rfl, ih.caused.signalShutdown⟩
  | shutdownWriter _ _ ih => exact ih
  | dropReader _ _ ih => exact ⟨ih.tracks.of_eq rfl rfl rfl, ih.caused.dropHandle⟩
  | dropWriter _ _ ih => exact ih
  | closeReader _ _ ih => exact ⟨ih.tracks.of_eq rfl rfl rfl, ih.caused.closeTx⟩

/-- A connection that is not released only gets messages. -/
theorem Touch.attended (h : conn.Touch released conn') (hr : ¬ released) (ha : conn.Attended) :
    conn'.Attended := by
  induction h with
  | refl => exact ha
  | send _ msg ih => exact ⟨ih.reader, ih.writer.offer nofun⟩
  | shutdownReader _ hrel _ | shutdownWriter _ hrel _ | dropReader _ hrel _ | dropWriter _ hrel _
  | closeReader _ hrel _ => exact absurd hrel hr

theorem TakenFrom.sound {incoming : Incoming M} (h : conn.TakenFrom incoming conn')
    (hs : conn.Sound) : conn'.Sound := by
  cases h with
  | other => exact hs
  | item hrecv =>
    exact ⟨hs.tracks.of_eq rfl (Channel.recv_spec hrecv).2.2.1 rfl, hs.caused.recv hrecv⟩
  | readerEnd _ => exact hs
  | writerEnd _ => exact hs

theorem TakenFrom.attended {incoming : Incoming M} (h : conn.TakenFrom incoming conn')
    (ha : conn.Attended) : conn'.Attended := by
  cases h with
  | other => exact ha
  | item hrecv =>
    exact ⟨⟨ha.reader.notSignalled, ha.reader.handleAlive,
      (Channel.recv_spec hrecv).2.2.2.1.trans ha.reader.receiverAlive⟩, ha.writer⟩
  | readerEnd _ => exact ⟨ha.reader, ha.writer⟩
  | writerEnd _ => exact ⟨ha.reader, ha.writer⟩

theorem Moves.sound {c : ℕ} {a : Action M} (h : conn.Moves c a conn') (hs : conn.Sound) :
    conn'.Sound := by
  cases h with
  | reader hstep => exact ReadActor.Sound.step hs hstep
  | writer _ => exact hs
  | frame halive => exact ⟨hs.tracks.arrive _, hs.caused.arrive halive _⟩
  | ends => exact ⟨hs.tracks.of_eq rfl rfl rfl, hs.caused.endStream⟩

theorem Moves.attended {c : ℕ} {a : Action M} (h : conn.Moves c a conn') (ha : conn.Attended) :
    conn'.Attended := by
  cases h with
  | reader hstep => exact ⟨ha.reader.step hstep, ha.writer⟩
  | writer hstep => exact ⟨ha.reader, ha.writer.step hstep⟩
  | frame _ => exact ⟨⟨ha.reader.1, ha.reader.2, ha.reader.3⟩, ha.writer⟩
  | ends => exact ⟨⟨ha.reader.1, ha.reader.2, ha.reader.3⟩, ha.writer⟩

end Connection

/-- The actors are as the broker takes them to be. -/
structure Tended (s : State M) : Prop where
  sound : ∀ (c : ℕ) (conn : Connection M), s.streams[c]? = some conn → conn.Sound
  attended : ∀ (c : ℕ) (conn : Connection M), s.streams[c]? = some conn → ¬ s.Released c →
    conn.Attended
  udpReader : ¬ s.Panicked → s.udpReadActor.Sound ∧ s.udpReadActor.Attended ∧
    s.udpReadActor.stream.senderAlive = true
  udpWriter : ¬ s.Panicked → s.udpWriteActor.Attended

namespace Tended

variable {s s' t : State M}

theorem start (profile : Profile) (config : Config) : Tended (.start profile config : State M) where
  sound c conn h := by simp [State.start] at h
  attended c conn h := by simp [State.start] at h
  udpReader _ := ⟨ReadActor.sound_spawnActor, ReadActor.attended_spawnActor, rfl⟩
  udpWriter _ := WriteActor.attended_spawnActor

theorem handled (h : Tended s) (hh : Handled s s') : Tended s' where
  sound c conn' hconn' := by
    rcases Nat.lt_or_ge c s.streams.length with hlt | hge
    · have hconn := List.getElem?_eq_getElem hlt
      obtain ⟨conn'', hconn'', htouch⟩ := hh.old c _ hconn
      obtain rfl := Option.some.inj (hconn''.symm.trans hconn')
      exact htouch.sound (h.sound c _ hconn)
    · obtain ⟨p, htouch⟩ := hh.new c conn' hge hconn'
      exact htouch.sound (Connection.sound_spawn p)
  attended c conn' hconn' hr := by
    rcases Nat.lt_or_ge c s.streams.length with hlt | hge
    · have hconn := List.getElem?_eq_getElem hlt
      obtain ⟨conn'', hconn'', htouch⟩ := hh.old c _ hconn
      obtain rfl := Option.some.inj (hconn''.symm.trans hconn')
      exact htouch.attended hr (h.attended c _ hconn fun hr' ↦ hr (hh.released c hlt hr'))
    · obtain ⟨p, htouch⟩ := hh.new c conn' hge hconn'
      exact htouch.attended hr (Connection.attended_spawn p)
  udpReader hp := by
    rw [hh.udpReader hp]
    exact h.udpReader fun hp' ↦ hp (hh.panicked hp')
  udpWriter hp := (h.udpWriter fun hp' ↦ hp (hh.panicked hp')).used (hh.udpWriter hp)

/-- Connections change one by one, and the rest stays. -/
theorem connections (h : Tended s) (hphase : s'.Panicked ↔ s.Panicked) (hpeers : s'.peers = s.peers)
    (hreader : s'.udpReadActor = s.udpReadActor) (hwriter : s'.udpWriteActor = s.udpWriteActor)
    (hconn : ∀ (c : ℕ) (conn' : Connection M), s'.streams[c]? = some conn' →
      ∃ conn, s.streams[c]? = some conn ∧ (conn.Sound → conn'.Sound) ∧
        (conn.Attended → conn'.Attended)) : Tended s' where
  sound c conn' hc := by
    obtain ⟨conn, hconn, hsound, -⟩ := hconn c conn' hc
    exact hsound (h.sound c conn hconn)
  attended c conn' hc hr := by
    obtain ⟨conn, hconn, -, hattended⟩ := hconn c conn' hc
    refine hattended (h.attended c conn hconn fun hr' ↦ hr ?_)
    unfold State.Released at hr' ⊢
    rwa [hphase, hpeers]
  udpReader hp := by
    rw [hphase] at hp
    exact hreader ▸ h.udpReader hp
  udpWriter hp := by
    rw [hphase] at hp
    exact hwriter ▸ h.udpWriter hp

theorem taken (h : Tended s) (hphase : s.phase = .waiting) {incoming : Incoming M}
    (ht : s.Taken incoming t) : Tended { t with phase := .top } where
  sound c conn' hc := by
    obtain ⟨conn, hconn, htaken⟩ := ht.connection hc
    exact htaken.sound (h.sound c conn hconn)
  attended c conn' hc hr := by
    obtain ⟨conn, hconn, htaken⟩ := ht.connection hc
    refine htaken.attended (h.attended c conn hconn ?_)
    rintro (hp | hr')
    · exact State.not_panicked_of_waiting hphase hp
    · refine hr (Or.inr ?_)
      have hpeers : t.peers = s.peers := congrArg Registry.peers (State.registry_taken ht)
      show ∀ p peer, t.peers.get? p = some peer → _
      rwa [hpeers]
  udpReader _ := by
    obtain ⟨hsound, hattended, halive⟩ := h.udpReader (State.not_panicked_of_waiting hphase)
    cases ht with
    | udpReader hrecv =>
      refine ⟨⟨hsound.tracks.of_eq rfl (Channel.recv_spec hrecv).2.2.1 rfl,
        hsound.caused.recv hrecv⟩, ⟨hattended.notSignalled, hattended.handleAlive, ?_⟩, halive⟩
      exact (Channel.recv_spec hrecv).2.2.2.1.trans hattended.receiverAlive
    | _ => exact ⟨hsound, hattended, halive⟩
  udpWriter _ := by
    have hattended := h.udpWriter (State.not_panicked_of_waiting hphase)
    cases ht <;> exact hattended

theorem step (h : Tended s) (hn : s.registry.Numbered) {a : Action M} (hs : s.step a = some s') :
    Tended s' := by
  rcases State.step_cases hs with ⟨-, hphase, rfl⟩ | ⟨source, choice, incoming, t, -, hphase, hr, rfl⟩ |
    ⟨c, conn, conn', hconn, hmoves, rfl⟩ | ⟨st, reader, -, hreader, rfl⟩ |
    ⟨st, writer, -, hwriter, rfl⟩ | ⟨x, -, rfl⟩ | ⟨e, ch, sender, -, -, rfl⟩
  · exact h.handled (.loopTop hphase hn)
  · have ht := State.taken_of_nextIncoming hr
    refine (h.taken hphase ht).handled (.handleIncoming _ ?_ incoming choice)
    show t.registry.Numbered
    rwa [State.registry_taken ht]
  · refine h.connections Iff.rfl rfl rfl rfl fun i conn'' hi ↦ ?_
    obtain ⟨old, hold, ⟨rfl, rfl⟩ | ⟨-, rfl⟩⟩ := State.exists_of_modifyConnection hi
    · obtain rfl := Option.some.inj (hconn.symm.trans hold)
      exact ⟨conn, hconn, hmoves.sound, hmoves.attended⟩
    · exact ⟨conn'', hold, id, id⟩
  · refine ⟨h.sound, h.attended, fun hp ↦ ?_, h.udpWriter⟩
    obtain ⟨hsound, hattended, halive⟩ := h.udpReader hp
    exact ⟨hsound.step hreader, hattended.step hreader,
      (ReadActor.streamAlive_of_step hreader).trans halive⟩
  · exact ⟨h.sound, h.attended, h.udpReader, fun hp ↦ (h.udpWriter hp).step hwriter⟩
  · refine ⟨h.sound, h.attended, fun hp ↦ ?_, h.udpWriter⟩
    obtain ⟨hsound, hattended, halive⟩ := h.udpReader hp
    exact ⟨⟨hsound.tracks.arrive x, hsound.caused.arrive halive x⟩,
      ⟨hattended.1, hattended.2, hattended.3⟩, halive⟩
  · exact h.connections Iff.rfl rfl rfl rfl fun c conn hc ↦ ⟨conn, hc, id, id⟩

end Tended

variable {hist : List (State M × Action M)} {s : State M}

theorem Run.tended (h : Run hist s) : Tended s := by
  induction h with
  | start h =>
    obtain ⟨profile, config, rfl⟩ := h
    exact .start profile config
  | next h hs ih => exact ih.step (Run.numbered h) hs

/-- The connection of a connected peer is held by its record. -/
theorem State.not_released (hn : s.registry.Numbered) (hle : s.streams.length ≤ 2 ^ 64)
    (hp : ¬ s.Panicked) {c : ℕ} {conn : Connection M} (hconn : s.streams[c]? = some conn)
    (hkey : conn.peerUid ∈ s.peers.keys) : ¬ s.Released c := by
  obtain ⟨peer, hpeer⟩ := HashMap.mem_keys_iff.1 hkey
  obtain ⟨m, hm, hpm, hread, -⟩ := hn.handles _ peer hpeer
  obtain ⟨hlt, -⟩ := List.getElem?_eq_some_iff.1 hconn
  rw [State.length_connections] at hm
  rw [State.peerUid_eq hn hconn] at hpm
  obtain rfl := PeerUid.ofNat_inj (by omega) (by omega) hpm
  rintro (hp' | hr)
  · exact hp hp'
  · exact (hr _ peer hpeer).1 (congrArg ReadActorHandle.connection hread)

/-- **What the broker takes for granted** about the ends of actors: after each of the reasons for
which it asserts that the peer is gone, it is, and the UDP actors never stop for the reasons that it
takes to be impossible. -/
structure StopsExpected (s : State M) : Prop where
  tcpReader : ∀ a s' p reason, s.step a = some s' →
    s.incoming? a = some (.endOfStream (.tcpReader p (.controlled reason))) →
    reason ∈ [.signalled, .actorHandlesDropped, .receiverClosedChannel] → p ∉ s.peers.keys
  tcpWriter : ∀ a s' p reason, s.step a = some s' →
    s.incoming? a = some (.endOfStream (.tcpWriter p (.controlled reason))) →
    reason ∈ [.signalled, .actorHandlesDropped] → p ∉ s.peers.keys
  udpReader : ∀ a s' reason, s.step a = some s' →
    s.incoming? a = some (.endOfStream (.udpReader (.controlled reason))) →
    reason ∉ [.actorHandlesDropped, .receiverClosedChannel]
  udpWriter : ∀ a s' reason, s.step a = some s' →
    s.incoming? a = some (.endOfStream (.udpWriter (.controlled reason))) →
    reason ≠ .actorHandlesDropped
  /-- No assertion about a peer that should be gone has failed. -/
  asserted : s.phase ≠ .panicked .peerNotRemoved

/-- The actors of a connected peer do not stop on behalf of the broker. -/
theorem Run.tcpReader_expected (h : Run hist s) (hle : s.streams.length ≤ 2 ^ 64) {a : Action M}
    {s' : State M} (hs : s.step a = some s') {p : PeerUid} {reason : ReadActorShutdownReason}
    (hi : s.incoming? a = some (.endOfStream (.tcpReader p (.controlled reason))))
    (hp : p ∈ s.peers.keys) : reason = .endOfStream := by
  obtain ⟨hwait, t, ht⟩ := State.taken_of_incoming? hs hi
  cases ht with
  | @tcpReaderEnd c conn _ hconn hphase =>
    have hr := State.not_released (Run.numbered h) hle (State.not_panicked_of_waiting hwait)
      hconn hp
    exact (h.tended.attended c conn hconn hr).reader.reason_eq (h.tended.sound c conn hconn).caused
      hphase

theorem Run.tcpWriter_expected (h : Run hist s) (hle : s.streams.length ≤ 2 ^ 64) {a : Action M}
    {s' : State M} (hs : s.step a = some s') {p : PeerUid} {reason : WriteActorShutdownReason}
    (hi : s.incoming? a = some (.endOfStream (.tcpWriter p (.controlled reason))))
    (hp : p ∈ s.peers.keys) : reason = .sinkError := by
  obtain ⟨hwait, t, ht⟩ := State.taken_of_incoming? hs hi
  cases ht with
  | @tcpWriterEnd c conn _ hconn hphase =>
    have hr := State.not_released (Run.numbered h) hle (State.not_panicked_of_waiting hwait)
      hconn hp
    have hleft := (h.tended.attended c conn hconn hr).writer.not_left
    cases reason with
    | signalled => exact absurd (Or.inr hphase) hleft.1
    | sinkError => rfl
    | actorHandlesDropped => exact absurd (Or.inr hphase) hleft.2

/-- A failed assertion would have been about a connected peer. -/
theorem State.phase_ne_of_expected {a : Action M} {s' : State M} (hs : s.step a = some s')
    (hbefore : s.phase ≠ .panicked .peerNotRemoved)
    (hreader : ∀ p reason, s.incoming? a = some (.endOfStream (.tcpReader p (.controlled reason))) →
      p ∈ s.peers.keys → reason = .endOfStream)
    (hwriter : ∀ p reason, s.incoming? a = some (.endOfStream (.tcpWriter p (.controlled reason))) →
      p ∈ s.peers.keys → reason = .sinkError) : s'.phase ≠ .panicked .peerNotRemoved := by
  intro hphase
  rw [State.phase_step hs] at hphase
  cases a with
  | loopTop =>
    cases hp : s.droppingPanics with
    | none => simp [State.panics, State.nextPhase, hp, State.phaseAfter] at hphase
    | some site =>
      simp only [State.panics, hp, State.phaseAfter, Phase.panicked.injEq] at hphase
      exact State.droppingPanics_ne (hphase ▸ hp)
  | next source choice =>
    cases hp : s.panics (.next source choice) with
    | none => simp [State.nextPhase, hp, State.phaseAfter] at hphase
    | some site =>
      simp only [hp, State.phaseAfter, Phase.panicked.injEq] at hphase
      obtain ⟨incoming, hi, hp⟩ := Option.bind_eq_some_iff.1 hp
      rcases State.endOfStream_of_peerNotRemoved (hphase ▸ hp) with
        ⟨p, reason, rfl, hne, hkey⟩ | ⟨p, reason, rfl, hne, hkey⟩
      · exact hne (hreader p reason hi hkey)
      · exact hne (hwriter p reason hi hkey)
  | task task | env env => exact hbefore hphase

/-- **The broker's assertions never fail**, up to `2 ^ 64` connections. -/
theorem Run.stopsExpected (h : Run hist s) (hlt : s.streams.length < 2 ^ 64) : StopsExpected s where
  tcpReader a s' p reason hs hi hmem hp := by
    rw [h.tcpReader_expected (Nat.le_of_lt hlt) hs hi hp] at hmem
    simp at hmem
  tcpWriter a s' p reason hs hi hmem hp := by
    rw [h.tcpWriter_expected (Nat.le_of_lt hlt) hs hi hp] at hmem
    simp at hmem
  udpReader a s' reason hs hi hmem := by
    obtain ⟨hwait, t, ht⟩ := State.taken_of_incoming? hs hi
    cases ht with
    | udpReaderEnd hphase =>
      obtain ⟨hsound, hattended, -⟩ :=
        h.tended.udpReader (State.not_panicked_of_waiting hwait)
      rw [hattended.reason_eq hsound.caused hphase] at hmem
      simp at hmem
  udpWriter a s' reason hs hi heq := by
    obtain ⟨hwait, t, ht⟩ := State.taken_of_incoming? hs hi
    cases ht with
    | udpWriterEnd hphase =>
      have hattended := h.tended.udpWriter (State.not_panicked_of_waiting hwait)
      exact hattended.not_left.2 (Or.inr (heq ▸ hphase))
  asserted := by
    induction h with
    | start h =>
      obtain ⟨profile, config, rfl⟩ := h
      exact nofun
    | @next hist s s' a h hs ih =>
      have hle := State.length_streams_le_of_step hs
      exact State.phase_ne_of_expected hs (ih (by omega))
        (fun p reason hi hp ↦ Run.tcpReader_expected h (by omega) hs hi hp)
        fun p reason hi hp ↦ Run.tcpWriter_expected h (by omega) hs hi hp

/-- A peer whose frame cannot be decoded is dropped, and its actors report that they were
signalled. -/
theorem Run.stopsExpected_of_dropped : ∃ hist, ∃ s : State plainMessages, Run hist s ∧
    s.events = [.newPeer ⟨.ofNat 0⟩, .peerDisconnect ⟨.ofNat 0, .peerSubmittedUnintelligibleData⟩] ∧
    s.incoming? (.next (.tcpReaderEnd 0) ⟨uuid 0, [], []⟩) =
      some (.endOfStream (.tcpReader (.ofNat 0) (.controlled .signalled))) ∧
    s.incoming? (.next (.tcpWriterEnd 0) ⟨uuid 0, [], []⟩) =
      some (.endOfStream (.tcpWriter (.ofNat 0) (.controlled .signalled))) ∧ StopsExpected s := by
  have h : Run _ _ := TransitionSystem.run_of_exec (T := system plainMessages)
    (s := .start .dev ⟨1⟩) (l := Action.connect 1 1 [] ++ Action.frame 0 (.error .bincode) ++
      Action.take (.tcpReader 0) [0] ++ [.loopTop, .task (.tcpReader 0 .actorMessage),
        .task (.tcpWriter 0 .recv), .task (.tcpWriter 0 (.operate true)),
        .task (.tcpWriter 0 .recv), .task (.tcpWriter 0 (.close true))])
    ⟨.dev, ⟨1⟩, rfl⟩ rfl
  exact ⟨_, _, h, rfl, rfl, rfl, Run.stopsExpected h (by decide)⟩

end NetStream.Server
