import NetStream.Server.Connections
import NetStream.Server.Panics

/-!
# Shutting down

The documentation of `start` promises a graceful shutdown once the last actor handle is dropped, or
the event receiver is closed or dropped. `ShutdownDue` are the steps at which the broker learns of
it: it takes the end of its commands, or has an event to emit without a receiver. The loop has no
way out but a panic, and each of these steps ends in one (`ShutdownDue.panicked`).

What does hold is that the peers' actors are let go (`ShutdownDue.dismissed`): the panic unwinds the
task, and that drops every handle. Messages that are queued then can still be flushed.
-/

namespace NetStream.Server

variable {M : MessageTypes}

/-- An event is emitted in the course of the operation. -/
def Op.Emits (r : Registry M) : Op M → Prop
  | .drop l => ∃ x ∈ l, x.1 ∈ r.peers.keys
  | .accept _ _ _ | .tcpMessage _ | .udpMessage _ _ => True
  | .bind _ _ _ _ | .closeEvents | .idle => False

/-- The broker learns in this step that it is to shut down: the last actor handle is gone and its
commands are handled, or there is an event and no one to receive it. -/
def ShutdownDue (s : State M) (a : Action M) : Prop :=
  s.incoming? a = some (.endOfStream .actorMessage) ∨
    s.eventSender.receiverAlive = false ∧ (s.op a).Emits s.registry

/-- The connection's actors have been signalled to shut down, or have lost their handles. -/
def Connection.Dismissed (conn : Connection M) : Prop :=
  (.shutdown ∈ conn.reader.actorMsg.sent ∨ conn.reader.actorMsg.senderAlive = false) ∧
    (.shutdown ∈ conn.writer.actorMsg.sent ∨ conn.writer.actorMsg.senderAlive = false)

/-- The shutdown as documented: the task has not panicked, and all actors know. -/
structure GracefulShutdown (s : State M) : Prop where
  notPanicked : ¬ s.Panicked
  dismissed : ∀ conn ∈ s.streams, conn.Dismissed

/-! ### The panic -/

/-- **An item that makes an event, without a receiver.** -/
theorem State.handlingPanics_of_emits {s : State M}
    (hclosed : s.eventSender.receiverAlive = false) {incoming : Incoming M} {newV4 : Uuid}
    (h : (s.registry.incomingOp incoming newV4).Emits s.registry) :
    s.handlingPanics incoming = some .emitEvent := by
  have hemit : s.emitPanics = some .emitEvent := State.emitPanics_eq_some_iff.2 ⟨hclosed, rfl⟩
  cases hop : s.registry.incomingOp incoming newV4 with
  | drop l => exact absurd hop (Registry.incomingOp_ne_drop _ _ _ _)
  | accept addr uuid next =>
    obtain ⟨rfl, -, hcap, hnext⟩ := Registry.incomingOp_eq_accept_iff.1 hop
    have hcap' : ¬ s.peers.len ≥ s.config.maxConnections := Nat.not_le_of_lt hcap
    have hnext' : s.nextPeerUid.increment s.profile = some next := hnext
    simp only [State.handlingPanics, if_neg hcap', hnext', reduceCtorEq, if_false, hemit]
  | tcpMessage msg =>
    rw [Registry.incomingOp_eq_tcpMessage_iff.1 hop]
    exact hemit
  | udpMessage msg addr =>
    obtain ⟨rfl, hp⟩ := Registry.incomingOp_eq_udpMessage_iff.1 hop
    have hkey : s.peerUdpSocketAddrToPeerUid.containsKey addr = true :=
      HashMap.containsKey_iff.2 (HashMap.mem_keys_of_get? hp)
    simp only [State.handlingPanics, hkey, if_true, hemit]
  | bind p peer uuid addr | closeEvents | idle =>
    rw [hop] at h
    exact absurd h id

/-- **Every such step ends in a panic.** -/
theorem ShutdownDue.panicked {s s' : State M} {a : Action M} (h : ShutdownDue s a)
    (hs : s.step a = some s') :
    s'.phase = .panicked .actorMessageEnd ∨ s'.phase = .panicked .emitEvent := by
  rw [State.phase_step hs]
  rcases h with hend | ⟨hclosed, hemits⟩
  · obtain ⟨source, choice, -, rfl, -⟩ := State.exists_next_of_incoming? hend
    refine Or.inl ?_
    rw [State.panics, hend]
    rfl
  · refine Or.inr ?_
    suffices hpanics : s.panics a = some .emitEvent by
      rw [hpanics]
      rfl
    cases a with
    | loopTop =>
      by_cases hassert : (s.profile.debugAssertions && !s.assertInvariants) = true
      · rw [State.op, if_pos hassert] at hemits
        exact absurd hemits id
      · rw [State.op, if_neg hassert] at hemits
        obtain ⟨x, hx, hkey⟩ := hemits
        have hany : (s.peersToDrop.any fun x ↦ s.peers.containsKey x.1) = true :=
          List.any_eq_true.2 ⟨x, hx, HashMap.containsKey_iff.2 hkey⟩
        rw [State.panics, State.droppingPanics, if_neg hassert, if_pos hany]
        exact State.emitPanics_eq_some_iff.2 ⟨hclosed, rfl⟩
    | next source choice =>
      cases hr : s.nextIncoming source with
      | none =>
        simp only [State.op, hr] at hemits
        exact absurd hemits id
      | some r =>
        simp only [State.op, hr] at hemits
        rw [State.panics, State.incoming?, hr]
        exact State.handlingPanics_of_emits hclosed hemits
    | task task => exact absurd hemits id
    | env env => cases env <;> exact absurd hemits id

/-! ### Unwinding -/

/-- If the broker has panicked, its handles are gone. -/
def State.Unwound (s : State M) : Prop :=
  s.Panicked → ∀ conn ∈ s.streams,
    conn.reader.actorMsg.senderAlive = false ∧ conn.writer.actorMsg.senderAlive = false

namespace State

variable {s s' : State M}

theorem unwound_of_not_panicked (h : ¬ s.Panicked) : s.Unwound :=
  fun hp ↦ absurd hp h

theorem unwound_panic (s : State M) (site : PanicSite) : (s.panic site).Unwound := by
  intro _ conn hconn
  obtain ⟨conn', -, rfl⟩ := List.mem_map.1 hconn
  exact ⟨rfl, rfl⟩

theorem unwound_emit (hnot : ¬ s.Panicked) (ev : Event M) : (s.emit ev).Unwound := by
  unfold emit
  split
  · exact unwound_of_not_panicked hnot
  · exact unwound_panic s _

theorem unwound_dropPeer (hnot : ¬ s.Panicked) (p : PeerUid) (reason : DisconnectReason) :
    (Server.dropPeer s p reason).Unwound := by
  unfold Server.dropPeer
  split
  · exact unwound_of_not_panicked hnot
  · refine unwound_emit ?_ _
    exact hnot

theorem unwound_dropPeers (hphase : s.phase = .waiting) (l : List (PeerUid × DisconnectReason)) :
    (Server.dropPeers s l).Unwound := by
  induction l generalizing s with
  | nil => exact unwound_of_not_panicked (not_panicked_of_waiting hphase)
  | cons x rest ih =>
    have hdrop := unwound_dropPeer (not_panicked_of_waiting hphase) x.1 x.2
    simp only [Server.dropPeers]
    split
    · exact hdrop
    · rename_i hgo
      refine ih ?_
      have hphase' := phase_dropPeer s x.1 x.2
      split at hphase'
      · exact absurd hphase' (hgo _)
      · exact hphase'.trans hphase

theorem unwound_loopTop (s : State M) : (Server.loopTop s).Unwound := by
  unfold Server.loopTop
  split
  · exact unwound_panic s _
  · exact unwound_dropPeers rfl _

/-- A panic is the last thing that the handling of an item does. -/
theorem unwound_handleIncoming (hnot : ¬ s.Panicked) (incoming : Incoming M) (choice : Choice) :
    (handleIncoming s incoming choice).Unwound := by
  have hassert : ∀ p, (s.assertNotConnected p).Unwound := by
    intro p
    unfold assertNotConnected
    split
    · exact unwound_panic s _
    · exact unwound_of_not_panicked hnot
  have hsame : ∀ {s' : State M}, s'.phase = s.phase → s'.Unwound := by
    rintro s' hphase
    refine unwound_of_not_panicked ?_
    rintro ⟨site, hp⟩
    exact hnot ⟨site, hphase ▸ hp⟩
  rcases incoming with msg | (_ | ⟨_ | addr⟩) | ⟨⟨_ | ⟨m⟩⟩, p⟩ | ⟨_ | (m | uuid), addr⟩ | _ | kind
  · exact hsame (phase_handleActorMessage s msg _ _)
  · exact hsame rfl
  · exact unwound_panic s _
  · simp only [handleIncoming, handleNewTcpConnection]
    split
    · exact unwound_of_not_panicked hnot
    · split
      · exact unwound_panic s _
      · refine unwound_emit ?_ _
        unfold Panicked
        rw [phase_insertPeer]
        exact hnot
  · exact hsame rfl
  · exact unwound_emit hnot _
  · simp only [handleIncoming]
    split <;> exact hsame rfl
  · simp only [handleIncoming, handleUdpReaderStreamItem]
    split
    · exact unwound_of_not_panicked hnot
    · exact unwound_emit hnot _
  · simp only [handleIncoming, handleUdpReaderStreamItem]
    repeat' split
    all_goals exact hsame rfl
  · exact hsame rfl
  · rcases kind with _ | _ | ⟨p, (_ | _ | _ | _) | (_ | _)⟩ | ⟨p, (_ | _ | _) | (_ | _)⟩ |
      ⟨(_ | _ | _ | _) | (_ | _)⟩ | ⟨(_ | _ | _) | (_ | _)⟩
    all_goals first
      | exact hsame rfl
      | exact unwound_panic s _
      | exact hassert p

/-- **A step that ends in a panic drops all handles.** -/
theorem unwound_step {a : Action M} (hs : s.step a = some s') (hnot : ¬ s.Panicked) :
    s'.Unwound := by
  rcases step_cases hs with ⟨-, -, rfl⟩ | ⟨source, choice, incoming, t, -, -, -, rfl⟩ |
    ⟨_, _, _, -, -, rfl⟩ | ⟨_, _, -, -, rfl⟩ | ⟨_, _, -, -, rfl⟩ | ⟨_, -, rfl⟩ | ⟨_, _, _, -, -, rfl⟩
  · exact unwound_loopTop s
  · refine unwound_handleIncoming ?_ incoming choice
    rintro ⟨site, hp⟩
    cases hp
  all_goals exact unwound_of_not_panicked hnot

end State

/-- The broker has not panicked before such a step. -/
theorem ShutdownDue.not_panicked {s s' : State M} {a : Action M} (h : ShutdownDue s a)
    (hs : s.step a = some s') : ¬ s.Panicked := by
  rintro ⟨site, hp⟩
  have hphase : s.phase = .top ∨ s.phase = .waiting := by
    cases a with
    | loopTop => exact Or.inl (State.eq_loopTop_of_step hs).1
    | next source choice => exact Or.inr (State.exists_taken_of_next hs).1
    | task task =>
      rcases h with h | ⟨-, h⟩
      · cases h
      · exact absurd h id
    | env env =>
      rcases h with h | ⟨-, h⟩
      · cases h
      · cases env <;> exact absurd h id
  rcases hphase with hphase | hphase <;> cases hphase.symm.trans hp

/-- **The broker never shuts down gracefully.** Whenever it learns that it is to shut down, it
panics, in every state; the actors of all connections lose their handles by that. -/
theorem shutdown_panics {s s' : State M} {a : Action M} (hs : s.step a = some s')
    (hdue : ShutdownDue s a) :
    ¬ GracefulShutdown s' ∧
      (s'.phase = .panicked .actorMessageEnd ∨ s'.phase = .panicked .emitEvent) ∧
      ∀ conn ∈ s'.streams, conn.Dismissed := by
  have hphase := hdue.panicked hs
  have hpanicked : s'.Panicked := by
    rcases hphase with hp | hp
    · exact ⟨_, hp⟩
    · exact ⟨_, hp⟩
  refine ⟨fun hgraceful ↦ hgraceful.notPanicked hpanicked, hphase, fun conn hconn ↦ ?_⟩
  obtain ⟨hreader, hwriter⟩ :=
    State.unwound_step hs (hdue.not_panicked hs) hpanicked conn hconn
  exact ⟨Or.inr hreader, Or.inr hwriter⟩

/-- With a peer connected the last handle is dropped, and the end of the commands is taken. -/
theorem shutdown_panics_of_dropHandles : ∃ hist, ∃ s s' : State plainMessages, Run hist s ∧
    s.peers.keys = {.ofNat 0} ∧ s.eventSender.receiverAlive = true ∧
    s.step (.next .actorMessageEnd ⟨uuid 0, [.ofNat 0], []⟩) = some s' ∧
    ¬ GracefulShutdown s' ∧
      (s'.phase = .panicked .actorMessageEnd ∨ s'.phase = .panicked .emitEvent) ∧
      ∀ conn ∈ s'.streams, conn.Dismissed := by
  have h : Run _ _ := TransitionSystem.run_of_exec (T := system plainMessages)
    (s := .start .dev ⟨1⟩) (l := Action.connect 1 1 [] ++ [.loopTop, .env .dropHandles])
    ⟨.dev, ⟨1⟩, rfl⟩ rfl
  have hpanics : ∀ {hist} {s s' : State plainMessages}, Run hist s →
      s.step (.next .actorMessageEnd ⟨uuid 0, [.ofNat 0], []⟩) = some s' →
      s.incoming? (.next .actorMessageEnd ⟨uuid 0, [.ofNat 0], []⟩) =
        some (.endOfStream .actorMessage) → _ :=
    fun _ hs hend ↦ shutdown_panics hs (Or.inl hend)
  exact ⟨_, _, _, h, rfl, rfl, rfl, hpanics h rfl rfl⟩

/-- **Neither way of asking for it is graceful**: one peer is connected, and the last handle is
dropped; or the event receiver is closed, and a second connection comes. -/
theorem shutdown_not_graceful :
    (∃ hist, ∃ s s' : State plainMessages, Run hist s ∧ s.msgReceiver.senderAlive = false ∧
      s.step (.next .actorMessageEnd ⟨uuid 0, [.ofNat 0], []⟩) = some s' ∧
      s'.phase = .panicked .actorMessageEnd ∧ ¬ GracefulShutdown s') ∧
    ∃ hist, ∃ s s' : State plainMessages, Run hist s ∧ s.eventSender.receiverAlive = false ∧
      s.step (.next (.tcpListener (.ok ⟨.ok (address 2)⟩)) ⟨uuid 2, [.ofNat 0], []⟩) = some s' ∧
      s'.phase = .panicked .emitEvent ∧ ¬ GracefulShutdown s' := by
  have hhandles : Run _ _ := TransitionSystem.run_of_exec (T := system plainMessages)
    (s := .start .dev ⟨2⟩) (l := Action.connect 1 1 [] ++ [.loopTop, .env .dropHandles])
    ⟨.dev, ⟨2⟩, rfl⟩ rfl
  have hevents : Run _ _ := TransitionSystem.run_of_exec (T := system plainMessages)
    (s := .start .dev ⟨2⟩) (l := Action.connect 1 1 [] ++ [.loopTop, .env .closeEvents])
    ⟨.dev, ⟨2⟩, rfl⟩ rfl
  exact ⟨⟨_, _, _, hhandles, rfl, rfl, rfl, fun hgraceful ↦ hgraceful.notPanicked ⟨_, rfl⟩⟩,
    _, _, _, hevents, rfl, rfl, rfl, fun hgraceful ↦ hgraceful.notPanicked ⟨_, rfl⟩⟩

end NetStream.Server
