import NetStream.Server.Connections

/-!
# Where the broker panics

The places where the broker's task ends by a panic, as conditions on the state before:
`handlingPanics` for the handling of an item, `droppingPanics` for the top of the loop. They are
exact (`State.phase_next`, `State.phase_loopTop`), so whether a step panics can be read off the
state without going through the handlers.
-/

namespace NetStream.Server

variable {M : MessageTypes}

namespace State

/-- An event is about to be emitted: there is a panic without a receiver. -/
def emitPanics (s : State M) : Option PanicSite :=
  if s.eventSender.receiverAlive then none else some .emitEvent

/-- The arms for the end of a stream. -/
def endPanics (s : State M) : IncomingKind → Option PanicSite
  | .actorMessage => some .actorMessageEnd
  | .tcpListener => some .tcpListenerEnd
  | .tcpReader p (.controlled .signalled) | .tcpReader p (.controlled .actorHandlesDropped)
  | .tcpReader p (.controlled .receiverClosedChannel) | .tcpWriter p (.controlled .signalled)
  | .tcpWriter p (.controlled .actorHandlesDropped) =>
    if s.peers.containsKey p then some .peerNotRemoved else none
  | .tcpReader _ _ | .tcpWriter _ _ => none
  | .udpReader (.controlled .signalled) | .udpWriter (.controlled .signalled) => none
  | .udpReader _ => some .udpReaderEnd
  | .udpWriter _ => some .udpWriterEnd

/-- The panic that the handling of an item ends in, if any. -/
def handlingPanics (s : State M) : Incoming M → Option PanicSite
  | .tcpListener (.ok ⟨.error _⟩) => some .peerAddr
  | .tcpListener (.ok ⟨.ok _⟩) =>
    if s.peers.len ≥ s.config.maxConnections then none
    else if s.nextPeerUid.increment s.profile = none then some .peerUidOverflow
    else s.emitPanics
  | .tcpReader (.streamItem (.ok _)) _ => s.emitPanics
  | .udpReader (.streamItem (.ok (.applicationLogic _), addr)) =>
    if s.peerUdpSocketAddrToPeerUid.containsKey addr then s.emitPanics else none
  | .endOfStream kind => s.endPanics kind
  | _ => none

/-- The panic that the top of the loop ends in, if any. -/
def droppingPanics (s : State M) : Option PanicSite :=
  if s.profile.debugAssertions && !s.assertInvariants then some .assertInvariants
  else if s.peersToDrop.any fun x ↦ s.peers.containsKey x.1 then s.emitPanics
  else none

/-- The phase after a piece of the loop: a panic, or where the loop goes on. -/
def phaseAfter (panics : Option PanicSite) (ph : Phase) : Phase :=
  match panics with
  | some site => .panicked site
  | none => ph

variable {s s' : State M}

theorem phase_emit_eq (s : State M) (ev : Event M) :
    (s.emit ev).phase = phaseAfter s.emitPanics s.phase := by
  rw [phase_emit, emitPanics]
  split <;> rfl

theorem phase_insertPeer (s : State M) (p : PeerUid) (peer : Peer) :
    (s.insertPeer p peer).phase = s.phase := by
  unfold insertPeer
  dsimp only
  split <;> rfl

theorem eventSender_insertPeer (s : State M) (p : PeerUid) (peer : Peer) :
    (s.insertPeer p peer).eventSender = s.eventSender := by
  unfold insertPeer
  dsimp only
  split <;> rfl

theorem phase_announceTcp (s : State M) (order : List PeerUid) (msg : TcpFromServer M) :
    (Server.announceTcp s order msg).phase = s.phase := by
  unfold Server.announceTcp
  induction order generalizing s with
  | nil => rfl
  | cons p order ih =>
    rw [List.foldl_cons, ih]
    split <;> rfl

theorem phase_handleActorMessage (s : State M) (msg : Message M) (order : List PeerUid)
    (schedule : List (List WriteActor.Step)) :
    (Server.handleActorMessage s msg order schedule).phase = s.phase := by
  cases msg with
  | toPeerTcp p msg =>
    simp only [Server.handleActorMessage]
    split <;> rfl
  | toPeerUdp p msg =>
    simp only [Server.handleActorMessage]
    repeat' split
    all_goals rfl
  | announceTcp msg => exact phase_announceTcp s order _
  | announceUdp msg => rfl
  | getNumberOfConnectedPeers tx => rfl

theorem phase_handleNewTcpConnection (s : State M) (tcpStream : TcpStream) (newV4 : Uuid) :
    (Server.handleNewTcpConnection s tcpStream newV4).phase =
      phaseAfter (s.handlingPanics (.tcpListener (.ok tcpStream))) s.phase := by
  obtain ⟨_ | addr⟩ := tcpStream
  · rfl
  · simp only [Server.handleNewTcpConnection, handlingPanics]
    split
    · rfl
    · cases s.nextPeerUid.increment s.profile with
      | none => rfl
      | some next =>
        rw [phase_emit_eq, phase_insertPeer, emitPanics, eventSender_insertPeer]
        rfl

theorem phase_handleUdpReaderStreamItem (s : State M) (message : UdpToServer M)
    (addr : SocketAddr) : (Server.handleUdpReaderStreamItem s message addr).phase =
      phaseAfter (s.handlingPanics (.udpReader (.streamItem (.ok message, addr)))) s.phase := by
  cases message with
  | hello uuid =>
    simp only [Server.handleUdpReaderStreamItem]
    repeat' split
    all_goals rfl
  | applicationLogic m =>
    simp only [Server.handleUdpReaderStreamItem, handlingPanics, HashMap.containsKey]
    split
    · rename_i h
      simp only [h, Option.isSome_none, Bool.false_eq_true, if_false]
      rfl
    · rename_i p h
      simp only [h, Option.isSome_some, if_true]
      exact phase_emit_eq s _

theorem phase_handleEndOfStream (s : State M) (kind : IncomingKind) :
    (Server.handleEndOfStream s kind).phase = phaseAfter (s.endPanics kind) s.phase := by
  have hassert : ∀ p : PeerUid, (s.assertNotConnected p).phase =
      phaseAfter (if s.peers.containsKey p then some .peerNotRemoved else none) s.phase := by
    intro p
    unfold assertNotConnected
    split <;> rfl
  rcases kind with _ | _ | ⟨p, (_ | _ | _ | _) | (_ | _)⟩ | ⟨p, (_ | _ | _) | (_ | _)⟩ |
    ⟨(_ | _ | _ | _) | (_ | _)⟩ | ⟨(_ | _ | _) | (_ | _)⟩
  all_goals first
    | rfl
    | exact hassert p

/-- **Where the handling of an item leads.** -/
theorem phase_handleIncoming (s : State M) (incoming : Incoming M) (choice : Choice) :
    (handleIncoming s incoming choice).phase = phaseAfter (s.handlingPanics incoming) s.phase := by
  rcases incoming with msg | (_ | tcpStream) | ⟨⟨_ | ⟨_⟩⟩, p⟩ | ⟨_ | msg, addr⟩ | _ | kind
  · exact phase_handleActorMessage s msg _ _
  · rfl
  · exact phase_handleNewTcpConnection s tcpStream _
  · rfl
  · exact phase_emit_eq s _
  · simp only [handleIncoming]
    split <;> rfl
  · exact phase_handleUdpReaderStreamItem s msg addr
  · rfl
  · exact phase_handleEndOfStream s kind

/-- An event is emitted where someone listens. -/
theorem emit_of_alive (halive : s.eventSender.receiverAlive = true) (ev : Event M) :
    s.emit ev = { s with eventSender := s.eventSender.push ev } := by
  unfold emit
  rw [Channel.trySend_of_accepts (Channel.accepts_iff_of_unbounded.2 halive)]

theorem receiverAlive_emit (s : State M) (ev : Event M) :
    (s.emit ev).eventSender.receiverAlive = s.eventSender.receiverAlive := by
  unfold emit
  split
  · rename_i ch h
    obtain ⟨-, rfl⟩ := Channel.trySend_eq_ok_iff.1 h
    rfl
  · rfl

theorem receiverAlive_dropPeer (s : State M) (p : PeerUid) (reason : DisconnectReason) :
    (Server.dropPeer s p reason).eventSender.receiverAlive = s.eventSender.receiverAlive := by
  unfold Server.dropPeer
  split
  · rfl
  · exact receiverAlive_emit _ _

/-- The drops end in a panic exactly if one of them has something to report, and no receiver. -/
theorem phase_dropPeers (hphase : s.phase = .waiting) (l : List (PeerUid × DisconnectReason)) :
    (Server.dropPeers s l).phase =
      phaseAfter (if l.any fun x ↦ s.peers.containsKey x.1 then s.emitPanics else none) .waiting := by
  by_cases halive : s.eventSender.receiverAlive = true
  · have hnone : s.emitPanics = none := if_pos halive
    rw [hnone, ite_self]
    clear hnone
    induction l generalizing s with
    | nil => exact hphase
    | cons x rest ih =>
      have hdrop : (Server.dropPeer s x.1 x.2).phase = .waiting := by
        rw [phase_dropPeer, if_neg (by simp [halive]), hphase]
      simp only [Server.dropPeers, hdrop]
      exact ih hdrop ((receiverAlive_dropPeer s x.1 x.2).trans halive)
  · have hsome : s.emitPanics = some .emitEvent := if_neg halive
    rw [Bool.not_eq_true] at halive
    induction l with
    | nil => exact hphase
    | cons x rest ih =>
      have hdrop := phase_dropPeer s x.1 x.2
      by_cases hx : s.peers.containsKey x.1 = true
      · rw [if_pos ⟨halive, hx⟩] at hdrop
        simp only [Server.dropPeers, hdrop, List.any_cons, hx, Bool.true_or, if_true, hsome]
        rfl
      · have hsame : Server.dropPeer s x.1 x.2 = s := by
          rw [Bool.not_eq_true, HashMap.containsKey, Option.isSome_eq_false_iff,
            Option.isNone_iff_eq_none] at hx
          simp only [Server.dropPeer, hx]
        simp only [Server.dropPeers, hsame, hphase, List.any_cons, hx, Bool.false_or]
        exact ih

/-- **Where the top of the loop leads.** -/
theorem phase_loopTop (s : State M) :
    (Server.loopTop s).phase = phaseAfter s.droppingPanics .waiting := by
  unfold Server.loopTop droppingPanics
  split
  · rfl
  · exact phase_dropPeers rfl _

/-- The panic that a step ends in, if any. -/
def panics (s : State M) (a : Action M) : Option PanicSite :=
  match a with
  | .loopTop => s.droppingPanics
  | .next _ _ => (s.incoming? a).bind s.handlingPanics
  | _ => none

/-- The phase in which a step of the broker ends that does not panic. -/
def nextPhase (s : State M) : Action M → Phase
  | .loopTop => .waiting
  | .next _ _ => .top
  | _ => s.phase

theorem handlingPanics_taken {t : State M} {incoming : Incoming M} (ht : s.Taken incoming t)
    (ph : Phase) : ({ t with phase := ph } : State M).handlingPanics incoming =
      s.handlingPanics incoming := by
  cases ht <;> rfl

/-- **The phase after a step**, in full. -/
theorem phase_step {a : Action M} (hs : s.step a = some s') :
    s'.phase = phaseAfter (s.panics a) (s.nextPhase a) := by
  rcases step_cases hs with ⟨rfl, -, rfl⟩ | ⟨source, choice, incoming, t, rfl, -, hr, rfl⟩ |
    ⟨c, conn, conn', -, hmoves, rfl⟩ | ⟨st, reader, rfl, -, rfl⟩ | ⟨st, writer, rfl, -, rfl⟩ |
    ⟨x, rfl, rfl⟩ | ⟨e, ch, sender, rfl, -, rfl⟩
  · exact phase_loopTop s
  · rw [phase_handleIncoming, handlingPanics_taken (taken_of_nextIncoming hr)]
    simp only [panics, incoming?, hr, Option.map_some, Option.bind_some]
    rfl
  · cases hmoves <;> rfl
  all_goals rfl

/-! ### Which panics are where -/

theorem emitPanics_eq_some_iff {site : PanicSite} :
    s.emitPanics = some site ↔ s.eventSender.receiverAlive = false ∧ site = .emitEvent := by
  unfold emitPanics
  split
  · rename_i h
    simp [h]
  · rename_i h
    simp [h, eq_comm]

/-- The assertion that a peer is gone is only made at the end of one of its actors. -/
theorem endOfStream_of_peerNotRemoved {incoming : Incoming M}
    (h : s.handlingPanics incoming = some .peerNotRemoved) :
    (∃ p reason, incoming = .endOfStream (.tcpReader p (.controlled reason)) ∧
      reason ≠ .endOfStream ∧ p ∈ s.peers.keys) ∨
    (∃ p reason, incoming = .endOfStream (.tcpWriter p (.controlled reason)) ∧
      reason ≠ .sinkError ∧ p ∈ s.peers.keys) := by
  have hemit : s.emitPanics ≠ some .peerNotRemoved := fun h ↦ by
    cases (emitPanics_eq_some_iff.1 h).2
  have hassert : ∀ {p : PeerUid},
      (if s.peers.containsKey p then some PanicSite.peerNotRemoved else none) =
        some .peerNotRemoved → p ∈ s.peers.keys := by
    intro p hp
    split at hp
    · exact HashMap.containsKey_iff.1 ‹_›
    · cases hp
  rcases incoming with msg | (_ | ⟨_ | addr⟩) | ⟨⟨_ | ⟨_⟩⟩, p⟩ | ⟨_ | (m | uuid), addr⟩ | _ | kind
  · cases h
  · cases h
  · cases h
  · simp only [handlingPanics] at h
    repeat' split at h
    · cases h
    · cases h
    · exact absurd h hemit
  · cases h
  · exact absurd h hemit
  · cases h
  · simp only [handlingPanics] at h
    split at h
    · exact absurd h hemit
    · cases h
  · cases h
  · cases h
  · rcases kind with _ | _ | ⟨p, (_ | _ | _ | _) | _⟩ | ⟨p, (_ | _ | _) | _⟩ |
      ⟨(_ | _ | _ | _) | _⟩ | ⟨(_ | _ | _) | _⟩
    all_goals first
      | cases h
      | exact Or.inl ⟨p, _, rfl, by decide, hassert h⟩
      | exact Or.inr ⟨p, _, rfl, by decide, hassert h⟩

theorem droppingPanics_ne : s.droppingPanics ≠ some .peerNotRemoved := by
  intro h
  unfold droppingPanics at h
  repeat' split at h
  · cases h
  · cases (emitPanics_eq_some_iff.1 h).2
  · cases h

/-! ### The top of the loop -/

/-- The sanity check lets the broker pass. -/
def SanityChecked (s : State M) : Prop :=
  s.profile.debugAssertions = true → s.assertInvariants = true

instance (s : State M) : Decidable s.SanityChecked :=
  inferInstanceAs (Decidable (_ → _))

theorem not_failed_of_sanityChecked (h : s.SanityChecked) :
    ¬ (s.profile.debugAssertions && !s.assertInvariants) = true := by
  simpa [SanityChecked] using h

/-- Without a drop the broker just goes on to wait. -/
theorem loopTop_of_nil (hdrop : s.peersToDrop = []) (hchecked : s.SanityChecked) :
    Server.loopTop s = { s with phase := .waiting } := by
  rw [Server.loopTop, if_neg (not_failed_of_sanityChecked hchecked), hdrop, dropPeers]

/-- A single drop at the top of the loop. -/
theorem loopTop_of_singleton {p : PeerUid} {reason : DisconnectReason}
    (hdrop : s.peersToDrop = [(p, reason)]) (hchecked : s.SanityChecked) :
    Server.loopTop s = dropPeer { s with peersToDrop := [], phase := .waiting } p reason := by
  rw [Server.loopTop, if_neg (not_failed_of_sanityChecked hchecked), hdrop, dropPeers]
  split <;> rfl

end State

end NetStream.Server
