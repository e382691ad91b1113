import NetStream.Server.DeadConnections

/-!
# Failures of single peers

What a single connection or destination can fail with reaches the broker in four forms (`Failure`):
the address of an accepted socket that cannot be read, an item that is an error, the end of a TCP
writer, the end of the UDP writer. Two of them are answered by dropping the one peer, and such a
failure is `Isolated`: everyone else's record, queue and commands are as before. The other two end
the broker, although a failed connection attempt is only logged, and delivery over UDP is lossy.

A drop can also make the sanity check of a debug build fail, where the indexes were out of step
before. `Failure.Contained` is the exact condition.
-/

namespace NetStream.Server

variable {M : MessageTypes}

/-- A failure of a single connection or destination. -/
inductive Failure
  /-- The peer address of an accepted socket cannot be read. -/
  | peerAddr
  /-- A TCP connection cannot be read, or what was read cannot be decoded. -/
  | tcpRead (peerUid : PeerUid)
  /-- An operation on the sink of a TCP connection failed. -/
  | tcpSink (peerUid : PeerUid)
  /-- A datagram could not be serialized or sent. -/
  | udpSink
  deriving DecidableEq

/-- The peer that is dropped on it. -/
def Failure.peer? : Failure → Option PeerUid
  | .tcpRead peerUid => some peerUid
  | .tcpSink peerUid => some peerUid
  | _ => none

/-- The failure that an item brings to the broker. -/
def Incoming.failure? : Incoming M → Option Failure
  | .tcpListener (.ok ⟨.error _⟩) => some .peerAddr
  | .tcpReader (.streamItem (.error _)) peerUid => some (.tcpRead peerUid)
  | .endOfStream (.tcpWriter peerUid (.controlled .sinkError)) => some (.tcpSink peerUid)
  | .endOfStream (.udpWriter (.controlled .sinkError)) => some .udpSink
  | _ => none

namespace State

/-- The state without the record of a peer and the index entries of its names. -/
def forget (s : State M) (peerUid : PeerUid) : State M :=
  match s.peers.get? peerUid with
  | none => s
  | some peer => { s with
      peers := s.peers.remove peerUid
      peerTcpSocketAddrToPeerUid := s.peerTcpSocketAddrToPeerUid.remove peer.tcpSocketAddr
      peerUdpSocketAddrToPeerUid := s.peerUdpSocketAddrToPeerUid.removeSome peer.udpSocketAddr
      peerHandshakeUuidToPeerUid := s.peerHandshakeUuidToPeerUid.remove peer.handshakeUuid }

end State

/-- The failure is answered by a drop, and no sanity check fails before or after it. -/
def Failure.Contained (s : State M) : Failure → Prop
  | .tcpRead peerUid | .tcpSink peerUid =>
    s.SanityChecked ∧ (s.forget peerUid).SanityChecked
  | .peerAddr | .udpSink => False

/-- **The failure is that of one peer**: `s` is the state before it is handled, `s'` after it. -/
structure Isolated (s : State M) (failure : Failure) (s' : State M) : Prop where
  /-- The broker goes on, gets through the top of its loop, and will again. -/
  running : s'.phase = .top ∧ (loopTop s').phase = .waiting ∧ (loopTop s').SanityChecked
  /-- The other peers' records are unchanged. -/
  peers : ∀ q, failure.peer? ≠ some q → (loopTop s').peers.get? q = s.peers.get? q
  /-- A command for another peer goes to its writer, whose queue is as it was. -/
  forwardedTcp : ∀ q peer conn msg choice, failure.peer? ≠ some q → s.peers.get? q = some peer →
    s.streams[peer.tcpWriteActorHandle.connection]? = some conn →
    ∃ conn', (handleIncoming (loopTop s') (.actorMessage (.toPeerTcp q msg))
        choice).streams[peer.tcpWriteActorHandle.connection]? = some conn' ∧
      conn'.writer = conn.writer.offer (.send (.applicationLogic msg))
  /-- So it is over UDP. -/
  forwardedUdp : ∀ q peer addr msg choice, failure.peer? ≠ some q → s.peers.get? q = some peer →
    peer.udpSocketAddr = some addr →
    (handleIncoming (loopTop s') (.actorMessage (.toPeerUdp q msg)) choice).udpWriteActor =
      s.udpWriteActor.offer (.send (.applicationLogic msg, addr))

theorem Connection.TakenFrom.writer_eq {conn conn' : Connection M} {incoming : Incoming M}
    (h : conn.TakenFrom incoming conn') : conn'.writer = conn.writer := by
  cases h <;> rfl

namespace State

variable {s t : State M}

/-! ### What a drop leaves alone -/

/-- The sanity check only looks at the registry. -/
theorem sanityChecked_congr {s' : State M} (h : s'.registry = s.registry) :
    s'.SanityChecked ↔ s.SanityChecked := by
  have hpeers : s'.peers = s.peers := congrArg Registry.peers h
  have htcp : s'.peerTcpSocketAddrToPeerUid = s.peerTcpSocketAddrToPeerUid :=
    congrArg Registry.tcpIndex h
  have hudp : s'.peerUdpSocketAddrToPeerUid = s.peerUdpSocketAddrToPeerUid :=
    congrArg Registry.udpIndex h
  have hhandshake : s'.peerHandshakeUuidToPeerUid = s.peerHandshakeUuidToPeerUid :=
    congrArg Registry.handshakeIndex h
  have hprofile : s'.profile = s.profile := congrArg Registry.profile h
  unfold SanityChecked assertInvariants
  rw [hpeers, htcp, hudp, hhandshake, hprofile]

theorem registry_forget (s : State M) (p : PeerUid) :
    (s.forget p).registry = match s.registry.peers.get? p with
      | none => s.registry
      | some peer => s.registry.remove p peer := by
  show _ = match s.peers.get? p with
    | none => s.registry
    | some peer => s.registry.remove p peer
  unfold forget
  split <;> rfl

theorem dropPeer_of_get? {p : PeerUid} {peer : Peer} (hp : s.peers.get? p = some peer)
    (reason : DisconnectReason) :
    dropPeer s p reason =
      ((s.forget p).shutdownActors peer).emit (.peerDisconnect ⟨p, reason⟩) := by
  simp only [dropPeer, forget, hp]

theorem streams_forget (s : State M) (p : PeerUid) : (s.forget p).streams = s.streams := by
  unfold forget
  split <;> rfl

theorem eventSender_forget (s : State M) (p : PeerUid) :
    (s.forget p).eventSender = s.eventSender := by
  unfold forget
  split <;> rfl

theorem udpWriteActor_forget (s : State M) (p : PeerUid) :
    (s.forget p).udpWriteActor = s.udpWriteActor := by
  unfold forget
  split <;> rfl

theorem peers_forget_of_ne (s : State M) {p q : PeerUid} (hq : q ≠ p) :
    (s.forget p).peers.get? q = s.peers.get? q := by
  unfold forget
  split
  · rfl
  · exact HashMap.get?_remove_of_ne hq

/-- The record's handles are of connection `c`: no other connection is touched. -/
theorem streams_shutdownActors_of_ne (s : State M) {peer : Peer} {c i : ℕ}
    (hread : peer.tcpReadActorHandle = ⟨c⟩) (hwrite : peer.tcpWriteActorHandle = ⟨c⟩)
    (hi : c ≠ i) : (s.shutdownActors peer).streams[i]? = s.streams[i]? := by
  simp [shutdownActors, dropHandles, modifyConnection, hread, hwrite, hi]

/-- **What a drop leaves alone**, with a receiver for the event. -/
structure Spares (p : PeerUid) (s s' : State M) : Prop where
  phase : s'.phase = s.phase
  sanityChecked : s'.SanityChecked ↔ (s.forget p).SanityChecked
  peers : ∀ q ≠ p, s'.peers.get? q = s.peers.get? q
  streams : ∀ c, PeerUid.ofNat c ≠ p → s'.streams[c]? = s.streams[c]?
  udpWriteActor : s'.udpWriteActor = s.udpWriteActor

theorem spares_dropPeer (hn : s.registry.Numbered) (halive : s.eventSender.receiverAlive = true)
    (p : PeerUid) (reason : DisconnectReason) : s.Spares p (dropPeer s p reason) := by
  cases hp : s.peers.get? p with
  | none =>
    have hsame : dropPeer s p reason = s := by simp only [dropPeer, hp]
    have hforget : s.forget p = s := by simp only [forget, hp]
    rw [hsame]
    exact ⟨rfl, by rw [hforget], fun _ _ ↦ rfl, fun _ _ ↦ rfl, rfl⟩
  | some peer =>
    obtain ⟨m, -, rfl, hread, hwrite⟩ := hn.handles p peer hp
    have halive' : ((s.forget (.ofNat m)).shutdownActors peer).eventSender.receiverAlive = true := by
      show (s.forget (.ofNat m)).eventSender.receiverAlive = true
      rwa [eventSender_forget]
    rw [dropPeer_of_get? hp, emit_of_alive halive']
    refine ⟨?_, Iff.rfl, fun q hq ↦ s.peers_forget_of_ne hq, fun c hc ↦ ?_, ?_⟩
    · show (s.forget (.ofNat m)).phase = s.phase
      unfold forget
      split <;> rfl
    · show ((s.forget (.ofNat m)).shutdownActors peer).streams[c]? = s.streams[c]?
      have hmc : m ≠ c := fun h ↦ hc (h ▸ rfl)
      rw [streams_shutdownActors_of_ne _ hread hwrite hmc, streams_forget]
    · exact s.udpWriteActor_forget _

theorem sanityChecked_of_loopTop (h : (Server.loopTop s).phase = .waiting) : s.SanityChecked := by
  have hpanics : s.droppingPanics = none := by
    rw [phase_loopTop] at h
    cases hp : s.droppingPanics with
    | none => rfl
    | some site =>
      rw [hp] at h
      cases h
  have hpass := (dropsReported_of_droppingPanics hpanics).2
  intro hdebug
  simpa [hdebug] using hpass

/-- What taking an item leaves alone. -/
theorem Taken.spares {incoming : Incoming M} (ht : s.Taken incoming t) :
    t.peersToDrop = s.peersToDrop ∧ t.udpWriteActor = s.udpWriteActor ∧
      t.eventSender = s.eventSender := by
  cases ht <;> exact ⟨rfl, rfl, rfl⟩

theorem Taken.writer {incoming : Incoming M} (ht : s.Taken incoming t) {c : ℕ} {conn : Connection M}
    (hconn : s.streams[c]? = some conn) :
    ∃ conn', t.streams[c]? = some conn' ∧ conn'.writer = conn.writer := by
  have hlen : t.streams.length = s.streams.length := by
    rw [← t.length_connections, ← s.length_connections, registry_taken ht]
  obtain ⟨hlt, -⟩ := List.getElem?_eq_some_iff.1 hconn
  have hlt' : c < t.streams.length := hlen ▸ hlt
  have hconn' : t.streams[c]? = some t.streams[c] := List.getElem?_eq_getElem hlt'
  obtain ⟨old, hold, htaken⟩ := ht.connection hconn'
  obtain rfl := Option.some.inj (hold.symm.trans hconn)
  exact ⟨_, hconn', htaken.writer_eq⟩

end State

/-- **A failure that is answered by a drop.** -/
theorem isolated_scheduleDrop_iff {s t : State M} {incoming : Incoming M} (ht : s.Taken incoming t)
    (hn : s.registry.Numbered) (hdrained : s.peersToDrop = [])
    (halive : s.eventSender.receiverAlive = true) {failure : Failure} {p : PeerUid}
    (hp : failure.peer? = some p) (reason : DisconnectReason) :
    Isolated s failure (({ t with phase := .top } : State M).scheduleDrop p reason) ↔
      s.SanityChecked ∧ (s.forget p).SanityChecked := by
  obtain ⟨hdrop, hudp, hsender⟩ := ht.spares
  have hreg : t.registry = s.registry := State.registry_taken ht
  have hpeers : t.peers = s.peers := congrArg Registry.peers hreg
  have hscheduled : (({ t with phase := .top } : State M).scheduleDrop p reason).peersToDrop =
      [(p, reason)] := by
    show t.peersToDrop ++ [(p, reason)] = _
    rw [hdrop, hdrained, List.nil_append]
  have hchecked : (({ t with phase := .top } : State M).scheduleDrop p reason).SanityChecked ↔
      s.SanityChecked := State.sanityChecked_congr hreg
  have hspares : s.SanityChecked → State.Spares p
      { ({ t with phase := .top } : State M).scheduleDrop p reason with
        peersToDrop := [], phase := .waiting }
      (loopTop (({ t with phase := .top } : State M).scheduleDrop p reason)) := by
    intro hbefore
    rw [State.loopTop_of_singleton hscheduled (hchecked.2 hbefore)]
    refine State.spares_dropPeer ?_ ?_ p reason
    · show t.registry.Numbered
      rwa [hreg]
    · show t.eventSender.receiverAlive = true
      rwa [hsender]
  have hafter : s.SanityChecked → ((loopTop (({ t with phase := .top } : State M).scheduleDrop p
      reason)).SanityChecked ↔ (s.forget p).SanityChecked) := by
    intro hbefore
    refine (hspares hbefore).sanityChecked.trans (State.sanityChecked_congr ?_)
    rw [State.registry_forget, State.registry_forget, ← hreg]
    rfl
  have hother : ∀ q, failure.peer? ≠ some q → q ≠ p := by
    rintro q hq rfl
    exact hq hp
  constructor
  · intro hiso
    have hbefore : s.SanityChecked := hchecked.1 (State.sanityChecked_of_loopTop hiso.running.2.1)
    exact ⟨hbefore, (hafter hbefore).1 hiso.running.2.2⟩
  · rintro ⟨hbefore, hforget⟩
    have hpeer : ∀ q, failure.peer? ≠ some q →
        (loopTop (({ t with phase := .top } : State M).scheduleDrop p reason)).peers.get? q =
          s.peers.get? q := by
      intro q hq
      rw [(hspares hbefore).peers q (hother q hq), ← hpeers]
      rfl
    refine ⟨⟨rfl, (hspares hbefore).phase, (hafter hbefore).2 hforget⟩, hpeer, ?_, ?_⟩
    · intro q peer conn msg choice hq hget hconn
      obtain ⟨c, -, rfl, -, hwrite⟩ := hn.handles q peer hget
      rw [hwrite] at hconn ⊢
      obtain ⟨conn', hconn', hwriter⟩ := ht.writer hconn
      have hsame := (hspares hbefore).streams c (hother _ hq)
      refine ⟨{ conn' with writer := conn'.writer.offer (.send (.applicationLogic msg)) }, ?_, ?_⟩
      · simp only [handleIncoming, handleActorMessage, hpeer _ hq, hget, State.sendTcp, hwrite,
          WriteActor.logged_send, State.modifyConnection, List.getElem?_modify_eq]
        rw [hsame]
        show (t.streams[c]?).map _ = _
        rw [hconn', Option.map_some]
      · rw [hwriter]
    · intro q peer addr msg choice hq hget haddr
      simp only [handleIncoming, handleActorMessage, hpeer _ hq, hget, haddr, State.sendUdp,
        WriteActor.logged_send, (hspares hbefore).udpWriteActor]
      rw [← hudp]
      rfl

end NetStream.Server
