import NetStream.Server.Lifecycle

/-!
# TCP events and the connected window of a peer

A peer is connected, for the application, from its `NewPeer` to its `PeerDisconnect`. Does a
`TcpMessage` of the peer lie between the two?

* It never precedes `NewPeer`: the streams of a connection exist only once it is accepted
  (`Run.tcpMessages_announced`).
* It may follow `PeerDisconnect`. Dropping a peer takes its record out of the map, but its stream
  stays among those the broker takes items from, and `handle_tcp_reader_stream_item`, unlike its
  sibling for datagrams, does not look the peer up. So a frame that has got as far as the reader's
  channel before the drop is emitted after it (`tcpMessage_after_disconnect`), and the window is
  respected exactly in the runs where no such frame is taken (`Run.tcpMessages_in_window_iff`).
-/

namespace NetStream.Server

variable {M : MessageTypes}

/-- A message over TCP comes from a peer that was announced. -/
def TcpAnnounced (before : List (Event M)) (ev : Event M) : Prop :=
  ∀ msg, ev = .tcpMessage msg → msg.from_ ∈ newPeers before

/-- A message over TCP comes from a peer that was announced and is not yet reported as
disconnected. -/
def TcpInWindow (before : List (Event M)) (ev : Event M) : Prop :=
  ∀ msg, ev = .tcpMessage msg → msg.from_ ∈ newPeers before ∧ msg.from_ ∉ peerDisconnects before

namespace Registry

variable {r : Registry M} {op : Op M}

/-- Where a receiver is left, every connection was announced, even beyond the last uid. -/
theorem Run.newPeers_eq {hist : List (Registry M × Op M)} (h : Run hist r) :
    r.eventsOpen = true → newPeers r.events = r.connections := by
  refine h.invariant (I := fun r ↦ r.eventsOpen = true → newPeers r.events = r.connections)
    (fun profile config _ ↦ rfl) fun r op hr _ hopen ↦ ?_
  have hopen' := eventsOpen_of_after hopen
  have hr := hr hopen'
  have hemit : ∀ (r : Registry M) ev, r.eventsOpen = true → ev.newPeer? = none →
      newPeers (r.emit ev).events = newPeers r.events := by
    intro r ev ho hev
    rw [events_emit_of_open ho, newPeers_append]
    simp [newPeers, hev]
  cases op with
  | drop l =>
    refine (dropPeers_induction (I := fun r ↦ r.eventsOpen = true ∧
      newPeers r.events = r.connections) ?_ ⟨hopen', hr⟩ l).2
    rintro r p peer reason ⟨ho, hr⟩ _
    refine ⟨(emit_eventsOpen (r.remove p peer) _).trans ho, ?_⟩
    rw [hemit (r.remove p peer) _ ho rfl, emit_connections]
    exact hr
  | accept addr uuid next =>
    show newPeers ((r.register addr uuid next).emit _).events =
      ((r.register addr uuid next).emit _).connections
    rw [events_emit_of_open (r := r.register addr uuid next) hopen', newPeers_append,
      emit_connections]
    show newPeers r.events ++ [r.nextPeerUid] = r.connections ++ [r.nextPeerUid]
    rw [hr]
  | tcpMessage msg =>
    show newPeers (r.emit (.tcpMessage msg)).events = (r.emit (.tcpMessage msg)).connections
    rw [hemit r _ hopen' rfl, emit_connections, hr]
  | udpMessage msg addr =>
    show newPeers (r.emit (.udpMessage msg)).events = (r.emit (.udpMessage msg)).connections
    rw [hemit r _ hopen' rfl, emit_connections, hr]
  | bind p peer uuid addr => exact hr
  | closeEvents => exact hr
  | idle => exact hr

/-- **One step and the window.** It is respected by a step exactly when a message over TCP that the
step emits comes from a connected peer. -/
theorem justified_tcpInWindow_after_iff (hacc : r.eventsOpen = true → r.Accounted)
    (h : EventLog.Justified TcpInWindow r.events) :
    EventLog.Justified TcpInWindow (r.after op).events ↔
      ∀ msg, op = .tcpMessage msg → r.eventsOpen = true → msg.from_ ∈ r.peers.keys := by
  have hmem : ∀ msg, r.eventsOpen = true →
      (msg.from_ ∈ r.peers.keys ↔ TcpInWindow r.events (.tcpMessage msg)) := by
    intro msg hopen
    rw [(hacc hopen).mem_keys_iff, mem_connectedPeers_iff]
    simp [TcpInWindow]
  constructor
  · rintro hjust msg rfl hopen
    change EventLog.Justified TcpInWindow (r.emit (.tcpMessage msg)).events at hjust
    rw [events_emit_of_open hopen, EventLog.justified_append_singleton_iff] at hjust
    exact (hmem msg hopen).2 hjust.2
  · intro hconn
    refine justified_after (by simp [TcpInWindow]) (by simp [TcpInWindow]) (fun msg hop hopen ↦ ?_)
      (by simp [TcpInWindow]) h
    exact (hmem msg hopen).1 (hconn msg hop hopen)

end Registry

/-! ### The server -/

section Server

variable {hist : List (State M × Action M)} {s : State M}

/-- **No message over TCP precedes the announcement of its sender**, in any run. -/
theorem Run.tcpMessages_announced (h : Run hist s) :
    EventLog.Justified TcpAnnounced s.events := by
  induction h with
  | start h =>
    obtain ⟨profile, config, rfl⟩ := h
    exact EventLog.justified_nil
  | @next hist s s' a h hs ih =>
    have hev : s'.events = (s.registry.after (s.op a)).events :=
      congrArg Registry.events (State.registry_step hs)
    rw [hev]
    refine Registry.justified_after (by simp [TcpAnnounced]) (by simp [TcpAnnounced])
      (fun msg hop hopen ↦ ?_) (by simp [TcpAnnounced]) ih
    have hmem : msg.from_ ∈ s.registry.connections := by
      have he := State.enabled_op hs
      rw [hop] at he
      exact he
    intro msg' hmsg
    obtain rfl := Event.tcpMessage.inj hmsg
    rw [Registry.Run.newPeers_eq (Run.registry h) hopen]
    exact hmem

/-- A decoded frame that the step takes is one of a peer that is still connected. Without an event
receiver there is nothing to respect. -/
def FrameOfConnected (s : State M) (a : Action M) : Prop :=
  ∀ message p, s.incoming? a = some (.tcpReader (.streamItem (.ok message)) p) →
    s.eventSender.receiverAlive = true → p ∈ s.peers.keys

theorem frameOfConnected_iff {a : Action M} :
    FrameOfConnected s a ↔ ∀ msg, s.op a = .tcpMessage msg →
      s.registry.eventsOpen = true → msg.from_ ∈ s.registry.peers.keys := by
  constructor
  · intro h msg hop hopen
    exact h _ _ (State.op_eq_tcpMessage_iff.1 hop) hopen
  · rintro h ⟨m⟩ p hi hopen
    exact h ⟨p, m⟩ (State.op_eq_tcpMessage_iff.2 hi) hopen

/-- **When messages over TCP stay in the window of their sender.** Up to `2 ^ 64` connections, they
do in all states of a run exactly when every decoded frame is taken while its peer is connected. -/
theorem Run.tcpMessages_in_window_iff (h : Run hist s) (hle : s.streams.length ≤ 2 ^ 64) :
    (∀ t, TransitionSystem.Visited hist s t → EventLog.Justified TcpInWindow t.events) ↔
      ∀ x ∈ hist, FrameOfConnected x.1 x.2 := by
  refine TransitionSystem.Run.forall_visited_iff (T := system M)
    (I := fun t ↦ EventLog.Justified TcpInWindow t.events) ?_ h ?_
  · rintro s ⟨profile, config, rfl⟩
    exact EventLog.justified_nil
  · intro hist₁ t a t' hmem ht hI hs
    have hlen := h.length_streams_le_of_visited (Or.inr ⟨a, hmem⟩)
    have hacc : t.registry.eventsOpen = true → t.registry.Accounted :=
      fun hopen ↦ Run.accounted ht hopen (by omega)
    have hev : t'.events = (t.registry.after (t.op a)).events :=
      congrArg Registry.events (State.registry_step hs)
    rw [hev, frameOfConnected_iff]
    exact Registry.justified_tcpInWindow_after_iff hacc hI

/-- A run in which the window is respected: a peer's message is taken while it is connected. -/
theorem Run.tcpMessages_in_window_iff_of_connected : ∃ hist, ∃ s : State plainMessages,
    Run hist s ∧ s.events = [.newPeer ⟨.ofNat 0⟩, .tcpMessage ⟨.ofNat 0, ()⟩] ∧
      ((∀ t, TransitionSystem.Visited hist s t → EventLog.Justified TcpInWindow t.events) ↔
        ∀ x ∈ hist, FrameOfConnected x.1 x.2) := by
  have h : Run _ _ := TransitionSystem.run_of_exec (T := system plainMessages)
    (s := .start .dev ⟨1⟩) (l := Action.connect 1 1 [] ++
      Action.frame 0 (.ok (.applicationLogic ())) ++ Action.take (.tcpReader 0) [0])
    ⟨.dev, ⟨1⟩, rfl⟩ rfl
  exact ⟨_, _, h, rfl, Run.tcpMessages_in_window_iff h (by decide)⟩

/-- **A message over TCP after the disconnect.** An undecodable frame and a good one are in the
reader's channel; the first gets the peer dropped, and the second is emitted all the same. -/
theorem tcpMessage_after_disconnect : ∃ hist, ∃ s : State plainMessages, Run hist s ∧
    s.events = [.newPeer ⟨.ofNat 0⟩,
      .peerDisconnect ⟨.ofNat 0, .peerSubmittedUnintelligibleData⟩,
      .tcpMessage ⟨.ofNat 0, ()⟩] ∧
    ¬ EventLog.Justified TcpInWindow s.events := by
  have h : Run _ _ := TransitionSystem.run_of_exec (T := system plainMessages)
    (s := .start .dev ⟨1⟩) (l := Action.connect 1 1 [] ++ Action.frame 0 (.error .bincode) ++
      Action.frame 0 (.ok (.applicationLogic ())) ++ Action.take (.tcpReader 0) [0] ++
      Action.take (.tcpReader 0) [])
    ⟨.dev, ⟨1⟩, rfl⟩ rfl
  refine ⟨_, _, h, rfl, fun hjust ↦ ?_⟩
  have hlast := hjust [.newPeer ⟨.ofNat 0⟩,
    .peerDisconnect ⟨.ofNat 0, .peerSubmittedUnintelligibleData⟩] _ [] rfl _ rfl
  exact hlast.2 (by decide)

end Server

end NetStream.Server
