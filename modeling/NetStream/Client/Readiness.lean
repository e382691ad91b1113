import NetStream.Client.System
import NetStream.Library.EventLog

/-!
# The events of readiness

A client announces once that it can receive over UDP, when the first item comes from the UDP reader:
`hasReceivedOnUdp` guards it. That it can send over UDP it announces for each acknowledgement that
it takes from the TCP reader: nothing guards that, so the number of announcements is bounded by what
the server sends and by nothing else (`Readiness.canSend`).
-/

namespace NetStream.Client

variable {M : MessageTypes}

def Event.isCanSendUdpMessages : Event M → Bool
  | .canSendUdpMessages => true
  | _ => false

def Event.isCanReceiveUdpMessages : Event M → Bool
  | .canReceiveUdpMessages => true
  | _ => false

/-- A message received on UDP comes after the event that messages can be received. -/
def AfterCanReceive (before : List (Event M)) (ev : Event M) : Prop :=
  ∀ msg, ev = .udpMessage msg → .canReceiveUdpMessages ∈ before

/-- The event that waits for a slot. -/
def Phase.pending : Phase M → List (Event M)
  | .sending ev _ => [ev]
  | _ => []

/-- What the actor does here it does because something was received on UDP. -/
def Phase.OnUdp : Phase M → Prop
  | .sending (.udpMessage _) _ => True
  | .sending _ (.udpItem _) => True
  | .flushing (.udpItem _) => True
  | _ => False

/-- The message that a decoded item is. -/
def decoded? {α : Type} : ReadActorEvent (Except TcpError α) → Option α
  | .streamItem item => item.toOption

namespace State

/-- The events emitted and the one that is about to be. -/
def announced (s : State M) : List (Event M) :=
  s.events ++ s.phase.pending

/-- The messages that have arrived over TCP. -/
def arrivedTcp (s : State M) : List (TcpFromServer M) :=
  s.tcpReadActor.stream.sent.filterMap Except.toOption

/-- The messages that the actor has taken from the TCP reader. -/
def takenTcp (s : State M) : List (TcpFromServer M) :=
  s.tcpReadActor.tx.taken.filterMap decoded?

theorem takenTcp_isPrefix {s : State M} (h : s.tcpReadActor.Tracks) :
    s.takenTcp <+: s.arrivedTcp := by
  have hsent : s.tcpReadActor.tx.sent <+: s.tcpReadActor.stream.sent.map .streamItem :=
    h.sent_isPrefix.trans ((List.take_prefix _ _).map _)
  have htaken : s.tcpReadActor.tx.taken <+: s.tcpReadActor.tx.sent := List.take_prefix _ _
  have hframes : s.arrivedTcp =
      (s.tcpReadActor.stream.sent.map ReadActorEvent.streamItem).filterMap decoded? := by
    rw [List.filterMap_map]
    rfl
  rw [hframes]
  exact (htaken.trans hsent).filterMap _

/-- What holds of the two events and of the messages received on UDP. -/
structure Readiness (s : State M) : Prop where
  canSend : s.announced.countP Event.isCanSendUdpMessages ≤ s.takenTcp.countP TcpFromServer.isAcknowledgement
  canReceive : s.announced.countP Event.isCanReceiveUdpMessages ≤ s.hasReceivedOnUdp.toNat
  /-- What was received on UDP was announced, unless there is no one left to listen. -/
  received : s.hasReceivedOnUdp = true →
    .canReceiveUdpMessages ∈ s.announced ∨ s.eventSender.receiverAlive = false
  onUdp : s.phase.OnUdp → s.hasReceivedOnUdp = true
  justified : EventLog.Justified AfterCanReceive s.events

theorem readiness_start : (start : State M).Readiness where
  canSend := Nat.le_refl 0
  canReceive := Nat.le_refl 0
  received h := by cases h
  onUdp h := h.elim
  justified := EventLog.justified_nil

namespace Readiness

variable {s s' : State M}

/-- The actor stays where it is. -/
theorem of_eq (h : s.Readiness) (hevents : s'.events = s.events) (hphase : s'.phase = s.phase)
    (hhas : s'.hasReceivedOnUdp = s.hasReceivedOnUdp)
    (halive : s.eventSender.receiverAlive = false → s'.eventSender.receiverAlive = false)
    (htaken : s.takenTcp <+: s'.takenTcp) : s'.Readiness where
  canSend := by
    rw [announced, hevents, hphase]
    exact Nat.le_trans h.canSend htaken.sublist.countP_le
  canReceive := by
    rw [announced, hevents, hphase, hhas]
    exact h.canReceive
  received hr := by
    rw [announced, hevents, hphase]
    exact (h.received (hhas ▸ hr)).imp_right halive
  onUdp := by
    rw [hphase, hhas]
    exact h.onUdp
  justified := by
    rw [hevents]
    exact h.justified

/-- The actor gives up what it waited for; an event is given up only with no one to listen. -/
theorem turn (h : s.Readiness) (hevents : s'.events = s.events)
    (hhas : s'.hasReceivedOnUdp = s.hasReceivedOnUdp)
    (halive : s'.eventSender.receiverAlive = s.eventSender.receiverAlive)
    (htaken : s'.takenTcp = s.takenTcp) (hpending : s'.phase.pending = [])
    (hidle : s.phase.pending = [] ∨ s.eventSender.receiverAlive = false)
    (honUdp : ¬ s'.phase.OnUdp) : s'.Readiness where
  canSend := by
    rw [announced, hevents, hpending, List.append_nil, htaken]
    exact Nat.le_trans (List.sublist_append_left _ _).countP_le h.canSend
  canReceive := by
    rw [announced, hevents, hpending, List.append_nil, hhas]
    exact Nat.le_trans (List.sublist_append_left _ _).countP_le h.canReceive
  received hr := by
    rcases hidle with hidle | hidle
    · rw [announced, hevents, hpending, halive, ← hidle]
      exact h.received (hhas ▸ hr)
    · exact Or.inr (halive.trans hidle)
  onUdp hp := absurd hp honUdp
  justified := by
    rw [hevents]
    exact h.justified

theorem leave (h : s.Readiness)
    (hidle : s.phase.pending = [] ∨ s.eventSender.receiverAlive = false) : s.leave.Readiness :=
  h.turn rfl rfl rfl rfl rfl hidle id

theorem panic (h : s.Readiness) (hidle : s.phase.pending = []) (site : PanicSite) :
    (s.panic site).Readiness :=
  h.turn rfl rfl rfl rfl rfl (Or.inl hidle) id

/-- The actor begins to send an event, which is not one of the two. -/
theorem emit (h : s.Readiness) (hidle : s.phase.pending = []) {ev : Event M}
    (hsend : ev.isCanSendUdpMessages = false) (hreceive : ev.isCanReceiveUdpMessages = false)
    (hon : ∀ msg, ev = .udpMessage msg → s.hasReceivedOnUdp = true) :
    (s.emit ev .streams).Readiness where
  canSend := by
    have hold := h.canSend
    rw [announced, hidle, List.append_nil] at hold
    show (s.events ++ [ev]).countP _ ≤ s.takenTcp.countP _
    rw [List.countP_append, List.countP_singleton, hsend]
    exact hold
  canReceive := by
    have hold := h.canReceive
    rw [announced, hidle, List.append_nil] at hold
    show (s.events ++ [ev]).countP _ ≤ s.hasReceivedOnUdp.toNat
    rw [List.countP_append, List.countP_singleton, hreceive]
    exact hold
  received hr := by
    refine (h.received hr).imp_left fun hmem ↦ ?_
    rw [announced, hidle, List.append_nil] at hmem
    exact List.mem_append_left _ hmem
  onUdp hp := by
    cases ev with
    | udpMessage msg => exact hon msg rfl
    | _ => exact hp.elim
  justified := h.justified

/-- An acknowledgement is taken: the actor announces that it can send, however often it has. -/
theorem emit_canSend (h : s.Readiness) (hidle : s.phase.pending = [])
    (htaken : s'.takenTcp = s.takenTcp ++ [.udpHandshakeAcknowledged])
    (hevents : s'.events = s.events) (hhas : s'.hasReceivedOnUdp = s.hasReceivedOnUdp)
    (halive : s'.eventSender.receiverAlive = s.eventSender.receiverAlive) :
    (s'.emit .canSendUdpMessages .streams).Readiness where
  canSend := by
    have hold := h.canSend
    rw [announced, hidle, List.append_nil] at hold
    show (s'.events ++ [Event.canSendUdpMessages]).countP _ ≤ s'.takenTcp.countP _
    rw [hevents, htaken, List.countP_append, List.countP_append]
    exact Nat.add_le_add_right hold 1
  canReceive := by
    have hold := h.canReceive
    rw [announced, hidle, List.append_nil] at hold
    show (s'.events ++ [Event.canSendUdpMessages]).countP _ ≤ s'.hasReceivedOnUdp.toNat
    rw [hevents, hhas, List.countP_append]
    exact hold
  received hr := by
    refine (h.received (hhas ▸ hr)).imp (fun hmem ↦ ?_) halive.trans
    rw [announced, hidle, List.append_nil] at hmem
    show _ ∈ s'.events ++ _
    rw [hevents]
    exact List.mem_append_left _ hmem
  onUdp hp := hp.elim
  justified := by
    show EventLog.Justified _ s'.events
    rw [hevents]
    exact h.justified

/-- The first item comes from the UDP reader. -/
theorem emit_canReceive (h : s.Readiness) (hidle : s.phase.pending = [])
    (hfirst : s.hasReceivedOnUdp = false) (item : Except UdpError (UdpFromServer M)) :
    (({ s with hasReceivedOnUdp := true } : State M).emit .canReceiveUdpMessages
      (.udpItem item)).Readiness where
  canSend := by
    have hold := h.canSend
    rw [announced, hidle, List.append_nil] at hold
    show (s.events ++ [Event.canReceiveUdpMessages]).countP _ ≤ s.takenTcp.countP _
    rw [List.countP_append]
    exact hold
  canReceive := by
    have hold := h.canReceive
    rw [announced, hidle, List.append_nil, hfirst] at hold
    show (s.events ++ [Event.canReceiveUdpMessages]).countP _ ≤ 1
    rw [List.countP_append, Nat.le_zero.1 hold]
    exact Nat.le_refl 1
  received _ := Or.inl (List.mem_append_right _ (List.mem_singleton_self _))
  onUdp _ := rfl
  justified := h.justified

theorem handleActorMessage (h : s.Readiness) (hphase : s.phase = .receiving) (msg : Message M) :
    (Client.handleActorMessage s msg).Readiness := by
  have hidle : s.phase.pending = [] := by rw [hphase]; rfl
  cases msg with
  | tcpToServer msg | udpToServer msg =>
    simp only [Client.handleActorMessage]
    split
    · exact h.of_eq rfl rfl rfl id List.prefix_rfl
    · exact h.panic hidle _
  | getStatus tx => exact h.of_eq rfl rfl rfl id List.prefix_rfl

theorem handleUdpReaderItem (h : s.Readiness) (hphase : s.phase = .receiving)
    (hhas : s.hasReceivedOnUdp = true) (item : Except UdpError (UdpFromServer M)) (now : Instant) :
    (Client.handleUdpReaderItem s item now).Readiness := by
  have hidle : s.phase.pending = [] := by rw [hphase]; rfl
  unfold Client.handleUdpReaderItem
  split
  · exact h
  · exact h.of_eq rfl rfl rfl id List.prefix_rfl
  · exact h.emit hidle rfl rfl fun _ _ ↦ hhas
  · exact h.panic hidle _

/-- The actor goes on after an event, which is in the channel or has no one to listen to it. -/
theorem resume (h : s.Readiness)
    (hidle : s.phase.pending = [] ∨ s.eventSender.receiverAlive = false) {next : Next M}
    (hnext : ∀ item, next = .udpItem item → s.hasReceivedOnUdp = true) (now : Instant) :
    (s.resume next now).Readiness := by
  have hrecv : ({ s with phase := .receiving } : State M).Readiness :=
    h.turn rfl rfl rfl rfl rfl hidle id
  cases next with
  | streams => exact hrecv
  | udpItem item => exact hrecv.handleUdpReaderItem rfl (hnext item rfl) item now

theorem handleUdpReader (h : s.Readiness) (hphase : s.phase = .receiving)
    (item : Except UdpError (UdpFromServer M)) (now : Instant) :
    (Client.handleUdpReader s item now).Readiness := by
  have hidle : s.phase.pending = [] := by rw [hphase]; rfl
  unfold Client.handleUdpReader
  cases hhas : s.hasReceivedOnUdp with
  | false => exact h.emit_canReceive hidle hhas item
  | true => exact h.handleUdpReaderItem hphase hhas item now

/-- The message that is taken from the TCP reader counts among those taken. -/
theorem handleTcpReader (h : s.Readiness) (hphase : s.phase = .receiving)
    {item : Except TcpError (TcpFromServer M)}
    {ch : Channel (some 64) (ReadActorEvent (Except TcpError (TcpFromServer M)))}
    (hrecv : s.tcpReadActor.tx.recv = some (.streamItem item, ch)) :
    (handleTcpReaderItem { s with tcpReadActor := { s.tcpReadActor with tx := ch } }
      item).Readiness := by
  have hidle : s.phase.pending = [] := by rw [hphase]; rfl
  have htaken : ch.taken.filterMap decoded? = s.takenTcp ++ item.toOption.toList := by
    rw [(Channel.recv_spec hrecv).2.1, List.filterMap_append]
    cases item <;> rfl
  have ht : ({ s with tcpReadActor := { s.tcpReadActor with tx := ch } } : State M).Readiness :=
    h.of_eq rfl rfl rfl id ⟨_, htaken.symm⟩
  unfold handleTcpReaderItem
  split
  · exact ht.of_eq rfl rfl rfl id List.prefix_rfl
  · exact h.emit_canSend hidle htaken rfl rfl rfl
  · exact ht.emit hidle rfl rfl fun _ hmsg ↦ by cases hmsg
  · exact ht.panic hidle _

theorem next (h : s.Readiness) (hphase : s.phase = .receiving) {t : State M}
    {incoming : Incoming M} (ht : s.Taken incoming t) (now : Instant) :
    (handleIncoming t incoming now).Readiness := by
  cases ht with
  | @actorMessage msg ch hrecv =>
    have ht : ({ s with msgReceiver := ch } : State M).Readiness :=
      h.of_eq rfl rfl rfl id List.prefix_rfl
    exact ht.handleActorMessage hphase msg
  | @tcpReader event ch hrecv =>
    obtain ⟨item⟩ := event
    exact h.handleTcpReader hphase hrecv
  | @udpReader event ch hrecv =>
    obtain ⟨item⟩ := event
    have ht : ({ s with udpReadActor := { s.udpReadActor with tx := ch } } : State M).Readiness :=
      h.of_eq rfl rfl rfl id List.prefix_rfl
    exact ht.handleUdpReader hphase item now
  | actorMessageEnd =>
    have ht : ({ s with msgEnded := true } : State M).Readiness :=
      h.of_eq rfl rfl rfl id List.prefix_rfl
    refine ht.leave (Or.inl ?_)
    show s.phase.pending = []
    rw [hphase]
    rfl
  | tcpReaderEnd _ | tcpWriterEnd _ | udpReaderEnd _ | udpWriterEnd _ =>
    exact h.of_eq rfl rfl rfl id List.prefix_rfl

/-- The event that waited is in the channel. -/
theorem push (h : s.Readiness) {ev : Event M} {next : Next M} (hphase : s.phase = .sending ev next)
    (hacc : s.eventSender.Accepts) :
    ({ s with eventSender := s.eventSender.push ev, phase := .flushing next } : State M).Readiness := by
  have hannounced : s.announced = s.events ++ [ev] := by rw [announced, hphase]; rfl
  have hsame : (s.events ++ [ev]) ++ [] = s.announced := by rw [List.append_nil, hannounced]
  refine ⟨?_, ?_, fun hr ↦ ?_, fun hp ↦ ?_, ?_⟩
  · show ((s.events ++ [ev]) ++ []).countP _ ≤ _
    rw [hsame]
    exact h.canSend
  · show ((s.events ++ [ev]) ++ []).countP _ ≤ _
    rw [hsame]
    exact h.canReceive
  · show _ ∈ (s.events ++ [ev]) ++ [] ∨ _
    rw [hsame]
    exact h.received hr
  · refine h.onUdp ?_
    rw [hphase]
    cases next with
    | streams => exact hp.elim
    | udpItem item => cases ev <;> trivial
  · refine EventLog.justified_append_singleton_iff.2 ⟨h.justified, ?_⟩
    rintro msg rfl
    -- the channel is open, so the first item has been announced, and not by this event
    have hhas := h.onUdp (by rw [hphase]; trivial)
    rcases h.received hhas with hmem | hdead
    · rw [hannounced] at hmem
      rcases List.mem_append.1 hmem with hmem | hmem
      · exact hmem
      · cases List.mem_singleton.1 hmem
    · exact absurd (hacc.1.symm.trans hdead) (by decide)

theorem sendFailed (h : s.Readiness) {ev : Event M} {next : Next M}
    (hphase : s.phase = .sending ev next) (hdead : s.eventSender.receiverAlive = false)
    (now : Instant) : (s.sendFailed ev next now).Readiness := by
  have hnext : ∀ item, next = .udpItem item → s.hasReceivedOnUdp = true := by
    rintro item rfl
    refine h.onUdp ?_
    rw [hphase]
    cases ev <;> trivial
  cases ev with
  | tcpMessage msg | udpMessage msg => exact h.leave (Or.inr hdead)
  | canSendUdpMessages | canReceiveUdpMessages => exact h.resume (Or.inr hdead) hnext now

theorem taskStep (h : s.Readiness) {task : Task} (hs : s.taskStep task = some s') :
    s'.Readiness := by
  cases task with
  | tcpReader st =>
    obtain ⟨reader, hreader, rfl⟩ := Option.map_eq_some_iff.1 hs
    refine h.of_eq rfl rfl rfl id ?_
    show s.tcpReadActor.tx.taken.filterMap _ <+: reader.tx.taken.filterMap _
    exact ReadActor.taken_of_step hreader ▸ List.prefix_rfl
  | tcpWriter st | udpReader st | udpWriter st =>
    obtain ⟨x, -, rfl⟩ := Option.map_eq_some_iff.1 hs
    exact h.of_eq rfl rfl rfl id List.prefix_rfl

theorem envStep (h : s.Readiness) {env : Env M} (hs : s.envStep env = some s') :
    s'.Readiness := by
  cases envMoves_of_envStep hs with
  | sendMessageTcp _ | sendMessageUdp _ | getStatus _ =>
    simp only [State.sendMessageTcp, State.sendMessageUdp, State.getStatus, trySend]
    split <;> exact h.of_eq rfl rfl rfl id List.prefix_rfl
  | takeEvent hrecv =>
    obtain ⟨-, -, hsent, halive, -⟩ := Channel.recv_spec hrecv
    exact h.of_eq hsent rfl rfl halive.trans List.prefix_rfl
  | closeEvents => exact h.of_eq rfl rfl rfl (fun _ ↦ rfl) List.prefix_rfl
  | tcpFrame _ | tcpEnd | datagram | cloneHandle _ | dropHandle =>
    exact h.of_eq rfl rfl rfl id List.prefix_rfl

/-- **What every step keeps.** -/
theorem step (h : s.Readiness) {a : Action M} (hs : s.step a = some s') : s'.Readiness := by
  rcases step_cases hs with ⟨source, now, incoming, t, rfl, hphase, hr, rfl⟩ |
    ⟨now, ev, next, rfl, hphase, ⟨hacc, rfl⟩ | ⟨hdead, rfl⟩⟩ | ⟨now, next, rfl, hphase, rfl⟩ |
    ⟨task, rfl, hs⟩ | ⟨env, rfl, hs⟩
  · exact h.next hphase (taken_of_nextIncoming hr) now
  · exact h.push hphase hacc
  · exact h.sendFailed hphase hdead now
  · refine h.resume (Or.inl (by rw [hphase]; rfl)) ?_ now
    rintro item rfl
    exact h.onUdp (by rw [hphase]; trivial)
  · exact h.taskStep hs
  · exact h.envStep hs

end Readiness

end State

end NetStream.Client
