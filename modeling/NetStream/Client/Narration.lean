import NetStream.Client.Backpressure
import NetStream.Client.Readiness

/-!
# What the client tells its application

The actor's loop interleaves four streams of items, and an item may bring two events, each of which
is two waits at a bounded channel. What comes out of it is simple to say: the events are those that
the taken items bring, in the order in which they are taken (`narrate`), as far as the actor has got
with sending them.

With the read actors' part it follows that no message is lost, repeated or overtaken by another of
the same transport between the decoder and the application (`Run.hears`).
-/

namespace NetStream.Client

variable {M : MessageTypes}

/-! ### The narration -/

/-- The event that an item of the UDP reader brings by itself. -/
def udpEvents : Except UdpError (UdpFromServer M) → List (Event M)
  | .ok (.applicationLogic msg) => [.udpMessage msg]
  | _ => []

namespace Incoming

/-- The item was received on UDP. -/
def isUdp : Incoming M → Bool
  | .udpReader _ => true
  | _ => false

/-- The item of the TCP reader. -/
def tcpItem? : Incoming M → Option (Except TcpError (TcpFromServer M))
  | .tcpReader (.streamItem item) => some item
  | _ => none

/-- The item of the UDP reader. -/
def udpItem? : Incoming M → Option (Except UdpError (UdpFromServer M))
  | .udpReader (.streamItem item) => some item
  | _ => none

/-- The events that an item brings, by whether something was received on UDP before. -/
def brings (received : Bool) : Incoming M → List (Event M)
  | .tcpReader (.streamItem (.ok .udpHandshakeAcknowledged)) => [.canSendUdpMessages]
  | .tcpReader (.streamItem (.ok (.applicationLogic msg))) => [.tcpMessage msg]
  | .udpReader (.streamItem item) =>
    if received then udpEvents item else .canReceiveUdpMessages :: udpEvents item
  | _ => []

end Incoming

/-- The events that the items bring, one after the other. -/
def narrateFrom (received : Bool) : List (Incoming M) → List (Event M)
  | [] => []
  | x :: rest => x.brings received ++ narrateFrom (received || x.isUdp) rest

/-- The events that the items bring from the start. -/
def narrate (items : List (Incoming M)) : List (Event M) :=
  narrateFrom false items

theorem narrateFrom_append_singleton (received : Bool) (items : List (Incoming M))
    (x : Incoming M) : narrateFrom received (items ++ [x]) =
      narrateFrom received items ++ x.brings (received || items.any Incoming.isUdp) := by
  induction items generalizing received with
  | nil => simp [narrateFrom]
  | cons y items ih =>
    rw [List.cons_append, narrateFrom, ih, narrateFrom, List.any_cons, Bool.or_assoc,
      List.append_assoc]

theorem narrate_append_singleton (items : List (Incoming M)) (x : Incoming M) :
    narrate (items ++ [x]) = narrate items ++ x.brings (items.any Incoming.isUdp) := by
  rw [narrate, narrateFrom_append_singleton, Bool.false_or]
  rfl

/-- The items that the actor takes in a run, in order. -/
def takenItems (hist : List (State M × Action M)) : List (Incoming M) :=
  hist.filterMap fun x ↦ x.1.incoming? x.2

theorem takenItems_append_singleton (hist : List (State M × Action M)) (s : State M)
    (a : Action M) : takenItems (hist ++ [(s, a)]) = takenItems hist ++ (s.incoming? a).toList :=
  List.filterMap_append_singleton _ hist (s, a)

/-- What each item brings of one kind, the narration brings. -/
theorem filterMap_narrate {β : Type} {f : Event M → Option β} {g : Incoming M → Option β}
    (hbrings : ∀ received x, (x.brings received).filterMap f = (g x).toList)
    (items : List (Incoming M)) : (narrate items).filterMap f = items.filterMap g := by
  have hfrom : ∀ received, (narrateFrom received items).filterMap f = items.filterMap g := by
    induction items with
    | nil => exact fun _ ↦ rfl
    | cons x rest ih =>
      intro received
      rw [narrateFrom, List.filterMap_append, hbrings, ih, List.filterMap_cons]
      cases g x <;> rfl
  exact hfrom false

/-- The message over TCP in an event. -/
def Event.tcpMessage? : Event M → Option M.TcpFromServer
  | .tcpMessage msg => some msg
  | _ => none

/-- The message over UDP in an event. -/
def Event.udpMessage? : Event M → Option M.UdpFromServer
  | .udpMessage msg => some msg
  | _ => none

/-- The application's message in what the TCP reader yields. -/
def tcpApplication? (item : Except TcpError (TcpFromServer M)) : Option M.TcpFromServer :=
  item.toOption.bind TcpFromServer.application?

/-- The application's message in what the UDP reader yields. -/
def udpApplication? (item : Except UdpError (UdpFromServer M)) : Option M.UdpFromServer :=
  item.toOption.bind UdpFromServer.application?

theorem filterMap_tcpMessage?_narrate (items : List (Incoming M)) :
    (narrate items).filterMap Event.tcpMessage? =
      (items.filterMap Incoming.tcpItem?).filterMap tcpApplication? := by
  rw [List.filterMap_filterMap]
  refine filterMap_narrate (fun received x ↦ ?_) items
  rcases x with msg | ⟨⟨_ | _ | _ | _⟩⟩ | ⟨⟨_ | _ | _ | _⟩⟩ | kind
  all_goals first
    | rfl
    | cases received <;> rfl

theorem filterMap_udpMessage?_narrate (items : List (Incoming M)) :
    (narrate items).filterMap Event.udpMessage? =
      (items.filterMap Incoming.udpItem?).filterMap udpApplication? := by
  rw [List.filterMap_filterMap]
  refine filterMap_narrate (fun received x ↦ ?_) items
  rcases x with msg | ⟨⟨_ | _ | _ | _⟩⟩ | ⟨⟨_ | _ | _ | _⟩⟩ | kind
  all_goals first
    | rfl
    | cases received <;> rfl

/-! ### What is still to be sent -/

/-- The events that are due after the one that is being sent. -/
def Next.due : Next M → List (Event M)
  | .streams => []
  | .udpItem item => udpEvents item

/-- The events that are due where the actor waits. -/
def Phase.due : Phase M → List (Event M)
  | .sending ev next => ev :: next.due
  | .flushing next => next.due
  | _ => []

namespace State

variable {s s' t : State M} {items : List (Incoming M)}

/-- **The actor narrates what it takes**: it has emitted a first part of what the items bring, and
the rest is due, unless there is no one to listen. -/
structure Narrates (s : State M) (items : List (Incoming M)) : Prop where
  received : s.hasReceivedOnUdp = items.any Incoming.isUdp
  isPrefix : s.events <+: narrate items
  complete : s.eventSender.receiverAlive = true → s.events ++ s.phase.due = narrate items
  tcp : s.tcpReadActor.Yields (items.filterMap Incoming.tcpItem?)
  udp : s.udpReadActor.Yields (items.filterMap Incoming.udpItem?)

theorem narrates_start : (start : State M).Narrates [] where
  received := rfl
  isPrefix := List.prefix_rfl
  complete _ := rfl
  tcp := ReadActor.yields_spawnActor
  udp := ReadActor.yields_spawnActor

/-- A turn of the loop: the actor comes to wait with these events due, and none emitted yet. -/
structure Turns (s s' : State M) (due : List (Event M)) : Prop where
  events : s'.events = s.events
  alive : s'.eventSender.receiverAlive = s.eventSender.receiverAlive
  due : s'.phase.due = due
  tcp : s.tcpReadActor.Unmoved s'.tcpReadActor
  udp : s.udpReadActor.Unmoved s'.udpReadActor

/-- The actor comes to wait without ending its loop. -/
theorem turns_of_phase {due : List (Event M)} (hsender : s'.eventSender = s.eventSender)
    (hdue : s'.phase.due = due) (htcp : s'.tcpReadActor = s.tcpReadActor)
    (hudp : s'.udpReadActor = s.udpReadActor) : Turns s s' due where
  events := congrArg Channel.sent hsender
  alive := congrArg Channel.receiverAlive hsender
  due := hdue
  tcp := htcp ▸ ReadActor.unmoved_self _
  udp := hudp ▸ ReadActor.unmoved_self _

theorem turns_leave (s : State M) : Turns s s.leave [] :=
  ⟨rfl, rfl, rfl, ReadActor.unmoved_drop _, ReadActor.unmoved_drop _⟩

theorem turns_panic (s : State M) (site : PanicSite) : Turns s (s.panic site) [] :=
  ⟨rfl, rfl, rfl, ReadActor.unmoved_drop _, ReadActor.unmoved_drop _⟩

theorem turns_handleActorMessage (hphase : s.phase = .receiving) (msg : Message M) :
    Turns s (Client.handleActorMessage s msg) [] := by
  have hidle : s.phase.due = [] := by
    rw [hphase]
    rfl
  cases msg with
  | tcpToServer msg | udpToServer msg =>
    simp only [Client.handleActorMessage]
    split
    · exact turns_of_phase rfl hidle rfl rfl
    · exact turns_panic s _
  | getStatus tx => exact turns_of_phase rfl hidle rfl rfl

theorem turns_handleUdpReaderItem (hphase : s.phase = .receiving)
    (item : Except UdpError (UdpFromServer M)) (now : Instant) :
    Turns s (Client.handleUdpReaderItem s item now) (udpEvents item) := by
  have hidle : s.phase.due = [] := by
    rw [hphase]
    rfl
  unfold Client.handleUdpReaderItem
  split
  · exact turns_of_phase rfl hidle rfl rfl
  · exact turns_of_phase rfl hidle rfl rfl
  · exact turns_of_phase rfl rfl rfl rfl
  · exact turns_panic s _

theorem turns_resume (s : State M) (next : Next M) (now : Instant) :
    Turns s (s.resume next now) next.due := by
  cases next with
  | streams => exact turns_of_phase rfl rfl rfl rfl
  | udpItem item =>
    obtain ⟨hevents, halive, hdue, htcp, hudp⟩ :=
      turns_handleUdpReaderItem (s := { s with phase := .receiving }) rfl item now
    exact ⟨hevents, halive, hdue, htcp, hudp⟩

theorem turns_handleIncoming (hphase : s.phase = .receiving) (incoming : Incoming M)
    (now : Instant) :
    Turns s (handleIncoming s incoming now) (incoming.brings s.hasReceivedOnUdp) := by
  have hidle : s.phase.due = [] := by
    rw [hphase]
    rfl
  cases incoming with
  | actorMessage msg => exact turns_handleActorMessage hphase msg
  | tcpReader event =>
    obtain ⟨item⟩ := event
    show Turns s (handleTcpReaderItem s item) _
    unfold handleTcpReaderItem
    split
    · exact turns_of_phase rfl hidle rfl rfl
    · exact turns_of_phase rfl rfl rfl rfl
    · exact turns_of_phase rfl rfl rfl rfl
    · exact turns_panic s _
  | udpReader event =>
    obtain ⟨item⟩ := event
    show Turns s (handleUdpReader s item now) _
    unfold handleUdpReader Incoming.brings
    cases s.hasReceivedOnUdp with
    | false => exact turns_of_phase rfl rfl rfl rfl
    | true => exact turns_handleUdpReaderItem hphase item now
  | endOfStream kind =>
    cases kind with
    | actorMessage => exact turns_leave s
    | tcpReader _ | tcpWriter _ | udpReader _ | udpWriter _ => exact turns_of_phase rfl hidle rfl rfl

/-- Whether something was received on UDP is remembered when the item is taken. -/
theorem hasReceivedOnUdp_handleIncoming (s : State M) (incoming : Incoming M) (now : Instant) :
    (handleIncoming s incoming now).hasReceivedOnUdp =
      (s.hasReceivedOnUdp || incoming.isUdp) := by
  have hudp : ∀ (s : State M) item, (handleUdpReaderItem s item now).hasReceivedOnUdp =
      s.hasReceivedOnUdp := by
    intro s item
    unfold handleUdpReaderItem
    split <;> rfl
  cases incoming with
  | actorMessage msg =>
    refine Eq.trans ?_ (Bool.or_false _).symm
    cases msg with
    | tcpToServer msg | udpToServer msg =>
      simp only [handleIncoming, Client.handleActorMessage]
      split <;> rfl
    | getStatus tx => rfl
  | tcpReader event =>
    obtain ⟨item⟩ := event
    refine Eq.trans ?_ (Bool.or_false _).symm
    show (handleTcpReaderItem s item).hasReceivedOnUdp = _
    unfold handleTcpReaderItem
    split <;> rfl
  | udpReader event =>
    obtain ⟨item⟩ := event
    refine Eq.trans ?_ (Bool.or_true _).symm
    show (handleUdpReader s item now).hasReceivedOnUdp = true
    unfold handleUdpReader
    cases hhas : s.hasReceivedOnUdp with
    | false => rfl
    | true => exact (hudp s item).trans hhas
  | endOfStream kind =>
    refine Eq.trans ?_ (Bool.or_false _).symm
    cases kind <;> rfl

theorem hasReceivedOnUdp_resume (s : State M) (next : Next M) (now : Instant) :
    (s.resume next now).hasReceivedOnUdp = s.hasReceivedOnUdp := by
  cases next with
  | streams => rfl
  | udpItem item =>
    show (Client.handleUdpReaderItem _ item now).hasReceivedOnUdp = _
    unfold Client.handleUdpReaderItem
    split <;> rfl

/-- Taking an item changes nothing but where it comes from. -/
theorem Taken.turns {incoming : Incoming M} (h : s.Taken incoming t) :
    t.phase = s.phase ∧ t.hasReceivedOnUdp = s.hasReceivedOnUdp ∧ t.eventSender = s.eventSender := by
  cases h <;> exact ⟨rfl, rfl, rfl⟩

theorem Taken.yields {incoming : Incoming M} (h : s.Taken incoming t)
    (htcp : s.tcpReadActor.Yields (items.filterMap Incoming.tcpItem?))
    (hudp : s.udpReadActor.Yields (items.filterMap Incoming.udpItem?)) :
    t.tcpReadActor.Yields ((items ++ [incoming]).filterMap Incoming.tcpItem?) ∧
      t.udpReadActor.Yields ((items ++ [incoming]).filterMap Incoming.udpItem?) := by
  rw [List.filterMap_append_singleton, List.filterMap_append_singleton]
  cases h with
  | @tcpReader event ch hrecv =>
    obtain ⟨item⟩ := event
    exact ⟨htcp.recv hrecv, (List.append_nil _).symm ▸ hudp⟩
  | @udpReader event ch hrecv =>
    obtain ⟨item⟩ := event
    exact ⟨(List.append_nil _).symm ▸ htcp, hudp.recv hrecv⟩
  | actorMessage _ | actorMessageEnd | tcpReaderEnd _ | tcpWriterEnd _ | udpReaderEnd _
  | udpWriterEnd _ => exact ⟨(List.append_nil _).symm ▸ htcp, (List.append_nil _).symm ▸ hudp⟩

namespace Narrates

/-- The actor stays where it is. -/
theorem of_eq (h : s.Narrates items) (hreceived : s'.hasReceivedOnUdp = s.hasReceivedOnUdp)
    (hevents : s'.events = s.events) (hphase : s'.phase = s.phase)
    (halive : s'.eventSender.receiverAlive = true → s.eventSender.receiverAlive = true)
    (htcp : s'.tcpReadActor.Yields (items.filterMap Incoming.tcpItem?))
    (hudp : s'.udpReadActor.Yields (items.filterMap Incoming.udpItem?)) : s'.Narrates items where
  received := hreceived.trans h.received
  isPrefix := hevents ▸ h.isPrefix
  complete ha := by
    rw [hevents, hphase]
    exact h.complete (halive ha)
  tcp := htcp
  udp := hudp

/-- The actor goes on with what it has to send. -/
theorem of_turns (h : s.Narrates items) {due : List (Event M)} (hturns : Turns s s' due)
    (hreceived : s'.hasReceivedOnUdp = s.hasReceivedOnUdp)
    (hdue : s.eventSender.receiverAlive = true → due = s.phase.due) : s'.Narrates items where
  received := hreceived.trans h.received
  isPrefix := hturns.events ▸ h.isPrefix
  complete ha := by
    rw [hturns.alive] at ha
    rw [hturns.events, hturns.due, hdue ha]
    exact h.complete ha
  tcp := h.tcp.unmoved hturns.tcp
  udp := h.udp.unmoved hturns.udp

/-- An item is taken. -/
theorem next (h : s.Narrates items) (hphase : s.phase = .receiving) {incoming : Incoming M}
    (ht : s.Taken incoming t) (now : Instant) :
    (handleIncoming t incoming now).Narrates (items ++ [incoming]) := by
  obtain ⟨hphase', hreceived, hsender⟩ := ht.turns
  have hturns := turns_handleIncoming (hphase'.trans hphase) incoming now
  have hevents : (handleIncoming t incoming now).events = s.events :=
    hturns.events.trans (congrArg Channel.sent hsender)
  obtain ⟨htcp, hudp⟩ := ht.yields h.tcp h.udp
  refine ⟨?_, ?_, fun ha ↦ ?_, htcp.unmoved hturns.tcp, hudp.unmoved hturns.udp⟩
  · rw [hasReceivedOnUdp_handleIncoming, hreceived, h.received, List.any_append, List.any_cons,
      List.any_nil, Bool.or_false]
  · rw [hevents, narrate_append_singleton]
    exact h.isPrefix.trans (List.prefix_append _ _)
  · have hbefore := h.complete (by rw [← hsender, ← hturns.alive]; exact ha)
    rw [hphase] at hbefore
    rw [hevents, hturns.due, hreceived, h.received, narrate_append_singleton, ← hbefore,
      List.append_assoc]
    rfl

/-- An event goes into the channel. -/
theorem push (h : s.Narrates items) {ev : Event M} {next : Next M}
    (hphase : s.phase = .sending ev next) (hacc : s.eventSender.Accepts) :
    ({ s with eventSender := s.eventSender.push ev, phase := .flushing next } : State M).Narrates
      items := by
  have hall : (s.events ++ [ev]) ++ next.due = narrate items := by
    rw [List.append_assoc, ← h.complete hacc.1, hphase]
    rfl
  exact ⟨h.received, ⟨_, hall⟩, fun _ ↦ hall, h.tcp, h.udp⟩

theorem sendFailed (h : s.Narrates items) {ev : Event M} {next : Next M}
    (hdead : s.eventSender.receiverAlive = false) (now : Instant) :
    (s.sendFailed ev next now).Narrates items := by
  have hno : ∀ {l : List (Event M)}, s.eventSender.receiverAlive = true → l = s.phase.due :=
    fun ha ↦ Bool.noConfusion (ha.symm.trans hdead)
  cases ev with
  | tcpMessage msg | udpMessage msg => exact h.of_turns (turns_leave s) rfl hno
  | canSendUdpMessages | canReceiveUdpMessages =>
    exact h.of_turns (turns_resume s next now) (hasReceivedOnUdp_resume s next now) hno

theorem taskStep (h : s.Narrates items) {task : Task} (hs : s.taskStep task = some s') :
    s'.Narrates items := by
  cases task with
  | tcpReader st =>
    obtain ⟨reader, hreader, rfl⟩ := Option.map_eq_some_iff.1 hs
    exact h.of_eq rfl rfl rfl id (h.tcp.step hreader) h.udp
  | udpReader st =>
    obtain ⟨reader, hreader, rfl⟩ := Option.map_eq_some_iff.1 hs
    exact h.of_eq rfl rfl rfl id h.tcp (h.udp.step hreader)
  | tcpWriter st | udpWriter st =>
    obtain ⟨writer, -, rfl⟩ := Option.map_eq_some_iff.1 hs
    exact h.of_eq rfl rfl rfl id h.tcp h.udp

theorem envStep (h : s.Narrates items) {env : Env M} (hs : s.envStep env = some s') :
    s'.Narrates items := by
  cases envMoves_of_envStep hs with
  | sendMessageTcp _ | sendMessageUdp _ | getStatus _ =>
    simp only [State.sendMessageTcp, State.sendMessageUdp, State.getStatus, trySend]
    split <;> exact h.of_eq rfl rfl rfl id h.tcp h.udp
  | takeEvent hrecv =>
    obtain ⟨-, -, hsent, halive, -⟩ := Channel.recv_spec hrecv
    exact h.of_eq rfl hsent rfl halive.symm.trans h.tcp h.udp
  | closeEvents => exact h.of_eq rfl rfl rfl (fun h ↦ by cases h) h.tcp h.udp
  | @tcpFrame frame _ => exact h.of_eq rfl rfl rfl id (h.tcp.arrive frame) h.udp
  | @datagram message => exact h.of_eq rfl rfl rfl id h.tcp (h.udp.arrive message)
  | tcpEnd => exact h.of_eq rfl rfl rfl id (h.tcp.unmoved ⟨rfl, rfl, rfl, rfl, rfl⟩) h.udp
  | cloneHandle _ | dropHandle => exact h.of_eq rfl rfl rfl id h.tcp h.udp

/-- **What every step keeps.** -/
theorem step (h : s.Narrates items) {a : Action M} (hs : s.step a = some s') :
    s'.Narrates (items ++ (s.incoming? a).toList) := by
  have hquiet : ∀ {t : State M}, t.Narrates items → t.Narrates (items ++ []) := by
    intro t ht
    rwa [List.append_nil]
  rcases step_cases hs with ⟨source, now, incoming, t, rfl, hphase, hr, rfl⟩ |
    ⟨now, ev, next, rfl, hphase, ⟨hacc, rfl⟩ | ⟨hdead, rfl⟩⟩ | ⟨now, next, rfl, hphase, rfl⟩ |
    ⟨task, rfl, hs⟩ | ⟨env, rfl, hs⟩
  · rw [incoming?, hr]
    exact h.next hphase (taken_of_nextIncoming hr) now
  · exact hquiet (h.push hphase hacc)
  · exact hquiet (h.sendFailed hdead now)
  · refine hquiet (h.of_turns (turns_resume s next now) (hasReceivedOnUdp_resume s next now) ?_)
    rw [hphase]
    exact fun _ ↦ rfl
  · exact hquiet (h.taskStep hs)
  · exact hquiet (h.envStep hs)

end Narrates

end State

/-! ### What arrives on UDP -/

/-- The datagram that an action lets arrive. -/
def Action.datagram? : Action M → Option (Except UdpError (UdpFromServer M))
  | .env (.datagram message) => some message
  | _ => none

/-- The datagrams that have arrived, oldest first. -/
def datagrams (hist : List (State M × Action M)) : List (Except UdpError (UdpFromServer M)) :=
  hist.filterMap fun x ↦ x.2.datagram?

theorem datagrams_append_singleton (hist : List (State M × Action M)) (s : State M)
    (a : Action M) : datagrams (hist ++ [(s, a)]) = datagrams hist ++ a.datagram?.toList :=
  List.filterMap_append_singleton _ hist (s, a)

theorem State.udpStream_of_step {s s' : State M} {a : Action M} (h : s.step a = some s') :
    s'.udpReadActor.stream.sent = s.udpReadActor.stream.sent ++ a.datagram?.toList := by
  have hsame : ∀ {t : State M} {due : List (Event M)}, Turns s t due →
      t.udpReadActor.stream.sent = s.udpReadActor.stream.sent ++ [] :=
    fun ht ↦ ht.udp.arrived.trans (List.append_nil _).symm
  rcases step_cases h with ⟨source, now, incoming, t, rfl, hphase, hr, rfl⟩ |
    ⟨now, ev, next, rfl, -, ⟨-, rfl⟩ | ⟨-, rfl⟩⟩ | ⟨now, next, rfl, -, rfl⟩ |
    ⟨task, rfl, htask⟩ | ⟨env, rfl, henv⟩
  · have ht := taken_of_nextIncoming hr
    have htaken : t.udpReadActor.stream = s.udpReadActor.stream := by
      cases ht <;> rfl
    have hturns := turns_handleIncoming (ht.turns.1.trans hphase) incoming now
    exact (hturns.udp.arrived.trans (congrArg Channel.sent htaken)).trans (List.append_nil _).symm
  · exact (List.append_nil _).symm
  · cases ev with
    | tcpMessage _ | udpMessage _ => exact hsame (turns_leave s)
    | canSendUdpMessages | canReceiveUdpMessages => exact hsame (turns_resume s next now)
  · exact hsame (turns_resume s next now)
  · refine Eq.trans ?_ (List.append_nil _).symm
    cases task with
    | udpReader st =>
      obtain ⟨reader, hreader, rfl⟩ := Option.map_eq_some_iff.1 htask
      exact ReadActor.stream_sent_step hreader
    | tcpReader st | tcpWriter st | udpWriter st =>
      obtain ⟨_, -, rfl⟩ := Option.map_eq_some_iff.1 htask
      rfl
  · cases envMoves_of_envStep henv with
    | sendMessageTcp _ | sendMessageUdp _ | getStatus _ =>
      simp only [State.sendMessageTcp, State.sendMessageUdp, State.getStatus, trySend]
      split <;> exact (List.append_nil _).symm
    | datagram => rfl
    | tcpFrame _ | tcpEnd | cloneHandle _ | dropHandle | takeEvent _ | closeEvents =>
      exact (List.append_nil _).symm

section Run

variable {hist : List (State M × Action M)} {s : State M}

theorem Run.udpStream_eq (h : Run hist s) : s.udpReadActor.stream.sent = datagrams hist := by
  induction h with
  | start h =>
    obtain rfl := h
    rfl
  | next _ hs ih =>
    rw [datagrams_append_singleton, ← ih]
    exact State.udpStream_of_step hs

/-- **The events of a run** are a first part of what the taken items bring, and all but those that
are due while the event receiver is there. -/
theorem Run.narrates (h : Run hist s) : s.Narrates (takenItems hist) := by
  induction h with
  | start h =>
    obtain rfl := h
    exact State.narrates_start
  | next _ hs ih =>
    rw [takenItems_append_singleton]
    exact ih.step hs

/-- A message over UDP is emitted only if it has arrived. -/
theorem Run.udpMessage_arrived (h : Run hist s) {m : M.UdpFromServer}
    (hm : .udpMessage m ∈ s.events) : .ok (.applicationLogic m) ∈ datagrams hist := by
  have hitems : m ∈ ((takenItems hist).filterMap Incoming.udpItem?).filterMap udpApplication? := by
    rw [← filterMap_udpMessage?_narrate]
    exact List.mem_filterMap.2 ⟨_, h.narrates.isPrefix.subset hm, rfl⟩
  obtain ⟨item, hitem, happ⟩ := List.mem_filterMap.1 hitems
  rw [← h.udpStream_eq]
  refine h.narrates.udp.isPrefix.subset ?_
  rcases item with _ | (_ | _ | _)
  · cases happ
  · obtain rfl := Option.some.inj happ
    exact hitem
  · cases happ
  · cases happ

/-- What the application hears of a client. -/
structure Hears (hist : List (State M × Action M)) (s : State M) : Prop where
  /-- The events are what the taken items bring, in the order in which they are taken. -/
  isPrefix : s.events <+: narrate (takenItems hist)
  /-- While the event receiver is there, only those are missing that are about to be sent. -/
  complete : s.eventSender.receiverAlive = true → s.events ++ s.phase.due = narrate (takenItems hist)
  /-- The messages over TCP are those that arrived, in order, each once and without a gap. -/
  tcp : s.events.filterMap Event.tcpMessage? <+:
    s.tcpReadActor.stream.sent.filterMap tcpApplication?
  /-- So are the messages over UDP, whatever the network did with them before. -/
  udp : s.events.filterMap Event.udpMessage? <+:
    s.udpReadActor.stream.sent.filterMap udpApplication?

/-- **What the application hears**, in every run. -/
theorem Run.hears (h : Run hist s) : Hears hist s where
  isPrefix := h.narrates.isPrefix
  complete := h.narrates.complete
  tcp := by
    refine (h.narrates.isPrefix.filterMap _).trans ?_
    rw [filterMap_tcpMessage?_narrate]
    exact h.narrates.tcp.isPrefix.filterMap _
  udp := by
    refine (h.narrates.isPrefix.filterMap _).trans ?_
    rw [filterMap_udpMessage?_narrate]
    exact h.narrates.udp.isPrefix.filterMap _

/-- The first datagram brings two events, of which one is still to be sent; a message over TCP that
came before it is still in the channel. -/
theorem Run.hears_of_three : ∃ hist, ∃ s : State numberedMessages, Run hist s ∧
    s.events = [.canReceiveUdpMessages] ∧ s.phase.due = [.udpMessage (5 : ℕ)] ∧
    s.tcpReadActor.stream.sent.filterMap tcpApplication? = [(3 : ℕ)] ∧ Hears hist s := by
  have h : Run _ _ := TransitionSystem.run_of_exec (T := system numberedMessages) (s := .start)
    (l := [.env (.tcpFrame (.ok (.applicationLogic (3 : ℕ)))), .task (.tcpReader .item),
      .task (.tcpReader .send), .env (.datagram (.ok (.applicationLogic (5 : ℕ)))),
      .task (.udpReader .item), .task (.udpReader .send), .next .udpReader 0, .send 0, .flush 0])
    rfl rfl
  exact ⟨_, _, h, rfl, rfl, rfl, Run.hears h⟩

end Run

end NetStream.Client
