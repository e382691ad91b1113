import NetStream.Client.TcpForwarding

/-!
# The status of a client

`get_status` puts a oneshot sender into the queue of commands and waits for the reply, which it
expects: it panics if the sender is dropped without one. The actor replies to each request that it
takes. A request that it does not take is dropped with the receiver of commands when the task ends,
whatever it ends for, so the caller panics exactly if the request was queued then.

`State.statusCall` is what the caller sees, and `EndsUnasked` is the condition on a step under which
no caller is left behind: the task ends in it (`State.ends`) only with no request in the queue
(`Run.statusAnswered_iff`).
-/

namespace NetStream.Client

variable {M : MessageTypes}

/-- The oneshot channel of a request for the status. -/
def Message.status? : Message M → Option ℕ
  | .tcpToServer _ => none
  | .udpToServer _ => none
  | .getStatus tx => some tx

/-- A call of `get_status` whose request was accepted, as its caller sees it. -/
inductive StatusCall
  /-- At `rx.await`. -/
  | waiting
  | returned (status : Status)
  /-- `expect("Expected response from actor")`. -/
  | panicked
  deriving DecidableEq

/-- The item of the UDP reader that is handled next ends the task. -/
def Next.ends : Next M → Bool
  | .udpItem (.error _) => true
  | .udpItem (.ok _) | .streams => false

/-- The event carries a message. -/
def Event.isMessage : Event M → Bool
  | .tcpMessage _ | .udpMessage _ => true
  | .canSendUdpMessages | .canReceiveUdpMessages => false

namespace State

/-- The request that a call of `get_status` makes in a step, if it is accepted. -/
def requestsStatus? (s : State M) : Action M → Option ℕ
  | .env (.getStatus handle tx) =>
    match s.getStatus handle tx with
    | .ok _ => some tx
    | .error _ => none
  | _ => none

/-- The requests that were accepted, in order. -/
def statusRequests (s : State M) : List ℕ :=
  s.msgReceiver.sent.filterMap Message.status?

/-- The requests that wait in the queue. -/
def pendingStatus (s : State M) : List ℕ :=
  s.msgReceiver.queue.filterMap Message.status?

/-- The call with the `i`-th request that was accepted: the reply, if there is one, and otherwise the
sender of the reply is still there, or not. -/
def statusCall (s : State M) (i : ℕ) : StatusCall :=
  match s.replies[i]? with
  | some reply => .returned reply.2
  | none => if s.isOver then .panicked else .waiting

/-! ### The steps that end the task -/

/-- The handling of an item ends the task: a command finds no place at its write actor, data were not
understood, or there are no handles. -/
def endsAt (s : State M) : Incoming M → Bool
  | .actorMessage msg => !decide (s.HasPlaceFor msg)
  | .tcpReader (.streamItem (.error _)) => true
  | .tcpReader (.streamItem (.ok _)) => false
  -- the first item on UDP is looked at after an event has been sent
  | .udpReader (.streamItem (.error _)) => s.hasReceivedOnUdp
  | .udpReader (.streamItem (.ok _)) => false
  | .endOfStream .actorMessage => true
  | .endOfStream _ => false

/-- The task ends in a step. -/
def ends (s : State M) : Action M → Bool
  | .next source now =>
    match s.incoming? (.next source now) with
    | some incoming => s.endsAt incoming
    | none => false
  | .send _ =>
    match s.phase with
    -- there is no receiver of events: for a message the loop is left
    | .sending ev next => !s.eventSender.receiverAlive && (ev.isMessage || next.ends)
    | _ => false
  | .flush _ =>
    match s.phase with
    | .flushing next => next.ends
    | _ => false
  | .task _ => false
  | .env _ => false

end State

/-- The requests that calls of `get_status` made and that were accepted, in that order. -/
def requestedStatus (hist : List (State M × Action M)) : List ℕ :=
  hist.filterMap fun x ↦ x.1.requestsStatus? x.2

theorem requestedStatus_append_singleton (hist : List (State M × Action M)) (s : State M)
    (a : Action M) : requestedStatus (hist ++ [(s, a)]) =
      requestedStatus hist ++ (s.requestsStatus? a).toList :=
  List.filterMap_append_singleton _ hist (s, a)

namespace State

variable {s s' t : State M}

theorem isOver_of_phase (h : s'.phase = s.phase) : s'.isOver = s.isOver := by
  rw [isOver, h, isOver]

/-- An actor that waits is not over. -/
theorem isOver_eq_false {ph : Phase M} (h : s.phase = ph)
    (hph : ({ s with phase := ph } : State M).isOver = false) : s.isOver = false := by
  subst h
  exact hph

theorem isOver_handleUdpReaderItem (h : s.isOver = false) (item : Except UdpError (UdpFromServer M))
    (now : Instant) :
    (handleUdpReaderItem s item now).isOver = (Next.udpItem item : Next M).ends := by
  rcases item with _ | (_ | _ | _)
  · rfl
  · rfl
  · exact h
  · exact h

theorem isOver_resume (s : State M) (next : Next M) (now : Instant) :
    (s.resume next now).isOver = next.ends := by
  cases next with
  | streams => rfl
  | udpItem item => exact isOver_handleUdpReaderItem rfl item now

theorem isOver_sendFailed (s : State M) (ev : Event M) (next : Next M) (now : Instant) :
    (s.sendFailed ev next now).isOver = (ev.isMessage || next.ends) := by
  cases ev with
  | tcpMessage _ | udpMessage _ => rfl
  | canSendUdpMessages | canReceiveUdpMessages => exact s.isOver_resume next now

theorem isOver_handleIncoming (h : s.isOver = false) (incoming : Incoming M) (now : Instant) :
    (handleIncoming s incoming now).isOver = s.endsAt incoming := by
  rcases incoming with msg | ⟨_ | (_ | _ | _)⟩ | ⟨⟨item⟩⟩ | (_ | _ | _ | _ | _)
  · rcases s.phase_handleActorMessage msg with ⟨hplace, hphase⟩ | ⟨hplace, err, hphase⟩
    · have hopen : (handleActorMessage s msg).isOver = false := (isOver_of_phase hphase).trans h
      exact hopen.trans (by simp [endsAt, hplace])
    · have hover : (handleActorMessage s msg).isOver = true := by
        rcases hphase with hphase | hphase <;> rw [isOver, hphase]
      exact hover.trans (by simp [endsAt, hplace])
  · rfl
  · rfl
  · exact h
  · rfl
  · show (handleUdpReader s item now).isOver = _
    cases hfirst : s.hasReceivedOnUdp with
    | false =>
      -- the event is sent first
      have hends : s.endsAt (.udpReader (.streamItem item)) = false := by
        cases item with
        | error err => exact hfirst
        | ok message => rfl
      rw [handleUdpReader, hfirst, hends]
      rfl
    | true =>
      have hends : s.endsAt (.udpReader (.streamItem item)) = (Next.udpItem item : Next M).ends := by
        cases item with
        | error err => exact hfirst
        | ok message => rfl
      rw [handleUdpReader, hfirst, hends]
      exact isOver_handleUdpReaderItem h item now
  · rfl
  all_goals exact h

/-- Taking an item does not change how it will be handled. -/
theorem Taken.endsAt {incoming : Incoming M} (h : s.Taken incoming t) :
    t.endsAt incoming = s.endsAt incoming := by
  cases h with
  | @actorMessage msg ch hrecv => cases msg <;> rfl
  | _ => rfl

/-- **The steps that end the task** are those of `ends`. -/
theorem isOver_of_step (hopen : s.isOver = false) {a : Action M} (h : s.step a = some s') :
    s'.isOver = s.ends a := by
  rcases step_cases h with ⟨source, now, incoming, t, rfl, hphase, hr, rfl⟩ |
    ⟨now, ev, next, rfl, hphase, ⟨hacc, rfl⟩ | ⟨hclosed, rfl⟩⟩ | ⟨now, next, rfl, hphase, rfl⟩ |
    ⟨task, rfl, htask⟩ | ⟨env, rfl, henv⟩
  · have ht : s.Taken incoming t := taken_of_nextIncoming hr
    have hends : s.ends (.next source now) = s.endsAt incoming := by
      simp only [ends, incoming?, hr, Option.map_some]
    have hwait : t.isOver = false := by
      refine (isOver_of_phase ?_).trans hopen
      cases ht <;> rfl
    rw [hends, ← ht.endsAt]
    exact isOver_handleIncoming hwait incoming now
  · simp only [ends, hphase, hacc.1]
    rfl
  · simp only [ends, hphase, hclosed]
    exact s.isOver_sendFailed ev next now
  · simp only [ends, hphase]
    exact s.isOver_resume next now
  · exact (isOver_of_phase (phase_taskStep htask)).trans hopen
  · exact (isOver_of_phase (phase_envStep henv)).trans hopen

/-! ### The replies -/

/-- The reply that a step gives. -/
def answers? (s : State M) (a : Action M) : Option (ℕ × Status) :=
  match s.incoming? a with
  | some (.actorMessage (.getStatus tx)) => some (tx, ⟨s.latestUdpHeartbeat⟩)
  | _ => none

/-- What a step does to the requests: a new one is queued, or one is taken and answered. -/
structure Serves (s : State M) (a : Action M) (s' : State M) : Prop where
  requests : s'.statusRequests = s.statusRequests ++ (s.requestsStatus? a).toList
  taken : s'.msgReceiver.taken.filterMap Message.status? =
    s.msgReceiver.taken.filterMap Message.status? ++ ((s.answers? a).map Prod.fst).toList
  replies : s'.replies = s.replies ++ (s.answers? a).toList
  /-- The end of the task closes the queue. -/
  closed : (s.isOver = true → s.msgReceiver.receiverAlive = false) →
    s'.isOver = true → s'.msgReceiver.receiverAlive = false

/-- Nothing happens to the requests. -/
theorem Serves.of_eq {a : Action M} (hcommands : s'.msgReceiver = s.msgReceiver)
    (hreplies : s'.replies = s.replies) (hphase : s'.isOver = true → s.isOver = true)
    (hrequest : s.requestsStatus? a = none) (hanswer : s.answers? a = none) : Serves s a s' where
  requests := by
    rw [statusRequests, hcommands, hrequest, Option.toList_none, List.append_nil, statusRequests]
  taken := by
    rw [hcommands, hanswer, Option.map_none, Option.toList_none, List.append_nil]
  replies := by
    rw [hreplies, hanswer, Option.toList_none, List.append_nil]
  closed hclosed hover := hcommands ▸ hclosed (hphase hover)

/-- The actor goes on or ends without a command. -/
theorem Serves.of_idles {a : Action M} (hi : Idles s s') (hreplies : s'.replies = s.replies)
    (hrequest : s.requestsStatus? a = none) (hanswer : s.answers? a = none) : Serves s a s' := by
  rcases hi with ⟨hcommands, -, halive⟩ | ⟨hcommands, -, -⟩
  · exact .of_eq hcommands hreplies (fun hover ↦ absurd (halive.symm.trans hover) Bool.noConfusion)
      hrequest hanswer
  · refine ⟨?_, ?_, ?_, fun _ _ ↦ by rw [hcommands]; rfl⟩
    · rw [statusRequests, hcommands, hrequest, Option.toList_none, List.append_nil]
      rfl
    · rw [hcommands, hanswer, Option.map_none, Option.toList_none, List.append_nil]
      rfl
    · rw [hreplies, hanswer, Option.toList_none, List.append_nil]

theorem replies_handleUdpReaderItem (s : State M) (item : Except UdpError (UdpFromServer M))
    (now : Instant) : (handleUdpReaderItem s item now).replies = s.replies := by
  rcases item with _ | (_ | _ | _) <;> rfl

theorem replies_resume (s : State M) (next : Next M) (now : Instant) :
    (s.resume next now).replies = s.replies := by
  cases next with
  | streams => rfl
  | udpItem item => exact replies_handleUdpReaderItem _ item now

theorem replies_sendFailed (s : State M) (ev : Event M) (next : Next M) (now : Instant) :
    (s.sendFailed ev next now).replies = s.replies := by
  cases ev with
  | tcpMessage _ | udpMessage _ => rfl
  | canSendUdpMessages | canReceiveUdpMessages => exact s.replies_resume next now

/-- Only a command is replied to. -/
theorem replies_handleIncoming {incoming : Incoming M} (hi : ∀ msg, incoming ≠ .actorMessage msg)
    (now : Instant) : (handleIncoming s incoming now).replies = s.replies := by
  rcases incoming with msg | ⟨_ | (_ | _ | _)⟩ | ⟨⟨item⟩⟩ | (_ | _ | _ | _ | _)
  · exact absurd rfl (hi msg)
  · rfl
  · rfl
  · rfl
  · rfl
  · show (handleUdpReader s item now).replies = _
    unfold handleUdpReader
    split
    · rfl
    · exact s.replies_handleUdpReaderItem item now
  all_goals rfl

/-- A command is taken. -/
theorem serves_command {source : Source} {now : Instant} {msg : Message M}
    {ch : SharedChannel 32 (Message M)} (hopen : s.isOver = false)
    (hrecv : s.msgReceiver.recv = some (msg, ch))
    (hi : s.incoming? (.next source now) = some (.actorMessage msg)) :
    Serves s (.next source now) (handleActorMessage { s with msgReceiver := ch } msg) := by
  obtain ⟨hsent, htaken, -⟩ := SharedChannel.recv_spec hrecv
  have hrequests : ch.sent.filterMap Message.status? = s.statusRequests ++ [] := by
    rw [hsent, List.append_nil, statusRequests]
  have htaken' : ch.taken.filterMap Message.status? =
      s.msgReceiver.taken.filterMap Message.status? ++ msg.status?.toList := by
    rw [htaken, List.filterMap_append_singleton]
  cases msg with
  | getStatus tx =>
    have hanswer : s.answers? (.next source now) = some (tx, ⟨s.latestUdpHeartbeat⟩) := by
      rw [answers?, hi]
    refine ⟨hrequests, ?_, ?_, fun _ hover ↦ absurd (hopen.symm.trans hover) Bool.noConfusion⟩
    · rw [hanswer]
      exact htaken'
    · rw [hanswer]
      rfl
  | tcpToServer m | udpToServer m =>
    have hanswer : s.answers? (.next source now) = none := by
      rw [answers?, hi]
    have hreplies : s.replies = s.replies ++ (s.answers? (.next source now)).toList := by
      rw [hanswer, Option.toList_none, List.append_nil]
    simp only [handleActorMessage]
    split
    · exact ⟨hrequests, hanswer ▸ htaken', hreplies,
        fun _ hover ↦ absurd (hopen.symm.trans hover) Bool.noConfusion⟩
    · exact ⟨hrequests, hanswer ▸ htaken', hreplies, fun _ _ ↦ rfl⟩

/-- A call through a handle. -/
theorem serves_called {α : Type} {a : Action M} {handle : ℕ} {msg : Message M} {back : α}
    (hrequest : s.requestsStatus? a = if (s.trySend handle msg back).isOk then msg.status? else none)
    (hanswer : s.answers? a = none) : Serves s a (s.called (s.trySend handle msg back)) := by
  unfold trySend at hrequest ⊢
  split at hrequest
  · rename_i ch hsend
    obtain ⟨hsent, htaken, -⟩ := SharedChannel.trySend_spec hsend
    refine ⟨?_, ?_, ?_, fun hclosed hover ↦ ?_⟩
    · show ch.sent.filterMap Message.status? = _
      rw [hrequest, hsent]
      exact List.filterMap_append_singleton _ _ msg
    · show ch.taken.filterMap Message.status? = _
      rw [htaken, hanswer, Option.map_none, Option.toList_none, List.append_nil]
    · rw [hanswer, Option.toList_none, List.append_nil]
      rfl
    · exact (SharedChannel.receiverAlive_trySend hsend).trans (hclosed hover)
  · exact .of_eq rfl rfl id hrequest hanswer
  · exact .of_eq rfl rfl id hrequest hanswer

theorem serves_envStep {env : Env M} (h : s.envStep env = some s') : Serves s (.env env) s' := by
  cases envMoves_of_envStep h with
  | getStatus _ =>
    refine serves_called ?_ rfl
    simp only [requestsStatus?, getStatus]
    split <;> rename_i hcall <;> rw [hcall] <;> rfl
  | sendMessageTcp _ | sendMessageUdp _ => exact serves_called (ite_self none).symm rfl
  | cloneHandle _ | dropHandle =>
    exact ⟨(List.append_nil _).symm, (List.append_nil _).symm, (List.append_nil _).symm, id⟩
  | tcpFrame _ | tcpEnd | datagram | takeEvent _ | closeEvents => exact .of_eq rfl rfl id rfl rfl

/-- **What a step does to the requests.** -/
theorem serves_of_step {a : Action M} (h : s.step a = some s') : Serves s a s' := by
  rcases step_cases h with ⟨source, now, incoming, t, rfl, hphase, hr, rfl⟩ |
    ⟨now, ev, next, rfl, hphase, ⟨-, rfl⟩ | ⟨-, rfl⟩⟩ | ⟨now, next, rfl, hphase, rfl⟩ |
    ⟨task, rfl, htask⟩ | ⟨env, rfl, henv⟩
  · have hopen : s.isOver = false := isOver_eq_false hphase rfl
    have hi : s.incoming? (.next source now) = some incoming := by
      rw [incoming?, hr, Option.map_some]
    have ht : s.Taken incoming t := taken_of_nextIncoming hr
    have hreplies : t.replies = s.replies := by
      cases ht <;> rfl
    rcases ht.commands with ⟨msg, ch, rfl, hrecv, rfl⟩ | ⟨hother, hcommands, hwriter, hover⟩
    · exact serves_command hopen hrecv hi
    · have hidle := idles_handleIncoming (hover.trans hopen) hother now
      refine .of_idles (hidle.of_eq hcommands hwriter) ?_ rfl ?_
      · exact (replies_handleIncoming hother now).trans hreplies
      · rw [answers?, hi]
        cases incoming with
        | actorMessage msg => exact absurd rfl (hother msg)
        | tcpReader _ | udpReader _ | endOfStream _ => rfl
  · exact .of_eq rfl rfl (fun hover ↦ by cases hover) rfl rfl
  · exact .of_idles (s.idles_sendFailed ev next now) (s.replies_sendFailed ev next now) rfl rfl
  · exact .of_idles (s.idles_resume next now) (s.replies_resume next now) rfl rfl
  · have hsame : s'.msgReceiver = s.msgReceiver ∧ s'.replies = s.replies ∧ s'.phase = s.phase := by
      cases task with
      | tcpReader st | tcpWriter st | udpReader st | udpWriter st =>
        obtain ⟨_, -, rfl⟩ := Option.map_eq_some_iff.1 htask
        exact ⟨rfl, rfl, rfl⟩
    obtain ⟨hcommands, hreplies, hphase⟩ := hsame
    exact .of_eq hcommands hreplies (fun hover ↦ (isOver_of_phase hphase).symm.trans hover) rfl rfl
  · exact serves_envStep henv

/-- **The requests that were taken are those that were answered**, in order. -/
structure Answering (s : State M) (requested : List ℕ) : Prop where
  requests : s.statusRequests = requested
  replies : s.replies.map Prod.fst = s.msgReceiver.taken.filterMap Message.status?
  closed : s.isOver = true → s.msgReceiver.receiverAlive = false

theorem Answering.step {requested : List ℕ} (h : s.Answering requested) {a : Action M}
    (hs : s.step a = some s') : s'.Answering (requested ++ (s.requestsStatus? a).toList) := by
  have hserves := serves_of_step hs
  refine ⟨by rw [hserves.requests, h.requests], ?_, hserves.closed h.closed⟩
  rw [hserves.replies, hserves.taken, List.map_append, h.replies]
  cases s.answers? a <;> rfl

/-- The replies given, and the requests that wait for theirs. -/
theorem Answering.statusRequests_eq {requested : List ℕ} (h : s.Answering requested) :
    s.statusRequests = s.replies.map Prod.fst ++ s.pendingStatus := by
  rw [h.replies, pendingStatus, ← List.filterMap_append, SharedChannel.taken_append_queue]
  rfl

/-- **No caller has been left behind** exactly if the task is not over, or has ended with no request
in its queue. -/
theorem Answering.forall_statusCall_iff {requested : List ℕ} (h : s.Answering requested) :
    (∀ i < s.statusRequests.length, s.statusCall i ≠ .panicked) ↔
      (s.isOver = true → s.pendingStatus = []) := by
  have hlen : s.statusRequests.length = s.replies.length + s.pendingStatus.length := by
    rw [h.statusRequests_eq, List.length_append, List.length_map]
  constructor
  · intro hcalls hover
    by_contra hpending
    have hpos := List.length_pos_iff.2 hpending
    -- the first request without a reply
    refine hcalls s.replies.length (by omega) ?_
    rw [statusCall, List.getElem?_eq_none (Nat.le_refl _), hover]
    rfl
  · intro hunasked i hi hpanicked
    unfold statusCall at hpanicked
    split at hpanicked
    · cases hpanicked
    · rename_i hnone
      split at hpanicked
      · rename_i hover
        rw [hunasked hover, List.length_nil] at hlen
        have hge := List.getElem?_eq_none_iff.1 hnone
        omega
      · cases hpanicked

/-- The handling of a command leaves the queue behind it alone. -/
theorem queue_handleActorMessage (s : State M) (msg : Message M) :
    (handleActorMessage s msg).msgReceiver.queue = s.msgReceiver.queue := by
  cases msg with
  | tcpToServer m | udpToServer m =>
    simp only [handleActorMessage]
    split <;> rfl
  | getStatus tx => rfl

/-- The task ends without touching the requests in its queue. -/
theorem pendingStatus_of_step (hopen : s.isOver = false) {a : Action M} (h : s.step a = some s')
    (hover : s'.isOver = true) : s'.pendingStatus = s.pendingStatus := by
  rcases forwarding_cases h with ⟨msg, ch, -, -, hrecv, rfl⟩ | ⟨-, -, hi⟩ | ⟨st, writer, -, -, rfl⟩ |
    hb
  · have hqueue := SharedChannel.queue_of_recv hrecv
    have hcommands : (handleActorMessage { s with msgReceiver := ch } msg).msgReceiver.queue =
        ch.queue := queue_handleActorMessage _ msg
    rw [pendingStatus, pendingStatus, hqueue, hcommands]
    cases msg with
    | getStatus tx => exact absurd (hopen.symm.trans hover) Bool.noConfusion
    | tcpToServer m | udpToServer m => rfl
  · rcases hi with ⟨hcommands, -, -⟩ | ⟨hcommands, -, -⟩
    · rw [pendingStatus, hcommands, pendingStatus]
    · rw [pendingStatus, hcommands]
      rfl
  · rfl
  · exact absurd ((hopen.symm.trans (isOver_of_phase hb.phase).symm).trans hover) Bool.noConfusion

/-- Once the task is over, no request is accepted. -/
theorem pendingStatus_of_isOver {requested : List ℕ} (ha : s.Answering requested)
    (hover : s.isOver = true) {a : Action M} (h : s.step a = some s') :
    s'.isOver = true ∧ s'.pendingStatus = s.pendingStatus := by
  have hstuck : ∀ {ph : Phase M}, s.phase = ph →
      ({ s with phase := ph } : State M).isOver = false → False := fun hphase hwait ↦
    Bool.false_ne_true ((isOver_eq_false hphase hwait).symm.trans hover)
  rcases step_cases h with ⟨source, now, incoming, t, rfl, hphase, -⟩ |
    ⟨now, ev, next, rfl, hphase, -⟩ | ⟨now, next, rfl, hphase, -⟩ | ⟨task, rfl, htask⟩ |
    ⟨env, rfl, henv⟩
  · exact (hstuck hphase rfl).elim
  · exact (hstuck hphase rfl).elim
  · exact (hstuck hphase rfl).elim
  · refine ⟨(isOver_of_phase (phase_taskStep htask)).trans hover, ?_⟩
    cases task with
    | tcpReader st | tcpWriter st | udpReader st | udpWriter st =>
      obtain ⟨_, -, rfl⟩ := Option.map_eq_some_iff.1 htask
      rfl
  · refine ⟨(isOver_of_phase (phase_envStep henv)).trans hover, ?_⟩
    have hcalled : ∀ {α : Type} (handle : ℕ) (msg : Message M) (back : α),
        (s.called (s.trySend handle msg back)).pendingStatus = s.pendingStatus := by
      intro α handle msg back
      unfold trySend
      split
      · rename_i hsend
        cases (SharedChannel.receiverAlive_of_trySend hsend).symm.trans (ha.closed hover)
      · rfl
      · rfl
    cases envMoves_of_envStep henv with
    | sendMessageTcp _ | sendMessageUdp _ | getStatus _ => exact hcalled _ _ _
    | tcpFrame _ | tcpEnd | datagram | cloneHandle _ | dropHandle | takeEvent _ | closeEvents => rfl

end State

/-! ### Runs -/

variable {hist : List (State M × Action M)} {s : State M}

theorem Run.answering (h : Run hist s) : s.Answering (requestedStatus hist) := by
  induction h with
  | start h =>
    obtain rfl := h
    exact ⟨rfl, rfl, nofun⟩
  | next _ hs ih =>
    rw [requestedStatus_append_singleton]
    exact ih.step hs

/-- **No call of `get_status` panics**, over a run with this history: one that is refused returns an
error, and one that is accepted returns the status or waits for a reply that can still come. -/
structure StatusAnswered (hist : List (State M × Action M)) (s : State M) : Prop where
  refused : ∀ t handle tx err, (t, .env (.getStatus handle tx)) ∈ hist →
    t.getStatus handle tx = .error err → err = .channelFull () ∨ err = .actorUnreachable ()
  accepted : ∀ t, TransitionSystem.Visited hist s t → ∀ i < t.statusRequests.length,
    t.statusCall i ≠ .panicked

/-- If the task ends in the step, no request for the status is queued. -/
def EndsUnasked (s : State M) (a : Action M) : Prop :=
  s.ends a = true → s.pendingStatus = []

instance (s : State M) (a : Action M) : Decidable (EndsUnasked s a) :=
  inferInstanceAs (Decidable (s.ends a = true → s.pendingStatus = []))

/-- **When no caller panics**: each step in which the task ends is taken with no request for the
status in the queue. In any run the accepted requests are those of the calls, and the replies are
given to an initial part of them, in order. -/
theorem Run.statusAnswered_iff (h : Run hist s) :
    (StatusAnswered hist s ↔ ∀ x ∈ hist, EndsUnasked x.1 x.2) ∧
      s.statusRequests = requestedStatus hist ∧ s.replies.map Prod.fst <+: s.statusRequests := by
  have hexact : (∀ t, TransitionSystem.Visited hist s t → t.isOver = true → t.pendingStatus = []) ↔
      ∀ x ∈ hist, EndsUnasked x.1 x.2 := by
    refine TransitionSystem.Run.forall_visited_iff (T := system M)
      (I := fun t ↦ t.isOver = true → t.pendingStatus = []) ?_ h ?_
    · rintro t rfl
      exact nofun
    · intro hist₁ t a t' _ ht hunasked hs
      cases hopen : t.isOver with
      | false =>
        have hends := State.isOver_of_step hopen hs
        rw [EndsUnasked, ← hends]
        refine forall_congr' fun hover ↦ ?_
        rw [State.pendingStatus_of_step hopen hs hover]
      | true =>
        obtain ⟨hover, hsame⟩ := State.pendingStatus_of_isOver (Run.answering ht) hopen hs
        exact iff_of_true (fun _ ↦ hsame.trans (hunasked hopen)) fun _ ↦ hunasked hopen
  have hcalls : ∀ t, TransitionSystem.Visited hist s t →
      ((∀ i < t.statusRequests.length, t.statusCall i ≠ .panicked) ↔
        (t.isOver = true → t.pendingStatus = [])) := by
    intro t hv
    obtain ⟨hist₁, -, ht⟩ := TransitionSystem.Run.exists_of_visited h hv
    exact (Run.answering ht).forall_statusCall_iff
  refine ⟨?_, (Run.answering h).requests, ?_⟩
  · rw [← hexact]
    constructor
    · intro hanswered t hv
      exact (hcalls t hv).1 (hanswered.accepted t hv)
    · refine fun hunasked ↦ ⟨fun t handle tx err _ _ ↦ ?_, fun t hv ↦ (hcalls t hv).2 (hunasked t hv)⟩
      cases err with
      | channelFull msg => exact Or.inl rfl
      | actorUnreachable msg => exact Or.inr rfl
  · rw [(Run.answering h).statusRequests_eq]
    exact List.prefix_append _ _

/-- A request is accepted and answered, another one is accepted and waits, and no step has ended the
task. -/
theorem Run.statusAnswered_of_two : ∃ hist, ∃ s : State numberedMessages, Run hist s ∧
    s.statusCall 0 = .returned ⟨none⟩ ∧ s.statusCall 1 = .waiting ∧
    (StatusAnswered hist s ↔ ∀ x ∈ hist, EndsUnasked x.1 x.2) := by
  have h : Run _ _ := TransitionSystem.run_of_exec (T := system numberedMessages) (s := .start)
    (l := [.env (.getStatus 0 7), .next .actorMessage 0, .env (.getStatus 0 8)]) rfl rfl
  exact ⟨_, _, h, rfl, rfl, h.statusAnswered_iff.1⟩

/-- **A caller that panics.** The event receiver is dropped, a message from the server is to be sent
as an event, and the actor leaves its loop with a request for the status in its queue. -/
theorem statusCall_panics : ∃ hist, ∃ s : State numberedMessages, Run hist s ∧
    s.phase = .finished ∧ requestedStatus hist = [7] ∧ s.statusCall 0 = .panicked ∧
    ¬ StatusAnswered hist s := by
  have h : Run _ _ := TransitionSystem.run_of_exec (T := system numberedMessages) (s := .start)
    (l := [.env .closeEvents, .env (.tcpFrame (.ok (.applicationLogic (0 : ℕ)))),
      .task (.tcpReader .item), .task (.tcpReader .send), .task (.tcpReader .flush),
      .next .tcpReader 0, .env (.getStatus 0 7), .send 0]) rfl rfl
  refine ⟨_, _, h, rfl, rfl, rfl, fun hanswered ↦ ?_⟩
  exact hanswered.accepted _ (TransitionSystem.visited_last _ _) 0 (by decide) rfl

end NetStream.Client
