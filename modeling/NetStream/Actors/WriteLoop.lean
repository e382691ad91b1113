import Mathlib.Data.List.TakeWhile
import NetStream.Actors.WriteActor
import NetStream.Library.TransitionSystem

/-!
# The loop of the write actor

`actor` of `write_actor.rs` by itself, as a system: its handles queue commands, they are dropped at
any point, and every operation of the sink may fail. A handle has a slot of its own in the channel,
so with any number of handles no bound on the queue is assumed here.

What the loop has done is read off the history: the operations performed on the sink, with their
outcomes (`operated`), and the calls of `close` (`closings`). `Performed` ties both to the queue and
to the sink, wherever the loop is. What stopped it is told by the operations and the queue alone
(`StoppedBy`): the last operation failed, or all succeeded and a shutdown came next, or all succeeded
and nothing is to come.

Once the last command, the signal for the shutdown, is queued or has found the channel full, and the
handle is dropped, the loop comes to its end by itself, and short of a failure with everything
written out (`Run.flushedOut`).
-/

namespace NetStream.WriteActor

variable {T : Type}

/-- What happens to a write actor. -/
inductive Action (T : Type)
  /-- A command of a handle is accepted. -/
  | command (msg : ActorMessage T)
  /-- The last handle is dropped. -/
  | dropHandles
  | task (st : Step)

/-- The actor after an action, where it is enabled. -/
def act (w : WriteActor T) : Action T → Option (WriteActor T)
  | .command msg =>
    if w.actorMsg.senderAlive && w.actorMsg.receiverAlive then
      some { w with actorMsg := w.actorMsg.push msg }
    else none
  | .dropHandles => some w.dropHandle
  | .task st => w.step st

/-- A write actor and its handles. -/
def system (T : Type) : TransitionSystem (WriteActor T) (Action T) where
  init w := w = spawnActor
  step := act

/-- A run of a write actor, with its history. -/
abbrev Run (hist : List (WriteActor T × Action T)) (w : WriteActor T) : Prop :=
  (system T).Run hist w

/-! ### What the loop has done -/

/-- The command ends the loop. -/
def ActorMessage.isShutdown : ActorMessage T → Bool
  | .send _ | .feed _ | .flush => false
  | .shutdown => true

/-- The command flushes the sink. -/
def ActorMessage.isFlush : ActorMessage T → Bool
  | .send _ | .flush => true
  | .feed _ | .shutdown => false

/-- The operation on the sink that a step completes, and whether it succeeded. -/
def operated? (w : WriteActor T) : Step → Option (ActorMessage T × Bool)
  | .operate ok =>
    match w.phase with
    | .operating msg => some (msg, ok)
    | _ => none
  | _ => none

/-- The call of `sink.close()` that a step completes, and whether it succeeded. -/
def Step.closed? : Step → Option Bool
  | .close ok => some ok
  | _ => none

def Action.task? : Action T → Option Step
  | .task st => some st
  | _ => none

/-- The operations performed on the sink, in order. -/
def operated (hist : List (WriteActor T × Action T)) : List (ActorMessage T × Bool) :=
  hist.filterMap fun x ↦ x.2.task?.bind x.1.operated?

/-- The calls of `sink.close()`. -/
def closings (actions : List (Action T)) : List Bool :=
  actions.filterMap fun a ↦ a.task?.bind Step.closed?

/-- No operation failed. -/
def Succeeded (ops : List (ActorMessage T × Bool)) : Prop :=
  ∀ x ∈ ops, x.2 = true

/-- What stopped the loop after these operations, by the reason it returns. -/
def StoppedBy (w : WriteActor T) (ops : List (ActorMessage T × Bool)) :
    WriteActorShutdownReason → Prop
  | .sinkError => ∃ before msg, ops = before ++ [(msg, false)] ∧ Succeeded before
  | .signalled => Succeeded ops ∧ ops.map Prod.fst ++ [.shutdown] <+: w.actorMsg.sent
  | .actorHandlesDropped =>
    Succeeded ops ∧ ops.map Prod.fst = w.actorMsg.sent ∧ w.actorMsg.senderAlive = false

theorem operated_append_singleton (hist : List (WriteActor T × Action T)) (w : WriteActor T)
    (a : Action T) :
    operated (hist ++ [(w, a)]) = operated hist ++ (a.task?.bind w.operated?).toList :=
  List.filterMap_append_singleton _ hist (w, a)

theorem closings_append_singleton (actions : List (Action T)) (a : Action T) :
    closings (actions ++ [a]) = closings actions ++ (a.task?.bind Step.closed?).toList :=
  List.filterMap_append_singleton _ actions a

theorem succeeded_nil : Succeeded ([] : List (ActorMessage T × Bool)) :=
  fun _ h ↦ absurd h List.not_mem_nil

theorem Succeeded.append_singleton {ops : List (ActorMessage T × Bool)} (h : Succeeded ops)
    (msg : ActorMessage T) : Succeeded (ops ++ [(msg, true)]) := by
  intro x hx
  rcases List.mem_append.1 hx with hx | hx
  · exact h x hx
  · rw [List.mem_singleton.1 hx]

/-- The loop stops at the first shutdown: a queue that begins with commands before it. -/
theorem takeWhile_eq_of_isPrefix {l l' : List (ActorMessage T)} (hl : .shutdown ∉ l)
    (h : l ++ [.shutdown] <+: l') : l'.takeWhile (fun msg ↦ !msg.isShutdown) = l := by
  obtain ⟨rest, rfl⟩ := h
  have hall : ∀ msg ∈ l, (!msg.isShutdown) = true := by
    intro msg hmsg
    cases msg with
    | shutdown => exact absurd hmsg hl
    | send _ | feed _ | flush => rfl
  rw [List.append_assoc, List.takeWhile_append_of_pos hall]
  simp [ActorMessage.isShutdown]

theorem takeWhile_eq_self {l : List (ActorMessage T)} (hl : .shutdown ∉ l) :
    l.takeWhile (fun msg ↦ !msg.isShutdown) = l := by
  rw [List.takeWhile_eq_self_iff]
  intro msg hmsg
  cases msg with
  | shutdown => exact absurd hmsg hl
  | send _ | feed _ | flush => rfl

/-- Commands that begin the queue and are no shutdown come before the first one. -/
theorem isPrefix_takeWhile {l l' : List (ActorMessage T)} (hl : .shutdown ∉ l) (h : l <+: l') :
    l <+: l'.takeWhile (fun msg ↦ !msg.isShutdown) := by
  obtain ⟨rest, rfl⟩ := h
  rw [List.takeWhile_append]
  split
  · exact List.prefix_append _ _
  · exact (takeWhile_eq_self hl).symm ▸ List.prefix_rfl

/-! ### The invariant of the loop -/

variable {w w' : WriteActor T} {ops : List (ActorMessage T × Bool)} {closes : List Bool} {st : Step}

/-- Where the loop is after these operations and calls of `close`. -/
def Stage (w : WriteActor T) (ops : List (ActorMessage T × Bool)) (closes : List Bool) : Prop :=
  match w.phase with
  | .receiving => Succeeded ops ∧ ops.map Prod.fst = w.actorMsg.taken ∧ closes = []
  | .operating msg =>
    Succeeded ops ∧ ops.map Prod.fst ++ [msg] = w.actorMsg.taken ∧ msg ≠ .shutdown ∧ closes = []
  | .closing reason => w.StoppedBy ops reason ∧ closes = []
  | .finished (.controlled reason) => w.StoppedBy ops reason ∧
      ∃ ok, closes = [ok] ∧ (ok = true → w.sink.flushed = w.sink.handed.length)
  | .finished (.erratic _) => closes = []

/-- **What the loop keeps**, after these operations and calls of `close`. -/
structure Performed (w : WriteActor T) (ops : List (ActorMessage T × Bool)) (closes : List Bool) :
    Prop where
  handed : w.sink.handed = items (ops.map Prod.fst)
  inOrder : ops.map Prod.fst <+: w.actorMsg.taken
  noShutdown : .shutdown ∉ ops.map Prod.fst
  untilFailure : Succeeded ops.dropLast
  flushed_le : w.sink.flushed ≤ w.sink.handed.length
  closed : w.sink.closed = closes.length
  stage : w.Stage ops closes

theorem performed_spawnActor : (spawnActor : WriteActor T).Performed [] [] where
  handed := rfl
  inOrder := List.prefix_rfl
  noShutdown := List.not_mem_nil
  untilFailure := succeeded_nil
  flushed_le := Nat.le_refl 0
  closed := rfl
  stage := ⟨succeeded_nil, rfl, rfl⟩

/-- What stopped the loop does not change with commands that come later. -/
theorem StoppedBy.of_isPrefix {reason : WriteActorShutdownReason} (h : w.StoppedBy ops reason)
    (hsent : w.actorMsg.sent <+: w'.actorMsg.sent)
    (hdropped : w.actorMsg.senderAlive = false →
      w'.actorMsg.sent = w.actorMsg.sent ∧ w'.actorMsg.senderAlive = false) :
    w'.StoppedBy ops reason := by
  cases reason with
  | sinkError => exact h
  | signalled => exact ⟨h.1, h.2.trans hsent⟩
  | actorHandlesDropped =>
    obtain ⟨hops, hall, halive⟩ := h
    exact ⟨hops, hall.trans (hdropped halive).1.symm, (hdropped halive).2⟩

/-- Nothing but the queue changes, and without a handle nothing is queued. -/
theorem Performed.of_eq (h : w.Performed ops closes) (hphase : w'.phase = w.phase)
    (hsink : w'.sink = w.sink) (htaken : w'.actorMsg.taken = w.actorMsg.taken)
    (hsent : w.actorMsg.sent <+: w'.actorMsg.sent)
    (hdropped : w.actorMsg.senderAlive = false →
      w'.actorMsg.sent = w.actorMsg.sent ∧ w'.actorMsg.senderAlive = false) :
    w'.Performed ops closes := by
  refine ⟨hsink ▸ h.handed, htaken ▸ h.inOrder, h.noShutdown, h.untilFailure, hsink ▸ h.flushed_le,
    hsink ▸ h.closed, ?_⟩
  have hstage := h.stage
  unfold Stage at hstage ⊢
  rw [hphase]
  rcases hp : w.phase with _ | msg | reason | (reason | err) <;> rw [hp] at hstage
  · exact htaken ▸ hstage
  · exact htaken ▸ hstage
  · exact ⟨hstage.1.of_isPrefix hsent hdropped, hstage.2⟩
  · exact ⟨hstage.1.of_isPrefix hsent hdropped, hsink ▸ hstage.2⟩
  · exact hstage

theorem Performed.command (h : w.Performed ops closes) (halive : w.actorMsg.senderAlive = true)
    (msg : ActorMessage T) : Performed { w with actorMsg := w.actorMsg.push msg } ops closes :=
  h.of_eq rfl rfl Channel.taken_push (List.prefix_append _ _)
    fun hdropped ↦ absurd (halive.symm.trans hdropped) Bool.noConfusion

theorem Performed.dropHandle (h : w.Performed ops closes) : w.dropHandle.Performed ops closes :=
  h.of_eq rfl rfl rfl List.prefix_rfl fun _ ↦ ⟨rfl, rfl⟩

/-- An operation on the sink ends. -/
theorem Performed.operate (h : w.Performed ops closes) {msg : ActorMessage T}
    (hphase : w.phase = .operating msg) (ok : Bool) :
    Performed { w with
      sink := w.sink.operate msg ok
      phase := if ok then .receiving else .closing .sinkError } (ops ++ [(msg, ok)]) closes := by
  have hstage := h.stage
  unfold Stage at hstage
  rw [hphase] at hstage
  obtain ⟨hops, htaken, hmsg, hcloses⟩ := hstage
  have hmap : (ops ++ [(msg, ok)]).map Prod.fst = ops.map Prod.fst ++ [msg] := by
    rw [List.map_append, List.map_singleton]
  refine ⟨?_, ?_, ?_, ?_, ?_, ?_, ?_⟩
  · rw [Sink.handed_operate, h.handed, hmap, items_append, items_singleton]
  · exact (hmap.trans htaken).symm ▸ List.prefix_rfl
  · rw [hmap, List.mem_append, List.mem_singleton]
    rintro (hmem | heq)
    · exact h.noShutdown hmem
    · exact hmsg heq.symm
  · rwa [List.dropLast_concat]
  · have hle := h.flushed_le
    cases msg <;> cases ok <;> simp [Sink.operate] <;> omega
  · have hclosed : (w.sink.operate msg ok).closed = w.sink.closed := by
      cases msg <;> cases ok <;> rfl
    exact hclosed.trans h.closed
  · cases ok with
    | true => exact ⟨hops.append_singleton msg, hmap.trans htaken, hcloses⟩
    | false => exact ⟨⟨ops, msg, rfl, hops⟩, hcloses⟩

/-- **What a step keeps.** -/
theorem Performed.step (h : w.Performed ops closes) (hs : w.step st = some w') :
    w'.Performed (ops ++ (w.operated? st).toList) (closes ++ st.closed?.toList) := by
  have hstage := h.stage
  unfold Stage at hstage
  rcases step_cases hs with ⟨rfl, hphase, msg, ch, hrecv, hw'⟩ | ⟨rfl, hphase, hqueue, hdropped, rfl⟩ |
    ⟨msg, ok, rfl, hphase, rfl⟩ | ⟨reason, ok, rfl, hphase, rfl⟩ | ⟨err, rfl, hrunning, rfl⟩
  · rw [hphase] at hstage
    obtain ⟨hops, htaken, hcloses⟩ := hstage
    obtain ⟨hqueue, htaken', hsent, -⟩ := Channel.recv_spec hrecv
    have horder : ops.map Prod.fst <+: ch.taken := by
      rw [htaken', htaken]
      exact List.prefix_append _ _
    show w'.Performed (ops ++ []) (closes ++ [])
    rw [List.append_nil, List.append_nil]
    rcases hw' with ⟨rfl, rfl⟩ | ⟨hne, rfl⟩
    · refine ⟨h.handed, horder, h.noShutdown, h.untilFailure, h.flushed_le, h.closed,
        ⟨hops, ?_⟩, hcloses⟩
      -- the shutdown is what came next in the queue
      show ops.map Prod.fst ++ [.shutdown] <+: ch.sent
      rw [hsent, ← w.actorMsg.taken_append_queue, hqueue, htaken]
      exact List.prefix_append_right_inj _ |>.2 (List.prefix_append [_] _)
    · exact ⟨h.handed, horder, h.noShutdown, h.untilFailure, h.flushed_le, h.closed,
        hops, by rw [htaken', htaken], hne, hcloses⟩
  · rw [hphase] at hstage
    obtain ⟨hops, htaken, hcloses⟩ := hstage
    have hall : ops.map Prod.fst = w.actorMsg.sent := by
      rw [htaken, ← Channel.taken_append_queue, hqueue, List.append_nil]
    show Performed _ (ops ++ []) (closes ++ [])
    rw [List.append_nil, List.append_nil]
    exact ⟨h.handed, h.inOrder, h.noShutdown, h.untilFailure, h.flushed_le, h.closed,
      ⟨hops, hall, hdropped⟩, hcloses⟩
  · have hop : w.operated? (.operate ok) = some (msg, ok) := by
      rw [operated?, hphase]
    show Performed _ (ops ++ (w.operated? (.operate ok)).toList) (closes ++ [])
    rw [hop, Option.toList_some, List.append_nil]
    exact h.operate hphase ok
  · rw [hphase] at hstage
    obtain ⟨hstopped, rfl⟩ := hstage
    show Performed _ (ops ++ []) [ok]
    rw [List.append_nil]
    refine ⟨h.handed, h.inOrder, h.noShutdown, h.untilFailure, ?_, ?_, ?_, ok, rfl, ?_⟩
    · cases ok with
      | true => exact Nat.le_refl _
      | false => exact h.flushed_le
    · show w.sink.closed + 1 = 1
      rw [h.closed]
      rfl
    · exact hstopped.of_isPrefix List.prefix_rfl fun hdropped ↦ ⟨rfl, hdropped⟩
    · rintro rfl
      rfl
  · have hcloses : closes = [] := by
      split at hstage
      · exact hstage.2.2
      · exact hstage.2.2.2
      · exact hstage.2
      · exact absurd ‹_› (hrunning _)
      · exact hstage
    show Performed _ (ops ++ []) (closes ++ [])
    rw [List.append_nil, List.append_nil]
    exact ⟨h.handed, h.inOrder, h.noShutdown, h.untilFailure, h.flushed_le, h.closed, hcloses⟩

/-! ### The end of the loop -/

/-- The task has returned, with this reason. -/
structure Exited (w : WriteActor T) (ops : List (ActorMessage T × Bool)) (closes : List Bool)
    (reason : WriteActorShutdownReason) : Prop where
  /-- The sink was closed once. -/
  closed : closes.length = 1
  /-- The reason says what stopped the loop. -/
  stoppedBy : ∀ r, w.StoppedBy ops r ↔ r = reason
  /-- The commands up to the first shutdown or to the end of the queue were performed, unless an
  operation failed. -/
  all : reason ≠ .sinkError →
    ops.map Prod.fst = w.actorMsg.sent.takeWhile fun msg ↦ !msg.isShutdown
  /-- If nothing failed, all is flushed. -/
  flushed : Succeeded ops → (∀ ok ∈ closes, ok = true) → w.sink.flushed = w.sink.handed.length

/-- No two things stop the loop. -/
theorem StoppedBy.unique {reason reason' : WriteActorShutdownReason} (h : w.StoppedBy ops reason)
    (h' : w.StoppedBy ops reason') : reason = reason' := by
  have hfailed : w.StoppedBy ops .sinkError → ¬ Succeeded ops := by
    rintro ⟨before, msg, rfl, -⟩ hops
    cases hops (msg, false) (List.mem_append_right _ (List.mem_singleton_self _))
  have hnext : w.StoppedBy ops .signalled → ¬ w.StoppedBy ops .actorHandlesDropped := by
    rintro ⟨-, hprefix⟩ ⟨-, hall, -⟩
    have hlen := hprefix.length_le
    rw [← hall, List.length_append, List.length_singleton] at hlen
    omega
  cases reason with
  | sinkError =>
    cases reason' with
    | sinkError => rfl
    | signalled | actorHandlesDropped => exact absurd h'.1 (hfailed h)
  | signalled =>
    cases reason' with
    | sinkError => exact absurd h.1 (hfailed h')
    | signalled => rfl
    | actorHandlesDropped => exact absurd h' (hnext h)
  | actorHandlesDropped =>
    cases reason' with
    | sinkError => exact absurd h.1 (hfailed h')
    | signalled => exact absurd h (hnext h')
    | actorHandlesDropped => rfl

theorem Performed.exited (h : w.Performed ops closes) {reason : WriteActorShutdownReason}
    (hphase : w.phase = .finished (.controlled reason)) : w.Exited ops closes reason := by
  have hstage := h.stage
  unfold Stage at hstage
  rw [hphase] at hstage
  obtain ⟨hstopped, ok, rfl, hflushed⟩ := hstage
  refine ⟨rfl, fun r ↦ ⟨fun hr ↦ hr.unique hstopped, fun hr ↦ hr ▸ hstopped⟩, fun hne ↦ ?_,
    fun _ hcloses ↦ hflushed (hcloses ok (List.mem_singleton_self _))⟩
  cases reason with
  | sinkError => exact absurd rfl hne
  | signalled => exact (takeWhile_eq_of_isPrefix h.noShutdown hstopped.2).symm
  | actorHandlesDropped =>
    have hnone := h.noShutdown
    rw [hstopped.2.1] at hnone ⊢
    exact (takeWhile_eq_self hnone).symm

/-- **What a write actor does**, over a run with this history. -/
structure Works (hist : List (WriteActor T × Action T)) (w : WriteActor T) : Prop where
  /-- The sink was handed the items of the commands performed, in order and once each … -/
  handed : w.sink.handed = items ((operated hist).map Prod.fst)
  /-- … which are commands before the first shutdown, in order … -/
  inOrder : (operated hist).map Prod.fst <+:
    w.actorMsg.sent.takeWhile fun msg ↦ !msg.isShutdown
  /-- … and up to the first that failed. -/
  untilFailure : Succeeded (operated hist).dropLast
  /-- After a `send` or a `flush` that succeeded, all that was handed over is flushed. -/
  flushed : ∀ t st t' msg, (t, .task st) ∈ hist → t.step st = some t' →
    t.operated? st = some (msg, true) → msg.isFlush = true →
    t'.sink.flushed = t'.sink.handed.length
  flushed_le : w.sink.flushed ≤ w.sink.handed.length
  closed : w.sink.closed = (closings (hist.map Prod.snd)).length
  running : (∀ reason, w.phase ≠ .finished (.controlled reason)) → w.sink.closed = 0
  exited : ∀ reason, w.phase = .finished (.controlled reason) →
    w.Exited (operated hist) (closings (hist.map Prod.snd)) reason

variable {hist : List (WriteActor T × Action T)}

theorem flushed_of_operated {msg : ActorMessage T} (hs : w.step st = some w')
    (hop : w.operated? st = some (msg, true)) (hmsg : msg.isFlush = true) :
    w'.sink.flushed = w'.sink.handed.length := by
  rcases step_cases hs with ⟨rfl, -⟩ | ⟨rfl, -⟩ | ⟨m, ok, rfl, hphase, rfl⟩ | ⟨_, _, rfl, -⟩ |
    ⟨_, rfl, -⟩
  · cases hop
  · cases hop
  · rw [operated?, hphase] at hop
    obtain ⟨rfl, rfl⟩ := Prod.mk.inj (Option.some.inj hop)
    cases m with
    | send item => rfl
    | flush => rfl
    | feed item | shutdown => cases hmsg
  · cases hop
  · cases hop

theorem Run.performed (h : Run hist w) :
    w.Performed (operated hist) (closings (hist.map Prod.snd)) := by
  induction h with
  | start h =>
    obtain rfl := h
    exact performed_spawnActor
  | @next hist w w' a _ hs ih =>
    rw [operated_append_singleton, List.map_append, List.map_singleton, closings_append_singleton]
    cases a with
    | command msg =>
      have hs : w.act (.command msg) = some w' := hs
      simp only [act] at hs
      split at hs
      · rename_i halive
        obtain rfl := Option.some.inj hs
        rw [Bool.and_eq_true] at halive
        simpa [Action.task?] using ih.command halive.1 msg
      · cases hs
    | dropHandles =>
      obtain rfl := Option.some.inj hs
      simpa [Action.task?] using ih.dropHandle
    | task st => exact ih.step hs

/-- **The loop of the write actor.** -/
theorem Run.works (h : Run hist w) : Works hist w := by
  have hp := Run.performed h
  refine ⟨hp.handed, ?_, hp.untilFailure, fun t st t' msg _ hs ↦ flushed_of_operated hs,
    hp.flushed_le, hp.closed, fun hrunning ↦ ?_, fun reason hphase ↦ hp.exited hphase⟩
  · refine isPrefix_takeWhile hp.noShutdown (hp.inOrder.trans ?_)
    rw [← w.actorMsg.taken_append_queue]
    exact List.prefix_append _ _
  · have hstage := hp.stage
    unfold Stage at hstage
    rw [hp.closed]
    split at hstage
    · rw [hstage.2.2, List.length_nil]
    · rw [hstage.2.2.2, List.length_nil]
    · rw [hstage.2, List.length_nil]
    · exact absurd ‹_› (hrunning _)
    · rw [hstage, List.length_nil]

/-! ### After the last command -/

variable {sts : List Step}

/-- How many steps the task can still take if nothing more is queued. -/
def remaining (w : WriteActor T) : ℕ :=
  match w.phase with
  | .receiving => 2 * w.actorMsg.queue.length + 2
  | .operating _ => 2 * w.actorMsg.queue.length + 3
  | .closing _ => 1
  | .finished _ => 0

theorem remaining_lt_of_step (hs : w.step st = some w') : w'.remaining < w.remaining := by
  rcases step_cases hs with ⟨-, hphase, msg, ch, hrecv, ⟨-, rfl⟩ | ⟨-, rfl⟩⟩ |
    ⟨-, hphase, -, -, rfl⟩ | ⟨msg, ok, -, hphase, rfl⟩ | ⟨reason, ok, -, hphase, rfl⟩ |
    ⟨err, -, hrunning, rfl⟩
  · simp only [remaining, hphase]
    omega
  · have hqueue := congrArg List.length (Channel.recv_spec hrecv).1
    rw [List.length_cons] at hqueue
    simp only [remaining, hphase]
    omega
  · simp only [remaining, hphase]
    omega
  · simp only [remaining, hphase]
    cases ok
    · simp
    · simp
  · simp only [remaining, hphase, finish]
    omega
  · show 0 < w.remaining
    unfold remaining
    split
    · omega
    · omega
    · omega
    · exact absurd ‹_› (hrunning _)

/-- Steps of the task come to an end. -/
theorem length_add_remaining_le (h : (system T).Path w (sts.map .task) w') :
    sts.length + w'.remaining ≤ w.remaining := by
  induction sts generalizing w with
  | nil =>
    cases h
    exact Nat.le_of_eq (Nat.zero_add _)
  | cons st sts ih =>
    cases h with
    | cons hs hrest =>
      have hlt := remaining_lt_of_step hs
      have hle := ih hrest
      rw [List.length_cons]
      omega

/-- Without a handle, the task waits for nothing but its sink. -/
theorem exists_step (hdropped : w.actorMsg.senderAlive = false)
    (hrunning : ∀ reason, w.phase ≠ .finished reason) :
    ∃ st, st.fails = false ∧ (w.step st).isSome = true := by
  cases hphase : w.phase with
  | receiving =>
    refine ⟨.recv, rfl, ?_⟩
    simp only [step, hphase, hdropped]
    split <;> rfl
  | operating msg =>
    refine ⟨.operate true, rfl, ?_⟩
    simp only [step, hphase]
    rfl
  | closing reason =>
    refine ⟨.close true, rfl, ?_⟩
    simp only [step, hphase]
    rfl
  | finished reason => exact absurd hphase (hrunning reason)

/-- What becomes of an actor after its handle has signalled the shutdown and is dropped, when the
task has taken these steps since. -/
structure FlushedOut (w : WriteActor T) (sts : List Step) (w' : WriteActor T) : Prop where
  accepted : items w'.actorMsg.sent = items w.actorMsg.sent
  /-- The task comes to its end. -/
  ends : sts.length ≤ w.remaining + 2
  proceeds : (∀ reason, w'.phase ≠ .finished reason) →
    ∃ st, st.fails = false ∧ (w'.step st).isSome = true
  /-- Unless an operation has failed, all that was accepted is handed over and flushed, and whether
  the signal was accepted or found the channel full shows in the reason alone. -/
  output : ∀ reason, w'.phase = .finished (.controlled reason) → reason ≠ .sinkError →
    reason = (if w.actorMsg.Accepts then .signalled else .actorHandlesDropped) ∧
    w'.sink.handed = items w.actorMsg.sent ∧ w'.sink.closed = 1 ∧
    (.close false ∉ sts → w'.sink.flushed = w'.sink.handed.length)

theorem sent_of_path {w w' : WriteActor T} (h : (system T).Path w (sts.map .task) w') :
    w'.actorMsg.sent = w.actorMsg.sent := by
  refine h.invariant (I := fun v ↦ v.actorMsg.sent = w.actorMsg.sent) (fun v a v' ha hv hs ↦ ?_) rfl
  obtain ⟨st, -, rfl⟩ := List.mem_map.1 ha
  exact (sent_step hs).trans hv

theorem senderAlive_of_path (h : (system T).Path w (sts.map .task) w') :
    w'.actorMsg.senderAlive = w.actorMsg.senderAlive := by
  refine h.invariant (I := fun v ↦ v.actorMsg.senderAlive = w.actorMsg.senderAlive)
    (fun v a v' ha hv hs ↦ ?_) rfl
  obtain ⟨st, -, rfl⟩ := List.mem_map.1 ha
  exact (senderAlive_of_step hs).trans hv

/-- A task that has ended stays as it is. -/
theorem phase_of_path {reason : ActorShutdown WriteActorShutdownReason}
    (hphase : w.phase = .finished reason) (h : (system T).Path w (sts.map .task) w') :
    w'.phase = .finished reason := by
  refine h.invariant (I := fun v ↦ v.phase = .finished reason) (fun v a v' ha hv hs ↦ ?_) hphase
  obtain ⟨st, -, rfl⟩ := List.mem_map.1 ha
  have hlt := remaining_lt_of_step hs
  simp only [remaining, hv] at hlt
  omega

theorem closings_append (l l' : List (Action T)) : closings (l ++ l') = closings l ++ closings l' :=
  List.filterMap_append

theorem mem_closings_map_task {ok : Bool} (h : ok ∈ closings (sts.map (.task : Step → Action T))) :
    .close ok ∈ sts := by
  obtain ⟨a, ha, hok⟩ := List.mem_filterMap.1 h
  obtain ⟨st, hst, rfl⟩ := List.mem_map.1 ha
  cases st with
  | close ok' =>
    obtain rfl := Option.some.inj hok
    exact hst
  | recv | operate _ | erratic _ => cases hok

/-- A command of a handle that is there goes into a channel that accepts it. -/
theorem act_command (halive : w.actorMsg.senderAlive = true) (hacc : w.actorMsg.Accepts)
    (msg : ActorMessage T) : (system T).step w (.command msg) = some (w.offer msg) := by
  show w.act (.command msg) = some (w.offer msg)
  rw [act, halive, hacc.1, offer, Channel.offer_of_accepts hacc]
  rfl

/-- The last command and the drop of the handle, accepted or not, continue the run. -/
theorem Run.signal_and_drop (h : Run hist w) (halive : w.actorMsg.senderAlive = true) :
    ∃ hist', Run hist' (w.offer .shutdown).dropHandle ∧
      closings (hist'.map Prod.snd) = closings (hist.map Prod.snd) := by
  by_cases hacc : w.actorMsg.Accepts
  · refine ⟨_, (h.next (act_command halive hacc .shutdown)).next (a := .dropHandles) rfl, ?_⟩
    simp only [List.map_append, closings_append]
    exact (List.append_nil _).trans (List.append_nil _)
  · have hs : (system T).step w .dropHandles = some (w.offer .shutdown).dropHandle := by
      rw [offer, Channel.offer_of_not_accepts hacc]
      rfl
    refine ⟨_, h.next hs, ?_⟩
    rw [List.map_append, closings_append]
    exact List.append_nil _

theorem remaining_offer_shutdown_le (w : WriteActor T) :
    (w.offer .shutdown).dropHandle.remaining ≤ w.remaining + 2 := by
  have hqueue : (w.offer .shutdown).actorMsg.queue.length ≤ w.actorMsg.queue.length + 1 := by
    rw [actorMsg_offer, Channel.offer_eq]
    split
    · rw [Channel.queue_push, List.length_append, List.length_singleton]
    · exact Nat.le_succ _
  show remaining { w with actorMsg := (w.offer .shutdown).actorMsg.dropSender } ≤ _
  have hdropped : (w.offer .shutdown).actorMsg.dropSender.queue =
      (w.offer .shutdown).actorMsg.queue := rfl
  cases hphase : w.phase with
  | receiving | operating _ =>
    simp only [remaining, hphase, hdropped]
    omega
  | closing _ | finished _ =>
    simp only [remaining, hphase]
    omega

/-- The loop has not been left before it was told to. -/
theorem Run.closings_eq_nil (h : Run hist w) (ha : w.Attended) {reason : WriteActorShutdownReason}
    (hreason : reason ≠ .sinkError) (hphase : w'.phase = .finished (.controlled reason))
    (hp : (system T).Path (w.offer .shutdown).dropHandle (sts.map .task) w') :
    closings (hist.map Prod.snd) = [] := by
  refine List.eq_nil_of_length_eq_zero ?_
  rw [← (Run.works h).closed]
  refine (Run.works h).running fun early hearly ↦ ?_
  have hafter : (w.offer .shutdown).dropHandle.phase = .finished (.controlled early) := hearly
  have hsame := phase_of_path hafter hp
  obtain rfl : reason = early := by simpa [hphase] using hsame
  cases reason with
  | sinkError => exact hreason rfl
  | signalled => exact ha.not_left.1 (Or.inr hearly)
  | actorHandlesDropped => exact ha.not_left.2 (Or.inr hearly)

/-- **A shutdown that is signalled before the handle is dropped loses nothing**, whether or not there
is room for the signal. -/
theorem Run.flushedOut (h : Run hist w) (ha : w.Attended)
    (hp : (system T).Path (w.offer .shutdown).dropHandle (sts.map .task) w') :
    w.FlushedOut sts w' := by
  obtain ⟨hist₁, h₁, hcloses⟩ := Run.signal_and_drop h ha.handleAlive
  obtain ⟨hist₂, hactions, h₂⟩ := TransitionSystem.Run.append_path (T := system T) h₁ hp
  have hsent := sent_of_path hp
  rw [actorMsg_dropHandle, Channel.sent_dropSender, actorMsg_offer, Channel.sent_offer] at hsent
  have hdropped : w'.actorMsg.senderAlive = false := senderAlive_of_path hp
  refine ⟨?_, ?_, exists_step hdropped, fun reason hphase hreason ↦ ?_⟩
  · rw [hsent]
    split
    · rw [items_append, items_singleton]
      exact List.append_nil _
    · rfl
  · have hle := length_add_remaining_le hp
    have hbound := remaining_offer_shutdown_le w
    omega
  · have hworks := Run.works h₂
    have hexited := hworks.exited reason hphase
    have hops : (operated (hist₁ ++ hist₂)).map Prod.fst = w.actorMsg.sent := by
      rw [hexited.all hreason, hsent]
      split
      · exact takeWhile_eq_of_isPrefix ha.notSignalled List.prefix_rfl
      · exact takeWhile_eq_self ha.notSignalled
    have hsucceeded : Succeeded (operated (hist₁ ++ hist₂)) := by
      have hstopped := (hexited.stoppedBy reason).2 rfl
      cases reason with
      | sinkError => exact absurd rfl hreason
      | signalled => exact hstopped.1
      | actorHandlesDropped => exact hstopped.1
    refine ⟨?_, hops ▸ hworks.handed, hworks.closed.trans hexited.closed, fun hclose ↦ ?_⟩
    · refine ((hexited.stoppedBy _).1 ?_).symm
      by_cases hacc : w.actorMsg.Accepts
      · rw [if_pos hacc] at hsent ⊢
        exact ⟨hsucceeded, hops ▸ hsent ▸ List.prefix_rfl⟩
      · rw [if_neg hacc] at hsent ⊢
        exact ⟨hsucceeded, hops.trans hsent.symm, hdropped⟩
    · refine hexited.flushed hsucceeded fun ok hok ↦ ?_
      rw [List.map_append, closings_append, hcloses, hactions,
        Run.closings_eq_nil h ha hreason hphase hp, List.nil_append] at hok
      cases ok with
      | true => rfl
      | false => exact absurd (mem_closings_map_task hok) hclose

end NetStream.WriteActor
