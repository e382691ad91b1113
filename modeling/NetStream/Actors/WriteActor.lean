import NetStream.Actors
import NetStream.Library.Channel

/-!
# The write actor

`write_actor.rs`: a task that takes commands from a channel of 32 and performs them on a sink.

The actor's `await` points are its phases. It waits for a command (`receiving`), for a sink
operation it has begun (`operating`), for `sink.close()` after the loop (`closing`), or it is over.
A `Step` completes one of these waits; that the actor stalls is that no step of it is taken. The
sink keeps what it was handed and how much of it is known to be flushed. Any operation may fail,
and the item of a failed `send` or `feed` still counts as handed to the sink: whether its bytes
left is not decided here.

The handle's operations act on the same record through the channel, as the two halves of
`mpsc::channel` share it.
-/

namespace NetStream

inductive WriteActorError
  /-- Actor could not keep up, channel is full. -/
  | channelFull
  /-- Actor no longer accepting messages. -/
  | channelClosed
  deriving DecidableEq

/-- Reason for actor shutdown. -/
inductive WriteActorShutdownReason
  /-- Actor was signalled to shutdown. -/
  | signalled
  /-- Error operating on sink. -/
  | sinkError
  /-- All actor handles were dropped. -/
  | actorHandlesDropped
  deriving DecidableEq

namespace WriteActor

inductive ActorMessage (T : Type)
  | send (item : T)
  | feed (item : T)
  | flush
  | shutdown

/-- The item a command hands to the sink. -/
def ActorMessage.item? {T : Type} : ActorMessage T → Option T
  | .send item => some item
  | .feed item => some item
  | .flush => none
  | .shutdown => none

/-- The items of a list of commands, in order. -/
def items {T : Type} (msgs : List (ActorMessage T)) : List T :=
  msgs.filterMap ActorMessage.item?

/-- What the sink has been through. -/
structure Sink (T : Type) where
  /-- The items handed to the sink, in order. -/
  handed : List T
  /-- How many of them are known to be flushed. -/
  flushed : ℕ
  /-- How often the sink was closed. -/
  closed : ℕ

/-- Where the actor waits. -/
inductive Phase (T : Type)
  /-- At `actor_msg_rx.next()`. -/
  | receiving
  /-- At the sink operation of this command. -/
  | operating (msg : ActorMessage T)
  /-- At `sink.close()`. -/
  | closing (reason : WriteActorShutdownReason)
  /-- The task is over. -/
  | finished (reason : ActorShutdown WriteActorShutdownReason)

end WriteActor

/-- A write actor: its task and the channel its handle sends to. -/
structure WriteActor (T : Type) where
  actorMsg : Channel (some 32) (WriteActor.ActorMessage T)
  sink : WriteActor.Sink T
  phase : WriteActor.Phase T

namespace WriteActor

variable {T : Type}

/-- Spawn new actor. -/
def spawnActor : WriteActor T where
  actorMsg := .new
  sink := ⟨[], 0, 0⟩
  phase := .receiving

/-! ### The handle -/

def sendActorMessage (w : WriteActor T) (msg : ActorMessage T) :
    Except WriteActorError (WriteActor T) :=
  match w.actorMsg.trySend msg with
  | .ok ch => .ok { w with actorMsg := ch }
  | .error .full => .error .channelFull
  | .error .disconnected => .error .channelClosed

/-- Signal actor to call `send` on sink. -/
def send (w : WriteActor T) (item : T) : Except WriteActorError (WriteActor T) :=
  w.sendActorMessage (.send item)

/-- Signal actor to call `feed` on sink. -/
def feed (w : WriteActor T) (item : T) : Except WriteActorError (WriteActor T) :=
  w.sendActorMessage (.feed item)

/-- Signal actor to call `flush` on sink. -/
def flush (w : WriteActor T) : Except WriteActorError (WriteActor T) :=
  w.sendActorMessage .flush

/-- Signal actor to shutdown. -/
def signalShutdown (w : WriteActor T) : Except WriteActorError (WriteActor T) :=
  w.sendActorMessage .shutdown

/-- Drop the handle. -/
def dropHandle (w : WriteActor T) : WriteActor T :=
  { w with actorMsg := w.actorMsg.dropSender }

/-- The actor after an operation of its handle whose error, if any, is only logged. -/
def logged (w : WriteActor T) : Except WriteActorError (WriteActor T) → WriteActor T
  | .ok w' => w'
  | .error _ => w

/-- The actor with a message offered to its channel. -/
def offer (w : WriteActor T) (msg : ActorMessage T) : WriteActor T :=
  { w with actorMsg := w.actorMsg.offer msg }

/-! ### The task -/

/-- The completion of what the actor waits for. -/
inductive Step
  /-- A command, or the end of the command channel. -/
  | recv
  /-- The sink operation, with or without an error. -/
  | operate (ok : Bool)
  /-- `sink.close()`, with or without an error. -/
  | close (ok : Bool)
  /-- The task panics or is cancelled. -/
  | erratic (err : ErraticActorShutdown)
  deriving DecidableEq

/-- The sink after the operation of a command. -/
def Sink.operate (sink : Sink T) (msg : ActorMessage T) (ok : Bool) : Sink T :=
  let handed := sink.handed ++ msg.item?.toList
  match msg, ok with
  | .send _, true => { sink with handed := handed, flushed := handed.length }
  | .flush, true => { sink with flushed := sink.handed.length }
  | _, _ => { sink with handed := handed }

/-- The sink after `close`, which flushes all remaining output. -/
def Sink.close (sink : Sink T) (ok : Bool) : Sink T :=
  { sink with
    flushed := if ok then sink.handed.length else sink.flushed
    closed := sink.closed + 1 }

/-- The end of the task drops the receiver of commands. -/
def finish (w : WriteActor T) (reason : ActorShutdown WriteActorShutdownReason) : WriteActor T :=
  { w with actorMsg := w.actorMsg.closeReceiver, phase := .finished reason }

/-- One step of the actor, where it is enabled. -/
def step (w : WriteActor T) : Step → Option (WriteActor T)
  | .recv =>
    match w.phase with
    | .receiving =>
      match w.actorMsg.recv with
      | some (.shutdown, ch) => some { w with actorMsg := ch, phase := .closing .signalled }
      | some (msg, ch) => some { w with actorMsg := ch, phase := .operating msg }
      | none =>
        if w.actorMsg.senderAlive then none
        else some { w with phase := .closing .actorHandlesDropped }
    | _ => none
  | .operate ok =>
    match w.phase with
    | .operating msg =>
      some { w with
        sink := w.sink.operate msg ok
        phase := if ok then .receiving else .closing .sinkError }
    | _ => none
  | .close ok =>
    match w.phase with
    | .closing reason => some { w.finish (.controlled reason) with sink := w.sink.close ok }
    | _ => none
  | .erratic err =>
    match w.phase with
    | .finished _ => none
    | _ => some (w.finish (.erratic err))

/-- Take steps in turn; one that is not enabled is skipped. -/
def steps (w : WriteActor T) : List Step → WriteActor T
  | [] => w
  | st :: sts => ((w.step st).getD w).steps sts

/-! ### What the handle's operations do -/

@[simp] theorem logged_sendActorMessage (w : WriteActor T) (msg : ActorMessage T) :
    w.logged (w.sendActorMessage msg) = w.offer msg := by
  unfold sendActorMessage offer Channel.offer
  rcases w.actorMsg.trySend msg with (_ | _) | ch <;> rfl

@[simp] theorem logged_send (w : WriteActor T) (item : T) :
    w.logged (w.send item) = w.offer (.send item) :=
  logged_sendActorMessage w _

@[simp] theorem logged_feed (w : WriteActor T) (item : T) :
    w.logged (w.feed item) = w.offer (.feed item) :=
  logged_sendActorMessage w _

@[simp] theorem logged_flush (w : WriteActor T) : w.logged w.flush = w.offer .flush :=
  logged_sendActorMessage w _

@[simp] theorem logged_signalShutdown (w : WriteActor T) :
    w.logged w.signalShutdown = w.offer .shutdown :=
  logged_sendActorMessage w _

@[simp] theorem actorMsg_offer (w : WriteActor T) (msg : ActorMessage T) :
    (w.offer msg).actorMsg = w.actorMsg.offer msg := rfl

@[simp] theorem sink_offer (w : WriteActor T) (msg : ActorMessage T) :
    (w.offer msg).sink = w.sink := rfl

@[simp] theorem phase_offer (w : WriteActor T) (msg : ActorMessage T) :
    (w.offer msg).phase = w.phase := rfl

@[simp] theorem actorMsg_dropHandle (w : WriteActor T) :
    w.dropHandle.actorMsg = w.actorMsg.dropSender := rfl

@[simp] theorem sink_dropHandle (w : WriteActor T) : w.dropHandle.sink = w.sink := rfl

@[simp] theorem phase_dropHandle (w : WriteActor T) : w.dropHandle.phase = w.phase := rfl

/-! ### Items -/

@[simp] theorem items_nil : items ([] : List (ActorMessage T)) = [] := rfl

@[simp] theorem items_append (l l' : List (ActorMessage T)) :
    items (l ++ l') = items l ++ items l' :=
  List.filterMap_append

@[simp] theorem items_singleton (msg : ActorMessage T) : items [msg] = msg.item?.toList := by
  unfold items
  cases h : msg.item? <;> simp [h]

theorem items_cons (msg : ActorMessage T) (l : List (ActorMessage T)) :
    items (msg :: l) = msg.item?.toList ++ items l := by
  rw [← items_singleton, ← items_append, List.singleton_append]

theorem items_map_of_item? {α : Type} {f : α → ActorMessage T} {g : α → T}
    (h : ∀ x, (f x).item? = some (g x)) (l : List α) : items (l.map f) = l.map g := by
  rw [items, List.filterMap_map, ← List.filterMap_eq_map]
  exact List.filterMap_congr fun x _ ↦ h x

@[simp] theorem Sink.handed_operate (sink : Sink T) (msg : ActorMessage T) (ok : Bool) :
    (sink.operate msg ok).handed = sink.handed ++ msg.item?.toList := by
  cases msg <;> cases ok <;> simp [Sink.operate, ActorMessage.item?]

@[simp] theorem Sink.handed_close (sink : Sink T) (ok : Bool) :
    (sink.close ok).handed = sink.handed := rfl

/-! ### What a step does -/

variable {w w' : WriteActor T} {st : Step}

/-- **Inversion**: the step that was taken, the phase it was taken in, and the actor after it. -/
theorem step_cases (h : w.step st = some w') :
    (st = .recv ∧ w.phase = .receiving ∧ ∃ msg ch, w.actorMsg.recv = some (msg, ch) ∧
      (msg = .shutdown ∧ w' = { w with actorMsg := ch, phase := .closing .signalled } ∨
        msg ≠ .shutdown ∧ w' = { w with actorMsg := ch, phase := .operating msg })) ∨
    (st = .recv ∧ w.phase = .receiving ∧ w.actorMsg.queue = [] ∧ w.actorMsg.senderAlive = false ∧
      w' = { w with phase := .closing .actorHandlesDropped }) ∨
    (∃ msg ok, st = .operate ok ∧ w.phase = .operating msg ∧
      w' = { w with
        sink := w.sink.operate msg ok
        phase := if ok then .receiving else .closing .sinkError }) ∨
    (∃ reason ok, st = .close ok ∧ w.phase = .closing reason ∧
      w' = { w.finish (.controlled reason) with sink := w.sink.close ok }) ∨
    (∃ err, st = .erratic err ∧ (∀ reason, w.phase ≠ .finished reason) ∧
      w' = w.finish (.erratic err)) := by
  cases st with
  | recv =>
    simp only [step] at h
    split at h
    · rename_i hphase
      split at h
      · rename_i ch hrecv
        exact Or.inl ⟨rfl, hphase, .shutdown, ch, hrecv, Or.inl ⟨rfl, (Option.some.inj h).symm⟩⟩
      · rename_i msg ch hne hrecv
        exact Or.inl ⟨rfl, hphase, msg, ch, hrecv, Or.inr ⟨hne, (Option.some.inj h).symm⟩⟩
      · rename_i hrecv
        split at h
        · cases h
        · rename_i halive
          rw [Bool.not_eq_true] at halive
          exact Or.inr (Or.inl ⟨rfl, hphase, Channel.recv_eq_none_iff.1 hrecv, halive,
            (Option.some.inj h).symm⟩)
    · cases h
  | operate ok =>
    simp only [step] at h
    split at h
    · rename_i msg hphase
      exact Or.inr (Or.inr (Or.inl ⟨msg, ok, rfl, hphase, (Option.some.inj h).symm⟩))
    · cases h
  | close ok =>
    simp only [step] at h
    split at h
    · rename_i reason hphase
      exact Or.inr (Or.inr (Or.inr (Or.inl ⟨reason, ok, rfl, hphase, (Option.some.inj h).symm⟩)))
    · cases h
  | erratic err =>
    simp only [step] at h
    split at h
    · cases h
    · rename_i hphase
      exact Or.inr (Or.inr (Or.inr (Or.inr ⟨err, rfl, hphase, (Option.some.inj h).symm⟩)))

/-- The task sends nothing to itself. -/
theorem sent_step (h : w.step st = some w') : w'.actorMsg.sent = w.actorMsg.sent := by
  rcases step_cases h with ⟨-, -, msg, ch, hrecv, ⟨-, rfl⟩ | ⟨-, rfl⟩⟩ | ⟨-, -, -, -, rfl⟩ |
    ⟨msg, ok, -, -, rfl⟩ | ⟨reason, ok, -, -, rfl⟩ | ⟨err, -, -, rfl⟩
  · exact (Channel.recv_spec hrecv).2.2.1
  · exact (Channel.recv_spec hrecv).2.2.1
  all_goals rfl

/-- What the sink was handed is not taken back. -/
theorem handed_isPrefix_of_step (h : w.step st = some w') : w.sink.handed <+: w'.sink.handed := by
  rcases step_cases h with ⟨-, -, msg, ch, -, ⟨-, rfl⟩ | ⟨-, rfl⟩⟩ | ⟨-, -, -, -, rfl⟩ |
    ⟨msg, ok, -, -, rfl⟩ | ⟨reason, ok, -, -, rfl⟩ | ⟨err, -, -, rfl⟩
  · exact List.prefix_rfl
  · exact List.prefix_rfl
  · exact List.prefix_rfl
  · exact ⟨_, (Sink.handed_operate w.sink msg ok).symm⟩
  · exact List.prefix_rfl
  · exact List.prefix_rfl

/-- Commands are taken in order. -/
theorem taken_isPrefix_of_step (h : w.step st = some w') :
    w.actorMsg.taken <+: w'.actorMsg.taken := by
  rcases step_cases h with ⟨-, -, msg, ch, hrecv, hw'⟩ | ⟨-, -, -, -, rfl⟩ | ⟨msg, ok, -, -, rfl⟩ |
    ⟨reason, ok, -, -, rfl⟩ | ⟨err, -, -, rfl⟩
  · have hch : w'.actorMsg = ch := by
      rcases hw' with ⟨-, rfl⟩ | ⟨-, rfl⟩ <;> rfl
    rw [hch, (Channel.recv_spec hrecv).2.1]
    exact List.prefix_append _ _
  all_goals exact List.prefix_rfl

/-- A closed command channel stays closed. -/
theorem receiverAlive_of_step (h : w.step st = some w') (ha : w'.actorMsg.receiverAlive = true) :
    w.actorMsg.receiverAlive = true := by
  rcases step_cases h with ⟨-, -, msg, ch, hrecv, ⟨-, rfl⟩ | ⟨-, rfl⟩⟩ | ⟨-, -, -, -, rfl⟩ |
    ⟨msg, ok, -, -, rfl⟩ | ⟨reason, ok, -, -, rfl⟩ | ⟨err, -, -, rfl⟩
  · exact (Channel.recv_spec hrecv).2.2.2.1.symm.trans ha
  · exact (Channel.recv_spec hrecv).2.2.2.1.symm.trans ha
  · exact ha
  · exact ha
  · cases ha
  · cases ha

/-- The task only ever takes commands out of the queue. -/
theorem length_queue_step_le (h : w.step st = some w') :
    w'.actorMsg.queue.length ≤ w.actorMsg.queue.length := by
  rcases step_cases h with ⟨-, -, msg, ch, hrecv, hw'⟩ | ⟨-, -, -, -, rfl⟩ |
    ⟨msg, ok, -, -, rfl⟩ | ⟨reason, ok, -, -, rfl⟩ | ⟨err, -, -, rfl⟩
  · have hqueue : w.actorMsg.queue = msg :: ch.queue := (Channel.recv_spec hrecv).1
    have hch : w'.actorMsg = ch := by
      rcases hw' with ⟨-, rfl⟩ | ⟨-, rfl⟩ <;> rfl
    rw [hch, hqueue, List.length_cons]
    omega
  all_goals exact Nat.le_refl _

/-- What every step keeps, steps in a row keep. -/
theorem steps_induction {I : WriteActor T → Prop}
    (hstep : ∀ w st w', I w → w.step st = some w' → I w') (hw : I w) (sts : List Step) :
    I (w.steps sts) := by
  induction sts generalizing w with
  | nil => exact hw
  | cons st sts ih =>
    rw [steps]
    refine ih ?_
    cases hs : w.step st with
    | none => exact hw
    | some w' => exact hstep w st w' hw hs

theorem sent_steps (sts : List Step) : (w.steps sts).actorMsg.sent = w.actorMsg.sent :=
  steps_induction (I := fun v ↦ v.actorMsg.sent = w.actorMsg.sent)
    (fun _ _ _ hv hs ↦ (sent_step hs).trans hv) rfl sts

theorem length_queue_steps_le (sts : List Step) :
    (w.steps sts).actorMsg.queue.length ≤ w.actorMsg.queue.length :=
  steps_induction (I := fun v ↦ v.actorMsg.queue.length ≤ w.actorMsg.queue.length)
    (fun _ _ _ hv hs ↦ Nat.le_trans (length_queue_step_le hs) hv) (Nat.le_refl _) sts

theorem receiverAlive_of_steps {sts : List Step}
    (h : (w.steps sts).actorMsg.receiverAlive = true) : w.actorMsg.receiverAlive = true := by
  refine steps_induction (I := fun v ↦ v.actorMsg.receiverAlive = true →
    w.actorMsg.receiverAlive = true) ?_ id sts h
  exact fun _ _ _ hv hs ha ↦ hv (receiverAlive_of_step hs ha)

/-! ### Commands in a row -/

/-- Offer commands in turn. The actor runs beside its handle: before each command it takes the next
list of steps of the schedule. -/
def offerAll (w : WriteActor T) : List (ActorMessage T) → List (List Step) → WriteActor T
  | [], _ => w
  | msg :: rest, schedule => ((w.steps (schedule.headD [])).offer msg).offerAll rest schedule.tail

theorem receiverAlive_of_offerAll {msgs : List (ActorMessage T)} {schedule : List (List Step)}
    (h : (w.offerAll msgs schedule).actorMsg.receiverAlive = true) :
    w.actorMsg.receiverAlive = true := by
  induction msgs generalizing w schedule with
  | nil => exact h
  | cons msg rest ih =>
    have hoffer := ih h
    rw [actorMsg_offer, Channel.receiverAlive_offer] at hoffer
    exact receiverAlive_of_steps hoffer

theorem receiverAlive_offerAll_nil {msgs : List (ActorMessage T)}
    (h : w.actorMsg.receiverAlive = true) : (w.offerAll msgs []).actorMsg.receiverAlive = true := by
  induction msgs generalizing w with
  | nil => exact h
  | cons msg rest ih => exact ih (w := w.offer msg) (by simpa using h)

/-- **With room for all of them**, commands in a row are all queued, whatever the actor does in
between, short of ending. -/
theorem sent_offerAll {msgs : List (ActorMessage T)} {schedule : List (List Step)}
    (halive : (w.offerAll msgs schedule).actorMsg.receiverAlive = true)
    (hroom : w.actorMsg.queue.length + msgs.length ≤ 33) :
    (w.offerAll msgs schedule).actorMsg.sent = w.actorMsg.sent ++ msgs := by
  induction msgs generalizing w schedule with
  | nil => simp [offerAll]
  | cons msg rest ih =>
    rw [List.length_cons] at hroom
    have hrest : (((w.steps (schedule.headD [])).offer msg).offerAll rest
      schedule.tail).actorMsg.receiverAlive = true := halive
    have hlen := length_queue_steps_le (w := w) (schedule.headD [])
    have haccepts : (w.steps (schedule.headD [])).actorMsg.Accepts := by
      refine Channel.accepts_iff_of_bounded.2 ⟨?_, by omega⟩
      have hoffer := receiverAlive_of_offerAll hrest
      rwa [actorMsg_offer, Channel.receiverAlive_offer] at hoffer
    have hpush : ((w.steps (schedule.headD [])).offer msg).actorMsg =
        (w.steps (schedule.headD [])).actorMsg.push msg := Channel.offer_of_accepts haccepts
    rw [offerAll, ih hrest, hpush, Channel.sent_push, sent_steps, List.append_assoc]
    · rfl
    · rw [hpush, Channel.queue_push, List.length_append, List.length_singleton]
      omega

/-- **While the actor does not run**, as many are queued as there is room for, and the rest is
lost. -/
theorem sent_offerAll_nil {msgs : List (ActorMessage T)}
    (halive : w.actorMsg.receiverAlive = true) :
    (w.offerAll msgs []).actorMsg.sent =
      w.actorMsg.sent ++ msgs.take (33 - w.actorMsg.queue.length) := by
  induction msgs generalizing w with
  | nil => simp [offerAll]
  | cons msg rest ih =>
    show ((w.offer msg).offerAll rest []).actorMsg.sent = _
    rw [ih (by simpa using halive), actorMsg_offer, Channel.offer_eq]
    by_cases hroom : w.actorMsg.queue.length ≤ 32
    · have haccepts : w.actorMsg.Accepts := Channel.accepts_iff_of_bounded.2 ⟨halive, hroom⟩
      have hsucc : 33 - w.actorMsg.queue.length = 32 - w.actorMsg.queue.length + 1 := by omega
      rw [if_pos haccepts, Channel.queue_push, List.length_append, List.length_singleton,
        Channel.sent_push, hsucc, List.take_succ_cons, List.append_assoc]
      have hrest : 33 - (w.actorMsg.queue.length + 1) = 32 - w.actorMsg.queue.length := by omega
      rw [hrest]
      rfl
    · have hfull : ¬ w.actorMsg.Accepts := fun h ↦ hroom (Channel.accepts_iff_of_bounded.1 h).2
      have hzero : 33 - w.actorMsg.queue.length = 0 := by omega
      rw [if_neg hfull, hzero, List.take_zero, List.take_zero]

/-! ### The sink follows the commands -/

/-- The sink was handed the items of the commands taken from the channel, in order: all of them
while the loop runs, up to the command being performed, and an initial part once it has ended. -/
def Tracks (w : WriteActor T) : Prop :=
  match w.phase with
  | .receiving => w.sink.handed = items w.actorMsg.taken
  | .operating msg => w.sink.handed ++ msg.item?.toList = items w.actorMsg.taken
  | .closing _ => w.sink.handed <+: items w.actorMsg.taken
  | .finished _ => w.sink.handed <+: items w.actorMsg.taken

theorem tracks_spawnActor : (spawnActor : WriteActor T).Tracks :=
  rfl

theorem Tracks.handed_prefix_taken (h : w.Tracks) : w.sink.handed <+: items w.actorMsg.taken := by
  unfold Tracks at h
  split at h
  · exact h ▸ List.prefix_rfl
  · rw [← h]
    exact List.prefix_append _ _
  · exact h
  · exact h

/-- **What the sink received is an initial part of what was queued.** -/
theorem Tracks.handed_isPrefix (h : w.Tracks) : w.sink.handed <+: items w.actorMsg.sent := by
  refine h.handed_prefix_taken.trans ?_
  rw [← w.actorMsg.taken_append_queue, items_append]
  exact List.prefix_append _ _

theorem Tracks.of_eq (h : w.Tracks) (hphase : w'.phase = w.phase) (hsink : w'.sink = w.sink)
    (htaken : w'.actorMsg.taken = w.actorMsg.taken) : w'.Tracks := by
  unfold Tracks at h ⊢
  rwa [hphase, hsink, htaken]

theorem Tracks.offer (h : w.Tracks) (msg : ActorMessage T) : (w.offer msg).Tracks :=
  h.of_eq rfl rfl Channel.taken_offer

theorem Tracks.dropHandle (h : w.Tracks) : w.dropHandle.Tracks :=
  h.of_eq rfl rfl rfl

theorem Tracks.step (h : w.Tracks) (hs : w.step st = some w') : w'.Tracks := by
  have hp := h.handed_prefix_taken
  rcases step_cases hs with ⟨-, hphase, msg, ch, hrecv, hw'⟩ | ⟨-, -, -, -, rfl⟩ |
    ⟨msg, ok, -, hphase, rfl⟩ | ⟨reason, ok, -, -, rfl⟩ | ⟨err, -, -, rfl⟩
  · have htaken := (Channel.recv_spec hrecv).2.1
    unfold Tracks at h
    rw [hphase] at h
    rcases hw' with ⟨rfl, rfl⟩ | ⟨-, rfl⟩
    · show w.sink.handed <+: items ch.taken
      rw [htaken, items_append, ← h]
      exact List.prefix_append _ _
    · show w.sink.handed ++ msg.item?.toList = items ch.taken
      rw [htaken, items_append, items_singleton, h]
  · exact hp
  · unfold Tracks at h
    rw [hphase] at h
    -- the operation ends in `receiving` or in `closing`, according to its outcome
    cases ok with
    | true =>
      show (w.sink.operate msg true).handed = items w.actorMsg.taken
      rw [Sink.handed_operate, h]
    | false =>
      show (w.sink.operate msg false).handed <+: items w.actorMsg.taken
      rw [Sink.handed_operate]
      exact h ▸ List.prefix_rfl
  · exact hp
  · exact hp

/-! ### Following a list of items -/

/-- The actor follows `l`: its sink goes with its channel, the items queued begin `l`, and as long as
the channel is open they are all of `l`. -/
structure Follows (w : WriteActor T) (l : List T) : Prop where
  tracks : w.Tracks
  queued : items w.actorMsg.sent <+: l
  all : w.actorMsg.receiverAlive = true → items w.actorMsg.sent = l

variable {l : List T} {msg : ActorMessage T}

theorem follows_spawnActor : (spawnActor : WriteActor T).Follows [] :=
  ⟨tracks_spawnActor, List.prefix_rfl, fun _ ↦ rfl⟩

/-- **The sink of an actor that follows `l` has received an initial part of `l`.** -/
theorem Follows.handed_isPrefix (h : w.Follows l) : w.sink.handed <+: l :=
  h.tracks.handed_isPrefix.trans h.queued

theorem Follows.step (h : w.Follows l) (hs : w.step st = some w') : w'.Follows l where
  tracks := h.tracks.step hs
  queued := by
    rw [sent_step hs]
    exact h.queued
  all ha := by
    rw [sent_step hs]
    exact h.all (receiverAlive_of_step hs ha)

theorem Follows.dropHandle (h : w.Follows l) : w.dropHandle.Follows l :=
  ⟨h.tracks.dropHandle, h.queued, h.all⟩

/-- A command without an item may be lost. -/
theorem Follows.offer_control (h : w.Follows l) (hmsg : msg.item? = none) :
    (w.offer msg).Follows l := by
  have hitems : items (w.offer msg).actorMsg.sent = items w.actorMsg.sent := by
    rw [actorMsg_offer, Channel.sent_offer]
    split
    · rw [items_append, items_singleton, hmsg]
      exact List.append_nil _
    · rfl
  refine ⟨h.tracks.offer msg, hitems ▸ h.queued, fun ha ↦ ?_⟩
  rw [hitems]
  exact h.all (by simpa using ha)

/-- **A command with an item is not lost** unless the channel is open and full. -/
theorem Follows.offer_item (h : w.Follows l) {x : T} (hmsg : msg.item? = some x)
    (hroom : w.actorMsg.receiverAlive = true → w.actorMsg.queue.length ≤ 32) :
    (w.offer msg).Follows (l ++ [x]) := by
  by_cases ha : w.actorMsg.receiverAlive = true
  · have haccepts : w.actorMsg.Accepts := Channel.accepts_iff_of_bounded.2 ⟨ha, hroom ha⟩
    have hitems : items (w.offer msg).actorMsg.sent = l ++ [x] := by
      rw [actorMsg_offer, Channel.sent_offer, if_pos haccepts, items_append, items_singleton, hmsg,
        h.all ha]
      rfl
    exact ⟨h.tracks.offer msg, hitems ▸ List.prefix_rfl, fun _ ↦ hitems⟩
  · -- a closed channel takes nothing more, so nothing later is delivered either
    have hsame : (w.offer msg).actorMsg = w.actorMsg :=
      Channel.offer_of_not_accepts fun haccepts ↦ ha haccepts.1
    refine ⟨h.tracks.offer msg, ?_, fun hopen ↦ ?_⟩
    · rw [hsame]
      exact h.queued.trans (List.prefix_append l [x])
    · rw [hsame] at hopen
      exact absurd hopen ha

/-! ### What holds of an actor and the items offered to it -/

/-- A command is not lost to a full queue. -/
def HasRoom (w : WriteActor T) : Prop :=
  w.actorMsg.receiverAlive = true → w.actorMsg.queue.length ≤ 32

instance (w : WriteActor T) : Decidable w.HasRoom :=
  inferInstanceAs (Decidable (w.actorMsg.receiverAlive = true → w.actorMsg.queue.length ≤ 32))

/-- `R` relates an actor to the items offered to it by `send`: it holds once the first is offered to
a new actor, and whatever happens to the actor keeps it, where an item is only offered when the
actor meets `C`. -/
structure OfferRule (C : WriteActor T → Prop) (R : WriteActor T → List T → Prop) : Prop where
  start (x : T) : R (spawnActor.offer (.send x)) [x]
  step {w w' : WriteActor T} {l : List T} {st : Step} : R w l → w.step st = some w' → R w' l
  dropHandle {w : WriteActor T} {l : List T} : R w l → R w.dropHandle l
  shutdown {w : WriteActor T} {l : List T} : R w l → R (w.offer .shutdown) l
  send {w : WriteActor T} {l : List T} (x : T) : R w l → C w → R (w.offer (.send x)) (l ++ [x])

/-- With room for every item, the actor follows the items offered. -/
theorem offerRule_follows : OfferRule (HasRoom (T := T)) Follows where
  start _ := follows_spawnActor.offer_item rfl fun _ ↦ Nat.zero_le _
  step h hs := h.step hs
  dropHandle h := h.dropHandle
  shutdown h := h.offer_control rfl
  send _ h hroom := h.offer_item rfl hroom

theorem offerRule_tracks : OfferRule (fun _ ↦ True) fun (w : WriteActor T) _ ↦ w.Tracks where
  start _ := tracks_spawnActor.offer _
  step h hs := h.step hs
  dropHandle h := h.dropHandle
  shutdown h := h.offer _
  send _ h _ := h.offer _

/-- The first item offered is the first command queued, and the items queued after it are some of
those offered, in order. -/
def Receives (w : WriteActor T) (l : List T) : Prop :=
  ∃ x rest msgs, l = x :: rest ∧ w.actorMsg.sent = .send x :: msgs ∧
    (items msgs).Sublist rest

/-- Whether or not there is room, the queue receives from the items offered. -/
theorem offerRule_receives : OfferRule (fun _ ↦ True) (Receives (T := T)) where
  start x := ⟨x, [], [], rfl, rfl, List.Sublist.refl _⟩
  step h hs := by
    obtain ⟨x, rest, msgs, hl, hsent, hsub⟩ := h
    exact ⟨x, rest, msgs, hl, (sent_step hs).trans hsent, hsub⟩
  dropHandle h := h
  shutdown h := by
    obtain ⟨x, rest, msgs, hl, hsent, hsub⟩ := h
    rw [Receives, actorMsg_offer, Channel.sent_offer]
    split
    · refine ⟨x, rest, msgs ++ [.shutdown], hl, by rw [hsent, List.cons_append], ?_⟩
      rw [items_append, items_singleton]
      exact (List.append_nil _).symm ▸ hsub
    · exact ⟨x, rest, msgs, hl, hsent, hsub⟩
  send y h _ := by
    obtain ⟨x, rest, msgs, hl, hsent, hsub⟩ := h
    rw [Receives, actorMsg_offer, Channel.sent_offer]
    split
    · refine ⟨x, rest ++ [y], msgs ++ [.send y], by rw [hl, List.cons_append],
        by rw [hsent, List.cons_append], ?_⟩
      rw [items_append, items_singleton]
      exact hsub.append (List.Sublist.refl _)
    · exact ⟨x, rest ++ [y], msgs, by rw [hl, List.cons_append], hsent,
        hsub.trans (List.sublist_append_left _ _)⟩

/-! ### Why the task ended -/

/-- The actor has left its loop for this reason. -/
def Left (w : WriteActor T) (reason : WriteActorShutdownReason) : Prop :=
  w.phase = .closing reason ∨ w.phase = .finished (.controlled reason)

/-- Each reason that comes from the handle has its cause, which stays. -/
structure Caused (w : WriteActor T) : Prop where
  signalled : w.Left .signalled → .shutdown ∈ w.actorMsg.sent
  actorHandlesDropped : w.Left .actorHandlesDropped → w.actorMsg.senderAlive = false

theorem caused_spawnActor : (spawnActor : WriteActor T).Caused where
  signalled h := by rcases h with h | h <;> cases h
  actorHandlesDropped h := by rcases h with h | h <;> cases h

theorem Caused.offer (h : w.Caused) (msg : ActorMessage T) : (w.offer msg).Caused where
  signalled hl := by
    rw [actorMsg_offer, Channel.sent_offer]
    split
    · exact List.mem_append_left _ (h.signalled hl)
    · exact h.signalled hl
  actorHandlesDropped hl := Channel.senderAlive_offer.trans (h.actorHandlesDropped hl)

theorem senderAlive_of_step (h : w.step st = some w') :
    w'.actorMsg.senderAlive = w.actorMsg.senderAlive := by
  rcases step_cases h with ⟨-, -, msg, ch, hrecv, ⟨-, rfl⟩ | ⟨-, rfl⟩⟩ | ⟨-, -, -, -, rfl⟩ |
    ⟨msg, ok, -, -, rfl⟩ | ⟨reason, ok, -, -, rfl⟩ | ⟨err, -, -, rfl⟩
  · exact (Channel.recv_spec hrecv).2.2.2.2
  · exact (Channel.recv_spec hrecv).2.2.2.2
  all_goals rfl

/-- What makes the loop be left for this reason in a step. -/
def Leaves (w : WriteActor T) (st : Step) : WriteActorShutdownReason → Prop
  | .sinkError => st = .operate false
  | .signalled => .shutdown ∈ w.actorMsg.sent
  | .actorHandlesDropped => w.actorMsg.senderAlive = false

/-- A loop that is left has a cause for it then. -/
theorem left_of_step (h : w.step st = some w') {reason : WriteActorShutdownReason}
    (hl : w'.Left reason) : w.Left reason ∨ w.Leaves st reason := by
  rcases step_cases h with ⟨-, -, msg, ch, hrecv, ⟨rfl, rfl⟩ | ⟨-, rfl⟩⟩ | ⟨-, -, -, hdropped, rfl⟩ |
    ⟨msg, ok, hst, -, rfl⟩ | ⟨reason', ok, -, hphase, rfl⟩ | ⟨err, -, -, rfl⟩
  · rcases hl with hl | hl <;> cases hl
    refine Or.inr ?_
    show ActorMessage.shutdown ∈ w.actorMsg.sent
    rw [← Channel.taken_append_queue, (Channel.recv_spec hrecv).1]
    exact List.mem_append_right _ List.mem_cons_self
  · rcases hl with hl | hl <;> cases hl
  · rcases hl with hl | hl <;> cases hl
    exact Or.inr hdropped
  · cases ok with
    | true => rcases hl with hl | hl <;> cases hl
    | false =>
      rcases hl with hl | hl <;> cases hl
      exact Or.inr hst
  · rcases hl with hl | hl <;> cases hl
    exact Or.inl (Or.inl hphase)
  · rcases hl with hl | hl <;> cases hl

theorem Caused.step (h : w.Caused) (hs : w.step st = some w') : w'.Caused where
  signalled hl := by
    rw [sent_step hs]
    exact (left_of_step hs hl).elim h.signalled id
  actorHandlesDropped hl := by
    rw [senderAlive_of_step hs]
    exact (left_of_step hs hl).elim h.actorHandlesDropped id

/-! ### A task without failures -/

/-- The loop has been left. -/
def isOver (w : WriteActor T) : Bool :=
  match w.phase with
  | .receiving | .operating _ => false
  | .closing _ | .finished _ => true

/-- A step at which the sink fails, or takes the task with it. -/
def Step.fails : Step → Bool
  | .operate ok => !ok
  | .erratic _ => true
  | .recv | .close _ => false

/-- The actor was told to send items and nothing else, and its sink has never failed: all that it
handed over is flushed, and it leaves its loop when that is everything. -/
structure Flushes (w : WriteActor T) : Prop where
  sends : ∀ msg ∈ w.actorMsg.sent, ∃ item, msg = .send item
  operating : ∀ msg, w.phase = .operating msg → ∃ item, msg = .send item
  flushed : w.sink.flushed = w.sink.handed.length
  ended : w.isOver = true →
    w.actorMsg.senderAlive = false ∧ w.sink.handed = items w.actorMsg.sent

theorem flushes_spawnActor : (spawnActor : WriteActor T).Flushes :=
  ⟨nofun, nofun, rfl, nofun⟩

theorem Flushes.offer (h : w.Flushes) (halive : w.actorMsg.senderAlive = true) (item : T) :
    (w.offer (.send item)).Flushes where
  sends msg hmsg := by
    rw [actorMsg_offer, Channel.sent_offer] at hmsg
    split at hmsg
    · rcases List.mem_append.1 hmsg with hmsg | hmsg
      · exact h.sends msg hmsg
      · exact ⟨item, List.mem_singleton.1 hmsg⟩
    · exact h.sends msg hmsg
  operating := h.operating
  flushed := h.flushed
  -- while the handle is there, the loop has not been left
  ended ho := absurd (halive.symm.trans (h.ended ho).1) Bool.noConfusion

theorem Flushes.dropHandle (h : w.Flushes) : w.dropHandle.Flushes where
  sends := h.sends
  operating := h.operating
  flushed := h.flushed
  ended ho := ⟨rfl, (h.ended ho).2⟩

theorem Flushes.step (h : w.Flushes) (ht : w.Tracks) (hst : st.fails = false)
    (hs : w.step st = some w') : w'.Flushes := by
  have hsends : ∀ msg ∈ w'.actorMsg.sent, ∃ item, msg = .send item := sent_step hs ▸ h.sends
  rcases step_cases hs with ⟨-, -, msg, ch, hrecv, hw'⟩ | ⟨-, hphase, hqueue, halive, rfl⟩ |
    ⟨msg, ok, rfl, hphase, rfl⟩ | ⟨reason, ok, -, hphase, rfl⟩ | ⟨err, rfl, -, rfl⟩
  · have hmem : msg ∈ w.actorMsg.sent := by
      rw [← Channel.taken_append_queue, (Channel.recv_spec hrecv).1]
      exact List.mem_append_right _ List.mem_cons_self
    obtain ⟨item, rfl⟩ := h.sends msg hmem
    rcases hw' with ⟨hshutdown, -⟩ | ⟨-, rfl⟩
    · cases hshutdown
    · exact ⟨hsends, fun msg hmsg ↦ ⟨item, (Phase.operating.inj hmsg).symm⟩, h.flushed, nofun⟩
  · refine ⟨hsends, nofun, h.flushed, fun _ ↦ ⟨halive, ?_⟩⟩
    unfold Tracks at ht
    rw [hphase] at ht
    show w.sink.handed = items w.actorMsg.sent
    rw [← Channel.taken_append_queue, hqueue, List.append_nil]
    exact ht
  · obtain ⟨item, rfl⟩ := h.operating msg hphase
    cases ok with
    | true => exact ⟨hsends, nofun, rfl, nofun⟩
    | false => cases hst
  · have ho : w.isOver = true := by
      unfold isOver
      rw [hphase]
    refine ⟨hsends, nofun, ?_, fun _ ↦ h.ended ho⟩
    cases ok with
    | true => rfl
    | false => exact h.flushed
  · cases hst

/-- What can happen to an actor whose handle stays and sends no shutdown signal. -/
inductive Used : WriteActor T → WriteActor T → Prop
  | refl (w : WriteActor T) : Used w w
  | offer {w w' : WriteActor T} (h : Used w w') {msg : ActorMessage T} (hmsg : msg ≠ .shutdown) :
      Used w (w'.offer msg)
  | step {w w' w'' : WriteActor T} {st : Step} (h : Used w w') (hs : w'.step st = some w'') :
      Used w w''

theorem Used.trans {w'' : WriteActor T} (h : Used w w') (h' : Used w' w'') : Used w w'' := by
  induction h' with
  | refl => exact h
  | offer _ hmsg ih => exact ih.offer hmsg
  | step _ hs ih => exact ih.step hs

/-- An actor that is left to work, and has not been told to stop. -/
structure Attended (w : WriteActor T) : Prop where
  caused : w.Caused
  notSignalled : .shutdown ∉ w.actorMsg.sent
  handleAlive : w.actorMsg.senderAlive = true

theorem attended_spawnActor : (spawnActor : WriteActor T).Attended where
  caused := caused_spawnActor
  notSignalled := List.not_mem_nil
  handleAlive := rfl

theorem Attended.offer (h : w.Attended) {msg : ActorMessage T} (hmsg : msg ≠ .shutdown) :
    (w.offer msg).Attended where
  caused := h.caused.offer msg
  notSignalled hmem := by
    rw [actorMsg_offer, Channel.sent_offer] at hmem
    split at hmem
    · rcases List.mem_append.1 hmem with hmem | hmem
      · exact h.notSignalled hmem
      · exact hmsg (List.mem_singleton.1 hmem).symm
    · exact h.notSignalled hmem
  handleAlive := Channel.senderAlive_offer.trans h.handleAlive

theorem Attended.step (h : w.Attended) (hs : w.step st = some w') : w'.Attended where
  caused := h.caused.step hs
  notSignalled := sent_step hs ▸ h.notSignalled
  handleAlive := (senderAlive_of_step hs).trans h.handleAlive

theorem Attended.used (h : w.Attended) (hu : Used w w') : w'.Attended := by
  induction hu with
  | refl => exact h
  | offer _ hmsg ih => exact ih.offer hmsg
  | step _ hs ih => exact ih.step hs

/-- Such an actor has not stopped on behalf of its handle. -/
theorem Attended.not_left (h : w.Attended) : ¬ w.Left .signalled ∧ ¬ w.Left .actorHandlesDropped :=
  ⟨fun hl ↦ h.notSignalled (h.caused.signalled hl),
    fun hl ↦ Bool.false_ne_true ((h.caused.actorHandlesDropped hl).symm.trans h.handleAlive)⟩

/-! ### What is on the way -/

/-- The command that the actor performs. -/
def Phase.command? : Phase T → Option (ActorMessage T)
  | .operating msg => some msg
  | _ => none

/-- The items that are queued and not handed to the sink, the oldest first. -/
def onTheWay (w : WriteActor T) : List T :=
  items (w.phase.command?.toList ++ w.actorMsg.queue)

/-- **Nothing is lost in a write actor** before it leaves its loop. -/
theorem Follows.append_onTheWay (h : w.Follows l) (hover : w.isOver = false)
    (halive : w.actorMsg.receiverAlive = true) : w.sink.handed ++ w.onTheWay = l := by
  have htaken : w.sink.handed ++ items w.phase.command?.toList = items w.actorMsg.taken := by
    have htracks := h.tracks
    unfold Tracks at htracks
    unfold isOver at hover
    cases hphase : w.phase with
    | receiving =>
      rw [hphase] at htracks
      rw [← htracks]
      exact List.append_nil _
    | operating msg =>
      rw [hphase] at htracks
      rw [← htracks]
      exact congrArg _ (items_singleton msg)
    | closing _ | finished _ =>
      rw [hphase] at hover
      cases hover
  rw [onTheWay, items_append, ← List.append_assoc, htaken, ← items_append,
    w.actorMsg.taken_append_queue, h.all halive]

/-- Before an actor leaves its loop, its channel is open. -/
theorem offerRule_open : OfferRule (fun _ ↦ True) fun (w : WriteActor T) _ ↦
    w.isOver = false → w.actorMsg.receiverAlive = true where
  start _ _ := Channel.receiverAlive_offer
  step {w w' l st} h hs := by
    rcases step_cases hs with ⟨-, hphase, msg, ch, hrecv, ⟨-, rfl⟩ | ⟨-, rfl⟩⟩ |
      ⟨-, -, -, -, rfl⟩ | ⟨msg, ok, -, hphase, rfl⟩ | ⟨reason, ok, -, -, rfl⟩ | ⟨err, -, -, rfl⟩
    · exact nofun
    · refine fun _ ↦ (Channel.recv_spec hrecv).2.2.2.1.trans (h ?_)
      rw [isOver, hphase]
    · exact nofun
    · refine fun _ ↦ h ?_
      rw [isOver, hphase]
    · exact nofun
    · exact nofun
  dropHandle h := h
  shutdown h hover := Channel.receiverAlive_offer.trans (h hover)
  send _ h _ hover := Channel.receiverAlive_offer.trans (h hover)

/-! ### What an actor is fed -/

/-- What can become of an actor to which these items are offered in the meantime. -/
inductive Fed (w : WriteActor T) : List T → WriteActor T → Prop
  | refl : Fed w [] w
  | offer {w' : WriteActor T} {l : List T} (h : Fed w l w') (msg : ActorMessage T) :
      Fed w (l ++ msg.item?.toList) (w'.offer msg)
  | step {w' w'' : WriteActor T} {l : List T} {st : Step} (h : Fed w l w')
      (hs : w'.step st = some w'') : Fed w l w''
  | dropHandle {w' : WriteActor T} {l : List T} (h : Fed w l w') : Fed w l w'.dropHandle

theorem Fed.trans {w'' : WriteActor T} {l' : List T} (h : Fed w l w') (h' : Fed w' l' w'') :
    Fed w (l ++ l') w'' := by
  induction h' with
  | refl => exact (List.append_nil l).symm ▸ h
  | offer _ msg ih => exact List.append_assoc l _ _ ▸ ih.offer msg
  | step _ hs ih => exact ih.step hs
  | dropHandle _ ih => exact ih.dropHandle

theorem Fed.steps (h : Fed w l w') (sts : List Step) : Fed w l (w'.steps sts) :=
  steps_induction (I := fun v ↦ Fed w l v) (fun _ _ _ hv hs ↦ hv.step hs) h sts

theorem Fed.tracks (h : Fed w l w') (ht : w.Tracks) : w'.Tracks := by
  induction h with
  | refl => exact ht
  | offer _ msg ih => exact ih.offer msg
  | step _ hs ih => exact ih.step hs
  | dropHandle _ ih => exact ih.dropHandle

/-- Of the items that are offered, those are queued for which there is room. -/
theorem Fed.queued (h : Fed spawnActor l w) : (items w.actorMsg.sent).Sublist l := by
  induction h with
  | refl => exact List.Sublist.refl _
  | @offer w' l' _ msg ih =>
    rw [actorMsg_offer, Channel.sent_offer]
    split
    · rw [items_append, items_singleton]
      exact ih.append (List.Sublist.refl _)
    · exact ih.trans (List.sublist_append_left _ _)
  | step _ hs ih => exact sent_step hs ▸ ih
  | dropHandle _ ih => exact ih

/-- **Only what is offered is handed to the sink**, in order and not more often. -/
theorem Fed.handed (h : Fed spawnActor l w) : w.sink.handed.Sublist l :=
  (h.tracks tracks_spawnActor).handed_isPrefix.sublist.trans h.queued

end WriteActor

end NetStream
