import NetStream.Actors
import NetStream.Library.Channel

/-!
# The read actor

`read_actor.rs`: a task that forwards the items of a stream to a channel until it is signalled,
its handles are gone, the stream ends or the receiver of the items is gone.

The input stream is kept as a channel whose sender is the outside world: what has arrived is
queued there, and the stream has ended once that sender is dropped and the queue is drained.
`stream::select` may take from either source whenever both are ready, so which one is taken is the
choice of the `Step`. While the actor waits in `tx.send(item)` it looks at neither: `send` waits
for a slot, puts the item into the channel, and then waits once more until the channel is no longer
full.
-/

namespace NetStream

inductive ReadActorError
  /-- Actor cannot keep up. -/
  | channelFull
  /-- Actor no longer accepting messages. -/
  | channelClosed
  deriving DecidableEq

/-- Actor output type. -/
inductive ReadActorEvent (T : Type)
  | streamItem (item : T)

/-- Reason for actor shutdown. -/
inductive ReadActorShutdownReason
  /-- Actor was signalled to shutdown. -/
  | signalled
  /-- End of stream. -/
  | endOfStream
  /-- All actor handles were dropped. -/
  | actorHandlesDropped
  /-- Receiver closed channel. -/
  | receiverClosedChannel
  deriving DecidableEq

namespace ReadActor

inductive ActorMessage
  | shutdown
  deriving DecidableEq

/-- Where the actor waits. -/
inductive Phase (T : Type)
  /-- At `rx.next()`. -/
  | selecting
  /-- At `tx.send(item)`, before the item is in the channel. -/
  | sending (item : T)
  /-- At `tx.send(item)`, with the item in the channel. -/
  | flushing
  /-- The task is over. -/
  | finished (reason : ActorShutdown ReadActorShutdownReason)

end ReadActor

/-- A read actor: its task, the channel its handle sends to, its input, and its output, whose
channel has the given buffer. -/
structure ReadActor (txBuffer : ℕ) (T : Type) where
  actorMsg : Channel (some 8) ReadActor.ActorMessage
  /-- The stream that is read. -/
  stream : Channel none T
  tx : Channel (some txBuffer) (ReadActorEvent T)
  phase : ReadActor.Phase T

namespace ReadActor

variable {txBuffer : ℕ} {T : Type}

/-- Spawn new actor. -/
def spawnActor : ReadActor txBuffer T where
  actorMsg := .new
  stream := .new
  tx := .new
  phase := .selecting

/-! ### The handle and the other ends of the channels -/

def sendActorMessage (r : ReadActor txBuffer T) (msg : ActorMessage) :
    Except ReadActorError (ReadActor txBuffer T) :=
  match r.actorMsg.trySend msg with
  | .ok ch => .ok { r with actorMsg := ch }
  | .error .full => .error .channelFull
  | .error .disconnected => .error .channelClosed

/-- Signal actor to shutdown. -/
def signalShutdown (r : ReadActor txBuffer T) : Except ReadActorError (ReadActor txBuffer T) :=
  r.sendActorMessage .shutdown

/-- The actor after an operation of its handle whose error, if any, is only logged. -/
def logged (r : ReadActor txBuffer T) : Except ReadActorError (ReadActor txBuffer T) → ReadActor txBuffer T
  | .ok r' => r'
  | .error _ => r

/-- Drop the handle. -/
def dropHandle (r : ReadActor txBuffer T) : ReadActor txBuffer T :=
  { r with actorMsg := r.actorMsg.dropSender }

/-- An item arrives on the stream. -/
def arrive (r : ReadActor txBuffer T) (item : T) : ReadActor txBuffer T :=
  { r with stream := r.stream.push item }

/-- Nothing more will arrive on the stream. -/
def endStream (r : ReadActor txBuffer T) : ReadActor txBuffer T :=
  { r with stream := r.stream.dropSender }

/-- The receiver of the items is dropped. -/
def closeTx (r : ReadActor txBuffer T) : ReadActor txBuffer T :=
  { r with tx := r.tx.closeReceiver }

/-! ### The task -/

/-- What the actor does next. -/
inductive Step
  /-- A control message is taken. -/
  | actorMessage
  /-- The end of the control channel is taken: all actor handles have been dropped. -/
  | actorMessageEnd
  /-- An item of the stream is taken. -/
  | item
  /-- The end of the stream is taken. -/
  | streamEnd
  /-- The item goes into the channel, or the channel turns out to be closed. -/
  | send
  /-- The channel has a slot again. -/
  | flush
  /-- The task panics or is cancelled. -/
  | erratic (err : ErraticActorShutdown)
  deriving DecidableEq

/-- The end of the task drops the receiver of control messages and the sender of items. -/
def finish (r : ReadActor txBuffer T) (reason : ActorShutdown ReadActorShutdownReason) : ReadActor txBuffer T :=
  { r with
    actorMsg := r.actorMsg.closeReceiver
    tx := r.tx.dropSender
    phase := .finished reason }

/-- One step of the actor, where it is enabled. -/
def step (r : ReadActor txBuffer T) : Step → Option (ReadActor txBuffer T)
  | .actorMessage =>
    match r.phase with
    | .selecting =>
      match r.actorMsg.recv with
      | some (.shutdown, ch) => some ({ r with actorMsg := ch }.finish (.controlled .signalled))
      | none => none
    | _ => none
  | .actorMessageEnd =>
    match r.phase with
    | .selecting =>
      if r.actorMsg.queue.isEmpty && !r.actorMsg.senderAlive then
        some (r.finish (.controlled .actorHandlesDropped))
      else none
    | _ => none
  | .item =>
    match r.phase with
    | .selecting =>
      match r.stream.recv with
      | some (item, ch) => some { r with stream := ch, phase := .sending item }
      | none => none
    | _ => none
  | .streamEnd =>
    match r.phase with
    | .selecting =>
      if r.stream.queue.isEmpty && !r.stream.senderAlive then
        some (r.finish (.controlled .endOfStream))
      else none
    | _ => none
  | .send =>
    match r.phase with
    | .sending item =>
      match r.tx.trySend (.streamItem item) with
      | .ok ch => some { r with tx := ch, phase := .flushing }
      | .error .disconnected => some (r.finish (.controlled .receiverClosedChannel))
      | .error .full => none
    | _ => none
  | .flush =>
    match r.phase with
    | .flushing =>
      if r.tx.receiverAlive && r.tx.isFull then none else some { r with phase := .selecting }
    | _ => none
  | .erratic err =>
    match r.phase with
    | .finished _ => none
    | _ => some (r.finish (.erratic err))

@[simp] theorem logged_signalShutdown (r : ReadActor txBuffer T) :
    r.logged r.signalShutdown = { r with actorMsg := r.actorMsg.offer .shutdown } := by
  unfold signalShutdown sendActorMessage Channel.offer
  rcases r.actorMsg.trySend .shutdown with (_ | _) | ch <;> rfl

/-! ### What a step does -/

variable {r r' : ReadActor txBuffer T} {st : Step}

/-- **Inversion**: the step that was taken, the phase it was taken in, and the actor after it. -/
theorem step_cases (h : r.step st = some r') :
    (∃ ch, st = .actorMessage ∧ r.phase = .selecting ∧ r.actorMsg.recv = some (.shutdown, ch) ∧
      r' = { r with actorMsg := ch }.finish (.controlled .signalled)) ∨
    (st = .actorMessageEnd ∧ r.phase = .selecting ∧ r.actorMsg.queue = [] ∧
      r.actorMsg.senderAlive = false ∧ r' = r.finish (.controlled .actorHandlesDropped)) ∨
    (∃ item ch, st = .item ∧ r.phase = .selecting ∧ r.stream.recv = some (item, ch) ∧
      r' = { r with stream := ch, phase := .sending item }) ∨
    (st = .streamEnd ∧ r.phase = .selecting ∧ r.stream.queue = [] ∧
      r.stream.senderAlive = false ∧ r' = r.finish (.controlled .endOfStream)) ∨
    (∃ item, st = .send ∧ r.phase = .sending item ∧
      (r.tx.Accepts ∧ r' = { r with tx := r.tx.push (.streamItem item), phase := .flushing } ∨
        r.tx.receiverAlive = false ∧ r' = r.finish (.controlled .receiverClosedChannel))) ∨
    (st = .flush ∧ r.phase = .flushing ∧ ¬ (r.tx.receiverAlive = true ∧ r.tx.isFull = true) ∧
      r' = { r with phase := .selecting }) ∨
    (∃ err, st = .erratic err ∧ (∀ reason, r.phase ≠ .finished reason) ∧
      r' = r.finish (.erratic err)) := by
  cases st with
  | actorMessage =>
    simp only [step] at h
    split at h
    · rename_i hphase
      split at h
      · rename_i ch hrecv
        exact Or.inl ⟨ch, rfl, hphase, hrecv, (Option.some.inj h).symm⟩
      · cases h
    · cases h
  | actorMessageEnd =>
    simp only [step] at h
    split at h
    · rename_i hphase
      split at h
      · rename_i hend
        rw [Bool.and_eq_true, List.isEmpty_iff, Bool.not_eq_true'] at hend
        exact Or.inr (Or.inl ⟨rfl, hphase, hend.1, hend.2, (Option.some.inj h).symm⟩)
      · cases h
    · cases h
  | item =>
    simp only [step] at h
    split at h
    · rename_i hphase
      split at h
      · rename_i item ch hrecv
        exact Or.inr (Or.inr (Or.inl ⟨item, ch, rfl, hphase, hrecv, (Option.some.inj h).symm⟩))
      · cases h
    · cases h
  | streamEnd =>
    simp only [step] at h
    split at h
    · rename_i hphase
      split at h
      · rename_i hend
        rw [Bool.and_eq_true, List.isEmpty_iff, Bool.not_eq_true'] at hend
        exact Or.inr (Or.inr (Or.inr (Or.inl
          ⟨rfl, hphase, hend.1, hend.2, (Option.some.inj h).symm⟩)))
      · cases h
    · cases h
  | send =>
    simp only [step] at h
    split at h
    · rename_i item hphase
      refine Or.inr (Or.inr (Or.inr (Or.inr (Or.inl ⟨item, rfl, hphase, ?_⟩))))
      split at h
      · rename_i ch hsend
        obtain ⟨hacc, rfl⟩ := Channel.trySend_eq_ok_iff.1 hsend
        exact Or.inl ⟨hacc, (Option.some.inj h).symm⟩
      · rename_i hsend
        exact Or.inr ⟨Channel.trySend_eq_disconnected_iff.1 hsend, (Option.some.inj h).symm⟩
      · cases h
    · cases h
  | flush =>
    simp only [step] at h
    split at h
    · rename_i hphase
      split at h
      · cases h
      · rename_i hfull
        rw [Bool.and_eq_true] at hfull
        exact Or.inr (Or.inr (Or.inr (Or.inr (Or.inr (Or.inl
          ⟨rfl, hphase, hfull, (Option.some.inj h).symm⟩)))))
    · cases h
  | erratic err =>
    simp only [step] at h
    split at h
    · cases h
    · rename_i hphase
      exact Or.inr (Or.inr (Or.inr (Or.inr (Or.inr (Or.inr
        ⟨err, rfl, hphase, (Option.some.inj h).symm⟩)))))

/-- A task that is over does nothing more. -/
theorem not_finished_of_step (h : r.step st = some r')
    (reason : ActorShutdown ReadActorShutdownReason) : r.phase ≠ .finished reason := by
  rcases step_cases h with ⟨ch, -, hphase, -⟩ | ⟨-, hphase, -⟩ | ⟨item, ch, -, hphase, -⟩ |
    ⟨-, hphase, -⟩ | ⟨item, -, hphase, -⟩ | ⟨-, hphase, -⟩ | ⟨err, -, hphase, -⟩
  · exact fun hp ↦ nomatch hphase.symm.trans hp
  · exact fun hp ↦ nomatch hphase.symm.trans hp
  · exact fun hp ↦ nomatch hphase.symm.trans hp
  · exact fun hp ↦ nomatch hphase.symm.trans hp
  · exact fun hp ↦ nomatch hphase.symm.trans hp
  · exact fun hp ↦ nomatch hphase.symm.trans hp
  · exact hphase reason

/-- What has been sent on stays sent. -/
theorem sent_subset_of_step (h : r.step st = some r') {ev : ReadActorEvent T}
    (hev : ev ∈ r.tx.sent) : ev ∈ r'.tx.sent := by
  rcases step_cases h with ⟨ch, -, -, -, rfl⟩ | ⟨-, -, -, -, rfl⟩ | ⟨item, ch, -, -, -, rfl⟩ |
    ⟨-, -, -, -, rfl⟩ | ⟨item, -, -, ⟨-, rfl⟩ | ⟨-, rfl⟩⟩ | ⟨-, -, -, rfl⟩ | ⟨err, -, -, rfl⟩
  · exact hev
  · exact hev
  · exact hev
  · exact hev
  · exact List.mem_append_left _ hev
  · exact hev
  · exact hev
  · exact hev

/-- The stream is only taken from. -/
theorem stream_sent_step (h : r.step st = some r') : r'.stream.sent = r.stream.sent := by
  rcases step_cases h with ⟨ch, -, -, -, rfl⟩ | ⟨-, -, -, -, rfl⟩ | ⟨item, ch, -, -, hrecv, rfl⟩ |
    ⟨-, -, -, -, rfl⟩ | ⟨item, -, -, ⟨-, rfl⟩ | ⟨-, rfl⟩⟩ | ⟨-, -, -, rfl⟩ | ⟨err, -, -, rfl⟩
  · rfl
  · rfl
  · exact (Channel.recv_spec hrecv).2.2.1
  all_goals rfl

/-- Nor does the task end the stream. -/
theorem streamAlive_of_step (h : r.step st = some r') :
    r'.stream.senderAlive = r.stream.senderAlive := by
  rcases step_cases h with ⟨ch, -, -, -, rfl⟩ | ⟨-, -, -, -, rfl⟩ | ⟨item, ch, -, -, hrecv, rfl⟩ |
    ⟨-, -, -, -, rfl⟩ | ⟨item, -, -, ⟨-, rfl⟩ | ⟨-, rfl⟩⟩ | ⟨-, -, -, rfl⟩ | ⟨err, -, -, rfl⟩
  · rfl
  · rfl
  · exact (Channel.recv_spec hrecv).2.2.2.2
  all_goals rfl

/-- Nor does it take from its output. -/
theorem taken_of_step (h : r.step st = some r') : r'.tx.taken = r.tx.taken := by
  rcases step_cases h with ⟨ch, -, -, -, rfl⟩ | ⟨-, -, -, -, rfl⟩ | ⟨item, ch, -, -, -, rfl⟩ |
    ⟨-, -, -, -, rfl⟩ | ⟨item, -, -, ⟨-, rfl⟩ | ⟨-, rfl⟩⟩ | ⟨-, -, -, rfl⟩ | ⟨err, -, -, rfl⟩
  · rfl
  · rfl
  · rfl
  · rfl
  · exact Channel.taken_push
  all_goals rfl

/-! ### The output follows the stream -/

/-- The items taken from the stream were sent on, in order: all of them while the loop runs, up to
the one that waits for a slot, and an initial part once it has ended. -/
def Tracks (r : ReadActor txBuffer T) : Prop :=
  match r.phase with
  | .selecting => r.tx.sent = r.stream.taken.map .streamItem
  | .sending item => r.tx.sent ++ [.streamItem item] = r.stream.taken.map .streamItem
  | .flushing => r.tx.sent = r.stream.taken.map .streamItem
  | .finished _ => r.tx.sent <+: r.stream.taken.map .streamItem

theorem tracks_spawnActor : (spawnActor : ReadActor txBuffer T).Tracks :=
  rfl

/-- **What was sent on is an initial part of what was taken.** -/
theorem Tracks.sent_isPrefix (h : r.Tracks) : r.tx.sent <+: r.stream.taken.map .streamItem := by
  unfold Tracks at h
  split at h
  · exact h ▸ List.prefix_rfl
  · rw [← h]
    exact List.prefix_append _ _
  · exact h ▸ List.prefix_rfl
  · exact h

/-- An item that was sent on had arrived. -/
theorem Tracks.mem_stream (h : r.Tracks) {item : T} (hitem : .streamItem item ∈ r.tx.sent) :
    item ∈ r.stream.sent := by
  obtain ⟨item', hmem, heq⟩ := List.mem_map.1 (h.sent_isPrefix.subset hitem)
  obtain rfl := ReadActorEvent.streamItem.inj heq
  exact List.mem_of_mem_take hmem

theorem Tracks.of_eq (h : r.Tracks) (hphase : r'.phase = r.phase) (hsent : r'.tx.sent = r.tx.sent)
    (htaken : r'.stream.taken = r.stream.taken) : r'.Tracks := by
  unfold Tracks at h ⊢
  rwa [hphase, hsent, htaken]

theorem Tracks.arrive (h : r.Tracks) (item : T) : (r.arrive item).Tracks :=
  h.of_eq rfl rfl Channel.taken_push

theorem Tracks.step (h : r.Tracks) (hs : r.step st = some r') : r'.Tracks := by
  have hp := h.sent_isPrefix
  rcases step_cases hs with ⟨ch, -, -, -, rfl⟩ | ⟨-, -, -, -, rfl⟩ | ⟨item, ch, -, hphase, hrecv, rfl⟩ |
    ⟨-, -, -, -, rfl⟩ | ⟨item, -, hphase, ⟨-, rfl⟩ | ⟨-, rfl⟩⟩ | ⟨-, hphase, -, rfl⟩ | ⟨err, -, -, rfl⟩
  · exact hp
  · exact hp
  · have htaken := (Channel.recv_spec hrecv).2.1
    unfold Tracks at h
    rw [hphase] at h
    show r.tx.sent ++ [.streamItem item] = ch.taken.map .streamItem
    rw [htaken, List.map_append, ← h]
    rfl
  · exact hp
  · unfold Tracks at h
    rw [hphase] at h
    exact h
  · exact hp
  · unfold Tracks at h
    rw [hphase] at h
    exact h
  · exact hp

/-! ### Why the task ended -/

/-- Each controlled reason for the end of the task has its cause, which stays. -/
structure Caused (r : ReadActor txBuffer T) : Prop where
  signalled : r.phase = .finished (.controlled .signalled) → .shutdown ∈ r.actorMsg.sent
  /-- At the end of the stream everything that arrived was sent on. -/
  endOfStream : r.phase = .finished (.controlled .endOfStream) →
    r.tx.sent = r.stream.sent.map .streamItem ∧ r.stream.senderAlive = false
  actorHandlesDropped : r.phase = .finished (.controlled .actorHandlesDropped) →
    r.actorMsg.senderAlive = false
  receiverClosedChannel : r.phase = .finished (.controlled .receiverClosedChannel) →
    r.tx.receiverAlive = false

theorem caused_spawnActor : (spawnActor : ReadActor txBuffer T).Caused where
  signalled h := by cases h
  endOfStream h := by cases h
  actorHandlesDropped h := by cases h
  receiverClosedChannel h := by cases h

/-- An actor that has not ended for a controlled reason has none to account for. -/
theorem Caused.of_running (h : ∀ reason, r.phase ≠ .finished (.controlled reason)) : r.Caused where
  signalled hp := absurd hp (h _)
  endOfStream hp := absurd hp (h _)
  actorHandlesDropped hp := absurd hp (h _)
  receiverClosedChannel hp := absurd hp (h _)

theorem Caused.signalShutdown (h : r.Caused) :
    Caused { r with actorMsg := r.actorMsg.offer .shutdown } where
  signalled hp := by
    show .shutdown ∈ (r.actorMsg.offer .shutdown).sent
    rw [Channel.sent_offer]
    split
    · exact List.mem_append_left _ (h.signalled hp)
    · exact h.signalled hp
  endOfStream := h.endOfStream
  actorHandlesDropped hp := Channel.senderAlive_offer.trans (h.actorHandlesDropped hp)
  receiverClosedChannel := h.receiverClosedChannel

theorem Caused.dropHandle (h : r.Caused) : r.dropHandle.Caused where
  signalled := h.signalled
  endOfStream := h.endOfStream
  actorHandlesDropped _ := rfl
  receiverClosedChannel := h.receiverClosedChannel

theorem Caused.closeTx (h : r.Caused) : r.closeTx.Caused where
  signalled := h.signalled
  endOfStream := h.endOfStream
  actorHandlesDropped := h.actorHandlesDropped
  receiverClosedChannel _ := rfl

/-- An item is taken from the output. -/
theorem Caused.recv (h : r.Caused) {ev : ReadActorEvent T} {ch : Channel (some txBuffer) _}
    (hrecv : r.tx.recv = some (ev, ch)) : Caused { r with tx := ch } where
  signalled := h.signalled
  endOfStream hp := (Channel.recv_spec hrecv).2.2.1 ▸ h.endOfStream hp
  actorHandlesDropped := h.actorHandlesDropped
  receiverClosedChannel hp :=
    (Channel.recv_spec hrecv).2.2.2.1.trans (h.receiverClosedChannel hp)

theorem Caused.arrive (h : r.Caused) (halive : r.stream.senderAlive = true) (item : T) :
    (r.arrive item).Caused where
  signalled := h.signalled
  endOfStream hp := absurd (halive.symm.trans (h.endOfStream hp).2) Bool.noConfusion
  actorHandlesDropped := h.actorHandlesDropped
  receiverClosedChannel := h.receiverClosedChannel

theorem Caused.endStream (h : r.Caused) : r.endStream.Caused where
  signalled := h.signalled
  endOfStream hp := ⟨(h.endOfStream hp).1, rfl⟩
  actorHandlesDropped := h.actorHandlesDropped
  receiverClosedChannel := h.receiverClosedChannel

/-- A task that ends has a cause for it then. -/
theorem Caused.step (ht : r.Tracks) (hs : r.step st = some r') : r'.Caused := by
  rcases step_cases hs with ⟨ch, -, -, hrecv, rfl⟩ | ⟨-, -, -, hdropped, rfl⟩ |
    ⟨item, ch, -, -, -, rfl⟩ | ⟨-, hphase, hqueue, hended, rfl⟩ |
    ⟨item, -, -, ⟨-, rfl⟩ | ⟨hclosed, rfl⟩⟩ | ⟨-, -, -, rfl⟩ | ⟨err, -, -, rfl⟩
  · have hmem : .shutdown ∈ ch.sent := by
      obtain ⟨-, htaken, hsent, -⟩ := Channel.recv_spec hrecv
      rw [hsent, ← Channel.taken_append_queue, (Channel.recv_spec hrecv).1]
      exact List.mem_append_right _ List.mem_cons_self
    exact ⟨fun _ ↦ hmem, fun hp ↦ (by cases hp), fun hp ↦ (by cases hp), fun hp ↦ (by cases hp)⟩
  · exact ⟨fun hp ↦ (by cases hp), fun hp ↦ (by cases hp), fun _ ↦ hdropped, fun hp ↦ (by cases hp)⟩
  · exact .of_running fun _ ↦ nofun
  · have hall : r.tx.sent = r.stream.sent.map .streamItem := by
      unfold Tracks at ht
      rw [hphase] at ht
      rw [ht, ← Channel.taken_append_queue, hqueue, List.append_nil]
    exact ⟨fun hp ↦ (by cases hp), fun _ ↦ ⟨hall, hended⟩, fun hp ↦ (by cases hp),
      fun hp ↦ (by cases hp)⟩
  · exact .of_running fun _ ↦ nofun
  · exact ⟨fun hp ↦ (by cases hp), fun hp ↦ (by cases hp), fun hp ↦ (by cases hp), fun _ ↦ hclosed⟩
  · exact .of_running fun _ ↦ nofun
  · exact .of_running fun _ ↦ nofun

/-- The input is read and sent on as it should be, and the end of the task has its cause. -/
structure Sound (r : ReadActor txBuffer T) : Prop where
  tracks : r.Tracks
  caused : r.Caused

theorem sound_spawnActor : (spawnActor : ReadActor txBuffer T).Sound :=
  ⟨tracks_spawnActor, caused_spawnActor⟩

theorem Sound.step (h : r.Sound) (hs : r.step st = some r') : r'.Sound :=
  ⟨h.tracks.step hs, .step h.tracks hs⟩

/-! ### Actors that are left to work -/

/-- The handle has given no shutdown signal and is there, and so is the receiver of the items. -/
structure Attended (r : ReadActor txBuffer T) : Prop where
  notSignalled : .shutdown ∉ r.actorMsg.sent
  handleAlive : r.actorMsg.senderAlive = true
  receiverAlive : r.tx.receiverAlive = true

theorem attended_spawnActor : (spawnActor : ReadActor txBuffer T).Attended where
  notSignalled := List.not_mem_nil
  handleAlive := rfl
  receiverAlive := rfl

/-- The task itself does nothing about it. -/
theorem Attended.step (h : r.Attended) (hs : r.step st = some r') : r'.Attended := by
  rcases step_cases hs with ⟨ch, -, -, hrecv, rfl⟩ | ⟨-, -, -, -, rfl⟩ | ⟨item, ch, -, -, -, rfl⟩ |
    ⟨-, -, -, -, rfl⟩ | ⟨item, -, -, ⟨-, rfl⟩ | ⟨-, rfl⟩⟩ | ⟨-, -, -, rfl⟩ | ⟨err, -, -, rfl⟩
  · obtain ⟨-, -, hsent, -, halive⟩ := Channel.recv_spec hrecv
    refine ⟨?_, halive.trans h.handleAlive, h.receiverAlive⟩
    show .shutdown ∉ ch.sent
    rw [hsent]
    exact h.notSignalled
  all_goals exact ⟨h.notSignalled, h.handleAlive, h.receiverAlive⟩

/-- **It can only have ended by itself**, at the end of the stream. -/
theorem Attended.reason_eq (h : r.Attended) (hc : r.Caused) {reason : ReadActorShutdownReason}
    (hp : r.phase = .finished (.controlled reason)) : reason = .endOfStream := by
  cases reason with
  | signalled => exact absurd (hc.signalled hp) h.notSignalled
  | endOfStream => rfl
  | actorHandlesDropped =>
    exact absurd (h.handleAlive.symm.trans (hc.actorHandlesDropped hp)) Bool.noConfusion
  | receiverClosedChannel =>
    exact absurd (h.receiverAlive.symm.trans (hc.receiverClosedChannel hp)) Bool.noConfusion

/-! ### What has come out, and what is on the way -/

variable {items : List T}

/-- These items have come out of a read actor. -/
structure Yields (r : ReadActor txBuffer T) (items : List T) : Prop where
  tracks : r.Tracks
  taken : r.tx.taken = items.map .streamItem

theorem yields_spawnActor : (spawnActor : ReadActor txBuffer T).Yields [] :=
  ⟨tracks_spawnActor, rfl⟩

/-- The task has not moved, and nothing was taken. -/
structure Unmoved (r r' : ReadActor txBuffer T) : Prop where
  phase : r'.phase = r.phase
  stream : r'.stream.taken = r.stream.taken
  sent : r'.tx.sent = r.tx.sent
  taken : r'.tx.taken = r.tx.taken
  arrived : r'.stream.sent = r.stream.sent

theorem unmoved_self (r : ReadActor txBuffer T) : Unmoved r r :=
  ⟨rfl, rfl, rfl, rfl, rfl⟩

theorem unmoved_drop (r : ReadActor txBuffer T) : Unmoved r r.dropHandle.closeTx :=
  ⟨rfl, rfl, rfl, rfl, rfl⟩

namespace Yields

theorem unmoved (h : r.Yields items) (hr : Unmoved r r') : r'.Yields items :=
  ⟨h.tracks.of_eq hr.phase hr.sent hr.stream, hr.taken.trans h.taken⟩

theorem step {st : Step} (h : r.Yields items) (hs : r.step st = some r') : r'.Yields items :=
  ⟨h.tracks.step hs, (taken_of_step hs).trans h.taken⟩

theorem arrive (h : r.Yields items) (item : T) : (r.arrive item).Yields items :=
  ⟨h.tracks.arrive item, h.taken⟩

theorem recv (h : r.Yields items) {item : T} {ch : Channel (some txBuffer) (ReadActorEvent T)}
    (hrecv : r.tx.recv = some (.streamItem item, ch)) :
    ({ r with tx := ch } : ReadActor txBuffer T).Yields (items ++ [item]) := by
  obtain ⟨-, htaken, hsent, -, -⟩ := Channel.recv_spec hrecv
  refine ⟨h.tracks.of_eq rfl hsent rfl, ?_⟩
  rw [List.map_append, ← h.taken]
  exact htaken

/-- **What comes out has arrived**, in this order and without a gap. -/
theorem isPrefix (h : r.Yields items) : items <+: r.stream.sent := by
  have htaken : r.tx.taken <+: r.tx.sent := List.take_prefix _ _
  have hstream : r.stream.taken <+: r.stream.sent := List.take_prefix _ _
  rw [h.taken] at htaken
  obtain ⟨l, hl, heq⟩ := List.prefix_map_iff.1
    ((htaken.trans h.tracks.sent_isPrefix).trans (hstream.map _))
  obtain rfl := List.map_injective_iff.2 (fun _ _ ↦ ReadActorEvent.streamItem.inj) heq
  exact hl

end Yields

/-- The item of an event. -/
def itemOf : ReadActorEvent T → T
  | .streamItem item => item

/-- The item that the actor is about to send. -/
def Phase.item? : Phase T → Option T
  | .sending item => some item
  | _ => none

/-- The items that have arrived and not come out, the oldest first. -/
def onTheWay (r : ReadActor txBuffer T) : List T :=
  r.tx.queue.map itemOf ++ r.phase.item?.toList ++ r.stream.queue

/-- **Nothing is lost in a read actor** as long as it runs. -/
theorem Yields.append_onTheWay (h : r.Yields items) (hrunning : ∀ reason, r.phase ≠ .finished reason) :
    items ++ r.onTheWay = r.stream.sent := by
  have hsent : r.tx.sent.map itemOf ++ r.phase.item?.toList = r.stream.taken := by
    have hitems : ∀ l : List T, (l.map ReadActorEvent.streamItem).map itemOf = l := fun l ↦ by
      rw [List.map_map]
      exact List.map_id l
    have htracks := h.tracks
    unfold Tracks at htracks
    split at htracks
    · rename_i hphase
      rw [htracks, hitems, hphase]
      exact List.append_nil _
    · rename_i item hphase
      rw [← hitems r.stream.taken, ← htracks, hphase, List.map_append]
      rfl
    · rename_i hphase
      rw [htracks, hitems, hphase]
      exact List.append_nil _
    · rename_i reason hphase
      exact absurd hphase (hrunning reason)
  have htaken : r.tx.taken.map itemOf = items := by
    rw [h.taken, List.map_map]
    exact List.map_id items
  rw [← r.stream.taken_append_queue, ← hsent, ← r.tx.taken_append_queue, List.map_append, htaken]
  simp only [onTheWay, List.append_assoc]

end ReadActor

end NetStream
