import NetStream.Actors.ReadActor
import NetStream.Library.TransitionSystem

/-!
# The loop of the read actor

`actor` of `read_actor.rs` by itself, as a system: items arrive on its stream and the stream may end,
its handles signal and are dropped, the receiver of the items takes them and goes away, all at any
point.

`stream::select` merges the control channel and the stream, each with its own end marker behind it.
What it has yielded is read off the history (`received`): an order-preserving merge of initial parts
of the two sources, since the loop takes the next element of either (`Reads.merge`). Both end markers
leave the loop, so at `rx.next()` none of them has been yielded, and `select` has not ended
(`Reads.neverNone`).
-/

namespace NetStream.ReadActor

variable {txBuffer : ℕ} {T : Type}

inductive Kind
  | actorMessage
  | stream
  deriving DecidableEq

/-- What `stream::select` yields. -/
inductive Received (T : Type)
  | actorMessage (msg : ActorMessage)
  | streamItem (item : T)
  | endOfStream (kind : Kind)

/-- What happens to a read actor. -/
inductive Action (T : Type)
  /-- A shutdown signal of a handle is accepted. -/
  | signal
  /-- The last handle is dropped. -/
  | dropHandles
  /-- An item arrives on the stream. -/
  | arrive (item : T)
  /-- Nothing more will arrive on the stream. -/
  | endStream
  /-- The receiver of the items takes one. -/
  | take
  /-- The receiver of the items is dropped. -/
  | closeTx
  | task (st : Step)

/-- The actor after an action, where it is enabled. -/
def act (r : ReadActor txBuffer T) : Action T → Option (ReadActor txBuffer T)
  | .signal =>
    if r.actorMsg.senderAlive && r.actorMsg.receiverAlive then
      some { r with actorMsg := r.actorMsg.push .shutdown }
    else none
  | .dropHandles => some r.dropHandle
  | .arrive item => if r.stream.senderAlive then some (r.arrive item) else none
  | .endStream => some r.endStream
  | .take => r.tx.recv.map fun x ↦ { r with tx := x.2 }
  | .closeTx => some r.closeTx
  | .task st => r.step st

/-- A read actor, its handles, its stream and its receiver. -/
def system (txBuffer : ℕ) (T : Type) :
    TransitionSystem (ReadActor txBuffer T) (Action T) where
  init r := r = spawnActor
  step := act

/-- A run of a read actor, with its history. -/
abbrev Run (hist : List (ReadActor txBuffer T × Action T)) (r : ReadActor txBuffer T) : Prop :=
  (system txBuffer T).Run hist r

/-! ### What `select` yields -/

/-- The source that yields it. -/
def Received.source : Received T → Kind
  | .actorMessage _ => .actorMessage
  | .streamItem _ => .stream
  | .endOfStream kind => kind

/-- What a step receives from `select`. -/
def received? (r : ReadActor txBuffer T) : Step → Option (Received T)
  | .actorMessage => r.actorMsg.recv.map fun x ↦ .actorMessage x.1
  | .actorMessageEnd => some (.endOfStream .actorMessage)
  | .item => r.stream.recv.map fun x ↦ .streamItem x.1
  | .streamEnd => some (.endOfStream .stream)
  | .send | .flush | .erratic _ => none

def Action.task? : Action T → Option Step
  | .task st => some st
  | _ => none

/-- All that was received from `select`, in order. -/
def received (hist : List (ReadActor txBuffer T × Action T)) : List (Received T) :=
  hist.filterMap fun x ↦ x.2.task?.bind x.1.received?

theorem received_append_singleton (hist : List (ReadActor txBuffer T × Action T))
    (r : ReadActor txBuffer T) (a : Action T) :
    received (hist ++ [(r, a)]) = received hist ++ (a.task?.bind r.received?).toList :=
  List.filterMap_append_singleton _ hist (r, a)

/-- A source of `select`: what it has to yield, and behind it the end marker if it has ended. -/
def source (r : ReadActor txBuffer T) : Kind → List (Received T)
  | .actorMessage => r.actorMsg.sent.map .actorMessage ++
      if r.actorMsg.senderAlive then [] else [.endOfStream .actorMessage]
  | .stream => r.stream.sent.map .streamItem ++
      if r.stream.senderAlive then [] else [.endOfStream .stream]

/-- What has been taken of a source before its end marker. -/
def takenFrom (r : ReadActor txBuffer T) : Kind → List (Received T)
  | .actorMessage => r.actorMsg.taken.map .actorMessage
  | .stream => r.stream.taken.map .streamItem

/-- `select` has ended: it has yielded the end markers of both sources. -/
def Exhausted (l : List (Received T)) : Prop :=
  ∀ kind, .endOfStream kind ∈ l

/-- The task has ended. -/
def isFinished (r : ReadActor txBuffer T) : Bool :=
  match r.phase with
  | .selecting | .sending _ | .flushing => false
  | .finished _ => true

variable {r r' : ReadActor txBuffer T} {st : Step}

theorem takenFrom_isPrefix (r : ReadActor txBuffer T) (kind : Kind) :
    r.takenFrom kind <+: r.source kind := by
  cases kind with
  | actorMessage =>
    have hsent : r.actorMsg.taken <+: r.actorMsg.sent := List.take_prefix _ _
    exact (hsent.map _).trans (List.prefix_append _ _)
  | stream =>
    have hsent : r.stream.taken <+: r.stream.sent := List.take_prefix _ _
    exact (hsent.map _).trans (List.prefix_append _ _)

theorem endOfStream_notMem_takenFrom (r : ReadActor txBuffer T) (kind kind' : Kind) :
    .endOfStream kind' ∉ r.takenFrom kind := by
  intro hmem
  cases kind with
  | actorMessage | stream =>
    obtain ⟨x, -, hx⟩ := List.mem_map.1 hmem
    cases hx

/-! ### What happens beside the task -/

/-- The task does not move. -/
structure Beside (r r' : ReadActor txBuffer T) : Prop where
  phase : r'.phase = r.phase
  sent : r'.tx.sent = r.tx.sent
  takenFrom : ∀ kind, r'.takenFrom kind = r.takenFrom kind
  source : ∀ kind, r.source kind <+: r'.source kind
  sound : r.Sound → r'.Sound

/-- A source that is still open is extended, or ended. -/
theorem source_isPrefix {α : Type} {l l' : List α} {f : α → Received T} {marker : Received T}
    {alive alive' : Bool} (hl : l <+: l') (halive : alive = false → l' = l ∧ alive' = false) :
    (l.map f ++ if alive then [] else [marker]) <+:
      l'.map f ++ if alive' then [] else [marker] := by
  cases alive with
  | true =>
    rw [if_pos rfl, List.append_nil]
    exact (hl.map f).trans (List.prefix_append _ _)
  | false =>
    obtain ⟨rfl, rfl⟩ := halive rfl
    exact List.prefix_rfl

/-- The action is a step of the task, or leaves it where it is. -/
theorem act_cases {a : Action T} (h : r.act a = some r') :
    (∃ st, a = .task st ∧ r.step st = some r') ∨ (a.task? = none ∧ Beside r r') := by
  cases a with
  | task st => exact Or.inl ⟨st, rfl, h⟩
  | signal =>
    simp only [act] at h
    split at h
    · rename_i halive
      obtain rfl := Option.some.inj h
      rw [Bool.and_eq_true] at halive
      have htaken : (r.actorMsg.push .shutdown).taken = r.actorMsg.taken := Channel.taken_push
      refine Or.inr ⟨rfl, rfl, rfl, fun kind ↦ ?_, fun kind ↦ ?_, fun hs ↦ ⟨hs.tracks, ?_⟩⟩
      · cases kind with
        | actorMessage => exact congrArg (List.map _) htaken
        | stream => rfl
      · cases kind with
        | actorMessage =>
          exact source_isPrefix (List.prefix_append _ _) fun hdropped ↦
            absurd (halive.1.symm.trans hdropped) Bool.noConfusion
        | stream => exact List.prefix_rfl
      · exact ⟨fun hp ↦ List.mem_append_left _ (hs.caused.signalled hp), hs.caused.endOfStream,
          hs.caused.actorHandlesDropped, hs.caused.receiverClosedChannel⟩
    · cases h
  | dropHandles =>
    obtain rfl := Option.some.inj h
    refine Or.inr ⟨rfl, rfl, rfl, fun kind ↦ ?_, fun kind ↦ ?_, fun hs ↦
      ⟨hs.tracks, hs.caused.dropHandle⟩⟩
    · cases kind <;> rfl
    · cases kind with
      | actorMessage => exact source_isPrefix List.prefix_rfl fun _ ↦ ⟨rfl, rfl⟩
      | stream => exact List.prefix_rfl
  | arrive item =>
    simp only [act] at h
    split at h
    · rename_i halive
      obtain rfl := Option.some.inj h
      have htaken : (r.stream.push item).taken = r.stream.taken := Channel.taken_push
      refine Or.inr ⟨rfl, rfl, rfl, fun kind ↦ ?_, fun kind ↦ ?_, fun hs ↦
        ⟨hs.tracks.arrive item, hs.caused.arrive halive item⟩⟩
      · cases kind with
        | actorMessage => rfl
        | stream => exact congrArg (List.map _) htaken
      · cases kind with
        | actorMessage => exact List.prefix_rfl
        | stream =>
          exact source_isPrefix (List.prefix_append _ _) fun hended ↦
            absurd (halive.symm.trans hended) Bool.noConfusion
    · cases h
  | endStream =>
    obtain rfl := Option.some.inj h
    refine Or.inr ⟨rfl, rfl, rfl, fun kind ↦ ?_, fun kind ↦ ?_, fun hs ↦
      ⟨hs.tracks.of_eq rfl rfl rfl, hs.caused.endStream⟩⟩
    · cases kind <;> rfl
    · cases kind with
      | actorMessage => exact List.prefix_rfl
      | stream => exact source_isPrefix List.prefix_rfl fun _ ↦ ⟨rfl, rfl⟩
  | take =>
    obtain ⟨x, hx, rfl⟩ := Option.map_eq_some_iff.1 h
    have hsent := (Channel.recv_spec hx).2.2.1
    refine Or.inr ⟨rfl, rfl, hsent, fun kind ↦ ?_, fun kind ↦ ?_, fun hs ↦
      ⟨hs.tracks.of_eq rfl hsent rfl, hs.caused.recv hx⟩⟩
    · cases kind <;> rfl
    · cases kind <;> exact List.prefix_rfl
  | closeTx =>
    obtain rfl := Option.some.inj h
    refine Or.inr ⟨rfl, rfl, rfl, fun kind ↦ ?_, fun kind ↦ ?_, fun hs ↦
      ⟨hs.tracks.of_eq rfl rfl rfl, hs.caused.closeTx⟩⟩
    · cases kind <;> rfl
    · cases kind <;> exact List.prefix_rfl

/-! ### What the task does to the sources -/

/-- The task neither adds to the sources nor ends them. -/
theorem source_of_step (h : r.step st = some r') (kind : Kind) : r'.source kind = r.source kind := by
  have hstream := stream_sent_step h
  have halive := streamAlive_of_step h
  have hcontrol : r'.actorMsg.sent = r.actorMsg.sent ∧
      r'.actorMsg.senderAlive = r.actorMsg.senderAlive := by
    rcases step_cases h with ⟨ch, -, -, hrecv, rfl⟩ | ⟨-, -, -, -, rfl⟩ | ⟨item, ch, -, -, -, rfl⟩ |
      ⟨-, -, -, -, rfl⟩ | ⟨item, -, -, ⟨-, rfl⟩ | ⟨-, rfl⟩⟩ | ⟨-, -, -, rfl⟩ | ⟨err, -, -, rfl⟩
    · exact ⟨(Channel.recv_spec hrecv).2.2.1, (Channel.recv_spec hrecv).2.2.2.2⟩
    all_goals exact ⟨rfl, rfl⟩
  cases kind with
  | actorMessage => simp only [source, hcontrol.1, hcontrol.2]
  | stream => simp only [source, hstream, halive]

/-- The head of a queue is the next element of its source. -/
theorem head_isPrefix {α : Type} {buffer : Option ℕ} {c : Channel buffer α} {x : α} {rest : List α}
    (hqueue : c.queue = x :: rest) (f : α → Received T) (l : List (Received T)) :
    c.taken.map f ++ [f x] <+: c.sent.map f ++ l := by
  rw [← c.taken_append_queue, hqueue, List.map_append, List.append_assoc]
  exact (List.prefix_append_right_inj _).2 (List.prefix_append [_] _)

/-- Its end marker is, once the queue is drained and nothing more will come. -/
theorem marker_isPrefix {α : Type} {buffer : Option ℕ} {c : Channel buffer α}
    (hqueue : c.queue = []) (hended : c.senderAlive = false) (f : α → Received T)
    (marker : Received T) : c.taken.map f ++ [marker] <+:
      c.sent.map f ++ if c.senderAlive then [] else [marker] := by
  have hall : c.sent = c.taken := by
    rw [← c.taken_append_queue, hqueue, List.append_nil]
  have heq : (c.sent.map f ++ if c.senderAlive then [] else [marker]) = c.taken.map f ++ [marker] := by
    simp [hended, hall]
  exact heq ▸ List.prefix_rfl

/-- What was received goes with the sources: while the task runs it is what was taken of them, and
always an initial part of each. -/
structure Merges (r : ReadActor txBuffer T) (l : List (Received T)) : Prop where
  running : r.isFinished = false → ∀ kind, l.filter (·.source = kind) = r.takenFrom kind
  merge : ∀ kind, l.filter (·.source = kind) <+: r.source kind

variable {l : List (Received T)}

theorem merges_spawnActor : (spawnActor : ReadActor txBuffer T).Merges [] where
  running _ kind := by cases kind <;> rfl
  merge _ := List.nil_prefix

theorem Merges.beside (h : r.Merges l) (hb : Beside r r') : r'.Merges l where
  running hrun kind := by
    rw [hb.takenFrom]
    refine h.running ?_ kind
    rwa [isFinished, hb.phase] at hrun
  merge kind := (h.merge kind).trans (hb.source kind)

theorem not_finished_of_phase {ph : Phase T} (h : r.phase = ph)
    (hne : ∀ reason, ph ≠ .finished reason) : r.isFinished = false := by
  unfold isFinished
  rw [h]
  cases ph with
  | finished reason => exact absurd rfl (hne reason)
  | selecting | sending _ | flushing => rfl

/-- An element is received that is the next of its source. -/
theorem filter_append_singleton (hl : ∀ kind, l.filter (·.source = kind) = r.takenFrom kind)
    (x : Received T) (kind : Kind) : (l ++ [x]).filter (·.source = kind) =
      r.takenFrom kind ++ if x.source = kind then [x] else [] := by
  rw [List.filter_append, hl]
  by_cases hx : x.source = kind <;> simp [hx]

theorem Merges.step (h : r.Merges l) (hs : r.step st = some r') :
    r'.Merges (l ++ (r.received? st).toList) := by
  have hsource := source_of_step hs
  have hmerge : r.isFinished = false → ∀ (x : Received T),
      (r.takenFrom x.source ++ [x] <+: r.source x.source) → ∀ kind,
        (l ++ [x]).filter (·.source = kind) <+: r'.source kind := by
    intro hrun x hx kind
    rw [filter_append_singleton (h.running hrun), hsource]
    split
    · rename_i heq
      exact heq ▸ hx
    · rw [List.append_nil]
      exact r.takenFrom_isPrefix kind
  have hquiet : (∀ kind, r'.takenFrom kind = r.takenFrom kind) → r.isFinished = false →
      r'.Merges (l ++ []) := by
    intro htaken hrun
    rw [List.append_nil]
    exact ⟨fun _ kind ↦ (h.running hrun kind).trans (htaken kind).symm,
      fun kind ↦ hsource kind ▸ h.merge kind⟩
  rcases step_cases hs with ⟨ch, rfl, hphase, hrecv, rfl⟩ | ⟨rfl, hphase, hqueue, hdropped, rfl⟩ |
    ⟨item, ch, rfl, hphase, hrecv, rfl⟩ | ⟨rfl, hphase, hqueue, hended, rfl⟩ |
    ⟨item, rfl, hphase, ⟨-, rfl⟩ | ⟨-, rfl⟩⟩ | ⟨rfl, hphase, -, rfl⟩ | ⟨err, rfl, hphase, rfl⟩
  · have hrun := not_finished_of_phase hphase nofun
    rw [received?, hrecv]
    exact ⟨nofun, hmerge hrun (.actorMessage .shutdown)
      (head_isPrefix (Channel.recv_spec hrecv).1 Received.actorMessage _)⟩
  · have hrun := not_finished_of_phase hphase nofun
    exact ⟨nofun, hmerge hrun (.endOfStream .actorMessage)
      (marker_isPrefix hqueue hdropped Received.actorMessage _)⟩
  · have hrun := not_finished_of_phase hphase nofun
    obtain ⟨hqueue, htaken, -⟩ := Channel.recv_spec hrecv
    rw [received?, hrecv]
    refine ⟨fun _ kind ↦ ?_, hmerge hrun (.streamItem item)
      (head_isPrefix hqueue Received.streamItem _)⟩
    refine (filter_append_singleton (h.running hrun) (.streamItem item) kind).trans ?_
    cases kind with
    | actorMessage => exact List.append_nil _
    | stream =>
      show r.stream.taken.map Received.streamItem ++ [Received.streamItem item] =
        ch.taken.map Received.streamItem
      rw [htaken, List.map_append, List.map_singleton]
  · have hrun := not_finished_of_phase hphase nofun
    exact ⟨nofun, hmerge hrun (.endOfStream .stream)
      (marker_isPrefix hqueue hended Received.streamItem _)⟩
  · exact hquiet (fun kind ↦ by cases kind <;> rfl) (not_finished_of_phase hphase nofun)
  · exact hquiet (fun kind ↦ by cases kind <;> rfl) (not_finished_of_phase hphase nofun)
  · exact hquiet (fun kind ↦ by cases kind <;> rfl) (not_finished_of_phase hphase nofun)
  · exact hquiet (fun kind ↦ by cases kind <;> rfl) (not_finished_of_phase rfl hphase)

/-- While the task runs, no end marker has been received. -/
theorem Merges.endOfStream_notMem (h : r.Merges l) (hrun : r.isFinished = false) (kind : Kind) :
    .endOfStream kind ∉ l := by
  intro hmem
  have hfilter : .endOfStream kind ∈ l.filter (·.source = kind) :=
    List.mem_filter.2 ⟨hmem, decide_eq_true rfl⟩
  rw [h.running hrun kind] at hfilter
  exact r.endOfStream_notMem_takenFrom kind kind hfilter

/-! ### Runs -/

/-- A `send` failed: its receiver was gone. -/
def SendFailed (r : ReadActor txBuffer T) : Prop :=
  ∃ item, r.phase = .sending item ∧ r.tx.trySend (.streamItem item) = .error .disconnected

/-- **What a read actor does**, over a run with this history. -/
structure Reads (hist : List (ReadActor txBuffer T × Action T)) (r : ReadActor txBuffer T) :
    Prop where
  /-- What was sent on is an initial part of the stream. -/
  forwarded : r.tx.sent <+: r.stream.sent.map .streamItem
  /-- Nothing is sent on once a shutdown or the end of the control channel was received. -/
  silent : ∀ t st, (t, .task st) ∈ hist → st = .actorMessage ∨ st = .actorMessageEnd →
    r.tx.sent = t.tx.sent
  /-- What `select` yielded is an order-preserving merge of the two sources … -/
  merge : ∀ kind, (received hist).filter (·.source = kind) <+: r.source kind
  /-- … and it is never asked for more than there is. -/
  neverNone : r.phase = .selecting → ¬ Exhausted (received hist)
  endOfStream : r.phase = .finished (.controlled .endOfStream) →
    r.stream.senderAlive = false ∧ r.tx.sent = r.stream.sent.map .streamItem
  signalled : r.phase = .finished (.controlled .signalled) → .shutdown ∈ r.actorMsg.sent
  actorHandlesDropped : r.phase = .finished (.controlled .actorHandlesDropped) →
    r.actorMsg.senderAlive = false
  receiverClosedChannel : r.phase = .finished (.controlled .receiverClosedChannel) →
    ∃ t, (t, .task .send) ∈ hist ∧ t.SendFailed

/-- A task that has ended sends nothing more. -/
theorem silent_of_finished {a : Action T} (h : r.act a = some r') (hfinished : r.isFinished = true) :
    r'.isFinished = true ∧ r'.tx.sent = r.tx.sent := by
  rcases act_cases h with ⟨st, rfl, hs⟩ | ⟨-, hb⟩
  · unfold isFinished at hfinished
    split at hfinished
    · cases hfinished
    · cases hfinished
    · cases hfinished
    · exact absurd ‹_› (not_finished_of_step hs _)
  · refine ⟨?_, hb.sent⟩
    rwa [isFinished, hb.phase]

/-- The task ends for want of a receiver when a `send` fails. -/
theorem sendFailed_of_step (h : r.step st = some r')
    (hphase : r'.phase = .finished (.controlled .receiverClosedChannel)) :
    st = .send ∧ r.SendFailed := by
  rcases step_cases h with ⟨ch, -, -, -, rfl⟩ | ⟨-, -, -, -, rfl⟩ | ⟨item, ch, -, -, -, rfl⟩ |
    ⟨-, -, -, -, rfl⟩ | ⟨item, rfl, hsending, ⟨-, rfl⟩ | ⟨hclosed, rfl⟩⟩ | ⟨-, -, -, rfl⟩ |
    ⟨err, -, -, rfl⟩
  · cases hphase
  · cases hphase
  · cases hphase
  · cases hphase
  · cases hphase
  · exact ⟨rfl, item, hsending, Channel.trySend_eq_disconnected_iff.2 hclosed⟩
  · cases hphase
  · cases hphase

variable {hist : List (ReadActor txBuffer T × Action T)}

theorem Run.sound (h : Run hist r) : r.Sound := by
  refine TransitionSystem.Run.invariant (T := system txBuffer T) ?_ ?_ h
  · rintro r rfl
    exact sound_spawnActor
  · intro r a r' hr hs
    rcases act_cases hs with ⟨st, rfl, hs⟩ | ⟨-, hb⟩
    · exact hr.step hs
    · exact hb.sound hr

theorem Run.merges (h : Run hist r) : r.Merges (received hist) := by
  induction h with
  | start h =>
    obtain rfl := h
    exact merges_spawnActor
  | next _ hs ih =>
    rw [received_append_singleton]
    rcases act_cases hs with ⟨st, rfl, hs⟩ | ⟨hnone, hb⟩
    · exact ih.step hs
    · rw [hnone, Option.bind_none, Option.toList_none, List.append_nil]
      exact ih.beside hb

theorem Run.silent (h : Run hist r) {t : ReadActor txBuffer T} (hmem : (t, .task st) ∈ hist)
    (hst : st = .actorMessage ∨ st = .actorMessageEnd) : r.tx.sent = t.tx.sent := by
  obtain ⟨hist₁, hist₂, t', heq, -, hs⟩ := TransitionSystem.Run.exists_step_of_mem h hmem
  have hafter : t'.isFinished = true ∧ t'.tx.sent = t.tx.sent := by
    rcases step_cases hs with ⟨ch, -, -, -, rfl⟩ | ⟨-, -, -, -, rfl⟩ | ⟨item, ch, rfl, -⟩ |
      ⟨rfl, -⟩ | ⟨item, rfl, -⟩ | ⟨rfl, -⟩ | ⟨err, rfl, -⟩
    · exact ⟨rfl, rfl⟩
    · exact ⟨rfl, rfl⟩
    all_goals rcases hst with hst | hst <;> cases hst
  refine (TransitionSystem.Run.invariant_from (T := system txBuffer T)
    (I := fun r ↦ r.isFinished = true ∧ r.tx.sent = t.tx.sent) ?_ h heq hs hafter).2
  rintro r a r' ⟨hfinished, hsent⟩ hs
  obtain ⟨hfinished', hsent'⟩ := silent_of_finished hs hfinished
  exact ⟨hfinished', hsent'.trans hsent⟩

theorem Run.sendFailed (h : Run hist r)
    (hphase : r.phase = .finished (.controlled .receiverClosedChannel)) :
    ∃ t, (t, .task .send) ∈ hist ∧ t.SendFailed := by
  induction h with
  | start h =>
    obtain rfl := h
    cases hphase
  | @next hist r r' a _ hs ih =>
    rcases act_cases hs with ⟨st, rfl, hs⟩ | ⟨-, hb⟩
    · obtain ⟨rfl, hfailed⟩ := sendFailed_of_step hs hphase
      exact ⟨r, List.mem_append_right _ (List.mem_singleton_self _), hfailed⟩
    · obtain ⟨t, hmem, hfailed⟩ := ih (hb.phase ▸ hphase)
      exact ⟨t, List.mem_append_left _ hmem, hfailed⟩

/-- **The loop of the read actor.** -/
theorem Run.reads (h : Run hist r) : Reads hist r := by
  have hsound := Run.sound h
  have hmerges := Run.merges h
  refine ⟨?_, fun t st hmem hst ↦ Run.silent h hmem hst, hmerges.merge, fun hphase hall ↦ ?_,
    fun hp ↦ (hsound.caused.endOfStream hp).symm, hsound.caused.signalled,
    hsound.caused.actorHandlesDropped, Run.sendFailed h⟩
  · have htaken : r.stream.taken <+: r.stream.sent := List.take_prefix _ _
    exact hsound.tracks.sent_isPrefix.trans (htaken.map _)
  · have hrun := not_finished_of_phase hphase nofun
    exact hmerges.endOfStream_notMem hrun .stream (hall .stream)

/-- A shutdown is signalled while the first of two items is sent on: the second one stays behind. -/
theorem Run.reads_of_signal : ∃ hist, ∃ r : ReadActor 64 ℕ, Run hist r ∧
    r.phase = .finished (.controlled .signalled) ∧ r.tx.sent = [.streamItem 1] ∧
    r.stream.sent = [1, 2] ∧ Reads hist r := by
  have h : Run _ _ := TransitionSystem.run_of_exec (T := system 64 ℕ) (s := spawnActor)
    (l := [.arrive 1, .arrive 2, .task .item, .signal, .task .send, .task .flush,
      .task .actorMessage]) rfl rfl
  exact ⟨_, _, h, rfl, rfl, rfl, h.reads⟩

end NetStream.ReadActor
