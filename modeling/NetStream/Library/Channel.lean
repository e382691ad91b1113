import Mathlib.Data.List.Basic

/-!
# Single-sender channels

A channel between tasks, with one sending handle. The state keeps everything that was ever
accepted (`sent`) and how much of it the receiver has taken (`received`), so the queue is what lies
between the two, first-in first-out by construction, and a property of "every message ever queued"
is a property of the state.

`trySend` on a bounded channel succeeds exactly while at most `buffer` messages are queued, so that
up to `buffer + 1` messages can wait: the sender has a slot of its own. Once the receiver is gone
nothing is accepted; once the sender is gone the receiver still drains what is queued.
-/

universe u

/-- Why a message was not accepted. -/
inductive TrySendError
  | full
  | disconnected
  deriving DecidableEq, Repr

/-- A channel with one sender and one receiver. `buffer` messages may be queued beside the sender's
own slot; it is unbounded if `none`. -/
structure Channel (buffer : Option ℕ) (α : Type u) where
  /-- All messages accepted so far, oldest first. -/
  sent : List α
  /-- How many of them the receiver has taken. -/
  received : ℕ
  /-- The sending handle still exists. -/
  senderAlive : Bool
  /-- The receiving handle still exists and is open. -/
  receiverAlive : Bool
  /-- Nothing is taken before it is sent. -/
  received_le : received ≤ sent.length

namespace Channel

variable {α : Type u} {buffer : Option ℕ}

/-- An open, empty channel. -/
def new : Channel buffer α where
  sent := []
  received := 0
  senderAlive := true
  receiverAlive := true
  received_le := Nat.le_refl 0

variable (c : Channel buffer α)

/-- The messages that wait for the receiver. -/
def queue : List α :=
  c.sent.drop c.received

/-- The messages that the receiver has taken. -/
def taken : List α :=
  c.sent.take c.received

/-- Whether the sender has to wait: more than `buffer` messages are queued. -/
def isFull : Bool :=
  match buffer with
  | none => false
  | some b => decide (b < c.queue.length)

/-- The next message is accepted. -/
def Accepts : Prop :=
  c.receiverAlive = true ∧ c.isFull = false

instance : Decidable c.Accepts :=
  inferInstanceAs (Decidable (_ ∧ _))

/-- Append a message to the queue. -/
def push (x : α) : Channel buffer α :=
  { c with
    sent := c.sent ++ [x]
    received_le := Nat.le_trans c.received_le (by simp) }

/-- Send a message without waiting. A message that is not accepted leaves the channel as it is. -/
def trySend (x : α) : Except TrySendError (Channel buffer α) :=
  if c.receiverAlive = false then
    .error .disconnected
  else if c.isFull = true then
    .error .full
  else
    .ok (c.push x)

/-- Send a message and ignore whether it was accepted. -/
def offer (x : α) : Channel buffer α :=
  match c.trySend x with
  | .ok c' => c'
  | .error _ => c

/-- Take the oldest queued message. -/
def recv : Option (α × Channel buffer α) :=
  if h : c.received < c.sent.length then
    some (c.sent[c.received], { c with received := c.received + 1, received_le := h })
  else
    none

/-- Drop the sending handle. -/
def dropSender : Channel buffer α :=
  { c with senderAlive := false }

/-- Drop or close the receiving handle. -/
def closeReceiver : Channel buffer α :=
  { c with receiverAlive := false }

variable {c} {c' : Channel buffer α} {x : α}

@[simp] theorem sent_new : (new : Channel buffer α).sent = [] := rfl
@[simp] theorem received_new : (new : Channel buffer α).received = 0 := rfl
@[simp] theorem receiverAlive_new : (new : Channel buffer α).receiverAlive = true := rfl
@[simp] theorem senderAlive_new : (new : Channel buffer α).senderAlive = true := rfl

@[simp] theorem sent_push : (c.push x).sent = c.sent ++ [x] := rfl
@[simp] theorem received_push : (c.push x).received = c.received := rfl
@[simp] theorem receiverAlive_push : (c.push x).receiverAlive = c.receiverAlive := rfl
@[simp] theorem senderAlive_push : (c.push x).senderAlive = c.senderAlive := rfl

@[simp] theorem sent_dropSender : c.dropSender.sent = c.sent := rfl
@[simp] theorem received_dropSender : c.dropSender.received = c.received := rfl
@[simp] theorem receiverAlive_dropSender : c.dropSender.receiverAlive = c.receiverAlive := rfl

@[simp] theorem sent_closeReceiver : c.closeReceiver.sent = c.sent := rfl
@[simp] theorem received_closeReceiver : c.closeReceiver.received = c.received := rfl
@[simp] theorem receiverAlive_closeReceiver : c.closeReceiver.receiverAlive = false := rfl

theorem taken_append_queue : c.taken ++ c.queue = c.sent :=
  List.take_append_drop c.received c.sent

theorem queue_push : (c.push x).queue = c.queue ++ [x] := by
  show (c.sent ++ [x]).drop c.received = _
  rw [List.drop_append_of_le_length c.received_le, queue]

theorem taken_push : (c.push x).taken = c.taken := by
  show (c.sent ++ [x]).take c.received = _
  rw [List.take_append_of_le_length c.received_le, taken]

/-! ### Sending -/

theorem trySend_of_accepts (h : c.Accepts) : c.trySend x = .ok (c.push x) := by
  simp [trySend, h.1, h.2]

theorem trySend_eq_ok_iff : c.trySend x = .ok c' ↔ c.Accepts ∧ c' = c.push x := by
  unfold trySend Accepts
  split
  · rename_i h
    simp [h]
  · rename_i h
    split
    · rename_i hf
      simp [hf]
    · rename_i hf
      rw [Bool.not_eq_false] at h
      rw [Bool.not_eq_true] at hf
      rw [Except.ok.injEq]
      exact ⟨fun heq ↦ ⟨⟨h, hf⟩, heq.symm⟩, fun heq ↦ heq.2.symm⟩

theorem trySend_eq_disconnected_iff :
    c.trySend x = .error .disconnected ↔ c.receiverAlive = false := by
  unfold trySend
  split
  · rename_i h
    simp [h]
  · rename_i h
    simp only [h]
    split <;> simp

/-- **What an offer does**: the message is queued if it is accepted, and nothing happens if not. -/
theorem offer_eq : c.offer x = if c.Accepts then c.push x else c := by
  unfold offer
  split
  · rename_i c' h
    obtain ⟨ha, rfl⟩ := trySend_eq_ok_iff.1 h
    rw [if_pos ha]
  · rename_i e h
    rw [if_neg]
    intro ha
    rw [trySend_of_accepts ha] at h
    cases h

theorem offer_of_accepts (h : c.Accepts) : c.offer x = c.push x := by
  rw [offer_eq, if_pos h]

theorem offer_of_not_accepts (h : ¬ c.Accepts) : c.offer x = c := by
  rw [offer_eq, if_neg h]

@[simp] theorem received_offer : (c.offer x).received = c.received := by
  rw [offer_eq]
  split <;> rfl

@[simp] theorem receiverAlive_offer : (c.offer x).receiverAlive = c.receiverAlive := by
  rw [offer_eq]
  split <;> rfl

@[simp] theorem senderAlive_offer : (c.offer x).senderAlive = c.senderAlive := by
  rw [offer_eq]
  split <;> rfl

theorem sent_offer : (c.offer x).sent = if c.Accepts then c.sent ++ [x] else c.sent := by
  rw [offer_eq]
  split <;> rfl

theorem taken_offer : (c.offer x).taken = c.taken := by
  rw [offer_eq]
  split
  · exact taken_push
  · rfl

/-- An unbounded channel accepts whenever its receiver is there. -/
theorem accepts_iff_of_unbounded {c : Channel none α} : c.Accepts ↔ c.receiverAlive = true := by
  simp [Accepts, isFull]

theorem accepts_iff_of_bounded {b : ℕ} {c : Channel (some b) α} :
    c.Accepts ↔ c.receiverAlive = true ∧ c.queue.length ≤ b := by
  simp [Accepts, isFull]

/-! ### Receiving -/

theorem recv_eq_some_iff : c.recv = some (x, c') ↔ ∃ h : c.received < c.sent.length,
    x = c.sent[c.received] ∧ c' = { c with received := c.received + 1, received_le := h } := by
  unfold recv
  split
  · rename_i h
    simp only [Option.some.injEq, Prod.mk.injEq, exists_prop_of_true h]
    exact ⟨fun hx ↦ ⟨hx.1.symm, hx.2.symm⟩, fun hx ↦ ⟨hx.1.symm, hx.2.symm⟩⟩
  · rename_i h
    simp [h]

/-- **What a receive does**: the head of the queue moves to the end of what was taken, and
nothing else changes. -/
theorem recv_spec (h : c.recv = some (x, c')) :
    c.queue = x :: c'.queue ∧ c'.taken = c.taken ++ [x] ∧ c'.sent = c.sent ∧
      c'.receiverAlive = c.receiverAlive ∧ c'.senderAlive = c.senderAlive := by
  obtain ⟨hlt, rfl, rfl⟩ := recv_eq_some_iff.1 h
  refine ⟨List.drop_eq_getElem_cons hlt, ?_, rfl, rfl, rfl⟩
  show c.sent.take (c.received + 1) = c.sent.take c.received ++ [c.sent[c.received]]
  rw [List.take_succ_eq_append_getElem hlt]

theorem recv_eq_none_iff : c.recv = none ↔ c.queue = [] := by
  unfold recv queue
  split
  · rename_i h
    simp [List.drop_eq_nil_iff, h]
  · rename_i h
    simp only [true_iff, List.drop_eq_nil_iff]
    omega

end Channel
