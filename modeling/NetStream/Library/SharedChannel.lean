import NetStream.Library.Channel

/-!
# Bounded channels with several senders

A sending handle can be cloned, and each handle that exists has a slot of its own beside the buffer:
a send that finds `buffer` messages queued still succeeds, but parks its handle, and a parked handle
refuses to send. Each message that is received wakes the handle that has been parked longest; a
handle that was dropped while parked still takes its turn.

Handles are numbered in the order in which they were made. As in `Channel`, everything that was ever
accepted is kept.
-/

universe u

structure SharedChannel (buffer : ℕ) (α : Type u) where
  /-- All messages accepted so far, oldest first. -/
  sent : List α
  /-- How many of them the receiver has taken. -/
  received : ℕ
  /-- For each handle ever made, whether it still exists. -/
  senders : List Bool
  /-- The parked handles, longest first. -/
  parked : List ℕ
  /-- The receiving handle still exists and is open. -/
  receiverAlive : Bool
  /-- Nothing is taken before it is sent. -/
  received_le : received ≤ sent.length

namespace SharedChannel

variable {α : Type u} {buffer : ℕ}

theorem zero_le_length_nil : 0 ≤ ([] : List α).length :=
  Nat.le_refl 0

/-- An open, empty channel with one handle. -/
def new : SharedChannel buffer α where
  sent := []
  received := 0
  senders := [true]
  parked := []
  receiverAlive := true
  received_le := zero_le_length_nil

variable (c : SharedChannel buffer α)

/-- The messages that wait for the receiver. -/
def queue : List α :=
  c.sent.drop c.received

/-- The messages that the receiver has taken. -/
def taken : List α :=
  c.sent.take c.received

/-- The sending handle with this number exists. -/
def HasSender (i : ℕ) : Prop :=
  c.senders[i]? = some true

instance (i : ℕ) : Decidable (c.HasSender i) :=
  inferInstanceAs (Decidable (c.senders[i]? = some true))

/-- Some sending handle exists. -/
def senderAlive : Bool :=
  c.senders.any id

/-- Send a message through a handle without waiting. A message that is not accepted leaves the
channel as it is. -/
def trySend (i : ℕ) (x : α) : Except TrySendError (SharedChannel buffer α) :=
  if i ∈ c.parked then .error .full
  else if c.receiverAlive = false then .error .disconnected
  else
    .ok { c with
      sent := c.sent ++ [x]
      parked := if buffer < c.queue.length + 1 then c.parked ++ [i] else c.parked
      received_le := Nat.le_trans c.received_le (by simp) }

/-- Take the oldest queued message, and wake a parked handle. -/
def recv : Option (α × SharedChannel buffer α) :=
  if h : c.received < c.sent.length then
    some (c.sent[c.received],
      { c with received := c.received + 1, parked := c.parked.tail, received_le := h })
  else
    none

/-- Clone a handle. -/
def cloneSender : SharedChannel buffer α :=
  { c with senders := c.senders ++ [true] }

/-- Drop a handle. -/
def dropSender (i : ℕ) : SharedChannel buffer α :=
  { c with senders := c.senders.set i false }

/-- Drop or close the receiving handle, which wakes all parked handles. -/
def closeReceiver : SharedChannel buffer α :=
  { c with receiverAlive := false, parked := [] }

variable {c} {c' : SharedChannel buffer α} {x : α} {i : ℕ}

theorem taken_append_queue : c.taken ++ c.queue = c.sent :=
  List.take_append_drop c.received c.sent

/-- **What a send does** that is accepted: the message joins those sent, and none is taken. -/
theorem trySend_spec (h : c.trySend i x = .ok c') :
    c'.sent = c.sent ++ [x] ∧ c'.taken = c.taken ∧ c'.senders = c.senders := by
  unfold trySend at h
  split at h
  · cases h
  · split at h
    · cases h
    · obtain rfl := Except.ok.inj h
      refine ⟨rfl, ?_, rfl⟩
      show (c.sent ++ [x]).take c.received = c.sent.take c.received
      rw [List.take_append_of_le_length c.received_le]

/-- **What a receive does**: the head of the queue moves to the end of what was taken. -/
theorem recv_spec (h : c.recv = some (x, c')) :
    c'.sent = c.sent ∧ c'.taken = c.taken ++ [x] ∧ c'.senders = c.senders := by
  unfold recv at h
  split at h
  · rename_i hlt
    obtain ⟨rfl, rfl⟩ := Prod.mk.inj (Option.some.inj h)
    refine ⟨rfl, ?_, rfl⟩
    show c.sent.take (c.received + 1) = c.sent.take c.received ++ [c.sent[c.received]]
    rw [List.take_succ_eq_append_getElem hlt]
  · cases h

theorem queue_of_recv (h : c.recv = some (x, c')) : c.queue = x :: c'.queue := by
  unfold recv at h
  split at h
  · rename_i hlt
    obtain ⟨rfl, rfl⟩ := Prod.mk.inj (Option.some.inj h)
    exact List.drop_eq_getElem_cons hlt
  · cases h

/-- Only an open channel accepts messages. -/
theorem receiverAlive_of_trySend (h : c.trySend i x = .ok c') : c.receiverAlive = true := by
  unfold trySend at h
  split at h
  · cases h
  · split at h
    · cases h
    · exact eq_true_of_ne_false ‹_›

theorem receiverAlive_trySend (h : c.trySend i x = .ok c') :
    c'.receiverAlive = c.receiverAlive := by
  unfold trySend at h
  split at h
  · cases h
  · split at h
    · cases h
    · obtain rfl := Except.ok.inj h
      rfl

/-- No sending handle exists. -/
theorem not_hasSender_of_senderAlive (h : c.senderAlive = false) (i : ℕ) : ¬ c.HasSender i := by
  intro hi
  have hall := List.any_eq_false.1 h true (List.mem_of_getElem? hi)
  exact hall rfl

/-- A handle that is dropped is not there again. -/
theorem HasSender.of_dropSender {j : ℕ} (h : (c.dropSender j).HasSender i) : c.HasSender i := by
  have h : (c.senders.set j false)[i]? = some true := h
  rw [List.getElem?_set] at h
  split at h
  · split at h <;> cases h
  · exact h

end SharedChannel
