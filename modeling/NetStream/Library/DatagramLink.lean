import Mathlib.Data.List.Perm.Subperm
import Mathlib.Data.List.Sort

/-!
# Links that carry datagrams

A link may carry what was sent at any time, in any order, more than once or never. What it carries
is given by the positions in the list of what was sent (`carried`). A link that carries nothing
twice brings no more of anything than was sent (`carried_subperm`), and one that keeps the order
too brings some of what was sent, in order (`carried_sublist`).
-/

universe u

namespace DatagramLink

variable {α : Type u} {sent sent' : List α} {positions : List ℕ}

/-- What a link has carried, of what was sent. -/
def carried (sent : List α) (positions : List ℕ) : List α :=
  positions.filterMap fun i ↦ sent[i]?

theorem carried_append_singleton (sent : List α) (positions : List ℕ) (i : ℕ) :
    carried sent (positions ++ [i]) = carried sent positions ++ sent[i]?.toList := by
  rw [carried, List.filterMap_append]
  cases h : sent[i]? <;> simp [carried, h]

theorem mem_of_mem_carried {x : α} (h : x ∈ carried sent positions) : x ∈ sent := by
  obtain ⟨i, -, hi⟩ := List.mem_filterMap.1 h
  exact List.mem_of_getElem? hi

/-- **What was carried stays so** when more is sent. -/
theorem carried_of_isPrefix (h : sent <+: sent') (hpos : ∀ i ∈ positions, i < sent.length) :
    carried sent' positions = carried sent positions := by
  obtain ⟨rest, rfl⟩ := h
  exact List.filterMap_congr fun i hi ↦ List.getElem?_append_left (hpos i hi)

/-- In order, without loss and without duplicates, all is carried. -/
theorem carried_range (sent : List α) : carried sent (List.range sent.length) = sent := by
  induction sent with
  | nil => rfl
  | cons x sent ih =>
    have hrest : (List.map Nat.succ (List.range sent.length)).filterMap
        (fun i ↦ (x :: sent)[i]?) = sent := by
      rw [List.filterMap_map]
      exact ih
    rw [carried, List.length_cons, List.range_succ_eq_map]
    exact congrArg (x :: ·) hrest

theorem carried_sublist_of_range (h : positions.Sublist (List.range sent.length)) :
    (carried sent positions).Sublist sent := by
  have hall : (carried sent positions).Sublist (carried sent (List.range sent.length)) :=
    h.filterMap _
  rwa [carried_range] at hall

/-- Where nothing was sent, nothing is carried. -/
theorem carried_filter (sent : List α) (positions : List ℕ) :
    carried sent (positions.filter (· < sent.length)) = carried sent positions := by
  rw [carried, List.filterMap_filter]
  refine List.filterMap_congr fun i _ ↦ ?_
  split
  · rfl
  · rename_i hi
    rw [decide_eq_true_iff, not_lt] at hi
    exact (List.getElem?_eq_none hi).symm

theorem filter_subset_range (positions : List ℕ) (n : ℕ) :
    positions.filter (· < n) ⊆ List.range n := by
  intro i hi
  rw [List.mem_range]
  exact of_decide_eq_true (List.mem_filter.1 hi).2

/-- **Without duplicates** no more arrives of anything than was sent. -/
theorem carried_subperm (h : positions.Nodup) : (carried sent positions).Subperm sent := by
  obtain ⟨l, hperm, hsub⟩ :=
    List.subperm_of_subset (h.filter _) (filter_subset_range positions sent.length)
  refine ⟨carried sent l, ?_, carried_sublist_of_range hsub⟩
  rw [← carried_filter sent positions]
  exact hperm.filterMap _

/-- **In order and without duplicates**, some of what was sent arrives. -/
theorem carried_sublist (h : positions.Pairwise (· < ·)) :
    (carried sent positions).Sublist sent := by
  have hfilter := h.filter fun i ↦ decide (i < sent.length)
  have hnodup : (positions.filter (· < sent.length)).Nodup := hfilter.imp Nat.ne_of_lt
  have hsub : (positions.filter (· < sent.length)).Sublist (List.range sent.length) :=
    List.sublist_of_subperm_of_pairwise
      (List.subperm_of_subset hnodup (filter_subset_range positions sent.length)) hfilter
      List.pairwise_lt_range
  rw [← carried_filter sent positions]
  exact carried_sublist_of_range hsub

end DatagramLink
