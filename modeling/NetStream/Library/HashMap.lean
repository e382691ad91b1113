import Mathlib.Data.Finmap

/-!
# Hash maps

The map of a standard library, as its users see it: `get?`, `insert` (which overwrites), `remove`,
`len`, and an iteration order that is **some** enumeration of the keys and nothing more
(`Enumerates`). The carrier is Mathlib's `Finmap`, so two maps with the same entries are equal
(`ext_get?`) and no operation can depend on an order.
-/

/-- A partial reading that agrees with a total one where it is defined gives the same results exactly
if it is defined everywhere. -/
theorem Multiset.map_eq_filterMap_iff {α : Type*} {β : Type*} {f : α → Option β} {g : α → β}
    {s : Multiset α} (h : ∀ x ∈ s, f x = none ∨ f x = some (g x)) :
    s.map g = s.filterMap f ↔ ∀ x ∈ s, f x ≠ none := by
  induction s using Quotient.inductionOn with
  | _ l =>
    show ((l : Multiset α).map g = (l : Multiset α).filterMap f) ↔ ∀ x ∈ l, f x ≠ none
    rw [Multiset.map_coe, Multiset.filterMap_coe]
    constructor
    · intro heq x hx hnone
      have hlen := congrArg Multiset.card heq
      rw [Multiset.coe_card, Multiset.coe_card, List.length_map] at hlen
      have hsome := List.filterMap_length_eq_length.1 hlen.symm x hx
      rw [hnone] at hsome
      cases hsome
    · intro hall
      rw [← List.filterMap_eq_map]
      refine congrArg _ (List.filterMap_congr fun x hx ↦ ?_)
      exact ((h x hx).resolve_left (hall x hx)).symm

universe u v

/-- A finite map from `K` to `V`. -/
def HashMap (K : Type u) (V : Type v) : Type (max u v) :=
  Finmap fun _ : K ↦ V

namespace HashMap

variable {K : Type u} {V : Type v}

/-- The map with no entries. -/
def new : HashMap K V :=
  (∅ : Finmap fun _ : K ↦ V)

/-- The keys. -/
def keys (m : HashMap K V) : Finset K :=
  Finmap.keys m

/-- The number of entries. -/
def len (m : HashMap K V) : ℕ :=
  m.keys.card

/-- `order` lists the keys, each once: an order in which an iteration may visit the map. -/
def Enumerates (m : HashMap K V) (order : List K) : Prop :=
  (order : Multiset K) = m.keys.val

instance [DecidableEq K] (m : HashMap K V) (order : List K) : Decidable (m.Enumerates order) :=
  inferInstanceAs (Decidable ((order : Multiset K) = m.keys.val))

@[simp] theorem keys_new : (new : HashMap K V).keys = ∅ :=
  Finmap.keys_empty

@[simp] theorem len_new : (new : HashMap K V).len = 0 :=
  rfl

/-! ### Iteration -/

theorem Enumerates.mem_iff {m : HashMap K V} {order : List K} {k : K} (h : m.Enumerates order) :
    k ∈ order ↔ k ∈ m.keys := by
  rw [← Multiset.mem_coe, h, Finset.mem_val]

theorem Enumerates.nodup {m : HashMap K V} {order : List K} (h : m.Enumerates order) :
    order.Nodup := by
  rw [← Multiset.coe_nodup, h]
  exact m.keys.nodup

theorem Enumerates.length_eq {m : HashMap K V} {order : List K} (h : m.Enumerates order) :
    order.length = m.len := by
  rw [← Multiset.coe_card, h, len, Finset.card]

/-- Every map has an iteration order. -/
theorem exists_enumerates (m : HashMap K V) : ∃ order, m.Enumerates order :=
  Quot.exists_rep m.keys.val

variable [DecidableEq K]

/-- The value at a key. -/
def get? (m : HashMap K V) (k : K) : Option V :=
  Finmap.lookup k m

/-- Set the value at a key, replacing any previous one. -/
def insert (m : HashMap K V) (k : K) (v : V) : HashMap K V :=
  Finmap.insert k v m

/-- Remove a key and its value, if present. -/
def remove (m : HashMap K V) (k : K) : HashMap K V :=
  Finmap.erase k m

/-- Remove the key, if there is one. -/
def removeSome (m : HashMap K V) : Option K → HashMap K V
  | some k => m.remove k
  | none => m

/-- Whether the key has a value. -/
def containsKey (m : HashMap K V) (k : K) : Bool :=
  (m.get? k).isSome

/-- The values, with their multiplicities. -/
def values (m : HashMap K V) : Multiset V :=
  m.keys.val.filterMap m.get?

variable {m : HashMap K V} {k k' : K} {v v' : V}

theorem ext_get? {m₁ m₂ : HashMap K V} (h : ∀ k, m₁.get? k = m₂.get? k) : m₁ = m₂ :=
  Finmap.ext_lookup h

/-! ### Lookups -/

@[simp] theorem get?_new : (new : HashMap K V).get? k = none :=
  Finmap.lookup_empty k

@[simp] theorem get?_insert_self : (m.insert k v).get? k = some v :=
  Finmap.lookup_insert m

theorem get?_insert_of_ne (h : k' ≠ k) : (m.insert k v).get? k' = m.get? k' :=
  Finmap.lookup_insert_of_ne m h

theorem get?_insert : (m.insert k v).get? k' = if k' = k then some v else m.get? k' := by
  split
  · rename_i h
    rw [h, get?_insert_self]
  · rename_i h
    exact get?_insert_of_ne h

theorem get?_insert_eq_some_iff : (m.insert k v).get? k' = some v' ↔
    k' = k ∧ v' = v ∨ k' ≠ k ∧ m.get? k' = some v' := by
  rw [get?_insert]
  split <;> simp_all [eq_comm]

@[simp] theorem get?_remove_self : (m.remove k).get? k = none :=
  Finmap.lookup_erase k m

theorem get?_remove_of_ne (h : k' ≠ k) : (m.remove k).get? k' = m.get? k' :=
  Finmap.lookup_erase_ne h

theorem get?_remove : (m.remove k).get? k' = if k' = k then none else m.get? k' := by
  split
  · rename_i h
    rw [h, get?_remove_self]
  · rename_i h
    exact get?_remove_of_ne h

theorem get?_remove_eq_some_iff : (m.remove k).get? k' = some v ↔ k' ≠ k ∧ m.get? k' = some v := by
  rw [get?_remove]
  split <;> simp_all

theorem get?_removeSome_eq_some_iff {o : Option K} :
    (m.removeSome o).get? k' = some v ↔ o ≠ some k' ∧ m.get? k' = some v := by
  cases o with
  | none => simp [removeSome]
  | some k =>
    rw [removeSome, get?_remove_eq_some_iff, ne_comm, ne_eq, ne_eq, Option.some.injEq]

/-- A fresh entry goes without a trace. -/
theorem remove_insert_of_get?_eq_none (h : m.get? k = none) : (m.insert k v).remove k = m := by
  refine ext_get? fun k' ↦ ?_
  by_cases hk : k' = k
  · rw [hk, get?_remove_self, h]
  · rw [get?_remove_of_ne hk, get?_insert_of_ne hk]

/-! ### Keys and sizes -/

theorem mem_keys_iff : k ∈ m.keys ↔ ∃ v, m.get? k = some v :=
  Finmap.mem_keys.trans Finmap.mem_iff

theorem mem_keys_of_get? (h : m.get? k = some v) : k ∈ m.keys :=
  mem_keys_iff.2 ⟨v, h⟩

theorem get?_eq_none_iff : m.get? k = none ↔ k ∉ m.keys :=
  Finmap.lookup_eq_none.trans (not_congr Finmap.mem_keys.symm)

theorem containsKey_iff : m.containsKey k = true ↔ k ∈ m.keys := by
  rw [containsKey, Option.isSome_iff_exists, mem_keys_iff]

theorem mem_values_iff : v ∈ m.values ↔ ∃ k, m.get? k = some v := by
  rw [values, Multiset.mem_filterMap]
  constructor
  · rintro ⟨k, -, hk⟩
    exact ⟨k, hk⟩
  · rintro ⟨k, hk⟩
    exact ⟨k, mem_keys_of_get? hk, hk⟩

/-- An iteration meets the values. -/
theorem Enumerates.filterMap_get? {order : List K} (h : m.Enumerates order) :
    (order.filterMap m.get? : Multiset V) = m.values := by
  rw [values, ← h, Multiset.filterMap_coe]

theorem Enumerates.length_filterMap_get? {order : List K} (h : m.Enumerates order) :
    (order.filterMap m.get?).length = m.len := by
  rw [← h.length_eq, List.filterMap_length_eq_length]
  exact fun k hk ↦ containsKey_iff.2 (h.mem_iff.1 hk)

@[simp] theorem keys_insert : (m.insert k v).keys = Insert.insert k m.keys := by
  ext k'
  rw [mem_keys_iff, Finset.mem_insert, mem_keys_iff, get?_insert]
  by_cases h : k' = k <;> simp [h]

@[simp] theorem keys_remove : (m.remove k).keys = m.keys.erase k :=
  Finmap.keys_erase k m

/-- Replacing a value adds none. -/
theorem len_insert_of_mem (h : k ∈ m.keys) : (m.insert k v).len = m.len := by
  rw [len, keys_insert, Finset.insert_eq_of_mem h, len]

theorem len_insert_le : (m.insert k v).len ≤ m.len + 1 := by
  rw [len, keys_insert]
  exact Finset.card_insert_le k m.keys

theorem len_remove_le : (m.remove k).len ≤ m.len := by
  rw [len, keys_remove]
  exact Finset.card_le_card (Finset.erase_subset k m.keys)

end HashMap
