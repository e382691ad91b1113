import Mathlib.Data.Finset.Card
import NetStream.Library.HashMap

/-!
# Reverse indexes

A table `recs` of records, one for each owner, and an index `idx` that is meant to resolve a key
back to the owner whose record carries it (`key r = some k`; a record may carry none). Programs
keep the two by hand, with one insertion or removal in each, so an index can be wrong in two
independent ways:

* it resolves a key to somebody who does not carry it — it is not `Sound`;
* it fails to resolve a key somebody carries — it is not `Complete`.

For each way of writing to both tables this file says **exactly** when each half survives. The two
conditions are different: setting a record keeps soundness when no other key still resolves to the
owner, and completeness when no other owner carries the key.
-/

universe u v w

namespace ReverseIndex

variable {K : Type u} {P : Type v} {R : Type w} [DecidableEq K] [DecidableEq P]

/-- Every key that resolves does so to an owner whose record carries the key. -/
def Sound (idx : HashMap K P) (recs : HashMap P R) (key : R → Option K) : Prop :=
  ∀ k p, idx.get? k = some p → ∃ r, recs.get? p = some r ∧ key r = some k

/-- Every key that a record carries resolves to the record's owner. -/
def Complete (idx : HashMap K P) (recs : HashMap P R) (key : R → Option K) : Prop :=
  ∀ p r k, recs.get? p = some r → key r = some k → idx.get? k = some p

variable {idx : HashMap K P} {recs : HashMap P R} {key : R → Option K} {p : P} {r r₀ : R} {k : K}

theorem sound_new : Sound HashMap.new recs key := by
  intro k p h
  simp at h

theorem complete_new : Complete idx HashMap.new key := by
  intro p r k h
  simp at h

/-- A complete index gives no key to two owners. -/
theorem Complete.owner_unique (h : Complete idx recs key) {q : P} {r' : R}
    (hp : recs.get? p = some r) (hk : key r = some k) (hq : recs.get? q = some r')
    (hk' : key r' = some k) : p = q :=
  Option.some.inj ((h p r k hp hk).symm.trans (h q r' k hq hk'))

/-! ### Sizes -/

/-- A sound index has no more entries than there are records: an owner carries one key. -/
theorem Sound.len_le (h : Sound idx recs key) : idx.len ≤ recs.len := by
  have hsub : idx.keys.map Function.Embedding.some ⊆
      recs.keys.image fun p ↦ (recs.get? p).bind key := by
    intro o ho
    obtain ⟨k, hk, rfl⟩ := Finset.mem_map.1 ho
    obtain ⟨p, hp⟩ := HashMap.mem_keys_iff.1 hk
    obtain ⟨r, hr, hkey⟩ := h k p hp
    exact Finset.mem_image.2 ⟨p, HashMap.mem_keys_of_get? hr, by simp [hr, hkey]⟩
  calc idx.len = (idx.keys.map Function.Embedding.some).card := (Finset.card_map _).symm
    _ ≤ (recs.keys.image fun p ↦ (recs.get? p).bind key).card := Finset.card_le_card hsub
    _ ≤ recs.len := Finset.card_image_le

/-- A complete index has no fewer entries than there are records, where every record carries a
key: a key has one owner. -/
theorem Complete.len_le (h : Complete idx recs key)
    (hkey : ∀ p r, recs.get? p = some r → key r ≠ none) : recs.len ≤ idx.len := by
  have hsub : recs.keys.map Function.Embedding.some ⊆ idx.keys.image idx.get? := by
    intro o ho
    obtain ⟨p, hp, rfl⟩ := Finset.mem_map.1 ho
    obtain ⟨r, hr⟩ := HashMap.mem_keys_iff.1 hp
    obtain ⟨k, hk⟩ := Option.ne_none_iff_exists'.1 (hkey p r hr)
    have hidx := h p r k hr hk
    exact Finset.mem_image.2 ⟨k, HashMap.mem_keys_of_get? hidx, hidx⟩
  calc recs.len = (recs.keys.map Function.Embedding.some).card := (Finset.card_map _).symm
    _ ≤ (idx.keys.image idx.get?).card := Finset.card_le_card hsub
    _ ≤ idx.len := Finset.card_image_le

/-! ### Setting a record that carries a key, and its entry -/

/-- Soundness survives exactly when no other key still resolves to the owner. -/
theorem Sound.set_iff (h : Sound idx recs key) (hk : key r = some k) :
    Sound (idx.insert k p) (recs.insert p r) key ↔ ∀ k', k' ≠ k → idx.get? k' ≠ some p := by
  constructor
  · intro hs k' hne hk'
    obtain ⟨r', hr', hkey⟩ := hs k' p (by rw [HashMap.get?_insert_of_ne hne, hk'])
    rw [HashMap.get?_insert_self] at hr'
    obtain rfl := Option.some.inj hr'
    exact hne (Option.some.inj (hkey.symm.trans hk))
  · intro hne k' q hq
    by_cases hkk : k' = k
    · subst hkk
      rw [HashMap.get?_insert_self] at hq
      obtain rfl := Option.some.inj hq
      exact ⟨r, HashMap.get?_insert_self, hk⟩
    · rw [HashMap.get?_insert_of_ne hkk] at hq
      have hqp : q ≠ p := by
        rintro rfl
        exact hne k' hkk hq
      obtain ⟨r', hr', hkey⟩ := h k' q hq
      exact ⟨r', by rw [HashMap.get?_insert_of_ne hqp, hr'], hkey⟩

/-- Completeness survives exactly when no other owner carries the key. -/
theorem Complete.set_iff (h : Complete idx recs key) (hk : key r = some k) :
    Complete (idx.insert k p) (recs.insert p r) key ↔
      ∀ q r', q ≠ p → recs.get? q = some r' → key r' ≠ some k := by
  constructor
  · intro hc q r' hqp hq hkey
    have hidx := hc q r' k (by rw [HashMap.get?_insert_of_ne hqp, hq]) hkey
    rw [HashMap.get?_insert_self] at hidx
    exact hqp (Option.some.inj hidx).symm
  · intro hne q r' k' hq hkey
    by_cases hqp : q = p
    · subst hqp
      rw [HashMap.get?_insert_self] at hq
      obtain rfl := Option.some.inj hq
      obtain rfl := Option.some.inj (hk.symm.trans hkey)
      exact HashMap.get?_insert_self
    · rw [HashMap.get?_insert_of_ne hqp] at hq
      have hkk : k' ≠ k := by
        rintro rfl
        exact hne q r' hqp hq hkey
      rw [HashMap.get?_insert_of_ne hkk]
      exact h q r' k' hq hkey

/-! ### Setting a record that carries no key -/

/-- Soundness survives exactly when no key resolves to the owner. -/
theorem Sound.set_none_iff (h : Sound idx recs key) (hk : key r = none) :
    Sound idx (recs.insert p r) key ↔ ∀ k, idx.get? k ≠ some p := by
  constructor
  · intro hs k hidx
    obtain ⟨r', hr', hkey⟩ := hs k p hidx
    rw [HashMap.get?_insert_self] at hr'
    obtain rfl := Option.some.inj hr'
    rw [hk] at hkey
    cases hkey
  · intro hne k q hq
    have hqp : q ≠ p := by
      rintro rfl
      exact hne k hq
    obtain ⟨r', hr', hkey⟩ := h k q hq
    exact ⟨r', by rw [HashMap.get?_insert_of_ne hqp, hr'], hkey⟩

theorem Complete.set_none (h : Complete idx recs key) (hk : key r = none) :
    Complete idx (recs.insert p r) key := by
  intro q r' k hq hkey
  by_cases hqp : q = p
  · subst hqp
    rw [HashMap.get?_insert_self] at hq
    obtain rfl := Option.some.inj hq
    rw [hk] at hkey
    cases hkey
  · rw [HashMap.get?_insert_of_ne hqp] at hq
    exact h q r' k hq hkey

/-! ### Replacing a record by one that carries the same key -/

theorem Sound.update (h : Sound idx recs key) (hp : recs.get? p = some r₀) (hk : key r = key r₀) :
    Sound idx (recs.insert p r) key := by
  intro k q hq
  obtain ⟨r', hr', hkey⟩ := h k q hq
  by_cases hqp : q = p
  · subst hqp
    obtain rfl := Option.some.inj (hp.symm.trans hr')
    exact ⟨r, HashMap.get?_insert_self, hk.trans hkey⟩
  · exact ⟨r', by rw [HashMap.get?_insert_of_ne hqp, hr'], hkey⟩

theorem Complete.update (h : Complete idx recs key) (hp : recs.get? p = some r₀)
    (hk : key r = key r₀) : Complete idx (recs.insert p r) key := by
  intro q r' k hq hkey
  by_cases hqp : q = p
  · subst hqp
    rw [HashMap.get?_insert_self] at hq
    obtain rfl := Option.some.inj hq
    exact h q r₀ k hp (hk.symm.trans hkey)
  · rw [HashMap.get?_insert_of_ne hqp] at hq
    exact h q r' k hq hkey

/-! ### Removing a record, and the entry of the key it carries -/

theorem Sound.remove (h : Sound idx recs key) (hp : recs.get? p = some r) :
    Sound (idx.removeSome (key r)) (recs.remove p) key := by
  intro k q hq
  rw [HashMap.get?_removeSome_eq_some_iff] at hq
  obtain ⟨r', hr', hkey⟩ := h k q hq.2
  refine ⟨r', HashMap.get?_remove_eq_some_iff.2 ⟨?_, hr'⟩, hkey⟩
  rintro rfl
  obtain rfl := Option.some.inj (hp.symm.trans hr')
  exact hq.1 hkey

/-- The removal is by key, without a look at the owner: it is completeness itself that rules out
another owner of the key. -/
theorem Complete.remove (h : Complete idx recs key) (hp : recs.get? p = some r) :
    Complete (idx.removeSome (key r)) (recs.remove p) key := by
  intro q r' k hq hkey
  rw [HashMap.get?_remove_eq_some_iff] at hq
  refine HashMap.get?_removeSome_eq_some_iff.2 ⟨?_, h q r' k hq.2 hkey⟩
  intro hk
  exact hq.1 (h.owner_unique hq.2 hkey hp hk)

end ReverseIndex
