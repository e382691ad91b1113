import Mathlib.Data.List.Basic

/-!
# Transition systems and their runs

A system whose every choice is named by an action: `step s a` is the state after taking `a` in
`s`, and `none` when `a` is not enabled there. Nondeterminism (scheduling, the network, the
environment) is the choice of the next action, so a run is determined by the list of its actions
and a small run can be evaluated (`exec`).

`Run hist s` keeps the whole history: every action taken, paired with the state it was taken in,
oldest first. Properties of "every run" are then properties of `hist` and `s`, and one that speaks
about the past ("the most recent …", "never before …") is a function of `hist`.

Three rules carry the inductions, and `Run.map` carries their results from an abstract system to one
that refines it:

* `Run.invariant` — a state property kept by every step holds at the end of every run;
* `Run.invariant_of_forall` — the same when only the steps that meet a condition keep it, over
  runs all of whose steps meet the condition;
* `Run.forall_visited_iff` — where a step keeps the property **exactly** when it meets the
  condition, the property holds of all states visited exactly when all steps meet the condition.
-/

universe u v

/-- What is read off a history with one more step: at most the entry for that step is added. -/
theorem List.filterMap_append_singleton {α : Type*} {β : Type*} (f : α → Option β) (l : List α)
    (x : α) : (l ++ [x]).filterMap f = l.filterMap f ++ (f x).toList := by
  rw [List.filterMap_append]
  cases h : f x <;> simp [h]

theorem List.filterMap_toList {α : Type*} {β : Type*} (o : Option α) (f : α → Option β) :
    o.toList.filterMap f = (o.bind f).toList := by
  cases o with
  | none => rfl
  | some x => cases h : f x <;> simp [h]

/-- A system with named actions. -/
structure TransitionSystem (σ : Type u) (α : Type v) where
  /-- The initial states. -/
  init : σ → Prop
  /-- The state after an action, where the action is enabled. -/
  step : σ → α → Option σ

namespace TransitionSystem

variable {σ : Type u} {α : Type v} (T : TransitionSystem σ α)

/-- `T.Run hist s`: some run from an initial state ends in `s`, and `hist` lists its actions with
the states they were taken in, oldest first. -/
inductive Run : List (σ × α) → σ → Prop
  | start {s : σ} (h : T.init s) : Run [] s
  | next {hist : List (σ × α)} {s s' : σ} {a : α} (h : Run hist s) (hs : T.step s a = some s') :
      Run (hist ++ [(s, a)]) s'

/-- A state that some run reaches. -/
def Reachable (s : σ) : Prop :=
  ∃ hist, T.Run hist s

/-- `t` is one of the states of a run with history `hist` that ends in `s`. -/
def Visited (hist : List (σ × α)) (s t : σ) : Prop :=
  t = s ∨ ∃ a, (t, a) ∈ hist

variable {T}

theorem visited_last (hist : List (σ × α)) (s : σ) : Visited hist s s :=
  Or.inl rfl

theorem visited_nil_iff {s t : σ} : Visited ([] : List (σ × α)) s t ↔ t = s := by
  simp [Visited]

theorem visited_append_singleton_iff {hist : List (σ × α)} {s s' t : σ} {a : α} :
    Visited (hist ++ [(s, a)]) s' t ↔ t = s' ∨ Visited hist s t := by
  simp only [Visited, List.mem_append, List.mem_singleton, Prod.mk.injEq]
  constructor
  · rintro (h | ⟨b, h | ⟨rfl, -⟩⟩)
    · exact Or.inl h
    · exact Or.inr (Or.inr ⟨b, h⟩)
    · exact Or.inr (Or.inl rfl)
  · rintro (h | rfl | ⟨b, h⟩)
    · exact Or.inl h
    · exact Or.inr ⟨a, Or.inr ⟨rfl, rfl⟩⟩
    · exact Or.inr ⟨b, Or.inl h⟩

namespace Run

variable {hist : List (σ × α)} {s : σ}

/-! ### The invariant rules -/

/-- **The invariant rule under a condition on the steps.** What holds initially and is kept by
every step that meets `C` holds at the end of every run whose steps all meet `C`. -/
theorem invariant_of_forall {I : σ → Prop} {C : σ → α → Prop} (hinit : ∀ s, T.init s → I s)
    (hstep : ∀ s a s', I s → C s a → T.step s a = some s' → I s') (h : T.Run hist s)
    (hC : ∀ x ∈ hist, C x.1 x.2) : I s := by
  induction h with
  | start h => exact hinit _ h
  | @next hist s s' a _ hs ih =>
    refine hstep s a s' (ih fun x hx ↦ hC x (List.mem_append_left _ hx)) ?_ hs
    exact hC (s, a) (List.mem_append_right _ (List.mem_singleton_self _))

/-- **The invariant rule.** -/
theorem invariant {I : σ → Prop} (hinit : ∀ s, T.init s → I s)
    (hstep : ∀ s a s', I s → T.step s a = some s' → I s') (h : T.Run hist s) : I s :=
  h.invariant_of_forall (C := fun _ _ ↦ True) hinit (fun s a s' hs _ ↦ hstep s a s' hs)
    fun _ _ ↦ trivial

/-- **The exact rule.** Where every step of the run that starts in a state satisfying `I` leads to
a state satisfying `I` exactly when it meets `C`, all states of the run satisfy `I` exactly when all
its steps meet `C`. -/
theorem forall_visited_iff {I : σ → Prop} {C : σ → α → Prop} (hinit : ∀ s, T.init s → I s)
    (h : T.Run hist s)
    (hstep : ∀ hist₁ t a t', (t, a) ∈ hist → T.Run hist₁ t → I t → T.step t a = some t' →
      (I t' ↔ C t a)) :
    (∀ t, Visited hist s t → I t) ↔ ∀ x ∈ hist, C x.1 x.2 := by
  induction h with
  | start h =>
    simp only [visited_nil_iff, forall_eq, List.not_mem_nil, false_imp_iff, implies_true,
      iff_true]
    exact hinit _ h
  | @next hist s s' a h hs ih =>
    have ih := ih fun hist₁ t b t' hmem ↦ hstep hist₁ t b t' (List.mem_append_left _ hmem)
    have hlast := hstep hist s a s' (List.mem_append_right _ (List.mem_singleton_self _)) h
    simp only [visited_append_singleton_iff, List.mem_append, List.mem_singleton, or_imp,
      forall_and, forall_eq, ih]
    constructor
    · rintro ⟨hs', hC⟩
      exact ⟨hC, (hlast (ih.2 hC s (visited_last hist s)) hs).1 hs'⟩
    · rintro ⟨hC, ha⟩
      exact ⟨(hlast (ih.2 hC s (visited_last hist s)) hs).2 ha, hC⟩

/-! ### Prefixes of a run -/

/-- Every entry of the history is a step of the run: the run up to it, and the state after it. -/
theorem exists_step_of_eq_append {hist₁ hist₂ : List (σ × α)} {t : σ} {a : α} (h : T.Run hist s)
    (heq : hist = hist₁ ++ (t, a) :: hist₂) :
    T.Run hist₁ t ∧ ∃ t', T.step t a = some t' := by
  induction h generalizing hist₂ with
  | start h => simp at heq
  | @next hist s s' b h hs ih =>
    rcases List.eq_nil_or_concat hist₂ with rfl | ⟨hist₃, x, rfl⟩
    · obtain ⟨rfl, hx⟩ := List.append_inj' heq rfl
      obtain ⟨rfl, rfl⟩ := Prod.mk.inj (List.singleton_inj.1 hx)
      exact ⟨h, s', hs⟩
    · have hlast : hist ++ [(s, b)] = (hist₁ ++ (t, a) :: hist₃) ++ [x] := by simpa using heq
      exact ih (List.append_inj' hlast rfl).1

/-- What every step keeps holds at the end of a run if it holds after one of its steps. -/
theorem invariant_from {I : σ → Prop} {hist₁ hist₂ : List (σ × α)} {t t' : σ} {a : α}
    (hstep : ∀ s a s', I s → T.step s a = some s' → I s') (h : T.Run hist s)
    (heq : hist = hist₁ ++ (t, a) :: hist₂) (hs : T.step t a = some t') (ht : I t') : I s := by
  induction h generalizing hist₂ with
  | start h => simp at heq
  | @next hist s s' b _ hs' ih =>
    rcases List.eq_nil_or_concat hist₂ with rfl | ⟨hist₃, x, rfl⟩
    · obtain ⟨-, hx⟩ := List.append_inj' heq rfl
      obtain ⟨rfl, rfl⟩ := Prod.mk.inj (List.singleton_inj.1 hx)
      obtain rfl := Option.some.inj (hs.symm.trans hs')
      exact ht
    · have hlast : hist ++ [(s, b)] = (hist₁ ++ (t, a) :: hist₃) ++ [x] := by simpa using heq
      exact hstep s b s' (ih (List.append_inj' hlast rfl).1) hs'

theorem exists_step_of_mem {t : σ} {a : α} (h : T.Run hist s) (hmem : (t, a) ∈ hist) :
    ∃ hist₁ hist₂ t', hist = hist₁ ++ (t, a) :: hist₂ ∧ T.Run hist₁ t ∧
      T.step t a = some t' := by
  obtain ⟨hist₁, hist₂, heq⟩ := List.append_of_mem hmem
  obtain ⟨ht, t', hs⟩ := h.exists_step_of_eq_append heq
  exact ⟨hist₁, hist₂, t', heq, ht, hs⟩

/-- Every state visited is the end of a run, whose history begins that of the whole. -/
theorem exists_of_visited {t : σ} (h : T.Run hist s) (hv : Visited hist s t) :
    ∃ hist₁, hist₁ <+: hist ∧ T.Run hist₁ t := by
  rcases hv with rfl | ⟨a, ha⟩
  · exact ⟨hist, List.prefix_rfl, h⟩
  · obtain ⟨hist₁, hist₂, -, rfl, ht, -⟩ := h.exists_step_of_mem ha
    exact ⟨hist₁, List.prefix_append _ _, ht⟩

/-- What every step keeps holds at the end of a run if it holds in a state visited. -/
theorem invariant_of_visited {I : σ → Prop} {t : σ}
    (hstep : ∀ s a s', I s → T.step s a = some s' → I s') (h : T.Run hist s)
    (hv : Visited hist s t) (ht : I t) : I s := by
  rcases hv with rfl | ⟨a, ha⟩
  · exact ht
  · obtain ⟨hist₁, hist₂, t', heq, -, hs⟩ := h.exists_step_of_mem ha
    exact h.invariant_from hstep heq hs (hstep _ _ _ ht hs)

/-- A quantity that no step decreases is after every step of the run at most what it is at the
end. -/
theorem le_of_step_of_mem {f : σ → ℕ} (hstep : ∀ s a s', T.step s a = some s' → f s ≤ f s')
    (h : T.Run hist s) : ∀ x ∈ hist, ∀ t, T.step x.1 x.2 = some t → f t ≤ f s := by
  induction h with
  | start h => simp
  | @next hist s s' a _ hs ih =>
    intro x hx t ht
    rcases List.mem_append.1 hx with hx | hx
    · exact Nat.le_trans (ih x hx t ht) (hstep s a s' hs)
    · rw [List.mem_singleton.1 hx] at ht
      have hlast : t = s' := Option.some.inj (ht.symm.trans hs)
      exact Nat.le_of_eq (congrArg f hlast)

theorem le_of_visited {f : σ → ℕ} (hstep : ∀ s a s', T.step s a = some s' → f s ≤ f s')
    (h : T.Run hist s) {t : σ} (hv : Visited hist s t) : f t ≤ f s := by
  rcases hv with rfl | ⟨a, ha⟩
  · exact Nat.le_refl _
  · obtain ⟨-, -, t', -, -, ht⟩ := h.exists_step_of_mem ha
    exact Nat.le_trans (hstep _ _ _ ht) (h.le_of_step_of_mem hstep _ ha t' ht)

end Run

/-! ### Refinement -/

section Refinement

variable {τ : Type*} {β : Type*} {U : TransitionSystem τ β} {f : σ → τ} {g : σ → α → β}
  {hist : List (σ × α)} {s : σ}

/-- The history of the refined system. -/
def mapHist (f : σ → τ) (g : σ → α → β) (hist : List (σ × α)) : List (τ × β) :=
  hist.map fun x ↦ (f x.1, g x.1 x.2)

theorem mapHist_append (hist₁ hist₂ : List (σ × α)) :
    mapHist f g (hist₁ ++ hist₂) = mapHist f g hist₁ ++ mapHist f g hist₂ :=
  List.map_append

/-- **Refinement, over runs.** Where each step of `T` is the step of `U` that `g` names, a run of
`T` is a run of `U`. -/
theorem Run.map (hinit : ∀ s, T.init s → U.init (f s))
    (hstep : ∀ s a s', T.step s a = some s' → U.step (f s) (g s a) = some (f s'))
    (h : T.Run hist s) : U.Run (mapHist f g hist) (f s) := by
  induction h with
  | start h => exact .start (hinit _ h)
  | next _ hs ih =>
    rw [mapHist_append]
    exact ih.next (hstep _ _ _ hs)

/-- The history of a part of the system, where `g` names the steps in which it takes part. -/
def projectHist (f : σ → τ) (g : σ → α → Option β) (hist : List (σ × α)) : List (τ × β) :=
  hist.filterMap fun x ↦ (g x.1 x.2).map fun b ↦ (f x.1, b)

theorem projectHist_append_singleton {g : σ → α → Option β} (hist : List (σ × α)) (s : σ) (a : α) :
    projectHist f g (hist ++ [(s, a)]) =
      projectHist f g hist ++ ((g s a).map fun b ↦ (f s, b)).toList :=
  List.filterMap_append_singleton _ hist (s, a)

/-- **Projection, over runs.** Where each step of `T` is the step of `U` that `g` names, or leaves
the part alone if `g` names none, a run of `T` is a run of `U` on that part. -/
theorem Run.project {g : σ → α → Option β} (hinit : ∀ s, T.init s → U.init (f s))
    (hstep : ∀ s a s', T.step s a = some s' → ∀ b, g s a = some b →
      U.step (f s) b = some (f s'))
    (hstutter : ∀ s a s', T.step s a = some s' → g s a = none → f s' = f s)
    (h : T.Run hist s) : U.Run (projectHist f g hist) (f s) := by
  induction h with
  | start h => exact .start (hinit _ h)
  | @next hist s s' a _ hs ih =>
    rw [projectHist_append_singleton]
    cases hg : g s a with
    | none => simpa [hstutter s a s' hs hg] using ih
    | some b => exact ih.next (hstep s a s' hs b hg)

/-- Every entry in the history of a part is an entry of the whole in which the part takes part. -/
theorem exists_of_mem_projectHist {g : σ → α → Option β} {u : τ} {b : β}
    (h : (u, b) ∈ projectHist f g hist) : ∃ t a, (t, a) ∈ hist ∧ f t = u ∧ g t a = some b := by
  obtain ⟨⟨t, a⟩, hmem, heq⟩ := List.mem_filterMap.1 h
  obtain ⟨b', hb, heq⟩ := Option.map_eq_some_iff.1 heq
  obtain ⟨hu, rfl⟩ := Prod.mk.inj heq
  exact ⟨t, a, hmem, hu, hb⟩

/-- Every state that a part visits is its state in one that the whole visits. -/
theorem exists_visited_of_project {g : σ → α → Option β} {s : σ} {u : τ}
    (hv : Visited (projectHist f g hist) (f s) u) : ∃ t, Visited hist s t ∧ f t = u := by
  rcases hv with rfl | ⟨b, hb⟩
  · exact ⟨s, visited_last hist s, rfl⟩
  · obtain ⟨t, a, hmem, hu, -⟩ := exists_of_mem_projectHist hb
    exact ⟨t, Or.inr ⟨a, hmem⟩, hu⟩

/-- The history of a part of a part. -/
theorem projectHist_projectHist {υ γ : Type*} {g : σ → α → Option β} {f' : τ → υ}
    {g' : τ → β → Option γ} (hist : List (σ × α)) :
    projectHist f' g' (projectHist f g hist) =
      projectHist (fun s ↦ f' (f s)) (fun s a ↦ (g s a).bind (g' (f s))) hist := by
  rw [projectHist, projectHist, projectHist, List.filterMap_filterMap]
  refine List.filterMap_congr fun x _ ↦ ?_
  cases g x.1 x.2 with
  | none => rfl
  | some b => rfl

theorem projectHist_isPrefix {g : σ → α → Option β} {hist₁ : List (σ × α)} (h : hist₁ <+: hist) :
    projectHist f g hist₁ <+: projectHist f g hist :=
  h.filterMap _

theorem forall_mem_mapHist_iff {C : τ → β → Prop} :
    (∀ x ∈ mapHist f g hist, C x.1 x.2) ↔ ∀ x ∈ hist, C (f x.1) (g x.1 x.2) :=
  List.forall_mem_map

end Refinement

/-! ### Evaluating a run -/

/-- Take a list of actions from `s`: the history and the last state, if all are enabled. -/
def exec (T : TransitionSystem σ α) (s : σ) : List α → Option (List (σ × α) × σ)
  | [] => some ([], s)
  | a :: l =>
    match T.step s a with
    | none => none
    | some s' => (exec T s' l).map fun r ↦ ((s, a) :: r.1, r.2)

theorem run_append_of_exec {l : List α} :
    ∀ {s : σ} {hist : List (σ × α)} {r : List (σ × α) × σ}, T.Run hist s →
      T.exec s l = some r → T.Run (hist ++ r.1) r.2 := by
  induction l with
  | nil =>
    intro s hist r h hr
    obtain rfl := Option.some.inj hr
    simpa using h
  | cons a l ih =>
    intro s hist r h hr
    rw [exec] at hr
    split at hr
    · cases hr
    · rename_i s' hs
      obtain ⟨q, hq, rfl⟩ := Option.map_eq_some_iff.1 hr
      simpa using ih (h.next hs) hq

/-! ### Paths -/

/-- Taking the listed actions in turn leads from one state to the other. -/
inductive Path (T : TransitionSystem σ α) : σ → List α → σ → Prop
  | nil (s : σ) : Path T s [] s
  | cons {s s' s'' : σ} {a : α} {l : List α} (hs : T.step s a = some s') (h : Path T s' l s'') :
      Path T s (a :: l) s''

theorem Path.append {s s' s'' : σ} {l l' : List α} (h : T.Path s l s') (h' : T.Path s' l' s'') :
    T.Path s (l ++ l') s'' := by
  induction h with
  | nil s => exact h'
  | cons hs _ ih => exact .cons hs (ih h')

/-- What every action of a path keeps, the path keeps. -/
theorem Path.invariant {I : σ → Prop} {s s' : σ} {l : List α} (h : T.Path s l s')
    (hstep : ∀ s a s', a ∈ l → I s → T.step s a = some s' → I s') (hs : I s) : I s' := by
  induction h with
  | nil s => exact hs
  | cons hs' _ ih =>
    exact ih (fun s a s' ha ↦ hstep s a s' (List.mem_cons_of_mem _ ha))
      (hstep _ _ _ List.mem_cons_self hs hs')

/-- A path continues a run. -/
theorem Run.append_path {hist : List (σ × α)} {s s' : σ} {l : List α} (h : T.Run hist s)
    (hp : T.Path s l s') : ∃ hist', hist'.map Prod.snd = l ∧ T.Run (hist ++ hist') s' := by
  induction hp generalizing hist with
  | nil s => exact ⟨[], rfl, by rwa [List.append_nil]⟩
  | @cons s s' s'' a l hs _ ih =>
    obtain ⟨hist', hl, h'⟩ := ih (h.next hs)
    refine ⟨(s, a) :: hist', by rw [List.map_cons, hl], ?_⟩
    rwa [List.append_assoc] at h'

/-- Evaluating a list of actions is a path. -/
theorem path_of_exec {l : List α} {s : σ} {r : List (σ × α) × σ} (hr : T.exec s l = some r) :
    T.Path s l r.2 := by
  induction l generalizing s r with
  | nil =>
    obtain rfl := Option.some.inj hr
    exact .nil s
  | cons a l ih =>
    rw [exec] at hr
    split at hr
    · cases hr
    · obtain ⟨q, hq, rfl⟩ := Option.map_eq_some_iff.1 hr
      have hrest := ih hq
      exact .cons ‹_› hrest

/-- Evaluating a list of actions from an initial state is a run. -/
theorem run_of_exec {l : List α} {s : σ} {r : List (σ × α) × σ} (hinit : T.init s)
    (hr : T.exec s l = some r) : T.Run r.1 r.2 := by
  simpa using run_append_of_exec (Run.start hinit) hr

end TransitionSystem
