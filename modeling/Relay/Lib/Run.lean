import Mathlib.Data.List.Induction

/-! Executions of a state machine, kept with their history. A property of whole runs
is proved by an induction that adds one step at the end. -/

structure Step (σ ι : Type) where
  before : σ
  event : ι
  after : σ

/-- The executions of a machine from `s`: the steps taken and the state reached. -/
inductive Exec {σ ι : Type} (R : σ → ι → σ → Prop) (s : σ) : List (Step σ ι) → σ → Prop
  | nil : Exec R s [] s
  | snoc {h : List (Step σ ι)} {t u : σ} {i : ι} :
    Exec R s h t → R t i u → Exec R s (h ++ [⟨t, i, u⟩]) u

namespace Exec

variable {σ ι : Type} {R : σ → ι → σ → Prop} {s t u : σ} {h k : List (Step σ ι)} {x : Step σ ι}

theorem eq_of_nil (run : Exec R s [] t) : t = s := by
  generalize empty : ([] : List (Step σ ι)) = l at run
  cases run with
  | nil => rfl
  | snoc => simp at empty

theorem cons {i : ι} (first : R s i t) (rest : Exec R t h u) : Exec R s (⟨s, i, t⟩ :: h) u := by
  induction rest with
  | nil => exact .snoc .nil first
  | snoc _ last ih => exact .snoc ih last

theorem append (first : Exec R s h t) (rest : Exec R t k u) : Exec R s (h ++ k) u := by
  induction rest with
  | nil => simpa using first
  | snoc _ last ih =>
    rw [← List.append_assoc]
    exact .snoc ih last

theorem split (run : Exec R s (h ++ k) u) : ∃ t, Exec R s h t ∧ Exec R t k u := by
  induction k using List.reverseRecOn generalizing u with
  | nil => exact ⟨u, by simpa using run, .nil⟩
  | append_singleton k y ih =>
    rw [← List.append_assoc] at run
    generalize whole : h ++ k ++ [y] = l at run
    cases run with
    | nil => simp at whole
    | snoc before last =>
      obtain ⟨front, step⟩ := List.append_inj' whole rfl
      subst front
      simp only [List.cons.injEq, and_true] at step
      subst step
      obtain ⟨t, first, second⟩ := ih before
      exact ⟨t, first, .snoc second last⟩

/-- Every step of an execution is taken from the state that the steps before it reach. -/
theorem split_step (run : Exec R s (h ++ x :: k) u) :
    Exec R s h x.before ∧ R x.before x.event x.after ∧ Exec R x.after k u := by
  rw [show h ++ x :: k = h ++ [x] ++ k by simp] at run
  obtain ⟨t, first, second⟩ := run.split
  generalize whole : h ++ [x] = l at first
  cases first with
  | nil => simp at whole
  | snoc before last =>
    obtain ⟨front, step⟩ := List.append_inj' whole rfl
    subst front
    simp only [List.cons.injEq, and_true] at step
    subst step
    exact ⟨before, last, second⟩

theorem step_of_mem (run : Exec R s h u) (member : x ∈ h) : R x.before x.event x.after := by
  obtain ⟨before, after, rfl⟩ := List.append_of_mem member
  exact run.split_step.2.1

theorem mono {R' : σ → ι → σ → Prop} (more : ∀ {t i u}, R t i u → R' t i u) (run : Exec R s h u) : Exec R' s h u := by
  induction run with
  | nil => exact .nil
  | snoc _ last ih => exact .snoc ih (more last)

theorem invariant {I : σ → Prop} (keeps : ∀ {t i u}, I t → R t i u → I u) (start : I s)
    (run : Exec R s h u) : I u := by
  induction run with
  | nil => exact start
  | snoc _ last ih => exact keeps ih last

/-- A property of the history and the state reached, under a condition on the
history that holds of all its beginnings. -/
theorem history {G : List (Step σ ι) → Prop} {I : List (Step σ ι) → σ → Prop}
    (shorter : ∀ {h x}, G (h ++ [x]) → G h) (start : I [] s)
    (keeps : ∀ {h t i u}, Exec R s h t → G (h ++ [⟨t, i, u⟩]) → I h t → R t i u →
      I (h ++ [⟨t, i, u⟩]) u)
    (run : Exec R s h u) (good : G h) : I h u := by
  induction run with
  | nil => exact start
  | snoc before last ih => exact keeps before good (ih (shorter good)) last

/-- A property of the state reached and of what the steps have put out, in their order. -/
theorem collected {α : Type} {out : Step σ ι → Option α} {I : List α → σ → Prop} {g : List α}
    (keeps : ∀ {l t i u}, I l t → R t i u → I (l ++ (out ⟨t, i, u⟩).toList) u) (start : I g s)
    (run : Exec R s h u) : I (g ++ h.filterMap out) u := by
  induction run with
  | nil => simpa using start
  | snoc _ last ih =>
    rw [List.filterMap_append, ← List.append_assoc, List.filterMap_cons, List.filterMap_nil]
    have kept := keeps ih last
    split
    · rename_i nothing
      rwa [nothing] at kept
    · rename_i a something
      rwa [something] at kept

/-- Every step leaves a fact behind that lasts, and whatever is taken under the fact stands in
the relation to that step. -/
theorem pairwise {P : Step σ ι → σ → Prop} {p : Step σ ι → Step σ ι → Prop}
    (leaves : ∀ {h t i u}, Exec R s h t → R t i u → P ⟨t, i, u⟩ u) (lasts : ∀ {x t i u}, P x t → R t i u → P x u)
    (relates : ∀ {x t i u}, P x t → R t i u → p x ⟨t, i, u⟩) (run : Exec R s h u) : h.Pairwise p := by
  have both : h.Pairwise p ∧ ∀ x ∈ h, P x u := by
    induction run with
    | nil => exact ⟨.nil, nofun⟩
    | snoc before last ih =>
      constructor
      · rw [List.pairwise_append]
        refine ⟨ih.1, List.pairwise_singleton _ _, ?_⟩
        intro x member y newest
        rw [List.mem_singleton.mp newest]
        exact relates (ih.2 x member) last
      · intro x member
        rcases List.mem_append.mp member with old | newest
        · exact lasts (ih.2 x old) last
        · rw [List.mem_singleton.mp newest]
          exact leaves before last
  exact both.1

end Exec

/-- A condition on each step and the steps before it can be checked by position. -/
theorem forall_split_iff {α : Type} {l : List α} {p : List α → α → Prop} :
    (∀ before x after, l = before ++ x :: after → p before x) ↔
      ∀ i < l.length, ∀ x ∈ l[i]?, p (l.take i) x := by
  constructor
  · intro all i inside x here
    apply all (l.take i) x (l.drop (i + 1))
    rw [List.getElem?_eq_getElem inside, Option.mem_some_iff] at here
    rw [← here, List.getElem_cons_drop, List.take_append_drop]
  · rintro all before x after rfl
    have here := all before.length (by simp) x (by simp)
    rwa [List.take_left] at here

theorem Option.guarded {α : Type} {c : Prop} [Decidable c] {a b : α} (taken : (if c then some a else none) = some b) :
    c ∧ a = b := by
  rwa [Option.ite_none_right_eq_some, Option.some.injEq] at taken

/-! A machine given by a partial step function, on a list of inputs. -/
namespace Machine

variable {σ ι : Type} (step : σ → ι → Option σ)

def Moves (s : σ) (i : ι) (t : σ) : Prop := step s i = some t

/-- Every input finds the machine in a state that takes it. -/
def allows : σ → List ι → Bool
  | _, [] => true
  | s, i :: inputs =>
    match step s i with
    | none => false
    | some t => allows t inputs

def trail : σ → List ι → List (Step σ ι)
  | _, [] => []
  | s, i :: inputs =>
    match step s i with
    | none => []
    | some t => ⟨s, i, t⟩ :: trail t inputs

def final : σ → List ι → σ
  | s, [] => s
  | s, i :: inputs =>
    match step s i with
    | none => s
    | some t => final t inputs

variable {step}

theorem exec_of_allows {s : σ} {inputs : List ι} (allowed : allows step s inputs = true) :
    Exec (Moves step) s (trail step s inputs) (final step s inputs) := by
  induction inputs generalizing s with
  | nil => exact .nil
  | cons i inputs ih =>
    cases taken : step s i with
    | none => simp [allows, taken] at allowed
    | some t =>
      simp only [allows, taken] at allowed
      simp only [trail, final, taken]
      exact Exec.cons taken (ih allowed)

theorem exec_of_foldlM {s t : σ} (inputs : List ι) (reached : inputs.foldlM step s = some t) :
    ∃ h, Exec (Moves step) s h t := by
  induction inputs generalizing s with
  | nil =>
    cases reached
    exact ⟨[], .nil⟩
  | cons i inputs ih =>
    obtain ⟨u, taken, rest⟩ := Option.bind_eq_some_iff.mp reached
    obtain ⟨h, run⟩ := ih rest
    exact ⟨_, .cons taken run⟩

theorem trail_split {s : σ} {i : ι} {inputs rest : List ι} (allowed : allows step s (inputs ++ i :: rest) = true) :
    trail step s (inputs ++ i :: rest) =
      trail step s inputs ++ ⟨final step s inputs, i, final step s (inputs ++ [i])⟩ ::
        trail step (final step s (inputs ++ [i])) rest := by
  induction inputs generalizing s with
  | nil =>
    cases taken : step s i with
    | none => simp [allows, taken] at allowed
    | some t => simp [trail, final, taken]
  | cons j inputs ih =>
    cases taken : step s j with
    | none => simp [allows, taken] at allowed
    | some t =>
      simp only [List.cons_append, allows, taken] at allowed
      simp only [List.cons_append, trail, final, taken, ih allowed]

end Machine
