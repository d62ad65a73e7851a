import Mathlib.Algebra.BigOperators.Fin
import Mathlib.Algebra.BigOperators.Group.List.Lemmas
import Mathlib.Algebra.Order.BigOperators.Group.Finset
import Mathlib.Algebra.Order.BigOperators.Group.Multiset
import Mathlib.Data.Multiset.Fintype
import Mathlib.Tactic.Abel

/-! Resources that are claimed by flags and passed from holder to holder. What the holders
have together is a multiset: a resource that moves leaves it unchanged, and only claiming
and releasing change it. -/

/-- A resource is claimed exactly while it is held, and by one holder only. -/
structure Owned {α : Type} (claimed : α → Bool) (held : Multiset α) : Prop where
  once : held.Nodup
  exactly : ∀ a, claimed a = true ↔ a ∈ held

namespace Owned

variable {α : Type} {claimed : α → Bool} {held : Multiset α} {a : α}

theorem empty : Owned (fun _ : α => false) 0 := ⟨Multiset.nodup_zero, by simp⟩

theorem claim [DecidableEq α] (owned : Owned claimed held) (free : claimed a = false) :
    Owned (Function.update claimed a true) (a ::ₘ held) := by
  have absent : a ∉ held := by
    intro member
    have taken := (owned.exactly a).mpr member
    rw [free] at taken
    cases taken
  constructor
  · exact Multiset.nodup_cons.mpr ⟨absent, owned.once⟩
  · intro b
    by_cases same : b = a
    · simp [same]
    · simp [same, owned.exactly b]

theorem release [DecidableEq α] (owned : Owned claimed (a ::ₘ held)) :
    Owned (Function.update claimed a false) held := by
  obtain ⟨absent, once⟩ := Multiset.nodup_cons.mp owned.once
  constructor
  · exact once
  · intro b
    by_cases same : b = a
    · simp [same, absent]
    · simp [owned.exactly b, same]

theorem card_claimed [Fintype α] (owned : Owned claimed held) :
    (Finset.univ.filter fun a => claimed a = true).card = held.card := by
  have same : (Finset.univ.filter fun a => claimed a = true).val = held := by
    apply (Multiset.Nodup.ext (Finset.nodup _) owned.once).mpr
    intro b
    simp [owned.exactly b]
  rw [Finset.card, same]

end Owned

/-! Holders kept in a list or in a table: changing one of them exchanges what it has. -/

theorem List.sum_map_set {α M : Type} [AddCommMonoid M] (f : α → M) {l : List α} {i : Nat} {a : α}
    (here : l[i]? = some a) (b : α) : ((l.set i b).map f).sum + f a = (l.map f).sum + f b := by
  induction l generalizing i with
  | nil => simp at here
  | cons x l ih =>
    cases i with
    | zero =>
      have same : x = a := by simpa using here
      simp only [List.set_cons_zero, List.map_cons, List.sum_cons, same]
      abel
    | succ i =>
      have next := ih (by simpa using here)
      simp only [List.set_cons_succ, List.map_cons, List.sum_cons]
      rw [add_assoc, next, add_assoc]

theorem List.countP_set_add {α : Type} (f : α → Bool) {l : List α} {i : Nat} {a : α}
    (here : l[i]? = some a) (b : α) : (l.set i b).countP f + (f a).toNat = l.countP f + (f b).toNat := by
  have count : ∀ l : List α, l.countP f = (l.map fun x => (f x).toNat).sum := by
    intro l
    induction l with
    | nil => rfl
    | cons x l ih =>
      rw [List.countP_cons, List.map_cons, List.sum_cons, ih, add_comm]
      cases f x with
      | false => rfl
      | true => rfl
  rw [count, count]
  exact List.sum_map_set (fun x => (f x).toNat) here b

theorem Fintype.sum_comp_update {ι α M : Type} [Fintype ι] [DecidableEq ι] [AddCommMonoid M] (f : α → M)
    (t : ι → α) (i : ι) (b : α) :
    ∑ j, f (Function.update t i b j) + f (t i) = ∑ j, f (t j) + f b := by
  have rest : ∑ j ∈ Finset.univ.erase i, f (Function.update t i b j) = ∑ j ∈ Finset.univ.erase i, f (t j) := by
    apply Finset.sum_congr rfl
    intro j other
    rw [Function.update_of_ne (Finset.ne_of_mem_erase other)]
  rw [← Finset.add_sum_erase _ _ (Finset.mem_univ i), rest, Function.update_self,
    ← Finset.add_sum_erase _ (fun j => f (t j)) (Finset.mem_univ i)]
  abel

theorem List.mem_sum_map {α β : Type} {f : α → Multiset β} {l : List α} {k : β} :
    k ∈ (l.map f).sum ↔ ∃ (i : Nat) (a : α), l[i]? = some a ∧ k ∈ f a := by
  induction l with
  | nil => simp
  | cons x l ih =>
    rw [List.map_cons, List.sum_cons, Multiset.mem_add, ih]
    constructor
    · rintro (first | ⟨i, a, here, member⟩)
      · exact ⟨0, x, rfl, first⟩
      · exact ⟨i + 1, a, by simpa using here, member⟩
    · rintro ⟨i, a, here, member⟩
      cases i with
      | zero =>
        have same : x = a := by simpa using here
        exact .inl (same ▸ member)
      | succ i => exact .inr ⟨i, a, by simpa using here, member⟩

/-- Where nothing is held twice, two entries of a list that have the same resource are one. -/
theorem List.index_unique {α β : Type} {f : α → Multiset β} {l : List α} {i j : Nat} {a b : α} {k : β}
    (once : (l.map f).sum.Nodup) (here : l[i]? = some a) (there : l[j]? = some b) (first : k ∈ f a)
    (second : k ∈ f b) : i = j := by
  induction l generalizing i j with
  | nil => simp at here
  | cons x l ih =>
    rw [List.map_cons, List.sum_cons, Multiset.nodup_add] at once
    obtain ⟨_, rest, apart⟩ := once
    have disjoint : ∀ {n : Nat} {c : α}, l[n]? = some c → k ∈ f c → k ∉ f x := fun place member head =>
      Multiset.disjoint_left.mp apart head (List.mem_sum_map.mpr ⟨_, _, place, member⟩)
    cases i with
    | zero =>
      cases j with
      | zero => rfl
      | succ j =>
        have same : x = a := by simpa using here
        exact absurd (same ▸ first) (disjoint (by simpa using there) second)
    | succ i =>
      cases j with
      | zero =>
        have same : x = b := by simpa using there
        exact absurd (same ▸ second) (disjoint (by simpa using here) first)
      | succ j => exact congrArg Nat.succ (ih rest (by simpa using here) (by simpa using there))

theorem Fintype.index_unique {ι β : Type} [Fintype ι] [DecidableEq ι] {t : ι → Multiset β} {i j : ι} {k : β}
    (once : (∑ n, t n).Nodup) (first : k ∈ t i) (second : k ∈ t j) : i = j := by
  by_contra other
  have both : t i + t j ≤ ∑ n, t n := by
    rw [← Finset.sum_pair other]
    exact Finset.sum_le_sum_of_subset (Finset.subset_univ _)
  have apart := (Multiset.nodup_add.mp (Multiset.nodup_of_le both once)).2.2
  exact Multiset.disjoint_left.mp apart first second
