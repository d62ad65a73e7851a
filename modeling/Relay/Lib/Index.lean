import Relay.Lib.Table
import Mathlib.Algebra.BigOperators.Group.Finset.Basic
import Mathlib.Algebra.Order.BigOperators.Group.Finset

/-! A table whose entries can be found under two other keys. The index holds both keys of
every entry and nothing else, so that it is twice as large as the table. -/
namespace Table

variable {ι κ α : Type} [DecidableEq ι] [DecidableEq κ]

structure Indexed (f g : α → κ) (t : Table ι α) (index : Table κ ι) : Prop where
  first : ∀ {k v}, t.lookup k = some v → index.lookup (f v) = some k
  second : ∀ {k v}, t.lookup k = some v → index.lookup (g v) = some k
  apart : ∀ {k v}, t.lookup k = some v → f v ≠ g v
  owned : ∀ {l k}, index.lookup l = some k → ∃ v, t.lookup k = some v ∧ (l = f v ∨ l = g v)

theorem size_eq_card (t : Table ι α) : t.size = t.keys.toFinset.card := by
  rw [List.toFinset_card_of_nodup t.keys_nodup, length_keys]

theorem size_le_of_mem {β : Type} {t : Table ι α} {t' : Table ι β} (old : ∀ k, k ∈ t' → k ∈ t) : t'.size ≤ t.size := by
  rw [size_eq_card, size_eq_card]
  apply Finset.card_le_card
  intro k member
  rw [List.mem_toFinset, ← AList.mem_keys] at member ⊢
  exact old k member

theorem size_insert_le (t : Table ι α) (k : ι) (v : α) : size (t.insert k v) ≤ t.size + 1 := by
  rw [size_eq_card, size_eq_card]
  calc (t.insert k v).keys.toFinset.card
      ≤ (insert k t.keys.toFinset).card := by
        apply Finset.card_le_card
        intro j member
        rw [List.mem_toFinset, ← AList.mem_keys, AList.mem_insert] at member
        rwa [Finset.mem_insert, List.mem_toFinset, ← AList.mem_keys]
    _ ≤ t.keys.toFinset.card + 1 := Finset.card_insert_le _ _

def ownKeys (f g : α → κ) (t : Table ι α) (k : ι) : Finset κ := (t.lookup k).elim ∅ fun v => {f v, g v}

namespace Indexed

variable {f g : α → κ} {t : Table ι α} {index : Table κ ι} {k : ι} {v : α}

theorem empty : Indexed f g (∅ : Table ι α) (∅ : Table κ ι) := by
  constructor <;> simp

section

variable (indexed : Indexed f g t index)

include indexed

theorem lookup_iff (found : t.lookup k = some v) {l : κ} : index.lookup l = some k ↔ l = f v ∨ l = g v := by
  constructor
  · intro leads
    obtain ⟨v', again, own⟩ := indexed.owned leads
    rw [found] at again
    cases again
    exact own
  · rintro (rfl | rfl)
    · exact indexed.first found
    · exact indexed.second found

theorem insert (fresh : k ∉ t) (newFirst : f v ∉ index) (newSecond : g v ∉ index) (differ : f v ≠ g v) :
    Indexed f g (t.insert k v) ((index.insert (f v) k).insert (g v) k) := by
  have old : ∀ {l j}, index.lookup l = some j → l ≠ f v ∧ l ≠ g v := by
    intro l j found
    have member : l ∈ index := AList.lookup_isSome.mp (by rw [found]; rfl)
    constructor
    · rintro rfl
      exact newFirst member
    · rintro rfl
      exact newSecond member
  have leads : ∀ {l j}, index.lookup l = some j → ((index.insert (f v) k).insert (g v) k).lookup l = some j := by
    intro l j found
    rw [AList.lookup_insert_ne (old found).2, AList.lookup_insert_ne (old found).1]
    exact found
  constructor
  · intro j w found
    rcases lookup_insert_some.mp found with ⟨rfl, rfl⟩ | ⟨_, found⟩
    · rw [AList.lookup_insert_ne differ, AList.lookup_insert]
    · exact leads (indexed.first found)
  · intro j w found
    rcases lookup_insert_some.mp found with ⟨rfl, rfl⟩ | ⟨_, found⟩
    · exact AList.lookup_insert _
    · exact leads (indexed.second found)
  · intro j w found
    rcases lookup_insert_some.mp found with ⟨rfl, rfl⟩ | ⟨_, found⟩
    · exact differ
    · exact indexed.apart found
  · intro l j found
    rcases lookup_insert_some.mp found with ⟨rfl, rfl⟩ | ⟨_, found⟩
    · exact ⟨v, AList.lookup_insert _, .inr rfl⟩
    rcases lookup_insert_some.mp found with ⟨rfl, rfl⟩ | ⟨_, found⟩
    · exact ⟨v, AList.lookup_insert _, .inl rfl⟩
    · obtain ⟨w, stored, own⟩ := indexed.owned found
      have other : j ≠ k := by
        rintro rfl
        exact fresh (AList.lookup_isSome.mp (by rw [stored]; rfl))
      exact ⟨w, (AList.lookup_insert_ne other).trans stored, own⟩

theorem erase (here : t.lookup k = some v) : Indexed f g (t.erase k) ((index.erase (f v)).erase (g v)) := by
  have leads : ∀ {l j}, j ≠ k → index.lookup l = some j →
      ((index.erase (f v)).erase (g v)).lookup l = some j := by
    intro l j other found
    have foreign : ¬ (l = f v ∨ l = g v) := by
      intro own
      have same := (indexed.lookup_iff here).mpr own
      rw [found] at same
      exact other (Option.some.inj same)
    obtain ⟨notFirst, notSecond⟩ := not_or.mp foreign
    rw [AList.lookup_erase_ne notSecond, AList.lookup_erase_ne notFirst]
    exact found
  constructor
  · intro j w found
    obtain ⟨other, found⟩ := lookup_erase_some.mp found
    exact leads other (indexed.first found)
  · intro j w found
    obtain ⟨other, found⟩ := lookup_erase_some.mp found
    exact leads other (indexed.second found)
  · intro j w found
    exact indexed.apart (lookup_erase_some.mp found).2
  · intro l j found
    obtain ⟨notSecond, found⟩ := lookup_erase_some.mp found
    obtain ⟨notFirst, found⟩ := lookup_erase_some.mp found
    obtain ⟨w, stored, own⟩ := indexed.owned found
    have other : j ≠ k := by
      rintro rfl
      exact not_or.mpr ⟨notFirst, notSecond⟩ ((indexed.lookup_iff here).mp found)
    exact ⟨w, lookup_erase_some.mpr ⟨other, stored⟩, own⟩

theorem mem_ownKeys {l : κ} : l ∈ ownKeys f g t k ↔ index.lookup l = some k := by
  unfold ownKeys
  cases found : t.lookup k with
  | none =>
    simp only [Option.elim_none, Finset.notMem_empty, false_iff]
    intro leads
    obtain ⟨v, stored, _⟩ := indexed.owned leads
    rw [found] at stored
    cases stored
  | some v => simp [indexed.lookup_iff found]

theorem card_ownKeys (member : k ∈ t) : (ownKeys f g t k).card = 2 := by
  obtain ⟨v, found⟩ := Option.isSome_iff_exists.mp (AList.lookup_isSome.mpr member)
  rw [ownKeys, found]
  exact Finset.card_pair (indexed.apart found)

theorem size : index.size = 2 * t.size := by
  have union : index.keys.toFinset = t.keys.toFinset.biUnion (ownKeys f g t) := by
    ext l
    simp only [List.mem_toFinset, Finset.mem_biUnion, ← AList.mem_keys]
    constructor
    · intro member
      obtain ⟨k, found⟩ := Option.isSome_iff_exists.mp (AList.lookup_isSome.mpr member)
      obtain ⟨v, stored, _⟩ := indexed.owned found
      exact ⟨k, AList.lookup_isSome.mp (by rw [stored]; rfl), indexed.mem_ownKeys.mpr found⟩
    · rintro ⟨k, _, own⟩
      exact AList.lookup_isSome.mp (by rw [indexed.mem_ownKeys.mp own]; rfl)
  have disjoint : (t.keys.toFinset : Set ι).PairwiseDisjoint (ownKeys f g t) := by
    intro j _ k _ differ
    rw [Function.onFun, Finset.disjoint_left]
    intro l first second
    have same := (indexed.mem_ownKeys.mp first).symm.trans (indexed.mem_ownKeys.mp second)
    exact differ (Option.some.inj same)
  have two : ∀ k ∈ t.keys.toFinset, (ownKeys f g t k).card = 2 := by
    intro k member
    exact indexed.card_ownKeys (AList.mem_keys.mpr (List.mem_toFinset.mp member))
  rw [size_eq_card, size_eq_card, union, Finset.card_biUnion disjoint, Finset.sum_const_nat two, mul_comm]

end

end Indexed

end Table
