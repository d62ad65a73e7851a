import Relay.Lib.Index
import Relay.Lib.Register

/-! Tables of rows under a primary key: the rows that a condition selects, the order of the
keys, and two tables that have the same keys and related rows. -/
namespace Table

variable {κ α β : Type} [DecidableEq κ]

def matching (p : κ → α → Bool) (t : Table κ α) : List κ := (t.entries.filter fun e => p e.1 e.2).map (·.1)

theorem mem_matching {p : κ → α → Bool} {t : Table κ α} {k : κ} :
    k ∈ t.matching p ↔ ∃ v, t.lookup k = some v ∧ p k v = true := by
  simp only [matching, List.mem_map, List.mem_filter]
  constructor
  · rintro ⟨⟨k, v⟩, ⟨member, selected⟩, rfl⟩
    exact ⟨v, mem_entries_iff.mp member, selected⟩
  · rintro ⟨v, found, selected⟩
    exact ⟨⟨k, v⟩, ⟨mem_entries_iff.mpr found, selected⟩, rfl⟩

theorem lookup_missing {t : Table κ α} {k : κ} : (t.lookup k).isSome = false ↔ k ∉ t := by
  rw [← AList.lookup_isSome, Bool.not_eq_true]

def ordered [LinearOrder κ] (t : Table κ α) : List α := (t.keys.insertionSort (· ≤ ·)).filterMap t.lookup

theorem length_ordered [LinearOrder κ] (t : Table κ α) : t.ordered.length = t.size := by
  have all : ∀ keys : List κ, (∀ k ∈ keys, k ∈ t) → (keys.filterMap t.lookup).length = keys.length := by
    intro keys
    induction keys with
    | nil => exact fun _ => rfl
    | cons k keys ih =>
      intro stored
      obtain ⟨v, found⟩ := mem_iff_lookup.mp (stored k List.mem_cons_self)
      simp only [List.filterMap_cons, found, List.length_cons]
      rw [ih fun k member => stored k (List.mem_cons_of_mem _ member)]
  have sorted := all (t.keys.insertionSort (· ≤ ·)) fun k member =>
    AList.mem_keys.mpr ((List.mem_insertionSort _).mp member)
  rw [ordered, sorted, List.length_insertionSort, length_keys]

def Filters (p : κ → α → Prop) (t t' : Table κ α) : Prop :=
  ∀ k v, t'.lookup k = some v ↔ t.lookup k = some v ∧ p k v

theorem filters_eraseWhere (p : κ → α → Bool) (t : Table κ α) :
    Filters (fun k v => p k v = false) t (t.eraseWhere p) := fun _ _ => lookup_eraseWhere

theorem filters_eraseWhere_decide (p : κ → α → Prop) [∀ k v, Decidable (p k v)] (t : Table κ α) :
    Filters (fun k v => ¬ p k v) t (t.eraseWhere fun k v => decide (p k v)) :=
  fun _ _ => lookup_eraseWhere.trans (and_congr_right fun _ => decide_eq_false_iff_not)

theorem Filters.all (t : Table κ α) : Filters (fun _ _ => True) t t := fun _ _ => (and_true _).symm.to_iff

theorem Filters.trans {p q : κ → α → Prop} {t t' t'' : Table κ α} (first : Filters p t t') (second : Filters q t' t'') :
    Filters (fun k v => p k v ∧ q k v) t t'' := by
  intro k v
  rw [second k v, first k v, and_assoc]

theorem Filters.mem {p : κ → α → Prop} {t t' : Table κ α} {k : κ} (filters : Filters p t t') (member : k ∈ t') :
    k ∈ t := by
  obtain ⟨v, left⟩ := mem_iff_lookup.mp member
  exact mem_iff_lookup.mpr ⟨v, ((filters k v).mp left).1⟩

theorem Indexed.filters {ι : Type} [DecidableEq ι] {f g : α → κ} {t t' : Table ι α} {index index' : Table κ ι}
    {p : ι → α → Prop} (indexed : Indexed f g t index) (indexed' : Indexed f g t' index') (kept : Filters p t t') :
    Filters (fun _ k => k ∈ t') index index' := by
  intro l k
  constructor
  · intro leads
    obtain ⟨v, left, own⟩ := indexed'.owned leads
    exact ⟨(indexed.lookup_iff ((kept k v).mp left).1).mpr own, mem_iff_lookup.mpr ⟨v, left⟩⟩
  · rintro ⟨leads, member⟩
    obtain ⟨v, left⟩ := mem_iff_lookup.mp member
    exact (indexed'.lookup_iff left).mpr ((indexed.lookup_iff ((kept k v).mp left).1).mp leads)

def Related (R : α → β → Prop) (t : Table κ α) (u : Table κ β) : Prop := ∀ k, Option.Rel R (t.lookup k) (u.lookup k)

namespace Related

variable {R : α → β → Prop} {t t' : Table κ α} {u u' : Table κ β} {k : κ} {a : α} {b : β}

theorem empty : Related R (∅ : Table κ α) (∅ : Table κ β) := by
  intro k
  simp only [AList.lookup_empty]
  exact .none

section

variable (related : Related R t u)

include related

theorem some_left (found : t.lookup k = some a) : ∃ b, u.lookup k = some b ∧ R a b := by
  have here := related k
  rw [found] at here
  cases other : u.lookup k with
  | none =>
    rw [other] at here
    cases here
  | some b =>
    rw [other] at here
    cases here with
    | some holds => exact ⟨b, rfl, holds⟩

theorem some_right (found : u.lookup k = some b) : ∃ a, t.lookup k = some a ∧ R a b := by
  have here := related k
  rw [found] at here
  cases other : t.lookup k with
  | none =>
    rw [other] at here
    cases here
  | some a =>
    rw [other] at here
    cases here with
    | some holds => exact ⟨a, rfl, holds⟩

theorem none_iff : t.lookup k = none ↔ u.lookup k = none := by
  rw [Option.eq_none_iff_forall_ne_some, Option.eq_none_iff_forall_ne_some]
  constructor
  · intro missing b found
    obtain ⟨a, there, _⟩ := related.some_right found
    exact missing a there
  · intro missing a found
    obtain ⟨b, there, _⟩ := related.some_left found
    exact missing b there

omit related in
theorem of_lookups (left : ∀ {k a}, t.lookup k = some a → ∃ b, u.lookup k = some b ∧ R a b)
    (right : ∀ {k b}, u.lookup k = some b → ∃ a, t.lookup k = some a) : Related R t u := by
  intro k
  cases found : t.lookup k with
  | none =>
    cases other : u.lookup k with
    | none => exact .none
    | some b =>
      obtain ⟨a, there⟩ := right other
      rw [found] at there
      cases there
  | some a =>
    obtain ⟨b, there, holds⟩ := left found
    rw [there]
    exact .some holds

omit related in
theorem lookup_eq {t' : Table κ α} (related : Related Eq t t') (k : κ) : t.lookup k = t'.lookup k := by
  cases found : t.lookup k with
  | none => exact (related.none_iff.mp found).symm
  | some a =>
    obtain ⟨b, there, rfl⟩ := related.some_left found
    exact there.symm

theorem map_lookup {γ : Type} {f : α → γ} {g : β → γ} (alike : ∀ {a b}, R a b → g b = f a) (k : κ) :
    (u.lookup k).map g = (t.lookup k).map f := by
  cases found : t.lookup k with
  | none =>
    rw [related.none_iff.mp found]
    rfl
  | some a =>
    obtain ⟨b, there, holds⟩ := related.some_left found
    rw [there]
    exact congrArg some (alike holds)

theorem mem_iff : k ∈ t ↔ k ∈ u := by
  rw [mem_iff_lookup, mem_iff_lookup]
  constructor
  · rintro ⟨a, found⟩
    obtain ⟨b, there, _⟩ := related.some_left found
    exact ⟨b, there⟩
  · rintro ⟨b, found⟩
    obtain ⟨a, there, _⟩ := related.some_right found
    exact ⟨a, there⟩

theorem insert (holds : R a b) : Related R (t.insert k a) (u.insert k b) := by
  intro j
  by_cases same : j = k
  · subst same
    rw [AList.lookup_insert, AList.lookup_insert]
    exact .some holds
  · rw [AList.lookup_insert_ne same, AList.lookup_insert_ne same]
    exact related j

theorem filter {p : κ → α → Prop} {q : κ → β → Prop} (left : Filters p t t') (right : Filters q u u')
    (agree : ∀ {k a b}, t.lookup k = some a → u.lookup k = some b → R a b → (p k a ↔ q k b)) : Related R t' u' := by
  apply of_lookups
  · intro k a found
    obtain ⟨stored, kept⟩ := (left k a).mp found
    obtain ⟨b, there, holds⟩ := related.some_left stored
    exact ⟨b, (right k b).mpr ⟨there, (agree stored there holds).mp kept⟩, holds⟩
  · intro k b found
    obtain ⟨there, kept⟩ := (right k b).mp found
    obtain ⟨a, stored, holds⟩ := related.some_right there
    exact ⟨a, (left k a).mpr ⟨stored, (agree stored there holds).mpr kept⟩⟩

theorem keys_perm : t.keys.Perm u.keys := by
  rw [List.perm_ext_iff_of_nodup t.keys_nodup u.keys_nodup]
  intro k
  rw [← AList.mem_keys, ← AList.mem_keys]
  exact related.mem_iff

theorem size : t.size = u.size := by
  rw [← length_keys, ← length_keys]
  exact related.keys_perm.length_eq

theorem ordered [LinearOrder κ] : List.Forall₂ R t.ordered u.ordered := by
  have once : (t.keys.map fun k => k).Nodup := by simpa using t.keys_nodup
  have sorted : t.keys.insertionSort (· ≤ ·) = u.keys.insertionSort (· ≤ ·) :=
    List.insertionSort_eq_of_perm related.keys_perm once
  unfold Table.ordered
  rw [sorted]
  induction u.keys.insertionSort (· ≤ ·) with
  | nil => exact .nil
  | cons k keys ih =>
    cases found : t.lookup k with
    | none =>
      simp only [List.filterMap_cons, found, related.none_iff.mp found]
      exact ih
    | some a =>
      obtain ⟨b, there, holds⟩ := related.some_left found
      simp only [List.filterMap_cons, found, there]
      exact .cons holds ih

end

end Related

end Table
