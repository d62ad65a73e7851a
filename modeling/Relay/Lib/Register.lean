import Mathlib.Data.List.Induction
import Mathlib.Data.List.Sort
import Mathlib.Order.Basic

/-! A register that takes every entry that is not outranked by the one it holds. What it
holds after any deliveries is an entry of the highest rank among them. -/
namespace Register

variable {α : Type} (rank : α → Nat)

def deliver (held : Option α) (a : α) : Option α :=
  match held with
  | none => some a
  | some b => if rank a < rank b then some b else some a

def content (l : List α) : Option α := l.foldl (deliver rank) none

variable {rank} {l : List α} {a b : α}

theorem content_snoc : content rank (l ++ [a]) = deliver rank (content rank l) a := by
  simp [content]

structure Tops (rank : α → Nat) (l : List α) (a : α) : Prop where
  mem : a ∈ l
  max : ∀ b ∈ l, rank b ≤ rank a

theorem Tops.rank_eq (first : Tops rank l a) (second : Tops rank l b) : rank a = rank b :=
  le_antisymm (second.max a first.mem) (first.max b second.mem)

theorem content_cases (rank : α → Nat) (l : List α) :
    (l = [] ∧ content rank l = none) ∨ ∃ a, content rank l = some a ∧ Tops rank l a := by
  induction l using List.reverseRecOn with
  | nil => exact .inl ⟨rfl, rfl⟩
  | append_singleton l a ih =>
    right
    rw [content_snoc]
    rcases ih with ⟨rfl, empty⟩ | ⟨b, held, tops⟩
    · exact ⟨a, by rw [empty]; rfl, by simp, by simp⟩
    · rw [held]
      unfold deliver
      dsimp only
      split
      · rename_i outranked
        refine ⟨b, rfl, List.mem_append_left _ tops.mem, ?_⟩
        intro c member
        rcases List.mem_append.mp member with earlier | here
        · exact tops.max c earlier
        · rw [List.mem_singleton.mp here]
          exact le_of_lt outranked
      · rename_i current
        refine ⟨a, rfl, by simp, ?_⟩
        intro c member
        rcases List.mem_append.mp member with earlier | here
        · exact le_trans (tops.max c earlier) (not_lt.mp current)
        · rw [List.mem_singleton.mp here]

theorem said_stays {β : Type} {say : α → β} {k : List α}
    (later : ∀ b ∈ k, rank b ≤ rank a ∧ (rank b = rank a → say b = say a)) :
    ∃ c, k.foldl (deliver rank) (some a) = some c ∧ rank c = rank a ∧ say c = say a := by
  induction k using List.reverseRecOn with
  | nil => exact ⟨a, rfl, rfl, rfl⟩
  | append_singleton k b ih =>
    obtain ⟨c, held, same, said⟩ := ih fun b member => later b (List.mem_append_left _ member)
    obtain ⟨bound, agrees⟩ := later b (by simp)
    simp only [List.foldl_append, held, List.foldl_cons, List.foldl_nil, deliver]
    split
    · exact ⟨c, rfl, same, said⟩
    · rename_i current
      have equal : rank b = rank a := by omega
      exact ⟨b, rfl, equal, agrees equal⟩

end Register

theorem List.insertionSort_eq_of_perm {α κ : Type} [LinearOrder κ] {key : α → κ} {l l' : List α} (perm : l.Perm l')
    (once : (l.map key).Nodup) :
    l.insertionSort (fun a b => key a ≤ key b) = l'.insertionSort fun a b => key a ≤ key b := by
  have total : Std.Total fun a b : α => key a ≤ key b := ⟨fun a b => le_total (key a) (key b)⟩
  have trans : IsTrans α fun a b => key a ≤ key b := ⟨fun a b c => le_trans⟩
  have unique : ∀ a b, a ∈ l.insertionSort (fun a b => key a ≤ key b) →
      b ∈ l'.insertionSort (fun a b => key a ≤ key b) → key a ≤ key b → key b ≤ key a → a = b := by
    intro a b first second below above
    have here := (List.mem_insertionSort _).mp first
    have there := perm.mem_iff.mpr ((List.mem_insertionSort _).mp second)
    exact List.inj_on_of_nodup_map once here there (le_antisymm below above)
  have same := ((List.perm_insertionSort (fun a b => key a ≤ key b) l).trans perm).trans
    (List.perm_insertionSort (fun a b => key a ≤ key b) l').symm
  exact List.Perm.eq_of_pairwise unique (List.pairwise_insertionSort _ l) (List.pairwise_insertionSort _ l') same

theorem List.insertionSort_idem {α κ : Type} [LinearOrder κ] (key : α → κ) (l : List α) :
    (l.insertionSort fun a b => key a ≤ key b).insertionSort (fun a b => key a ≤ key b) =
      l.insertionSort fun a b => key a ≤ key b := by
  have total : Std.Total fun a b : α => key a ≤ key b := ⟨fun a b => le_total (key a) (key b)⟩
  have trans : IsTrans α fun a b => key a ≤ key b := ⟨fun a b c => le_trans⟩
  exact (List.pairwise_insertionSort (fun a b => key a ≤ key b) l).insertionSort_eq
