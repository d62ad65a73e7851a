import Mathlib.Data.List.AList

/-! Finite maps, and the loop that walks the entries of a map and acts on some of
its keys. The map itself, its lookup, insertion and deletion are Mathlib's
association lists without duplicate keys. -/

/-- A finite map with one type of values. -/
abbrev Table (α β : Type) : Type := AList (fun _ : α => β)

namespace Table

variable {α β γ δ : Type} [DecidableEq α]

def size (t : Table α β) : Nat := t.entries.length

omit [DecidableEq α] in
theorem length_keys (t : Table α β) : t.keys.length = t.size := by
  rw [AList.keys, List.keys, List.length_map, size]

variable {t : Table α β} {p : α → β → Bool} {k k' : α} {act : α → γ → γ} {v v' : β} {q : β → Prop}

theorem lookup_insert_some :
    (t.insert k v).lookup k' = some v' ↔ (k' = k ∧ v = v') ∨ (k' ≠ k ∧ t.lookup k' = some v') := by
  by_cases same : k' = k
  · subst same
    simp [AList.lookup_insert]
  · simp [AList.lookup_insert_ne same, same]

theorem lookup_erase_some : (t.erase k).lookup k' = some v ↔ k' ≠ k ∧ t.lookup k' = some v := by
  by_cases same : k' = k
  · subst same
    simp [AList.lookup_erase]
  · simp [AList.lookup_erase_ne same, same]

theorem mem_entries_iff : (⟨k, v⟩ : Σ _ : α, β) ∈ t.entries ↔ t.lookup k = some v :=
  AList.mem_lookup_iff.symm

theorem mem_iff_lookup : k ∈ t ↔ ∃ v, t.lookup k = some v :=
  AList.lookup_isSome.symm.trans Option.isSome_iff_exists

omit [DecidableEq α] in
theorem forall_entry_cons {entries : List (Σ _ : α, β)} :
    (∀ v, (⟨k, v⟩ : Σ _ : α, β) ∈ (⟨k', v'⟩ :: entries : List (Σ _ : α, β)) → q v) ↔
      (k = k' → q v') ∧ ∀ v, (⟨k, v⟩ : Σ _ : α, β) ∈ entries → q v := by
  constructor
  · intro all
    refine ⟨?_, fun v member => all v (List.mem_cons_of_mem _ member)⟩
    intro same
    subst same
    exact all v' List.mem_cons_self
  · rintro ⟨head, tail⟩ v member
    rcases List.mem_cons.mp member with here | there
    · cases here
      exact head rfl
    · exact tail v there

/-- Walk the entries; act on the keys of those that satisfy `p`. -/
def walk (p : α → β → Bool) (act : α → γ → γ) (entries : List (Σ _ : α, β)) (c : γ) : γ :=
  entries.foldl (fun acc e => if p e.1 e.2 then act e.1 acc else acc) c

omit [DecidableEq α] in
theorem walk_cons (p : α → β → Bool) (act : α → γ → γ) (e : Σ _ : α, β)
    (entries : List (Σ _ : α, β)) (c : γ) :
    walk p act (e :: entries) c = walk p act entries (if p e.1 e.2 then act e.1 c else c) := rfl

omit [DecidableEq α] in
theorem walk_frame (f : γ → δ) (keeps : ∀ k c, f (act k c) = f c) (entries : List (Σ _ : α, β)) (c : γ) :
    f (walk p act entries c) = f c := by
  induction entries generalizing c with
  | nil => rfl
  | cons e entries ih =>
    rw [walk_cons, ih]
    split
    · exact keeps _ _
    · rfl

omit [DecidableEq α] in
theorem walk_invariant {I : γ → Prop} (keeps : ∀ k c, I c → I (act k c)) (entries : List (Σ _ : α, β)) {c : γ}
    (start : I c) : I (walk p act entries c) := by
  induction entries generalizing c with
  | nil => exact start
  | cons e entries ih =>
    rw [walk_cons]
    apply ih
    split
    · exact keeps _ _ start
    · exact start

omit [DecidableEq α] in
/-- If an action removes a fact exactly when it is applied to `key`, the fact
survives the walk exactly when no visited entry of `key` satisfies `p`. -/
theorem walk_survives {key : α} (fact : γ → Prop) (acts : ∀ k c, fact (act k c) ↔ fact c ∧ key ≠ k)
    (entries : List (Σ _ : α, β)) (c : γ) :
    fact (walk p act entries c) ↔
      fact c ∧ ∀ v, (⟨key, v⟩ : Σ _ : α, β) ∈ entries → p key v = false := by
  induction entries generalizing c with
  | nil => simp [walk]
  | cons e entries ih =>
    obtain ⟨k, v⟩ := e
    rw [walk_cons, ih, forall_entry_cons]
    by_cases hit : p k v = true
    · rw [if_pos hit, acts]
      constructor
      · rintro ⟨⟨holds, other⟩, tail⟩
        exact ⟨holds, fun same => absurd same other, tail⟩
      · rintro ⟨holds, head, tail⟩
        refine ⟨⟨holds, ?_⟩, tail⟩
        intro same
        subst same
        rw [hit] at head
        cases head rfl
    · rw [if_neg hit]
      have miss : p k v = false := by simpa using hit
      constructor
      · rintro ⟨holds, tail⟩
        exact ⟨holds, fun same => same ▸ miss, tail⟩
      · rintro ⟨holds, _, tail⟩
        exact ⟨holds, tail⟩

theorem forall_entries : (∀ v, (⟨k, v⟩ : Σ _ : α, β) ∈ t.entries → q v) ↔ ∀ v, t.lookup k = some v → q v := by
  simp only [mem_entries_iff]

def eraseWhere (p : α → β → Bool) (t : Table α β) : Table α β :=
  walk p AList.erase t.entries t

theorem lookup_eraseWhere : (eraseWhere p t).lookup k = some v ↔ t.lookup k = some v ∧ p k v = false := by
  have acts : ∀ (k' : α) (c : Table α β),
      (c.erase k').lookup k = some v ↔ c.lookup k = some v ∧ k ≠ k' := by
    intro k' c
    rw [lookup_erase_some, and_comm]
  unfold eraseWhere
  rw [walk_survives (fun c : Table α β => c.lookup k = some v) acts, forall_entries]
  constructor
  · rintro ⟨found, all⟩
    exact ⟨found, all v found⟩
  · rintro ⟨found, miss⟩
    refine ⟨found, ?_⟩
    intro w again
    rw [found] at again
    cases again
    exact miss

end Table
