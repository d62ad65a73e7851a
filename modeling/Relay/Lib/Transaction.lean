/-! Fallible computations over one state. A failed computation keeps the state it
had reached; whoever executes it decides whether that state is ever seen. The
rules below take an execution apart into its steps and never unfold a concrete
program. -/

def Txn (σ ε α : Type) : Type := σ → Except ε α × σ

namespace Txn

variable {σ ε α β : Type}

instance : Monad (Txn σ ε) where
  pure a := fun s => (.ok a, s)
  bind m f := fun s =>
    match m s with
    | (.ok a, t) => f a t
    | (.error e, t) => (.error e, t)

def throw (e : ε) : Txn σ ε α := fun s => (.error e, s)

def get : Txn σ ε σ := fun s => (.ok s, s)

def modify (f : σ → σ) : Txn σ ε Unit := fun s => (.ok (), f s)

def require (c : Prop) [Decidable c] (e : ε) : Txn σ ε Unit :=
  if c then pure () else throw e

def when (c : Prop) [Decidable c] (m : Txn σ ε Unit) : Txn σ ε Unit :=
  if c then m else pure ()

def lift : Except ε α → Txn σ ε α
  | .ok a => pure a
  | .error e => throw e

/-- Run the computation and hand its result, success or failure, to what follows. -/
def attempt (m : Txn σ ε α) : Txn σ ε (Except ε α) := fun s => (.ok (m s).1, (m s).2)

def mapError (f : ε → ε) (m : Txn σ ε α) : Txn σ ε α := fun s =>
  match m s with
  | (.ok a, t) => (.ok a, t)
  | (.error e, t) => (.error (f e), t)

@[simp] theorem pure_run (a : α) (s : σ) : (pure a : Txn σ ε α) s = (.ok a, s) := rfl

@[simp] theorem throw_run (e : ε) (s : σ) : (throw e : Txn σ ε α) s = (.error e, s) := rfl

@[simp] theorem get_run (s : σ) : (get : Txn σ ε σ) s = (.ok s, s) := rfl

@[simp] theorem modify_run (f : σ → σ) (s : σ) :
    (modify f : Txn σ ε Unit) s = (.ok (), f s) := rfl

theorem bind_run (m : Txn σ ε α) (f : α → Txn σ ε β) (s : σ) :
    (m >>= f) s = match m s with
      | (.ok a, t) => f a t
      | (.error e, t) => (.error e, t) := rfl

theorem bind_assoc {γ : Type} (m : Txn σ ε α) (f : α → Txn σ ε β) (g : β → Txn σ ε γ) :
    m >>= f >>= g = m >>= fun a => f a >>= g := by
  funext s
  simp only [bind_run]
  rcases m s with ⟨_ | _, _⟩ <;> rfl

variable {f : α → Txn σ ε β} {s t : σ} {ι : Type} {c : Prop} {e : ε} {a : α} {m : Txn σ ε α} {r : Except ε α} {u : Unit}

theorem bind_ok {b : β} : (m >>= f) s = (.ok b, t) ↔ ∃ a u, m s = (.ok a, u) ∧ f a u = (.ok b, t) := by
  rw [bind_run]
  cases h : m s with
  | mk r u =>
    cases r with
    | ok a =>
      constructor
      · intro done
        exact ⟨a, u, rfl, done⟩
      · rintro ⟨a', u', same, done⟩
        cases same
        exact done
    | error e => simp

theorem bind_error :
    (m >>= f) s = (.error e, t) ↔
      m s = (.error e, t) ∨ ∃ a u, m s = (.ok a, u) ∧ f a u = (.error e, t) := by
  rw [bind_run]
  cases h : m s with
  | mk r u =>
    cases r with
    | ok a =>
      constructor
      · intro failed
        exact .inr ⟨a, u, rfl, failed⟩
      · rintro (first | ⟨a', u', same, failed⟩)
        · cases first
        · cases same
          exact failed
    | error e' => simp

theorem bind_cases (m : Txn σ ε α) (f : α → Txn σ ε β) (s : σ) :
    (∃ e u, m s = (.error e, u) ∧ (m >>= f) s = (.error e, u)) ∨
      ∃ a u, m s = (.ok a, u) ∧ (m >>= f) s = f a u := by
  rw [bind_run]
  cases h : m s with
  | mk r u =>
    cases r with
    | ok a => exact .inr ⟨a, u, rfl, rfl⟩
    | error e => exact .inl ⟨e, u, rfl, rfl⟩

@[simp] theorem require_ok [Decidable c] : (require c e : Txn σ ε Unit) s = (.ok u, t) ↔ c ∧ s = t := by
  unfold require
  split
  · rename_i h
    simp [h]
  · rename_i h
    simp [h]

@[simp] theorem require_error [Decidable c] {e' : ε} :
    (require c e : Txn σ ε Unit) s = (.error e', t) ↔ ¬ c ∧ e = e' ∧ s = t := by
  unfold require
  split
  · rename_i h
    simp [h]
  · rename_i h
    simp [h]

theorem get_bind_run (f : σ → Txn σ ε α) (s : σ) : (get >>= f) s = f s s := rfl

theorem ok_bind_run (done : m s = (.ok a, t)) : (m >>= f) s = f a t := by
  rw [bind_run, done]

theorem require_bind_run (c : Prop) [Decidable c] (e : ε) (f : Unit → Txn σ ε α) (s : σ) :
    (require c e >>= f) s = if c then f () s else (.error e, s) := by
  unfold require
  split <;> rfl

theorem when_ok [Decidable c] {m : Txn σ ε Unit} :
    when c m s = (.ok u, t) ↔ (c ∧ m s = (.ok u, t)) ∨ (¬ c ∧ s = t) := by
  unfold when
  split
  · rename_i h
    simp [h]
  · rename_i h
    simp [h]

@[simp] theorem lift_ok : (lift r : Txn σ ε α) s = (.ok a, t) ↔ r = .ok a ∧ s = t := by
  cases r <;> simp [lift]

@[simp] theorem lift_error : (lift r : Txn σ ε α) s = (.error e, t) ↔ r = .error e ∧ s = t := by
  cases r <;> simp [lift]

@[simp] theorem attempt_run (m : Txn σ ε α) (s : σ) : attempt m s = (.ok (m s).1, (m s).2) := rfl

theorem attempt_ok : attempt m s = (.ok r, t) ↔ m s = (r, t) := by
  simp [Prod.ext_iff]

@[simp] theorem mapError_ok {f : ε → ε} : mapError f m s = (.ok a, t) ↔ m s = (.ok a, t) := by
  unfold mapError
  cases h : m s with
  | mk r u => cases r <;> simp

theorem mapError_error {f : ε → ε} (failed : mapError f m s = (.error e, t)) :
    ∃ e', m s = (.error e', t) ∧ f e' = e := by
  unfold mapError at failed
  split at failed
  · cases failed
  · cases failed
    exact ⟨_, by assumption, rfl⟩

/-- A sequence moves the state along a transitive relation when both of its parts do. -/
theorem bind_moves {R : σ → σ → Prop} (trans : ∀ {a b c}, R a b → R b c → R a c) (first : R s (m s).2)
    (rest : ∀ a u, m s = (.ok a, u) → R u (f a u).2) : R s ((m >>= f) s).2 := by
  rcases bind_cases m f s with ⟨e, u, hm, out⟩ | ⟨a, u, hm, out⟩
  · rw [out, ← congrArg Prod.snd hm]
    exact first
  · rw [hm] at first
    rw [out]
    exact trans first (rest a u hm)

/-- Whatever its result, the computation never changes the observation. -/
def Keeps (f : σ → β) (m : Txn σ ε α) : Prop := ∀ s, f (m s).2 = f s

section Keeps

variable {γ δ : Type} {f : σ → β}

@[simp] theorem keeps_pure (a : α) : Keeps f (pure a : Txn σ ε α) := fun _ => rfl

@[simp] theorem keeps_throw (e : ε) : Keeps f (throw e : Txn σ ε α) := fun _ => rfl

@[simp] theorem keeps_get : Keeps f (get : Txn σ ε σ) := fun _ => rfl

theorem keeps_modify {g : σ → σ} (same : ∀ s, f (g s) = f s) :
    Keeps f (modify g : Txn σ ε Unit) := same

@[simp] theorem keeps_require (c : Prop) [Decidable c] (e : ε) :
    Keeps f (require c e : Txn σ ε Unit) := by
  intro s
  unfold require
  split <;> rfl

@[simp] theorem keeps_when (c : Prop) [Decidable c] {m : Txn σ ε Unit} (inner : Keeps f m) :
    Keeps f (when c m) := by
  intro s
  unfold when
  split
  · exact inner s
  · rfl

@[simp] theorem keeps_lift (r : Except ε α) : Keeps f (lift r : Txn σ ε α) := by
  intro s
  cases r <;> rfl

variable {m : Txn σ ε α}

@[simp] theorem keeps_attempt (inner : Keeps f m) : Keeps f (attempt m) := inner

@[simp] theorem keeps_mapError {g : ε → ε} (inner : Keeps f m) : Keeps f (mapError g m) := by
  intro s
  have same := inner s
  unfold mapError
  cases h : m s with
  | mk r u =>
    rw [h] at same
    cases r <;> exact same

@[simp] theorem keeps_bind {m : Txn σ ε γ} {g : γ → Txn σ ε δ} (first : Keeps f m)
    (rest : ∀ a, Keeps f (g a)) : Keeps f (m >>= g) :=
  fun s => bind_moves (R := fun s t => f t = f s) (fun ab bc => bc.trans ab) (first s)
    (fun a u _ => rest a u)

@[simp] theorem keeps_ite (c : Prop) [Decidable c] {m' : Txn σ ε α} (yes : Keeps f m) (no : Keeps f m') :
    Keeps f (if c then m else m') := by
  split
  · exact yes
  · exact no

end Keeps

def Atomic (m : Txn σ ε α) : Prop := ∀ s e, (m s).1 = .error e → (m s).2 = s

section Atomic

variable {γ δ : Type}

theorem Atomic.of_keeps {m : Txn σ ε α} (keeps : Keeps id m) : Atomic m := fun s _ _ => keeps s

@[simp] theorem atomic_modify (g : σ → σ) : Atomic (modify g : Txn σ ε Unit) := fun _ _ failed => by cases failed

theorem Atomic.after {m : Txn σ ε γ} {g : γ → Txn σ ε δ} (checks : Keeps id m) (rest : ∀ a, Atomic (g a)) :
    Atomic (m >>= g) := by
  intro s e failed
  have same := checks s
  rcases bind_cases m g s with ⟨e', u, hm, out⟩ | ⟨a, u, hm, out⟩
  · rw [out, ← congrArg Prod.snd hm]
    exact same
  · rw [hm] at same
    rw [out] at failed ⊢
    exact (rest a u e failed).trans same

end Atomic

/-- Run one computation for each of a list, whether or not those before it failed. -/
def each {ι : Type} (f : ι → Txn σ ε α) : List ι → σ → List (Except ε α) × σ
  | [], s => ([], s)
  | i :: is, s => ((f i s).1 :: (each f is (f i s).2).1, (each f is (f i s).2).2)

theorem each_invariant {f : ι → Txn σ ε α} {I : σ → Prop} (keeps : ∀ i s, I s → I (f i s).2) (is : List ι) (start : I s) :
    I (each f is s).2 := by
  induction is generalizing s with
  | nil => exact start
  | cons i is ih => exact ih (keeps i s start)

/-- Computations that answer alike and keep two states related do so one after the other. -/
theorem each_simulates {τ ε' : Type} {f : ι → Txn σ ε α} {g : ι → Txn τ ε' α} {out : Except ε α → Except ε' α}
    {R : σ → τ → Prop} {good : ι → Prop}
    (step : ∀ i s t, good i → R s t → (g i t).1 = out (f i s).1 ∧ R (f i s).2 (g i t).2) (is : List ι)
    (all : ∀ i ∈ is, good i) {t : τ} (start : R s t) :
    (each g is t).1 = (each f is s).1.map out ∧ R (each f is s).2 (each g is t).2 := by
  induction is generalizing s t with
  | nil => exact ⟨rfl, start⟩
  | cons i is ih =>
    obtain ⟨same, next⟩ := step i s t (all i List.mem_cons_self) start
    obtain ⟨rest, last⟩ := ih (fun j member => all j (List.mem_cons_of_mem _ member)) next
    refine ⟨?_, last⟩
    simp only [each, List.map_cons, same, rest]

end Txn
