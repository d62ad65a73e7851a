import Relay.Lib.Ownership
import Relay.Lib.Run

/-! The gate before the handshakes of a relay. `TryAcquire` and `Release` read the count of
slots and swap it later, and the calls of any number of requests interleave. -/
namespace Relay

/-- How far a request is: in `TryAcquire`, with its slot, and in `Release`. -/
inductive HandshakePhase where
  | entering
  | claiming (active : Int)
  | refused
  | holding
  | leaving
  | returning (active : Int)
  | gone
deriving DecidableEq

def HandshakePhase.holds : HandshakePhase → Bool
  | .holding | .leaving | .returning _ => true
  | _ => false

inductive GateOp where
  | load
  | compareAndSwap
  | finish
deriving DecidableEq

structure Gate where
  limit : Int
  active : Int
  calls : List HandshakePhase

namespace Gate

def new (limit : Int) : Gate := ⟨limit, 0, []⟩

/-- The next operation of a call: the count afterwards, and where the call is then. A swap that
fails is followed by another round. -/
def act (g : Gate) : GateOp → HandshakePhase → Option (Int × HandshakePhase)
  | .load, .entering => some (g.active, if g.active ≥ g.limit then .refused else .claiming g.active)
  | .compareAndSwap, .claiming active =>
    some (if g.active = active then (active + 1, .holding) else (g.active, .entering))
  | .load, .leaving => some (g.active, if g.active = 0 then .gone else .returning g.active)
  | .compareAndSwap, .returning active =>
    some (if g.active = active then (active - 1, .gone) else (g.active, .leaving))
  -- `handshakeOnce` lets only the first call of `finishHandshake` through to `Release`
  | .finish, .holding => some (g.active, .leaving)
  | .finish, phase => if phase.holds ∨ phase = .gone then some (g.active, phase) else none
  | _, _ => none

def step (g : Gate) : Option (Nat × GateOp) → Option Gate
  | none => some { g with calls := g.calls ++ [.entering] }
  | some (i, op) => do
    let (active, next) ← g.act op (← g.calls[i]?)
    return { g with active := active, calls := g.calls.set i next }

def holders (g : Gate) : Nat := g.calls.countP HandshakePhase.holds

/-- Every slot is counted once, for the request that holds it. -/
structure Sound (limit : Int) (g : Gate) : Prop where
  same : g.limit = limit
  exactly : g.active = g.holders
  below : g.active ≤ max limit 0
  claims : ∀ n, .claiming n ∈ g.calls → n < limit

variable {limit : Int} {g g' : Gate} {i : Nat} {op : GateOp} {phase next : HandshakePhase} {active : Int}

theorem Sound.holder (sound : g.Sound limit) (here : g.calls[i]? = some phase) (holds : phase.holds = true) :
    0 < g.active := by
  rw [sound.exactly, Int.natCast_pos]
  exact List.countP_pos_iff.mpr ⟨phase, List.mem_of_getElem? here, holds⟩

/-- An operation moves the count along with the slots: `Release` never finds the count at zero. -/
theorem Sound.act (sound : g.Sound limit) (here : g.calls[i]? = some phase)
    (acted : g.act op phase = some (active, next)) :
    active + phase.holds.toNat = g.active + next.holds.toNat ∧ active ≤ max limit 0 ∧
      (∀ n, next = .claiming n → n < limit) ∧ (next = .refused → limit ≤ g.active) := by
  have below := sound.below
  have same := sound.same
  unfold Gate.act at acted
  split at acted
  · obtain ⟨rfl, rfl⟩ := Prod.mk.inj (Option.some.inj acted)
    split_ifs with full
    · exact ⟨rfl, below, nofun, fun _ => same ▸ full⟩
    · refine ⟨rfl, below, fun n claimed => ?_, nofun⟩
      cases claimed
      omega
  · rename_i n
    have room := sound.claims n (List.mem_of_getElem? here)
    split_ifs at acted with current
    · cases acted
      exact ⟨by simp [HandshakePhase.holds, current], by omega, nofun, nofun⟩
    · cases acted
      exact ⟨rfl, below, nofun, nofun⟩
  · have held := sound.holder here rfl
    rw [if_neg held.ne'] at acted
    cases acted
    exact ⟨rfl, below, nofun, nofun⟩
  · split_ifs at acted with current
    · cases acted
      exact ⟨by simp [HandshakePhase.holds, current], by omega, nofun, nofun⟩
    · cases acted
      exact ⟨rfl, below, nofun, nofun⟩
  · cases acted
    exact ⟨rfl, below, nofun, nofun⟩
  · obtain ⟨finished, same⟩ := Option.guarded acted
    cases same
    refine ⟨rfl, below, ?_, ?_⟩
    · rintro _ rfl
      simp [HandshakePhase.holds] at finished
    · rintro rfl
      simp [HandshakePhase.holds] at finished
  · cases acted

theorem Sound.step {e : Option (Nat × GateOp)} (sound : g.Sound limit) (moved : g.step e = some g') :
    g'.Sound limit := by
  cases e with
  | none =>
    cases moved
    refine ⟨sound.same, ?_, sound.below, ?_⟩
    · simp [holders, sound.exactly, HandshakePhase.holds]
    · intro n member
      simp only [List.mem_append, List.mem_singleton, reduceCtorEq, or_false] at member
      exact sound.claims n member
  | some call =>
    obtain ⟨phase, here, moved⟩ := Option.bind_eq_some_iff.mp moved
    obtain ⟨⟨active, next⟩, acted, moved⟩ := Option.bind_eq_some_iff.mp moved
    cases moved
    obtain ⟨counted, below, claims, _⟩ := sound.act here acted
    have slots : (g.calls.set call.1 next).countP _ + _ = g.holders + _ :=
      List.countP_set_add HandshakePhase.holds here next
    refine ⟨sound.same, ?_, below, ?_⟩
    · rw [sound.exactly] at counted
      simp only [holders] at counted slots ⊢
      omega
    · intro n member
      rcases List.mem_or_eq_of_mem_set member with old | new
      · exact sound.claims n old
      · exact claims n new.symm

theorem sound_of_run {h : List (Step Gate (Option (Nat × GateOp)))}
    (run : Exec (Machine.Moves step) (new limit) h g) : g.Sound limit :=
  Exec.invariant Sound.step ⟨rfl, rfl, by simp [new], by simp [new]⟩ run

/-- However the calls interleave, the count is the number of requests that hold a slot, at most
the limit of them do, a request is refused only when no slot is free, and every slot is counted
back when it is released. -/
theorem handshake_slots_exact {h : List (Step Gate (Option (Nat × GateOp)))}
    (run : Exec (Machine.Moves step) (new limit) h g) :
    g.active = g.holders ∧ g.active ≤ max limit 0 ∧
      ∀ x ∈ h, ∀ i, x.event = some (i, .load) →
        (x.after.calls[i]? = some .refused → limit ≤ x.before.holders) ∧
        (x.before.calls[i]? = some .leaving → x.after.calls[i]? = some (.returning x.before.holders)) := by
  have sound := sound_of_run run
  refine ⟨sound.exactly, sound.below, ?_⟩
  intro x member i load
  obtain ⟨before, after, rfl⟩ := List.append_of_mem member
  obtain ⟨reached, moved, _⟩ := run.split_step
  have sound := sound_of_run reached
  rw [load] at moved
  obtain ⟨phase, here, moved⟩ := Option.bind_eq_some_iff.mp moved
  obtain ⟨⟨active, next⟩, acted, moved⟩ := Option.bind_eq_some_iff.mp moved
  obtain ⟨inside, _⟩ := List.getElem?_eq_some_iff.mp here
  rw [← Option.some.inj moved]
  simp only [List.getElem?_set_self inside, Option.some.injEq, ← sound.exactly]
  constructor
  · exact (sound.act here acted).2.2.2
  · intro leaving
    rw [here] at leaving
    cases leaving
    have held := sound.holder here rfl
    simp only [Gate.act, if_neg held.ne'] at acted
    cases acted
    rfl

/-- Two requests load the count of a gate with one slot; the one that loses the swap is refused
in its second round. -/
def contended : List (Option (Nat × GateOp)) :=
  [none, none, some (0, .load), some (1, .load), some (1, .compareAndSwap), some (0, .compareAndSwap), some (0, .load),
    some (1, .finish), some (1, .finish), some (1, .load), some (1, .compareAndSwap)]

theorem handshake_slots_exact_contended :
    (Machine.final step (new 1) contended).calls = [.refused, .gone] ∧
      (Machine.final step (new 1) contended).active = (Machine.final step (new 1) contended).holders :=
  ⟨by decide, (handshake_slots_exact (h := Machine.trail step (new 1) contended)
    (Machine.exec_of_allows (by decide))).1⟩

end Gate

end Relay
