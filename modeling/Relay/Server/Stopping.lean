import Relay.Lib.Index
import Relay.Session.Registry

/-! The end of a relay. `Shutdown` sets a flag under the lock of the server, closes the Opus
connections that are registered, waits for the HTTP server, and closes the RelaySessions. Requests
for Opus ingress look at the flag before each thing they acquire; other joins do not look at it. -/
namespace Relay

namespace Registry

def shut (reg : Registry) (i : Nat) : Registry :=
  { reg with objects := reg.objects.modify i fun l => { l with session := l.session.close } }

def closeAll (reg : Registry) : Registry :=
  Table.walk (fun _ _ => true) (fun id reg => reg.delete id) reg.rooms.entries reg

def opened (reg : Registry) : List Nat := (List.range reg.objects.length).filter fun i => !reg.closed i

/-- What is open is registered: a RelaySession leaves the registry only when it is closed. -/
structure Kept (limit : Nat) (reg : Registry) : Prop where
  registered : ∀ i < reg.objects.length, reg.closed i = true ∨ ∃ id, reg.rooms.lookup id = some i
  few : reg.rooms.size ≤ limit

structure Onward (limit : Nat) (reg reg' : Registry) : Prop where
  kept : reg'.Kept limit
  more : reg.objects.length ≤ reg'.objects.length
  closed : ∀ i, reg.closed i = true → reg'.closed i = true

variable {reg reg' : Registry} {id : String} {i j limit : Nat}

theorem Kept.refl (kept : reg.Kept limit) : reg.Onward limit reg := ⟨kept, le_rfl, fun _ closed => closed⟩

theorem Kept.fewer (kept : reg.Kept limit) (same : reg'.objects.length = reg.objects.length)
    (closed : ∀ i, reg.closed i = true → reg'.closed i = true)
    (subset : ∀ {id i}, reg'.rooms.lookup id = some i → reg.rooms.lookup id = some i)
    (left : ∀ id, ∀ i < reg.objects.length, reg.rooms.lookup id = some i →
      reg'.closed i = true ∨ reg'.rooms.lookup id = some i) : reg.Onward limit reg' := by
  refine ⟨⟨?_, (Table.size_le_of_mem ?_).trans kept.few⟩, same.ge, closed⟩
  · intro i inside
    rw [same] at inside
    rcases kept.registered i inside with shut | ⟨id, found⟩
    · exact .inl (closed i shut)
    · exact (left id i inside found).imp_right fun found => ⟨id, found⟩
  · intro id member
    obtain ⟨i, found⟩ := Table.mem_iff_lookup.mp member
    exact Table.mem_iff_lookup.mpr ⟨i, subset found⟩

theorem closed_shut : (reg.shut j).closed i = true ↔ reg.closed i = true ∨ j = i ∧ i < reg.objects.length := by
  simp only [closed, shut, List.getElem?_modify]
  by_cases inside : i < reg.objects.length
  · by_cases same : j = i <;> simp [inside, same, RelaySession.close]
  · simp [inside]

theorem Kept.removeClosed (kept : reg.Kept limit) : reg.Onward limit reg.removeClosed := by
  refine kept.fewer rfl (fun _ closed => closed) (fun found => (Table.lookup_eraseWhere.mp found).1) ?_
  intro id i _ found
  by_cases closed : reg.closed i = true
  · exact .inl closed
  · exact .inr (Table.lookup_eraseWhere.mpr ⟨found, by simpa using closed⟩)

theorem Kept.shut (kept : reg.Kept limit) (i : Nat) : reg.Onward limit (reg.shut i) :=
  kept.fewer (List.length_modify ..) (fun _ closed => closed_shut.mpr (.inl closed)) (fun found => found)
    fun _ _ _ => .inr

theorem Kept.delete (kept : reg.Kept limit) (id : String) : reg.Onward limit (reg.delete id) := by
  unfold Registry.delete
  split
  · exact kept.refl
  · rename_i i found
    refine kept.fewer (List.length_modify ..) (fun _ closed => closed_shut.mpr (.inl closed))
      (fun found => (Table.lookup_erase_some.mp found).2) ?_
    intro id' j inside found'
    by_cases same : id' = id
    · rw [same, found] at found'
      exact .inl (closed_shut.mpr (.inr ⟨Option.some.inj found', inside⟩))
    · exact .inr (Table.lookup_erase_some.mpr ⟨same, found'⟩)

theorem Kept.create (kept : reg.Kept limit) (absent : reg.rooms.lookup id = none) (room : reg.rooms.size < limit) :
    reg.Onward limit (reg.create id) := by
  have length : (reg.create id).objects.length = reg.objects.length + 1 := by simp [Registry.create]
  have closed : ∀ i, reg.closed i = true → (reg.create id).closed i = true := by
    intro i closed
    have inside : i < reg.objects.length := by
      by_contra outside
      simp [Registry.closed, outside] at closed
    simpa [Registry.closed, Registry.create, List.getElem?_append_left inside] using closed
  refine ⟨⟨?_, (Table.size_insert_le reg.rooms id _).trans room⟩, by omega, closed⟩
  intro i inside
  by_cases old : i < reg.objects.length
  · refine (kept.registered i old).imp (closed i) ?_
    rintro ⟨id', found⟩
    refine ⟨id', Table.lookup_insert_some.mpr (.inr ⟨?_, found⟩)⟩
    rintro rfl
    rw [absent] at found
    cases found
  · obtain rfl : reg.objects.length = i := by omega
    exact .inr ⟨id, Table.lookup_insert_some.mpr (.inl ⟨rfl, rfl⟩)⟩

theorem Kept.getOrCreateWithinLimit (kept : reg.Kept limit) (positive : 0 < limit) (id : String) :
    reg.Onward limit (reg.getOrCreateWithinLimit id limit).1 := by
  have swept := kept.removeClosed
  unfold Registry.getOrCreateWithinLimit
  split
  · exact swept
  · rename_i absent
    split
    · exact swept
    · rename_i room
      have created := swept.kept.create absent (by omega)
      exact ⟨created.kept, swept.more.trans created.more, created.closed⟩

theorem Kept.closeAll (kept : reg.Kept limit) :
    reg.Onward limit reg.closeAll ∧ ∀ i < reg.objects.length, reg.closeAll.closed i = true := by
  have onward : reg.Onward limit reg.closeAll := by
    refine Table.walk_invariant ?_ _ kept.refl
    intro id c before
    have next := before.kept.delete id
    exact ⟨next.kept, before.more.trans next.more, fun i closed => next.closed i (before.closed i closed)⟩
  refine ⟨onward, ?_⟩
  intro i inside
  refine (onward.kept.registered i (inside.trans_le onward.more)).resolve_right ?_
  rintro ⟨id, found⟩
  have acts : ∀ id' (c : Registry),
      (c.delete id').rooms.lookup id = some i ↔ c.rooms.lookup id = some i ∧ id ≠ id' := by
    intro id' c
    unfold Registry.delete
    split
    · grind
    · rw [Table.lookup_erase_some, and_comm]
  obtain ⟨found, none⟩ := (Table.walk_survives (fun c : Registry => c.rooms.lookup id = some i) acts _ _).mp found
  cases none i (Table.mem_entries_iff.mpr found)

theorem Kept.opened_le (kept : reg.Kept limit) : reg.opened.length ≤ limit := by
  have subset : reg.opened ⊆ reg.rooms.entries.map (·.2) := by
    intro i member
    obtain ⟨inside, fresh⟩ := List.mem_filter.mp member
    obtain ⟨id, found⟩ := (kept.registered i (List.mem_range.mp inside)).resolve_left (by simpa using fresh)
    exact List.mem_map.mpr ⟨_, Table.mem_entries_iff.mpr found, rfl⟩
  have fewer := (List.subperm_of_subset (List.nodup_range.filter _) subset).length_le
  rw [List.length_map] at fewer
  exact fewer.trans kept.few

end Registry

/-- How far a call of `audioIngress` is that has passed its first check. `serving` is registered,
and its source is closed or not. -/
inductive IngressPhase where
  | checked
  | upgrading
  | serving (closed : Bool)
  | gone
deriving DecidableEq

/-- How far `Shutdown` is: in the loop of `Range`, with the connections it has visited; and at its
end, with the number of RelaySessions that there were when `CloseAll` was called. -/
inductive ShutdownPhase where
  | running
  | marked (seen : List Nat)
  | ranged
  | returned (drained : Option Nat)
deriving DecidableEq

structure Stopping where
  shuttingDown : Bool
  calls : List IngressPhase
  registry : Registry
  stop : ShutdownPhase

inductive StopEvent where
  | arrive
  | enter (k : Nat) (id : String)
  | fail (k : Nat)
  | register (k : Nat)
  | close (k : Nat)
  | leave (k : Nat)
  | join (id : String)
  | sweep
  | expire (i : Nat)
  | delete (id : String)
  | shutdown
  | visit (k : Nat)
  | ranged
  | drained (ok : Bool)

namespace Stopping

def start (maxBuses maxSubscriptions : Nat) : Stopping := ⟨false, [], .new maxBuses maxSubscriptions, .running⟩

section

variable (maxRooms : Nat) (s : Stopping)

def become (k : Nat) (phase : IngressPhase) : Stopping := { s with calls := s.calls.set k phase }

/-- `GetOrCreateWithinLimit` for a call, which ends if it is refused. -/
def acquire (k : Nat) (id : String) : Stopping :=
  let (registry, room) := s.registry.getOrCreateWithinLimit id maxRooms
  { s with registry := registry }.become k (if room.isSome then .upgrading else .gone)

def step : StopEvent → Option Stopping
  | .arrive => some { s with calls := s.calls ++ [if s.shuttingDown then .gone else .checked] }
  | .enter k id =>
    if s.calls[k]? = some .checked then some (if s.shuttingDown then s.become k .gone else s.acquire maxRooms k id)
    else none
  | .fail k => if s.calls[k]? ∈ [some .checked, some .upgrading] then some (s.become k .gone) else none
  | .register k =>
    if s.calls[k]? = some .upgrading then some (s.become k (if s.shuttingDown then .gone else .serving false))
    else none
  | .close k => if s.calls[k]? = some (.serving false) then some (s.become k (.serving true)) else none
  | .leave k => if s.calls[k]? = some (.serving true) then some (s.become k .gone) else none
  | .join id => some { s with registry := (s.registry.getOrCreateWithinLimit id maxRooms).1 }
  | .sweep => some { s with registry := s.registry.removeClosed }
  | .expire i => some { s with registry := s.registry.shut i }
  | .delete id => some { s with registry := s.registry.delete id }
  | .shutdown => if s.stop = .running then some { s with shuttingDown := true, stop := .marked [] } else none
  | .visit k =>
    match s.stop with
    | .marked seen =>
      if s.calls[k]? ∈ [some (.serving false), some (.serving true)] then
        some { s.become k (.serving true) with stop := .marked (k :: seen) }
      else none
    | _ => none
  | .ranged =>
    match s.stop with
    | .marked seen =>
      -- the loop does not end before it has visited what is registered all along
      if ∀ k < s.calls.length, s.calls[k]? ∈ [some (.serving false), some (.serving true)] → k ∈ seen then
        some { s with stop := .ranged }
      else none
    | _ => none
  | .drained ok =>
    if s.stop = .ranged then
      some (if ok then { s with registry := s.registry.closeAll, stop := .returned (some s.registry.objects.length) }
        else { s with stop := .returned none })
    else none

end

structure Sound (maxRooms : Nat) (s : Stopping) : Prop where
  kept : s.registry.Kept maxRooms
  flagged : s.stop ≠ .running → s.shuttingDown = true
  waiting : ∀ k, s.calls[k]? = some (.serving false) → s.stop = .running ∨ ∃ seen, s.stop = .marked seen ∧ k ∉ seen
  ended : ∀ n, s.stop = .returned (some n) → ∀ i < n, s.registry.closed i = true

variable {maxRooms maxBuses maxSubscriptions : Nat} {s s' : Stopping} {e : StopEvent}
  {h : List (Step Stopping StopEvent)}

theorem Sound.onward {registry : Registry} (sound : s.Sound maxRooms)
    (onward : s.registry.Onward maxRooms registry) : { s with registry := registry }.Sound maxRooms :=
  ⟨onward.kept, sound.flagged, sound.waiting,
    fun n returned i inside => onward.closed i (sound.ended n returned i inside)⟩

/-- Under the flag no connection is registered. -/
theorem Sound.become (sound : s.Sound maxRooms) (k : Nat) {phase : IngressPhase}
    (fresh : phase = .serving false → s.shuttingDown = false) : (s.become k phase).Sound maxRooms := by
  refine ⟨sound.kept, sound.flagged, ?_, sound.ended⟩
  intro j here
  rw [Stopping.become, List.getElem?_set] at here
  split_ifs at here
  · have unset := fresh (Option.some.inj here)
    by_contra stopped
    rw [sound.flagged fun running => stopped (.inl running)] at unset
    cases unset
  · exact sound.waiting j here

theorem Sound.step (positive : 0 < maxRooms) (sound : s.Sound maxRooms) (moved : s.step maxRooms e = some s') :
    s'.Sound maxRooms := by
  have acquired := fun id => sound.onward (sound.kept.getOrCreateWithinLimit positive id)
  cases e with
  | arrive =>
    cases moved
    refine ⟨sound.kept, sound.flagged, ?_, sound.ended⟩
    intro k here
    rw [List.getElem?_append, List.getElem?_singleton] at here
    split_ifs at here
    · exact sound.waiting k here
    · cases here
    · cases here
  | enter k id =>
    obtain ⟨_, rfl⟩ := Option.guarded moved
    split_ifs
    · exact sound.become k nofun
    · refine (acquired id).become k ?_
      intro upgrading
      split_ifs at upgrading
  | register k =>
    obtain ⟨_, rfl⟩ := Option.guarded moved
    refine sound.become k ?_
    intro serving
    by_contra flag
    simp [flag] at serving
  | join id =>
    cases moved
    exact acquired id
  | sweep =>
    cases moved
    exact sound.onward sound.kept.removeClosed
  | expire i =>
    cases moved
    exact sound.onward (sound.kept.shut i)
  | delete id =>
    cases moved
    exact sound.onward (sound.kept.delete id)
  | shutdown =>
    obtain ⟨_, rfl⟩ := Option.guarded moved
    exact ⟨sound.kept, fun _ => rfl, fun _ _ => .inr ⟨[], rfl, List.not_mem_nil⟩, nofun⟩
  | visit k =>
    simp only [Stopping.step] at moved
    split at moved
    · rename_i seen marked
      obtain ⟨_, rfl⟩ := Option.guarded moved
      refine ⟨sound.kept, fun _ => sound.flagged (by simp [marked]), ?_, nofun⟩
      intro j here
      rw [Stopping.become, List.getElem?_set] at here
      split_ifs at here with same
      · cases here
      · rcases sound.waiting j here with running | ⟨_, again, unseen⟩
        · simp [marked] at running
        · rw [marked] at again
          cases again
          exact .inr ⟨_, rfl, by simp [unseen, Ne.symm same]⟩
    · cases moved
  | ranged =>
    simp only [Stopping.step] at moved
    split at moved
    · rename_i seen marked
      obtain ⟨all, rfl⟩ := Option.guarded moved
      refine ⟨sound.kept, fun _ => sound.flagged (by simp [marked]), ?_, nofun⟩
      intro k here
      rcases sound.waiting k here with running | ⟨_, again, unseen⟩
      · simp [marked] at running
      · rw [marked] at again
        cases again
        exact absurd (all k (List.getElem?_eq_some_iff.mp here).1 (by simp [here])) unseen
    · cases moved
  | drained ok =>
    obtain ⟨ranged, rfl⟩ := Option.guarded moved
    have served : ∀ k : Nat, s.calls[k]? ≠ some (.serving false) := by
      intro k here
      simpa [ranged] using sound.waiting k here
    have flag := sound.flagged (by simp [ranged])
    cases ok with
    | false => exact ⟨sound.kept, fun _ => flag, fun k here => absurd here (served k), nofun⟩
    | true =>
      obtain ⟨onward, closed⟩ := sound.kept.closeAll
      refine ⟨onward.kept, fun _ => flag, fun k here => absurd here (served k), ?_⟩
      rintro _ ⟨⟩
      exact closed
  | _ =>
    obtain ⟨_, rfl⟩ := Option.guarded moved
    exact sound.become _ nofun

theorem sound_of_run (positive : 0 < maxRooms)
    (run : Exec (Machine.Moves (step maxRooms)) (start maxBuses maxSubscriptions) h s) : s.Sound maxRooms :=
  Exec.invariant (Sound.step positive)
    ⟨⟨by simp [start, Registry.new], Nat.zero_le _⟩, by simp [start], by simp [start], by simp [start]⟩ run

/-- No more RelaySessions are open at a time than the relay admits, whatever ends them. -/
theorem relay_sessions_limited (positive : 0 < maxRooms)
    (run : Exec (Machine.Moves (step maxRooms)) (start maxBuses maxSubscriptions) h s) :
    s.registry.opened.length ≤ maxRooms :=
  (sound_of_run positive run).kept.opened_le

/-- `Shutdown` leaves nothing of Opus ingress behind. After its loop no registered connection is
open; after it has returned without an error every RelaySession of that time is closed, and stays
closed; and since its flag was set no request for Opus ingress has obtained one. -/
theorem shutdown_fences_ingress (positive : 0 < maxRooms)
    (run : Exec (Machine.Moves (step maxRooms)) (start maxBuses maxSubscriptions) h s) :
    (s.stop = .ranged ∨ (∃ n, s.stop = .returned n) → .serving false ∉ s.calls) ∧
      (∀ n, s.stop = .returned (some n) → ∀ i < n, s.registry.closed i = true) ∧
      ∀ x ∈ h, x.before.stop ≠ .running → ∀ k id, x.event = .enter k id → x.after = x.before.become k .gone := by
  have sound := sound_of_run positive run
  refine ⟨?_, sound.ended, ?_⟩
  · intro stopped member
    obtain ⟨k, here⟩ := List.mem_iff_getElem?.mp member
    rcases sound.waiting k here with running | ⟨_, marked, _⟩ <;> grind
  · intro x member stopped k id entered
    obtain ⟨before, after, rfl⟩ := List.append_of_mem member
    obtain ⟨reached, moved, _⟩ := run.split_step
    rw [entered] at moved
    obtain ⟨_, same⟩ := Option.guarded moved
    rw [← same, (sound_of_run positive reached).flagged stopped, if_pos rfl]

/-- Two Opus connections, one of them not registered when the relay is stopped. -/
def stopped : List StopEvent :=
  [.arrive, .arrive, .enter 0 "a", .enter 1 "b", .register 0, .join "c", .shutdown, .visit 0, .register 1, .ranged,
    .leave 0, .drained true]

theorem relay_sessions_limited_stopped : (Machine.final (step 2) (start 1 1) stopped).registry.opened.length ≤ 2 :=
  relay_sessions_limited (by decide) (h := Machine.trail (step 2) (start 1 1) stopped)
    (Machine.exec_of_allows (by decide +kernel))

theorem shutdown_fences_ingress_stopped :
    (Machine.final (step 2) (start 1 1) stopped).stop = .returned (some 2) ∧
      ∀ i < 2, (Machine.final (step 2) (start 1 1) stopped).registry.closed i = true := by
  have ended : (Machine.final (step 2) (start 1 1) stopped).stop = .returned (some 2) := by decide +kernel
  exact ⟨ended, (shutdown_fences_ingress (by decide) (h := Machine.trail (step 2) (start 1 1) stopped)
    (Machine.exec_of_allows (by decide +kernel))).2.1 2 ended⟩

end Stopping

end Relay
