import Relay.Access.Delivery

/-! The evidence behind an invitation. What a Session reports of its buses goes back to one
report that was accepted and stored, and since then no service was opened, the Session was not
placed anew and no other report was stored. -/
namespace Relay

/-- The report that a step stored for a Session. An older one is answered and not stored. -/
def observation (P : Primitives) (id : String) (x : Step World Event) : Option RelayState :=
  (delivered P id x).filter fun snapshot =>
    (x.before.store.data.sessions.lookup id).all fun r => r.relay.revision ≤ snapshot.revision

/-- The buses that an invitation depends on: for the mix, all that the Session declares. -/
def SessionRecord.needed (r : SessionRecord) (bus : String) : List String :=
  if bus = mix then r.requiredBuses else [bus]

namespace Service

theorem observe_report (s : Service) (r : SessionRecord) (snapshot : RelayState) (now : Time) :
    (s.observe r snapshot now).writerTerm = s.term ∧
      (s.observe r snapshot now).relay = { snapshot with observedAt := now } := by
  unfold observe
  dsimp only
  split <;> exact ⟨rfl, rfl⟩

theorem busReady_ok {s : Service} {r : SessionRecord} {bus : String} {now : Time}
    (ready : s.busReady r bus now = true) :
    r.writerTerm = s.term ∧ Time.sub now r.relay.observedAt ≤ s.config.observationTTL ∧
      ∀ b ∈ r.needed bus, b ∈ r.requiredBuses ∧ ∃ report ∈ r.relay.buses, report.busID = b ∧ report.sourceActive = true := by
  unfold busReady at ready
  split at ready
  · cases ready
  rename_i fresh
  obtain ⟨term, recent⟩ := not_or.mp fresh
  refine ⟨not_not.mp term, not_lt.mp recent, ?_⟩
  unfold SessionRecord.needed
  split at ready
  · rename_i virtual
    rw [if_pos virtual]
    intro b declared
    have active := List.all_eq_true.mp ready b declared
    obtain ⟨report, member, holds⟩ := List.any_eq_true.mp active
    obtain ⟨named, source⟩ := Bool.and_eq_true_iff.mp holds
    exact ⟨declared, report, member, beq_iff_eq.mp named, source⟩
  · rename_i real
    rw [if_neg real]
    intro b same
    cases List.mem_singleton.mp same
    split at ready
    · cases ready
    · rename_i declared
      split at ready
      · cases ready
      · rename_i report found
        refine ⟨not_not.mp declared, report, List.mem_of_find?_eq_some found, ?_, ready⟩
        simpa using List.find?_some found

end Service

theorem Time.exact_of_sub_le {t u : Time} {d : Duration} (le : Time.sub t u ≤ d) (small : d < maxDuration) :
    t - u ≤ d := by
  rcases min_le_iff.mp (max_le_iff.mp le).2 with saturated | exactly
  · exact absurd small (not_lt.mpr saturated)
  · exact exactly

theorem Succeeded.invited {P : Primitives} {s : Service} {now : Time} {d d' : Records} {id bus : String}
    {options : InvitationOptions} {a : Answer} {signed : List Signed} {drawn : List String}
    (succeeded : Succeeded P s now d (.invite id bus options) a signed drawn d') :
    ∃ r, d.sessions.lookup id = some r ∧ s.busReady r bus now = true := by
  cases succeeded with
  | read read => cases read
  | performed performed =>
    cases performed with
    | invite active _ _ ready => exact ⟨_, active.of_prologue.found, ready⟩

section Steps

variable {P : Primitives} {id : String} {x : Step World Event} {r r' : SessionRecord} {snapshot : RelayState}

theorem unobserved_of_opened {s : Service} (move : World.Moves P x.before x.event x.after)
    (keyed : x.before.store.data.Keyed) (opened : (ran P x).reply = .ok (.opened s))
    (stored : x.after.store.data.sessions.lookup id = some r) : ¬ r.observed := by
  obtain ⟨secret, _, config, _, _, ok, left⟩ := World.opening_of_reply opened
  obtain ⟨tx, done, _, _, committed⟩ := Store.update_ok ok
  obtain ⟨_, _, _, _, _, _, _, _, _, rfl, unobserved⟩ := Service.openNamespace_ok keyed done
  rw [move.result, World.next, left, committed] at stored
  exact unobserved id r stored

theorem observation_some (move : World.Moves P x.before x.event x.after) (keyed : x.before.store.data.Keyed)
    (seen : observation P id x = some snapshot) :
    ∃ s r, x.event.action = .call s (.apply id snapshot) ∧ r.HeldBy snapshot ∧
      x.after.store.data.sessions.lookup id =
        some (s.observe r (normalizeRelaySnapshot snapshot) x.event.env.now) := by
  obtain ⟨arrives, current⟩ := Option.filter_eq_some_iff.mp seen
  obtain ⟨s, out, calls, ok⟩ := delivered_some arrives
  obtain ⟨_, _, r, active, holds, reported⟩ := ran_reported move calls ok
  have found := (s.shrinks_prologue x.event.env.now x.before.store.data).sessions active.found
  refine ⟨s, r, calls, holds, ?_⟩
  generalize x.after.store.data = d at reported ⊢
  cases reported with
  | older stale =>
    have bound : r.relay.revision ≤ snapshot.revision := by simpa [found] using current
    exact absurd stale (not_lt.mpr bound)
  | taken =>
    have own := (s.same_observe r (normalizeRelaySnapshot snapshot) x.event.env.now).id.trans (keyed.sessions found)
    exact Records.putSession_sessions.mpr (.inl ⟨own.symm, rfl⟩)

structure Leaves (P : Primitives) (id : String) (x : Step World Event) : Prop where
  unobserved : observation P id x = none
  unplaced : placement P id x = none
  unopened : ∀ s, (ran P x).reply ≠ .ok (.opened s)

structure SessionRecord.Retains (r r' : SessionRecord) : Prop where
  relay : r'.relay = r.relay
  writerTerm : r'.writerTerm = r.writerTerm
  mediaTerm : r'.mediaTerm = r.mediaTerm

theorem Leaves.retains (leaves : Leaves P id x) (move : World.Moves P x.before x.event x.after)
    (keyed : x.before.store.data.Keyed) (stored : x.after.store.data.sessions.lookup id = some r')
    (reported : r'.relay.buses ≠ []) : ∃ r, x.before.store.data.sessions.lookup id = some r ∧ r.Retains r' := by
  rcases (move.change keyed).fate keyed stored with ⟨r, found, rfl | rfl⟩ | ⟨s, request, a, calls, ok, fate⟩
  · exact ⟨r', found, rfl, rfl, rfl⟩
  · exact absurd rfl reported
  · have ok : (ran P x).reply = .ok a := ok
    cases fate with
    | kept found => exact ⟨r', found, rfl, rfl, rfl⟩
    | @revised r _ found revision =>
      cases revision with
      | clear | place => exact absurd rfl reported
      | extend => exact ⟨r, found, rfl, rfl, rfl⟩
      | observe snapshot asked _ current =>
        subst asked
        have seen := leaves.unobserved
        simp [observation, delivered, calls, ok, found] at seen
        exact absurd current (not_le.mpr seen)
    | created => exact absurd rfl reported

end Steps

structure Observed (P : Primitives) (id : String) (r : SessionRecord) (x : Step World Event) (since : History)
    (s : Service) (snapshot : RelayState) : Prop where
  applied : x.event.action = .call s (.apply id snapshot)
  stored : observation P id x = some snapshot
  writerTerm : r.writerTerm = s.term
  placement : r.placement = (snapshot.relayEpoch, snapshot.writerTerm)
  observedAt : r.relay.observedAt = x.event.env.now
  buses : r.relay.buses = (normalizeRelaySnapshot snapshot).buses
  leaves : ∀ y ∈ since, Leaves P id y

section Runs

variable {P : Primitives} {id : String} {h : History} {w : World} {x : Step World Event} {r r' : SessionRecord}

theorem Observed.snoc {since : History} {s : Service} {snapshot : RelayState} {y : Step World Event}
    (seen : Observed P id r x since s snapshot) (retains : r.Retains r') (leaves : Leaves P id y) :
    Observed P id r' x (since ++ [y]) s snapshot where
  applied := seen.applied
  stored := seen.stored
  writerTerm := retains.writerTerm.trans seen.writerTerm
  placement := by
    rw [← seen.placement, SessionRecord.placement, SessionRecord.placement, retains.relay, retains.mediaTerm]
  observedAt := retains.relay ▸ seen.observedAt
  buses := retains.relay ▸ seen.buses
  leaves := by
    intro z member
    rcases List.mem_append.mp member with earlier | here
    · exact seen.leaves z earlier
    · exact List.mem_singleton.mp here ▸ leaves

theorem observed_of_observation {snapshot : RelayState} (move : World.Moves P x.before x.event x.after)
    (keyed : x.before.store.data.Keyed) (seen : observation P id x = some snapshot)
    (stored : x.after.store.data.sessions.lookup id = some r) : ∃ s, Observed P id r x [] s snapshot := by
  obtain ⟨s, r₀, calls, holds, left⟩ := observation_some move keyed seen
  have same : some r = some (s.observe r₀ (normalizeRelaySnapshot snapshot) x.event.env.now) := stored.symm.trans left
  cases same
  obtain ⟨term, relay⟩ := s.observe_report r₀ (normalizeRelaySnapshot snapshot) x.event.env.now
  refine ⟨s, calls, seen, term, ?_, ?_, ?_, by simp⟩
  · rw [s.observe_placement _ holds.epoch, SessionRecord.placement, ← holds.epoch, ← holds.term]
  · rw [relay]
  · rw [relay]

theorem observed_of_run (run : Runs P h w) (stored : w.store.data.sessions.lookup id = some r)
    (reported : r.relay.buses ≠ []) :
    ∃ front x since s snapshot, h = front ++ x :: since ∧ Observed P id r x since s snapshot := by
  induction run generalizing r with
  | nil => cases stored
  | @snoc h t u e before move ih =>
    have keyed := keyed_of_run before
    cases seen : observation P id ⟨t, e, u⟩ with
    | some snapshot =>
      obtain ⟨s, observed⟩ := observed_of_observation (x := ⟨t, e, u⟩) move keyed seen stored
      exact ⟨h, ⟨t, e, u⟩, [], s, snapshot, rfl, observed⟩
    | none =>
      -- a placement and an opened service leave no bus reported
      have leaves : Leaves P id ⟨t, e, u⟩ := by
        refine ⟨seen, ?_, ?_⟩
        · cases placed : placement P id ⟨t, e, u⟩ with
          | none => rfl
          | some p =>
            obtain ⟨r₀, left, _, empty, _⟩ := placement_shows (x := ⟨t, e, u⟩) move keyed placed
            have same : some r₀ = some r := left.symm.trans stored
            cases same
            exact absurd empty reported
        · intro s opened
          exact unobserved_of_opened (x := ⟨t, e, u⟩) move keyed opened stored (.inl reported)
      obtain ⟨r₀, found, retains⟩ := leaves.retains move keyed stored reported
      have held : r₀.relay.buses ≠ [] := retains.relay ▸ reported
      obtain ⟨front, x, since, s, snapshot, rfl, observed⟩ := ih found held
      exact ⟨front, x, since ++ [⟨t, e, u⟩], s, snapshot, by simp, observed.snoc retains leaves⟩

end Runs

/-- An invitation needs fresh evidence. The last report that was stored for the Session was
accepted in the writer term that is current, from the placement that is current, not longer
ago than an observation lasts, and it shows a source on every bus that the invitation needs;
since then no service was opened and the Session was not placed. The difference of two
instants saturates, so that it is exact for every limit below the largest duration. -/
theorem invitation_needs_evidence {P : Primitives} {h : History} {w : World} {e : Event} {s : Service}
    {id bus : String} {options : InvitationOptions} {a : Answer} (run : Runs P h w)
    (calls : e.action = .call s (.invite id bus options)) (ok : (w.exec P e).reply = .ok a) :
    ∃ front x since s₀ snapshot r, h = front ++ x :: since ∧ w.store.data.sessions.lookup id = some r ∧
      x.event.action = .call s₀ (.apply id snapshot) ∧ observation P id x = some snapshot ∧
      (∀ y ∈ since, observation P id y = none) ∧
      (s₀.term = s.term ∧ w.store.data.ns.writerTerm = s.term) ∧
      r.placement = (snapshot.relayEpoch, snapshot.writerTerm) ∧
      (Time.sub e.env.now x.event.env.now ≤ s.config.observationTTL ∧
        (s.config.observationTTL < maxDuration → e.env.now - x.event.env.now ≤ s.config.observationTTL)) ∧
      (r.needed bus ≠ [] ∧ ∀ b ∈ r.needed bus, b ∈ r.requiredBuses ∧
        ∃ report ∈ snapshot.buses, report.busID = b ∧ report.sourceActive = true) ∧
      ∀ y ∈ since, placement P id y = none ∧ ∀ s', (ran P y).reply ≠ .ok (.opened s') := by
  have unfolded : w.exec P e = s.answer P e.env w.store (.invite id bus options) := by
    simp only [World.exec, calls]
  rw [unfolded] at ok
  obtain ⟨passes, succeeded⟩ := Service.answer_succeeded ok
  obtain ⟨r, found, ready⟩ := succeeded.invited
  obtain ⟨term, recent, reports⟩ := Service.busReady_ok ready
  have needs : r.needed bus ≠ [] := by
    obtain ⟨_, _, declared⟩ := declared_of_run run id r found
    unfold SessionRecord.needed
    split
    · exact declared.nonempty
    · simp
  have reported : r.relay.buses ≠ [] := by
    obtain ⟨b, member⟩ := List.exists_mem_of_ne_nil _ needs
    obtain ⟨_, report, listed, _⟩ := reports b member
    exact List.ne_nil_of_mem listed
  obtain ⟨front, x, since, s₀, snapshot, split, seen⟩ := observed_of_run run found reported
  rw [seen.observedAt] at recent
  refine ⟨front, x, since, s₀, snapshot, r, split, found, seen.applied, seen.stored, ?_, ?_, seen.placement,
    ⟨recent, Time.exact_of_sub_le recent⟩, ⟨needs, ?_⟩, ?_⟩
  · exact fun y member => (seen.leaves y member).unobserved
  · exact ⟨seen.writerTerm.symm.trans term, passes.1⟩
  · intro b member
    obtain ⟨declared, report, listed, named, active⟩ := reports b member
    rw [seen.buses] at listed
    exact ⟨declared, report, mem_normalizeRelaySnapshot.mp listed, named, active⟩
  · exact fun y member => ⟨(seen.leaves y member).unplaced, (seen.leaves y member).unopened⟩

namespace Plain

def sighted : List Event := assigned ++ [report]

def invitation : Event := event 5 (block 3 ++ block 4) (.call service (.invite sessionID mix ⟨"", 0⟩))

end Plain

open Plain in
theorem invitation_needs_evidence_mix :
    ((World.empty.after primitives sighted).exec primitives invitation).reply =
        .ok (.invitation ⟨2, joinCode, "red-fox", visibilityPublic, 900000000005⟩) ∧
      ∃ front x since snapshot, World.empty.history primitives sighted = front ++ x :: since ∧
        observation primitives sessionID x = some snapshot ∧
        ∀ y ∈ since, observation primitives sessionID y = none := by
  have run := World.Admissible.exec (P := primitives) (w := World.empty)
    (show World.empty.Admissible primitives sighted by decide +kernel)
  have ok : ((World.empty.after primitives sighted).exec primitives invitation).reply =
      .ok (.invitation ⟨2, joinCode, "red-fox", visibilityPublic, 900000000005⟩) := by
    decide +kernel
  obtain ⟨front, x, since, _, snapshot, _, split, _, _, seen, none, _⟩ := invitation_needs_evidence run rfl ok
  exact ⟨ok, front, x, since, snapshot, split, seen, none⟩

end Relay
