import Relay.Access.Integrity

/-! Writer-group fencing. The fence is the triple of incarnation, term and writer group.
Within an incarnation the term only grows and determines the group; a new incarnation
is never one that was used before. -/
namespace Relay

def incarnationsBy (P : Primitives) (x : Step World Event) : List String :=
  match x.event.action with
  | .openService _ _ => (ran P x).drawn
  | .reset _ => (ran P x).drawn
  | _ => []

def incarnations (P : Primitives) (h : History) : List String := h.flatMap (incarnationsBy P)

@[simp] theorem incarnations_snoc (P : Primitives) (h : History) (x : Step World Event) :
    incarnations P (h ++ [x]) = incarnations P h ++ incarnationsBy P x := by
  simp [incarnations]

def NewIncarnations (P : Primitives) (h : History) : Prop := (incarnations P h).Nodup

variable {x : Step World Event} {d d' : Records} {h : History} {ns : Namespace} {now : Time} {id : String}
  {drawn : List String} {s : Service} {config : Config} {P : Primitives}

theorem NewIncarnations.early {k : History} (distinct : NewIncarnations P (h ++ k)) : NewIncarnations P h := by
  unfold NewIncarnations incarnations at *
  rw [List.flatMap_append] at distinct
  exact (List.nodup_append.mp distinct).1

theorem NewIncarnations.fresh (distinct : NewIncarnations P (h ++ [x])) (drew : id ∈ incarnationsBy P x) :
    id ∉ incarnations P h := by
  unfold NewIncarnations at distinct
  rw [incarnations_snoc] at distinct
  intro before
  exact (List.nodup_append.mp distinct).2.2 id before id drew rfl

theorem NewIncarnations.fresh_open {secret : Bytes} (distinct : NewIncarnations P (h ++ [x]))
    (opens : ∃ given, x.event.action = .openService secret given) :
    incarnationsBy P x = (ran P x).drawn ∧ ∀ id ∈ (ran P x).drawn, id ∉ incarnations P h := by
  obtain ⟨given, opens⟩ := opens
  have drew : incarnationsBy P x = (ran P x).drawn := by simp [incarnationsBy, opens]
  exact ⟨drew, fun id member => distinct.fresh (drew ▸ member)⟩

theorem NewIncarnations.fresh_reset (distinct : NewIncarnations P (h ++ [x]))
    (resets : ∃ maxSessions, x.event.action = .reset maxSessions) (drew : (ran P x).drawn = [id]) :
    incarnationsBy P x = [id] ∧ id ∉ incarnations P h := by
  obtain ⟨maxSessions, resets⟩ := resets
  have here : incarnationsBy P x = [id] := by
    simp only [incarnationsBy, resets]
    exact drew
  exact ⟨here, distinct.fresh (here ▸ List.mem_singleton.mpr rfl)⟩

def Namespace.SameFence (n n' : Namespace) : Prop :=
  n'.incarnation = n.incarnation ∧ n'.writerTerm = n.writerTerm ∧ n'.writerID = n.writerID

theorem Service.prologue_fence (s : Service) (now : Time) (d : Records) :
    d.ns.SameFence (s.prologue now d).ns := by
  simp [prologue, Namespace.SameFence]

theorem Effect.ns_eq (effect : Effect P s now drawn d d') : d'.ns = d.ns := by
  cases effect with
  | redeem =>
    unfold Service.redeemed
    rw [Records.deleteGrant_ns]
    split <;> rfl
  | _ => simp

theorem Succeeded.fence {request : Request} {a : Answer} {signed : List Signed}
    (succeeded : Succeeded P s now d request a signed drawn d') : d.ns.SameFence d'.ns := by
  rcases succeeded.effect with rfl | effect
  · exact ⟨rfl, rfl, rfl⟩
  · rw [effect.ns_eq]
    exact s.prologue_fence now d

def Service.Barred (s : Service) (ns : Namespace) : Prop :=
  s.incarnation ≠ ns.incarnation ∨ s.term < ns.writerTerm

structure Fenced (used : List String) (ns : Namespace) (replicas : List Service) : Prop where
  named : ∀ s ∈ replicas, s.config.writerID ≠ "" ∧ s.incarnation ≠ "" ∧ 0 < s.term
  known : ∀ s ∈ replicas, s.incarnation ∈ used
  recorded : ns.incarnation ≠ "" → ns.incarnation ∈ used
  ordered : ∀ s ∈ replicas, s.Barred ns ∨ s.Passes ns
  unclaimed : ns.writerID = "" → ns.writerTerm = 0 ∧ ns.leaseExpiresAt = 0
  claimed : ns.writerID ≠ "" → 0 < ns.writerTerm
  unstarted : ns.incarnation = "" → ns.writerID = ""

theorem fenced_empty : Fenced [] Namespace.empty [] := by
  constructor <;> simp [Namespace.empty]

theorem Service.Barred.not_passes (barred : s.Barred ns) : ¬ s.Passes ns := by
  rintro ⟨term, _, incarnation⟩
  rcases barred with other | older
  · exact other incarnation.symm
  · omega

inductive Opening (config : Config) (now : Time) (ns : Namespace) : List String → Namespace → Prop
  | first (id : String) :
    ns.incarnation = "" → id ≠ "" → Opening config now ns [id] ⟨schemaVersion, id, 1, config.writerID, 0⟩
  | claim :
    ns.incarnation ≠ "" → ns.writerID = "" →
    Opening config now ns [] { ns with writerID := config.writerID, writerTerm := 1 }
  | rejoin : ns.incarnation ≠ "" → ns.writerID = config.writerID → Opening config now ns [] ns
  | takeover :
    ns.incarnation ≠ "" → ns.writerID ≠ "" → ns.leaseExpiresAt ≤ now →
    Opening config now ns [] { ns with writerTerm := ns.writerTerm + 1, writerID := config.writerID }

theorem Service.takeOver_own (own : ns.writerID = config.writerID) : takeOver config now ns = .ok ns := by
  simp [takeOver, own]

theorem Service.Base.opening {base ns' : Namespace} (start : Service.Base config ns drawn base)
    (taken : Service.takeOver config now (Service.adoptWriter config base) = .ok ns') (nonempty : config.writerID ≠ "")
    (unclaimed : ns.writerID = "" → ns.writerTerm = 0) : Opening config now ns drawn ns' := by
  cases start with
  | first id fresh named =>
    rw [Service.adoptWriter, if_neg nonempty, Service.takeOver_own rfl] at taken
    cases taken
    exact .first id fresh named
  | recorded started =>
    by_cases empty : ns.writerID = ""
    · rw [Service.adoptWriter, if_pos empty, Service.takeOver_own rfl] at taken
      cases taken
      rw [if_pos (unclaimed empty)]
      exact .claim started empty
    · rw [Service.adoptWriter, if_neg empty] at taken
      unfold Service.takeOver at taken
      split at taken
      · split at taken
        · cases taken
        · rename_i ended
          cases taken
          exact .takeover started empty (not_lt.mp ended)
      · rename_i own
        cases taken
        exact .rejoin started (not_not.mp own)

namespace Fenced

variable {known drawn : List String} {ns ns' : Namespace} {replicas : List Service}

theorem mono (fenced : Fenced known ns replicas) : Fenced (known ++ drawn) ns replicas where
  named := fenced.named
  known s member := List.mem_append_left _ (fenced.known s member)
  recorded started := List.mem_append_left _ (fenced.recorded started)
  ordered := fenced.ordered
  unclaimed := fenced.unclaimed
  claimed := fenced.claimed
  unstarted := fenced.unstarted

theorem bars (fenced : Fenced known ns replicas) (fresh : ns'.incarnation ∉ known) :
    ∀ s ∈ replicas, s.Barred ns' :=
  fun s member => .inl fun same => fresh (same ▸ fenced.known s member)

variable {s : Service} {now : Time} {config : Config}

section

variable (fenced : Fenced known ns replicas)

include fenced

theorem renew (member : s ∈ replicas) (passes : s.Passes ns) (same : ns.SameFence ns') : Fenced known ns' replicas := by
  obtain ⟨incarnation, term, writer⟩ := same
  obtain ⟨nonempty, started, _⟩ := fenced.named s member
  refine ⟨fenced.named, fenced.known, incarnation.symm ▸ fenced.recorded, ?_, ?_, ?_, ?_⟩
  · intro s' member'
    unfold Service.Barred Service.Passes
    rw [incarnation, term, writer]
    exact fenced.ordered s' member'
  · intro empty
    rw [writer, passes.2.1] at empty
    exact absurd empty nonempty
  · intro claimed
    rw [term]
    exact fenced.claimed (writer ▸ claimed)
  · intro empty
    rw [incarnation, passes.2.2] at empty
    exact absurd empty started

theorem reset {id : String} (fresh : id ∉ known) : Fenced (known ++ [id]) ⟨schemaVersion, id, 0, "", 0⟩ replicas where
  named := fenced.named
  known s member := List.mem_append_left _ (fenced.known s member)
  recorded _ := List.mem_append_right _ (List.mem_singleton.mpr rfl)
  ordered s member := .inl (fenced.bars fresh s member)
  unclaimed _ := ⟨rfl, rfl⟩
  claimed nonempty := absurd rfl nonempty
  unstarted _ := rfl

theorem barred_opening (fresh : ∀ id ∈ drawn, id ∉ known) (opening : Opening config now ns drawn ns')
    (member : s ∈ replicas) (barred : s.Barred ns) : s.Barred ns' := by
  cases opening with
  | first id _ _ => exact fenced.bars (fresh id (by simp)) s member
  | claim _ empty =>
    rcases barred with other | older
    · exact .inl other
    · rw [(fenced.unclaimed empty).1] at older
      exact absurd older (Nat.not_lt_zero _)
  | rejoin => exact barred
  | takeover =>
    rcases barred with other | older
    · exact .inl other
    · exact .inr (Nat.lt_succ_of_lt older)

theorem ordered_opening (fresh : ∀ id ∈ drawn, id ∉ known) (opening : Opening config now ns drawn ns') :
    ∀ s ∈ replicas, s.Barred ns' ∨ s.Passes ns' := by
  intro s member
  rcases fenced.ordered s member with barred | passes
  · exact .inl (fenced.barred_opening fresh opening member barred)
  · cases opening with
    | first id _ _ => exact .inl (fenced.bars (fresh id (by simp)) s member)
    | claim _ empty =>
      obtain ⟨nonempty, _, _⟩ := fenced.named s member
      exact absurd (passes.2.1 ▸ empty) nonempty
    | rejoin => exact .inr passes
    | takeover => exact .inl (.inr (passes.1 ▸ Nat.lt_succ_self _))

theorem opening_own (nonempty : config.writerID ≠ "") (opening : Opening config now ns drawn ns') :
    ns'.writerID = config.writerID ∧ 0 < ns'.writerTerm ∧ ns'.incarnation ≠ "" ∧
      ns'.incarnation ∈ known ++ drawn := by
  cases opening with
  | first id _ named => exact ⟨rfl, Nat.one_pos, named, by simp⟩
  | claim started _ =>
    exact ⟨rfl, Nat.one_pos, started, List.mem_append_left _ (fenced.recorded started)⟩
  | rejoin started own =>
    exact ⟨own, fenced.claimed (own ▸ nonempty), started,
      List.mem_append_left _ (fenced.recorded started)⟩
  | takeover started _ _ =>
    exact ⟨rfl, Nat.succ_pos _, started, List.mem_append_left _ (fenced.recorded started)⟩

theorem opening_late (started : 0 ≤ now) (other : ns.writerID ≠ config.writerID)
    (opening : Opening config now ns drawn ns') : ns.leaseExpiresAt ≤ now ∧ ns.writerTerm < ns'.writerTerm := by
  have late : ns.writerID = "" → ns.leaseExpiresAt ≤ now ∧ ns.writerTerm < 1 := by
    intro empty
    obtain ⟨term, lease⟩ := fenced.unclaimed empty
    rw [term, lease]
    exact ⟨started, Nat.one_pos⟩
  cases opening with
  | first id unstarted _ => exact late (fenced.unstarted unstarted)
  | claim _ empty => exact late empty
  | rejoin _ own => exact absurd own other
  | takeover _ _ ended => exact ⟨ended, Nat.lt_succ_self _⟩

theorem opened {secret : Bytes} {expiry : Time} (fresh : ∀ id ∈ drawn, id ∉ known) (nonempty : config.writerID ≠ "")
    (opening : Opening config now ns drawn ns') : Fenced (known ++ drawn) { ns' with leaseExpiresAt := expiry }
      (replicas ++ [⟨secret, config, ns'.writerTerm, ns'.incarnation⟩]) := by
  obtain ⟨own, positive, started, member⟩ := fenced.opening_own nonempty opening
  refine ⟨?_, ?_, fun _ => member, ?_, ?_, fun _ => positive, fun empty => absurd empty started⟩
  · intro s joined
    rcases List.mem_append.mp joined with before | new
    · exact fenced.named s before
    · rw [List.mem_singleton.mp new]
      exact ⟨nonempty, started, positive⟩
  · intro s joined
    rcases List.mem_append.mp joined with before | new
    · exact List.mem_append_left _ (fenced.known s before)
    · rw [List.mem_singleton.mp new]
      exact member
  · intro s joined
    rcases List.mem_append.mp joined with before | new
    · exact fenced.ordered_opening fresh opening s before
    · rw [List.mem_singleton.mp new]
      exact .inr ⟨rfl, own, rfl⟩
  · intro empty
    exact absurd (own ▸ empty) nonempty

end

end Fenced

namespace World.Change

variable {P : Primitives} {h : History} {x : Step World Event} {d : Records} {replicas : List Service}

theorem fenced (change : World.Change P x.before x.event d replicas)
    (distinct : NewIncarnations P (h ++ [x]))
    (fenced : Fenced (incarnations P h) x.before.store.data.ns x.before.replicas) :
    Fenced (incarnations P (h ++ [x])) d.ns replicas := by
  rw [incarnations_snoc]
  cases change with
  | quiet => exact fenced.mono
  | opened secret config base ns d opens nonempty start taken cleared _ _ =>
    obtain ⟨drew, fresh⟩ := distinct.fresh_open opens
    rw [drew, cleared.ns]
    exact fenced.opened fresh nonempty
      (start.opening taken nonempty fun empty => (fenced.unclaimed empty).1)
  | reset rows id resets _ drawnHere _ =>
    obtain ⟨drew, fresh⟩ := distinct.fresh_reset resets drawnHere
    rw [drew]
    exact fenced.reset fresh
  | called s request a d member _ _ passes succeeded =>
    exact (fenced.renew member passes succeeded.fence).mono

variable {s : Service}

section

variable (change : World.Change P x.before x.event d replicas)

include change

theorem barred (distinct : NewIncarnations P (h ++ [x]))
    (fenced : Fenced (incarnations P h) x.before.store.data.ns x.before.replicas) (member : s ∈ x.before.replicas)
    (barred : s.Barred x.before.store.data.ns) : s.Barred d.ns := by
  cases change with
  | quiet => exact barred
  | opened secret config base ns d opens nonempty start taken cleared _ _ =>
    obtain ⟨_, fresh⟩ := distinct.fresh_open opens
    have kept : s.Barred ns := fenced.barred_opening fresh
      (start.opening taken nonempty fun empty => (fenced.unclaimed empty).1) member barred
    rw [cleared.ns]
    exact kept
  | reset rows id resets _ drawnHere _ =>
    obtain ⟨_, fresh⟩ := distinct.fresh_reset resets drawnHere
    exact fenced.bars fresh s member
  | called s' request a d _ _ _ _ succeeded =>
    obtain ⟨incarnation, term, _⟩ := succeeded.fence
    unfold Service.Barred
    rw [incarnation, term]
    exact barred

theorem replicas_subset : x.before.replicas ⊆ replicas := by
  cases change with
  | opened => exact List.subset_append_left _ _
  | _ => exact List.Subset.refl _

theorem opened_late (fenced : Fenced (incarnations P h) x.before.store.data.ns x.before.replicas)
    (started : 0 ≤ x.event.env.now) (reply : (ran P x).reply = .ok (.opened s))
    (other : x.before.store.data.ns.writerID ≠ s.config.writerID) :
    x.before.store.data.ns.leaseExpiresAt ≤ x.event.env.now ∧
      x.before.store.data.ns.writerTerm < s.term := by
  cases change with
  | quiet cause =>
    rcases cause with ⟨failure, failed⟩ | closes
    · rw [ran, failed] at reply
      cases reply
    · simp [ran, World.exec, closes] at reply
  | opened secret config base ns d _ nonempty start taken _ here _ =>
    rw [ran, here] at reply
    cases reply
    exact fenced.opening_late started other
      (start.opening taken nonempty fun empty => (fenced.unclaimed empty).1)
  | reset rows id resets =>
    obtain ⟨maxSessions, resets⟩ := resets
    simp only [ran, World.exec, resets] at reply
    obtain ⟨_, _, done⟩ := Ran.map_ok reply
    cases done
  | called s' request a d _ calls here _ _ =>
    simp only [ran, World.exec, calls] at reply
    exact absurd reply (s'.answer_ne_opened P _ _ _ s)

end

end World.Change

section Runs

variable {P : Primitives} {h k : History} {v w : World}

theorem fenced_of_run (run : Runs P h w) (distinct : NewIncarnations P h) :
    Fenced (incarnations P h) w.store.data.ns w.replicas := by
  refine Exec.history (G := NewIncarnations P)
    (I := fun h w => Fenced (incarnations P h) w.store.data.ns w.replicas)
    NewIncarnations.early ?_ ?_ run distinct
  · exact fenced_empty
  · intro h t e u before good fenced move
    exact (move.change (keyed_of_run before)).fenced good fenced

theorem clock_nonneg (run : Runs P h w) : 0 ≤ w.clock := by
  refine run.invariant (I := fun w => 0 ≤ w.clock) ?_ (le_refl _)
  intro t e u started move
  rw [move.result]
  exact le_trans started move.chronological

theorem barred_of_run {s : Service} (first : Runs P h v) (rest : Exec (World.Moves P) v k w)
    (distinct : NewIncarnations P (h ++ k)) (member : s ∈ v.replicas)
    (barred : s.Barred v.store.data.ns) : s.Barred w.store.data.ns := by
  suffices kept : s ∈ w.replicas ∧ s.Barred w.store.data.ns from kept.2
  induction rest with
  | nil => exact ⟨member, barred⟩
  | @snoc k t u e later move ih =>
    rw [← List.append_assoc] at distinct
    obtain ⟨stays, out⟩ := ih distinct.early
    have run : Runs P (h ++ k) t := first.append later
    have change := move.change (keyed_of_run run)
    exact ⟨change.replicas_subset (x := ⟨t, e, u⟩) stays,
      change.barred (x := ⟨t, e, u⟩) distinct (fenced_of_run run distinct.early) stays out⟩

end Runs

def Plain.takenOver : List Event :=
  [event 1 (block 1) (.openService secret (defaults "group")),
    event (31 * second) [] (.openService secret (defaults "rival"))]

end Relay
