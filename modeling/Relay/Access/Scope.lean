import Relay.Access.Signatures

/-! Delegation never widens scope. Every signature names the Session it was made for and
stays within what that Session declared at creation, which nothing changes afterwards. -/
namespace Relay

section Runs

variable {P : Primitives} {h k : History} {v w : World}

theorem same_of_run {id : String} {r : SessionRecord} (first : Runs P h v)
    (rest : Exec (World.Moves P) v k w) (unrepeated : Unrepeated P (h ++ k))
    (stored : v.store.data.sessions.lookup id = some r) :
    ∀ r', w.store.data.sessions.lookup id = some r' → r.Same r' := by
  have known := (sound_of_run first unrepeated.early).session_known stored
  induction rest with
  | nil =>
    intro r' again
    rw [stored] at again
    cases again
    exact .refl r
  | @snoc k t u e later move ih =>
    rw [← List.append_assoc] at unrepeated
    intro r' again
    have run : Runs P (h ++ k) t := first.append later
    rcases (move.change (keyed_of_run run)).session_origin (keyed_of_run run) again with
      ⟨r'', found, same⟩ | ⟨_, _, _, _, drew, _⟩
    · exact (ih unrepeated.early r'' found).trans same
    · refine absurd ?_ (unrepeated.fresh id drew)
      simp only [drawn, List.flatMap_append]
      exact List.mem_append_left _ known

end Runs

structure Signed.InScope (σ : Signed) : Prop where
  session : σ.claims.sessionID = σ.record.id
  issuer : σ.claims.issuer = σ.record.issuer
  incarnation : σ.claims.incarnation = σ.record.incarnation
  source : σ.claims.role = .source → ∀ bus ∈ σ.claims.busIDs, bus ∈ σ.record.requiredBuses
  subscriber : σ.claims.role = .subscriber → σ.record.Offers σ.claims.busID

variable {buses required : List String} {bus id : String} {P : Primitives} {σ : Signed} {expiry : Time}
  {origin : Origin} {r : SessionRecord} {w : World} {x : Step World Event} {h : History}

theorem Signed.For.inScope_source {control : Bool}
    (made : σ.For origin r (Claims.request id "" buses .source control) expiry) (own : r.id = id)
    (declared : ∀ bus ∈ buses, bus ∈ r.requiredBuses) : σ.InScope := by
  obtain ⟨_, rfl, ⟨session, _, busIDs, role, _⟩, issuer, incarnation, _⟩ := made
  refine ⟨session.trans own.symm, issuer, incarnation, ?_, ?_⟩
  · intro _ bus member
    rw [busIDs] at member
    exact declared bus member
  · intro receiver
    rw [role] at receiver
    cases receiver

theorem Signed.For.inScope_subscriber (made : σ.For origin r (Claims.request id bus [] .subscriber false) expiry)
    (own : r.id = id) (offered : r.Offers bus) : σ.InScope := by
  obtain ⟨_, rfl, ⟨session, busID, _, role, _⟩, issuer, incarnation, _⟩ := made
  refine ⟨session.trans own.symm, issuer, incarnation, ?_, ?_⟩
  · intro source
    rw [role] at source
    cases source
  · intro _
    rw [busID]
    exact offered

/-- A signature that gives control was made for a new Session, or for the holder of a
control capability of the same Session. -/
def ControlEarned (P : Primitives) (x : Step World Event) (σ : Signed) : Prop :=
  (∃ s required, x.event.action = .call s (.create required) ∧ σ.origin = .create) ∨
    ∃ s id credential c, x.event.action = .call s (.renew id credential) ∧ σ.origin = .renew c ∧
      s.authorizeRecord P σ.record credential x.event.env.now = .ok c ∧ c.canControl = true ∧
      c.sessionID = σ.record.id

def RecordHeld (x : Step World Event) (σ : Signed) : Prop :=
  x.before.store.data.sessions.lookup σ.record.id = some σ.record ∨
    ∃ s required buses id, x.event.action = .call s (.create required) ∧
      σ.record = s.newSession id buses x.event.env.now

namespace Service.MaySign

variable {P : Primitives} {s : Service} {now : Time} {d : Records} {request : Request} {σ : Signed}
  {known : List String}

theorem inScope (signs : Service.MaySign P s now d request σ) (sound : d.Sound known) :
    σ.InScope := by
  cases signs with
  | create declared made => exact made.inScope_source rfl fun _ => id
  | publish active virtual declared made =>
    refine made.inScope_source (sound.keyed.sessions active.found) ?_
    simpa using declared
  | subscribe active offered made =>
    exact made.inScope_subscriber (sound.keyed.sessions active.found) offered
  | redeem found active made =>
    refine made.inScope_subscriber (sound.keyed.sessions active.found) ?_
    obtain ⟨_, stored⟩ := Tx.locate_some found
    obtain ⟨r, session, offered⟩ := sound.grant_session stored
    rw [active.found] at session
    cases session
    exact offered
  | renew active authorized control made =>
    exact made.inScope_source (sound.keyed.sessions active.found) fun _ => id

variable {x : Step World Event}

theorem controlEarned (signs : Service.MaySign P s x.event.env.now d request σ)
    (asked : x.event.action = .call s request) (control : σ.claims.control = true) : ControlEarned P x σ := by
  cases signs with
  | create declared made => exact .inl ⟨s, _, asked, made.origin⟩
  | publish active virtual declared made | subscribe active offered made | redeem found active made =>
    rw [made.scope.2.2.2.2] at control
    cases control
  | renew active authorized canControl made =>
    refine .inr ⟨s, _, _, _, asked, made.origin, ?_, canControl, ?_⟩
    · rw [made.record]
      exact authorized
    · rw [made.record]
      exact (authorizeRecord_ok authorized).2

theorem recordHeld
    (signs : Service.MaySign P s x.event.env.now (s.prologue x.event.env.now x.before.store.data) request σ)
    (asked : x.event.action = .call s request) (keyed : x.before.store.data.Keyed) : RecordHeld x σ := by
  have held : ∀ id r, s.Active (s.prologue x.event.env.now x.before.store.data) x.event.env.now id r →
      x.before.store.data.sessions.lookup r.id = some r := by
    intro id r active
    have found := (s.shrinks_prologue x.event.env.now x.before.store.data).sessions active.found
    rw [keyed.sessions found]
    exact found
  cases signs with
  | create declared made => exact .inr ⟨s, _, _, _, asked, made.record⟩
  | publish active _ _ made | subscribe active _ made | redeem _ active made | renew active _ _ made =>
    exact .inl (made.record ▸ held _ _ active)

end Service.MaySign

theorem inScope_of_run (run : Runs P h w) (unrepeated : Unrepeated P h) (member : x ∈ h) (signed : σ ∈ (ran P x).signed) :
    σ.InScope := by
  obtain ⟨before, after, rfl⟩ := List.append_of_mem member
  obtain ⟨first, _, _⟩ := run.split_step
  obtain ⟨s, _, _, signs⟩ := World.exec_signs signed
  exact signs.inScope ((sound_of_run first unrepeated.early).shrink (s.shrinks_prologue _ _))

/-- Delegation never widens scope, over every history. -/
theorem delegation_keeps_scope {P : Primitives} {h : History} {w : World} (run : Runs P h w)
    (unrepeated : Unrepeated P h) :
    (∀ x ∈ h, ∀ σ ∈ (ran P x).signed, σ.InScope ∧ RecordHeld x σ ∧
      (σ.claims.control = true → ControlEarned P x σ)) ∧
    (∀ before after v, h = before ++ after → Runs P before v → Exec (World.Moves P) v after w →
      ∀ id r r', v.store.data.sessions.lookup id = some r →
        w.store.data.sessions.lookup id = some r' →
        r'.requiredBuses = r.requiredBuses ∧ r'.issuer = r.issuer ∧ r'.incarnation = r.incarnation) := by
  refine ⟨?_, ?_⟩
  · intro x member σ signed
    have inScope := inScope_of_run run unrepeated member signed
    obtain ⟨before, after, rfl⟩ := List.append_of_mem member
    obtain ⟨first, _, _⟩ := run.split_step
    obtain ⟨s, request, asked, signs⟩ := World.exec_signs signed
    exact ⟨inScope, signs.recordHeld asked (keyed_of_run first), signs.controlEarned asked⟩
  · rintro before after v rfl first rest id r r' stored again
    have same := same_of_run first rest unrepeated stored r' again
    exact ⟨same.requiredBuses, same.issuer, same.incarnation⟩

def Plain.delegated : List Event :=
  started [] ++
    [event 3 (block 3) (.call service (.subscribe sessionID mix)),
      event 4 (block 4) (.call service (.publish sessionID "microphone"))]

theorem delegation_keeps_scope_delegated :
    (World.empty.history Plain.primitives Plain.delegated).length = 4 ∧
      ∀ x ∈ World.empty.history Plain.primitives Plain.delegated,
        ∀ σ ∈ (ran Plain.primitives x).signed, σ.InScope := by
  have run := World.Admissible.exec (P := Plain.primitives) (w := World.empty)
    (show World.empty.Admissible Plain.primitives Plain.delegated by decide +kernel)
  refine ⟨by decide +kernel, ?_⟩
  intro x member σ signed
  exact ((delegation_keeps_scope run (by decide +kernel)).1 x member σ signed).1

def declaredBy (x : Step World Event) : List String :=
  match x.event.action with
  | .call _ (.create required) => required
  | _ => []

def NeverDeclaresMix (h : History) : Prop := ∀ x ∈ h, mix ∉ declaredBy x

theorem NeverDeclaresMix.create {s : Service} (never : NeverDeclaresMix h) (member : x ∈ h)
    (asked : x.event.action = .call s (.create required)) : mix ∉ required := by
  have absent := never x member
  rw [declaredBy, asked] at absent
  exact absent

theorem validateRequiredBuses_undeclared (never : mix ∉ required)
    (declared : validateRequiredBuses (if required.length = 0 then Service.defaultBuses else required) = .ok buses) :
    mix ∉ buses := by
  have perm := (validateRequiredBuses_ok declared).perm
  rw [perm.mem_iff]
  split
  · decide
  · exact never

theorem undeclared_of_run (run : Runs P h w) (never : NeverDeclaresMix h) :
    ∀ id r, w.store.data.sessions.lookup id = some r → mix ∉ r.requiredBuses := by
  refine Exec.history (G := NeverDeclaresMix)
    (I := fun _ w => ∀ id r, w.store.data.sessions.lookup id = some r → mix ∉ r.requiredBuses)
    ?_ ?_ ?_ run never
  · exact fun never x member => never x (List.mem_append_left _ member)
  · intro id r found
    cases found
  · intro h t e u before never undeclared move id r' stored
    have keyed := keyed_of_run before
    rcases (move.change keyed).session_origin keyed stored with
      ⟨r, found, same⟩ | ⟨s, required, buses, asked, _, _, declared, rfl⟩
    · rw [same.requiredBuses]
      exact undeclared id r found
    · exact validateRequiredBuses_undeclared (never.create (x := ⟨t, e, u⟩) (by simp) asked) declared

theorem Claims.allowsBus_source {c : Claims} (source : c.role = .source) (absent : bus ∉ c.busIDs) :
    c.allowsBus bus = false := by
  simp [allowsBus, source, absent]

/-- While no Session is created with the virtual bus, no source capability allows it. -/
theorem source_never_allows_mix {P : Primitives} {h : History} {w : World} (run : Runs P h w)
    (never : NeverDeclaresMix h) :
    ∀ x ∈ h, ∀ σ ∈ (ran P x).signed, σ.claims.role = .source → σ.claims.allowsBus mix = false := by
  intro x member σ signed source
  refine Claims.allowsBus_source source ?_
  obtain ⟨s, request, asked, signs⟩ := World.exec_signs signed
  cases signs with
  | create declared made =>
    rw [made.scope.2.2.1]
    exact validateRequiredBuses_undeclared (never.create member asked) declared
  | publish active virtual declared made =>
    rw [made.scope.2.2.1]
    exact fun here => virtual (List.mem_singleton.mp here).symm
  | subscribe active offered made | redeem found active made =>
    rw [made.scope.2.2.1]
    exact List.not_mem_nil
  | renew active authorized control made =>
    obtain ⟨before, after, rfl⟩ := List.append_of_mem member
    obtain ⟨first, _, _⟩ := run.split_step
    rw [made.scope.2.2.1]
    exact undeclared_of_run first (fun y earlier => never y (List.mem_append_left _ earlier)) _ _
      ((s.shrinks_prologue _ _).sessions active.found)

theorem source_never_allows_mix_defaults :
    (∃ x ∈ World.empty.history Plain.primitives (Plain.started []),
      ∃ σ ∈ (ran Plain.primitives x).signed, σ.claims.role = .source) ∧
      ∀ x ∈ World.empty.history Plain.primitives (Plain.started []),
        ∀ σ ∈ (ran Plain.primitives x).signed, σ.claims.role = .source →
          σ.claims.allowsBus mix = false := by
  have run := World.Admissible.exec (P := Plain.primitives) (w := World.empty)
    (show World.empty.Admissible Plain.primitives (Plain.started []) by decide +kernel)
  exact ⟨by decide +kernel, source_never_allows_mix run (by unfold NeverDeclaresMix; decide +kernel)⟩

/-- A Session created with the virtual bus: its owner may publish to it. -/
theorem source_allows_declared_mix :
    World.empty.Admissible Plain.primitives (Plain.started [mix]) ∧
      ∃ x ∈ World.empty.history Plain.primitives (Plain.started [mix]),
        ∃ σ ∈ (ran Plain.primitives x).signed,
          σ.claims.role = .source ∧ σ.claims.allowsBus mix = true := by
  decide +kernel

end Relay
