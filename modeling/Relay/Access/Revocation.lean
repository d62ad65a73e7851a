import Relay.Access.Scope

/-! Revocation is final. Once a Session was deleted, or the clock has reached its stored
expiry, no operation succeeds for it, for what was created under it, or with what was
signed for it, and nothing makes it active again. -/
namespace Relay

def Records.Gone (d : Records) (id : String) (t : Time) : Prop :=
  ∀ r, d.sessions.lookup id = some r → r.expiresAt ≤ t

namespace Records.Gone

variable {d d' : Records} {id : String} {t t' : Time}

theorem later (gone : d.Gone id t) (order : t ≤ t') : d.Gone id t' :=
  fun r stored => le_trans (gone r stored) order

theorem shrink (gone : d.Gone id t) (shrinks : d.Shrinks d') : d'.Gone id t :=
  fun r stored => gone r (shrinks.sessions stored)

variable {s : Service}

theorem not_active {r : SessionRecord} (gone : d.Gone id t) : ¬ s.Active d t id r :=
  fun active => absurd active.live (not_lt.mpr (gone r active.found))

theorem cleared (gone : d.Gone id t) (cleared : d.Cleared d') : d'.Gone id t := by
  intro r stored
  rcases cleared.sessions id with same | ⟨r', found, dropped⟩
  · exact gone r (same ▸ stored)
  · rw [dropped] at stored
    cases stored
    exact gone r' found

theorem pruned (gone : d.Gone id t) : (s.prologue t d).sessions.lookup id = none := by
  cases stored : (s.prologue t d).sessions.lookup id with
  | none => rfl
  | some r =>
    obtain ⟨found, live⟩ := Records.pruneExpired_sessions.mp stored
    exact absurd live (not_lt.mpr (gone r found))

end Records.Gone

variable {P : Primitives} {d : Records} {s : Service} {now : Time} {id : String}

theorem Succeeded.gone {d' : Records} {request : Request} {a : Answer} {signed : List Signed} {drawn : List String}
    (succeeded : Succeeded P s now d request a signed drawn d') (keyed : d.Keyed) (old : id ∉ drawn)
    (gone : d.Gone id now) : d'.Gone id now := by
  cases succeeded with
  | read => exact gone
  | performed performed =>
    intro r stored
    cases performed.fate (keyed.shrink (s.shrinks_prologue now d)) stored with
    | kept found | revised found _ =>
      rw [gone.pruned] at found
      cases found
    | created _ drew _ _ => exact absurd drew old

theorem World.Change.gone {w : World} {e : Event} {replicas : List Service} (change : World.Change P w e d replicas)
    (keyed : w.store.data.Keyed) (old : id ∉ (w.exec P e).drawn) (gone : w.store.data.Gone id e.env.now) :
    d.Gone id e.env.now := by
  cases change with
  | quiet => exact gone
  | opened secret config base ns d _ _ _ _ cleared _ _ =>
    exact (gone.shrink (Records.shrinks_putNamespace _ _)).cleared cleared
  | reset rows fresh _ _ _ _ =>
    exact (gone.shrink (Records.shrinks_deleteRows _ rows)).shrink (Records.shrinks_putNamespace _ _)
  | called s request a d _ _ _ _ succeeded => exact succeeded.gone keyed old gone

section Runs

variable {P : Primitives} {h k : History} {v w : World} {id : String}

theorem gone_of_run (first : Runs P h v) (rest : Exec (World.Moves P) v k w)
    (unrepeated : Unrepeated P (h ++ k)) (known : id ∈ drawn P h)
    (gone : v.store.data.Gone id v.clock) : w.store.data.Gone id w.clock := by
  induction rest with
  | nil => exact gone
  | @snoc k t u e later move ih =>
    rw [← List.append_assoc] at unrepeated
    have keyed := keyed_of_run (first.append later)
    have old : id ∉ (t.exec P e).drawn := by
      intro drew
      refine unrepeated.fresh (x := ⟨t, e, u⟩) id drew ?_
      simp only [drawn, List.flatMap_append]
      exact List.mem_append_left _ known
    have still := (ih unrepeated.early).later move.chronological
    have clock : u.clock = e.env.now := by rw [move.result]; rfl
    rw [clock]
    exact (move.change keyed).gone keyed old still

end Runs

def Deletes (P : Primitives) (id : String) (x : Step World Event) : Prop :=
  ∃ s, x.event.action = .call s (.delete id) ∧ (ran P x).reply = .ok (.deleted true)

def Expires (id : String) (x : Step World Event) : Prop :=
  ∃ r, x.before.store.data.sessions.lookup id = some r ∧ r.expiresAt ≤ x.event.env.now

def Revoked (P : Primitives) (id : String) (before : History) (x : Step World Event) : Prop :=
  (∃ y ∈ before, Deletes P id y ∨ Expires id y) ∨ Expires id x

def SignedFor (P : Primitives) (id : String) (before : History) (encoded : String) : Prop :=
  ∃ y ∈ before, ∃ σ ∈ (ran P y).signed, σ.record.id = id ∧ σ.token = encoded

/-- A redemption that answers for the Session: it signed a capability for it or consumed
one of its grants, or it signed nothing and its receipt is one of the Session. -/
def RedeemsFor (P : Primitives) (id : String) (x : Step World Event) (s : Service)
    (locator code key : String) : Prop :=
  (∃ σ ∈ (ran P x).signed, σ.record.id = id ∨
    ∃ k g, x.before.store.data.grants.lookup k = some g ∧ g.sessionID = id ∧ σ.origin = .redeem g.id) ∨
  ((ran P x).signed = [] ∧ ∃ receipt, receipt.sessionID = id ∧
    x.before.store.data.receipts.lookup
      (s.redeemDigests P locator (Service.effectiveCode P locator code) key).receiptKey = some receipt)

/-- A call made for the Session, for what was created under it, or with a capability
that was signed for it. -/
def CallsFor (P : Primitives) (id : String) (before : History) (x : Step World Event) :
    Action → Prop
  | .call _ (.get k) => k = id
  | .call _ (.metadata k) => k = id
  | .call _ (.publish k _) => k = id
  | .call _ (.subscribe k _) => k = id
  | .call _ (.apply k _) => k = id
  | .call _ (.invite k _ _) => k = id
  | .call _ (.acquire k _ _) => k = id
  | .call _ (.authorize k encoded) => k = id ∨ SignedFor P id before encoded
  | .call _ (.renew k credential) => k = id ∨ SignedFor P id before credential
  | .call _ (.inspect locator) =>
    ∃ g, Tx.locate x.before.store.data locator = some g ∧ g.sessionID = id
  | .call s (.redeem locator code key _) => RedeemsFor P id x s locator code key
  | _ => False

/-- Reading a signed token back gives claims of the Session it was signed for. -/
def Faithful (P : Primitives) (h : History) : Prop :=
  ∀ y ∈ h, ∀ σ ∈ (ran P y).signed, ∀ secret header c,
    P.parse secret σ.token = some (header, c) → c.sessionID = σ.claims.sessionID

theorem SignedFor.own {before : History} {v : World} {encoded : String} {r : SessionRecord} {c : Claims}
    (run : Runs P before v) (unrepeated : Unrepeated P before) (faithful : Faithful P before)
    (capability : SignedFor P id before encoded) (authorized : s.authorizeRecord P r encoded now = .ok c) :
    r.id = id := by
  obtain ⟨y, member, σ, signed, rfl, rfl⟩ := capability
  obtain ⟨verified, same⟩ := Service.authorizeRecord_ok authorized
  obtain ⟨_, _, _, parsed, _⟩ := verifyProfile_iff.mp verified
  calc r.id = c.sessionID := same.symm
    _ = σ.claims.sessionID := faithful y member σ signed _ _ _ parsed
    _ = σ.record.id := (inScope_of_run run unrepeated member signed).session

section Calls

variable {P : Primitives} {s : Service} {now : Time} {d d' : Records} {request : Request}
  {a : Answer} {signed : List Signed} {drawn : List String} {id : String}
  {before : History} {x : Step World Event}

theorem Read.spares (read : Read P s x.event.env.now x.before.store.data request a)
    (gone : x.before.store.data.Gone id x.event.env.now) (keyed : x.before.store.data.Keyed)
    (own : ∀ encoded r c, SignedFor P id before encoded →
      s.authorizeRecord P r encoded x.event.env.now = .ok c → r.id = id) :
    ¬ CallsFor P id before x (.call s request) := by
  intro calls
  cases read with
  | authorize active authorized =>
    rcases calls with rfl | capability
    · exact gone.not_active active
    · rw [← keyed.sessions active.found, own _ _ _ capability authorized] at active
      exact gone.not_active active
  | inspect found _ active =>
    obtain ⟨g, located, rfl⟩ := calls
    rw [found] at located
    cases located
    exact gone.not_active active
  | metadata active =>
    cases calls
    exact gone.not_active active
  | ready => exact calls

variable {code key locator : String} {response : Bytes}

theorem Service.Replayed.spares {receipt : Receipt}
    (replayed : Service.Replayed P s d x.event.env.now locator (Service.effectiveCode P locator code)
      key response receipt) (shrinks : x.before.store.data.Shrinks d) (gone : d.Gone id x.event.env.now)
    (unsigned : (ran P x).signed = []) : ¬ RedeemsFor P id x s locator code key := by
  rintro (⟨σ, member, _⟩ | ⟨_, stored, rfl, found⟩)
  · rw [unsigned] at member
    cases member
  · obtain ⟨r, active⟩ := replayed.session
    rw [shrinks.receipts replayed.found] at found
    cases found
    exact gone.not_active active

theorem Service.Consumed.spares {encode : ResolvedInvitation → Except Err Bytes} {g : GrantRecord} {r : SessionRecord}
    {σ : Signed} (consumed : Service.Consumed P s d x.event.env.now locator (Service.effectiveCode P locator code)
      key encode response g r σ) (shrinks : x.before.store.data.Shrinks d) (keyed : x.before.store.data.Keyed)
    (gone : d.Gone id x.event.env.now) (logged : (ran P x).signed = [σ]) : ¬ RedeemsFor P id x s locator code key := by
  have other : g.sessionID ≠ id := by
    rintro rfl
    exact gone.not_active consumed.active
  rintro (⟨σ', member, own | ⟨k, g', stored, session, origin⟩⟩ | ⟨unsigned, _⟩)
  · rw [logged, List.mem_singleton] at member
    rw [member, consumed.signed.record, keyed.sessions (shrinks.sessions consumed.active.found)] at own
    exact other own
  · rw [logged, List.mem_singleton] at member
    rw [member, consumed.signed.origin, Origin.redeem.injEq] at origin
    obtain ⟨k', found⟩ := Tx.locate_some consumed.found
    have found := (shrinks.grants found).1
    have same : k' = k := by rw [← keyed.grants found, ← keyed.grants stored, origin]
    rw [same, stored] at found
    cases found
    exact other session
  · rw [logged] at unsigned
    cases unsigned

theorem Succeeded.spares
    (succeeded : Succeeded P s x.event.env.now x.before.store.data request a signed drawn d')
    (logged : (ran P x).signed = signed) (gone : x.before.store.data.Gone id x.event.env.now)
    (keyed : x.before.store.data.Keyed)
    (own : ∀ encoded r c, SignedFor P id before encoded →
      s.authorizeRecord P r encoded x.event.env.now = .ok c → r.id = id) :
    ¬ CallsFor P id before x (.call s request) := by
  cases succeeded with
  | read read => exact read.spares gone keyed own
  | performed performed =>
    have shrinks := s.shrinks_prologue x.event.env.now x.before.store.data
    have gone := gone.shrink shrinks
    intro calls
    cases performed with
    | create | delete | absent => exact calls
    | replay replayed => exact replayed.spares shrinks gone logged calls
    | consume consumed => exact consumed.spares shrinks keyed gone logged calls
    | renew active authorized =>
      rcases calls with rfl | capability
      · exact gone.not_active active
      · rw [← keyed.sessions (shrinks.sessions active.found),
          own _ _ _ capability authorized] at active
        exact gone.not_active active
    | ignore _ _ active | observe _ _ active | _ active => exact gone.not_active (calls ▸ active)

end Calls

section Steps

variable {P : Primitives} {before : History} {id : String} {x : Step World Event}

theorem ran_succeeded {s : Service} {request : Request} {a : Answer}
    (move : World.Moves P x.before x.event x.after) (calls : x.event.action = .call s request)
    (ok : (ran P x).reply = .ok a) :
    Succeeded P s x.event.env.now x.before.store.data request a (ran P x).signed (ran P x).drawn
      x.after.store.data := by
  have unfolded : ran P x = s.answer P x.event.env x.before.store request := by
    simp only [ran, World.exec, calls]
  have stored : x.after.store = (ran P x).store := by rw [move.result]; rfl
  rw [stored]
  rw [unfolded] at ok ⊢
  exact (Service.answer_succeeded ok).2

theorem Deletes.gone (deletes : Deletes P id x) (move : World.Moves P x.before x.event x.after) :
    (∃ r, x.before.store.data.sessions.lookup id = some r) ∧
      x.after.store.data.Gone id x.event.env.now := by
  obtain ⟨s, calls, ok⟩ := deletes
  have succeeded := ran_succeeded move calls ok
  generalize (ran P x).signed = signed, (ran P x).drawn = drawn, x.after.store.data = d at succeeded ⊢
  cases succeeded with
  | read read => cases read
  | performed performed =>
    cases performed with
    | @delete _ r active =>
      refine ⟨⟨r, (s.shrinks_prologue _ _).sessions active.found⟩, ?_⟩
      intro r' stored
      simp at stored

theorem revoked_after (first : Runs P before x.before)
    (move : World.Moves P x.before x.event x.after) (unrepeated : Unrepeated P (before ++ [x]))
    (revoked : Deletes P id x ∨ Expires id x) :
    id ∈ drawn P (before ++ [x]) ∧ x.after.store.data.Gone id x.event.env.now := by
  have sound := sound_of_run first unrepeated.early
  have wider : drawn P before ⊆ drawn P (before ++ [x]) := by simp
  rcases revoked with deletes | ⟨r, stored, expired⟩
  · obtain ⟨⟨r, stored⟩, gone⟩ := deletes.gone move
    exact ⟨wider (sound.session_known stored), gone⟩
  · have known := sound.session_known stored
    have gone : x.before.store.data.Gone id x.event.env.now := by
      intro r' found
      rw [stored] at found
      cases found
      exact expired
    have old : id ∉ (x.before.exec P x.event).drawn := fun drew => unrepeated.fresh id drew known
    exact ⟨wider known, (move.change sound.keyed).gone sound.keyed old gone⟩

theorem Revoked.gone (first : Runs P before x.before)
    (move : World.Moves P x.before x.event x.after) (unrepeated : Unrepeated P before)
    (revoked : Revoked P id before x) :
    id ∈ drawn P before ∧ x.before.store.data.Gone id x.event.env.now := by
  rcases revoked with ⟨y, member, earlier⟩ | ⟨r, stored, expired⟩
  · obtain ⟨front, back, rfl⟩ := List.append_of_mem member
    obtain ⟨start, step, rest⟩ := first.split_step
    rw [show front ++ y :: back = front ++ [y] ++ back by simp] at unrepeated ⊢
    obtain ⟨known, gone⟩ := revoked_after start step unrepeated.early earlier
    have clock : y.after.clock = y.event.env.now := by rw [step.result]; rfl
    refine ⟨?_, ?_⟩
    · simp only [drawn, List.flatMap_append] at known ⊢
      exact List.mem_append_left _ known
    · have prefixed : Runs P (front ++ [y]) y.after := .snoc start step
      exact (gone_of_run prefixed rest unrepeated known (clock ▸ gone)).later move.chronological
  · refine ⟨(sound_of_run first unrepeated).session_known stored, ?_⟩
    intro r' found
    rw [stored] at found
    cases found
    exact expired

end Steps

/-- Revocation is final, over every history. -/
theorem revocation_is_final {P : Primitives} {h : History} {w : World} (run : Runs P h w)
    (unrepeated : Unrepeated P h) (faithful : Faithful P h) :
    ∀ before x after, h = before ++ x :: after → ∀ id, Revoked P id before x →
      (CallsFor P id before x x.event.action → ∃ e, (ran P x).reply = .error e) ∧
      ∀ r, x.after.store.data.sessions.lookup id = some r → r.expiresAt ≤ x.event.env.now := by
  rintro before x after rfl id revoked
  obtain ⟨first, move, _⟩ := run.split_step
  have keyed := keyed_of_run first
  have early : Faithful P before := fun y member => faithful y (List.mem_append_left _ member)
  obtain ⟨known, gone⟩ := revoked.gone first move unrepeated.early
  refine ⟨?_, ?_⟩
  · intro callsFor
    cases ok : (ran P x).reply with
    | error e => exact ⟨e, rfl⟩
    | ok a =>
      cases calls : x.event.action with
      | call s request =>
        rw [calls] at callsFor
        refine absurd callsFor ((ran_succeeded move calls ok).spares rfl gone keyed ?_)
        intro encoded r c capability authorized
        exact capability.own first unrepeated.early early authorized
      | _ =>
        rw [calls] at callsFor
        exact callsFor.elim
  · rw [show before ++ x :: after = before ++ [x] ++ after by simp] at unrepeated
    have old : id ∉ (x.before.exec P x.event).drawn := fun drew => unrepeated.early.fresh id drew known
    exact (move.change keyed).gone keyed old gone

namespace Plain

def ownerToken : String := "09090909090909090909090909090909"

def ownerClaims : Claims :=
  { Claims.request sessionID "" ["application", "microphone"] .source true with
    incarnation := uuidText (block 1), issuer := tokenIssuer
    subject := "relay-session:" ++ sessionID ++ ":source", audience := [tokenAudience]
    expiresAt := some (900 * second), notBefore := some (-5 * second), issuedAt := some 0
    id := ownerToken }

def reading : Primitives :=
  { primitives with
    parse := fun _ encoded =>
      if encoded = ownerToken then some (⟨tokenAlg, tokenTyp⟩, ownerClaims) else none }

def deleted : List Event :=
  started [] ++
    [event 3 [] (.call service (.authorize sessionID ownerToken)),
      event 4 [] (.call service (.delete sessionID))]

def returning : Event := event 5 [] (.call service (.authorize sessionID ownerToken))

def returns : Step World Event :=
  ⟨World.empty.after reading deleted, returning, (World.empty.after reading deleted).next reading returning⟩

end Plain

theorem revocation_is_final_deleted :
    (∃ x ∈ World.empty.history Plain.reading Plain.deleted,
      (ran Plain.reading x).reply = .ok (.claims Plain.ownerClaims)) ∧
      ∃ e, (ran Plain.reading Plain.returns).reply = .error e := by
  obtain ⟨admissible, unrepeated, only, accepted⟩ :
      World.empty.Admissible Plain.reading (Plain.deleted ++ [Plain.returning]) ∧
      Unrepeated Plain.reading (World.empty.history Plain.reading (Plain.deleted ++ [Plain.returning])) ∧
      (∀ y ∈ World.empty.history Plain.reading (Plain.deleted ++ [Plain.returning]),
        ∀ σ ∈ (ran Plain.reading y).signed, σ.claims.sessionID = Plain.sessionID) ∧
      ∃ x ∈ World.empty.history Plain.reading Plain.deleted,
        (ran Plain.reading x).reply = .ok (.claims Plain.ownerClaims) := by
    decide +kernel
  refine ⟨accepted, ?_⟩
  have faithful : Faithful Plain.reading
      (World.empty.history Plain.reading (Plain.deleted ++ [Plain.returning])) := by
    intro y member σ signed secret header c parsed
    simp only [Plain.reading] at parsed
    split at parsed
    · cases parsed
      exact (only y member σ signed).symm
    · cases parsed
  refine (revocation_is_final admissible.exec unrepeated faithful
    (World.empty.history Plain.reading Plain.deleted) Plain.returns [] rfl Plain.sessionID ?_).1
    (.inl rfl)
  exact .inl ⟨⟨World.empty.after Plain.reading (Plain.deleted.take 3), _, _⟩,
    by right; right; right; left, .inl ⟨Plain.service, rfl, by decide +kernel⟩⟩

end Relay
