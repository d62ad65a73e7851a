import Relay.Access.Capacity
import Relay.Access.Placement

/-! Renewal of the owner's authority: until when a capability can be renewed, and that a renewal
in time never fails. Two deadlines are at work, the expiry signed in a capability, in whole
seconds, and the expiry of the Session in full precision. -/
namespace Relay

namespace Time

theorem truncate_le (t : Time) : truncate t ≤ t :=
  Int.sub_le_self t (Int.emod_nonneg t (by decide))

theorem truncate_eq (t : Time) : truncate t = t / second * second := by
  have whole : ∀ v : Int, v - v % 1000000000 = v / 1000000000 * 1000000000 := by omega
  exact whole t

theorem truncate_mono {t u : Time} (order : t ≤ u) : truncate t ≤ truncate u := by
  calc truncate t = t / second * second := truncate_eq t
    _ ≤ u / second * second := Int.mul_le_mul_of_nonneg_right (Int.ediv_le_ediv (by decide) order) (by decide)
    _ = truncate u := (truncate_eq u).symm

end Time

variable {exp now t : Time} {P : Primitives} {request : Request} {h k : History} {encoded id issuer : String}
  {a : Answer} {σ : Signed} {d d' : Records} {given : Config} {s : Service} {signed : List Signed} {c : Claims}
  {r : SessionRecord} {w : World} {values : List String}

theorem registeredValid_expiry (expires : c.expiresAt = some exp) (valid : registeredValid c issuer now = true) :
    now < exp + tokenLeeway := by
  unfold registeredValid at valid
  simp only [expires, Bool.and_eq_true, decide_eq_true_eq] at valid
  exact valid.1.1.2

namespace Service

variable {P : Primitives} {s : Service} {env : Env} {st : Store}
variable {c : Claims}

theorem renewOwner_within {id credential : String} {out : String × Time} {header : Header} {exp : Time}
    (parsed : P.parse s.secret credential = some (header, c)) (expires : c.expiresAt = some exp)
    (ok : (s.renewOwner P id credential env st).reply = .ok out) : env.now < exp + tokenLeeway := by
  unfold renewOwner update at ok
  obtain ⟨tx, guarded, _⟩ := Store.update_ok ok
  obtain ⟨_, ran⟩ := guarded_ok guarded
  simp only [renewBody, Txn.bind_ok, Tx.clock_run, Txn.lift_ok] at ran
  obtain ⟨r, _, found, _, _, clock, c', _, ⟨authorized, _⟩, _⟩ := ran
  obtain ⟨_, rfl⟩ := active_ok found
  cases clock
  obtain ⟨verified, _⟩ := authorizeRecord_ok authorized
  obtain ⟨_, _, _, same, valid, _⟩ := verifyProfile_iff.mp verified
  rw [parsed] at same
  cases same
  exact registeredValid_expiry expires valid

end Service

namespace Plain

def renewing (now : Time) : Event := event now (block 5) (.call service (.renew sessionID ownerToken))

end Plain

def SessionRecord.ownerClaims (r : SessionRecord) (ttl : Duration) (now : Time) (jti : String) : Claims :=
  { Claims.request r.id "" r.requiredBuses .source true with
    incarnation := r.incarnation
    issuer := r.issuer
    subject := (Claims.request r.id "" r.requiredBuses .source true).subjectText
    audience := [tokenAudience]
    expiresAt := some (Time.truncate (now + ttl))
    notBefore := some (Time.truncate (now - 5 * second))
    issuedAt := some (Time.truncate now)
    id := jti }

structure SessionRecord.Ownable (id incarnation : String) (r : SessionRecord) : Prop where
  own : r.id = id
  issuer : r.issuer = tokenIssuer
  incarnation : r.incarnation = incarnation
  scope : (Claims.request id "" r.requiredBuses .source true).validateScope = .ok ()

theorem invalidIdentifiers_of_distinct {maximum : Nat} {seen : List String}
    (valid : ∀ v ∈ values, validIdentifier v maximum = true) (distinct : values.Nodup) (fresh : ∀ v ∈ values, v ∉ seen) :
    invalidIdentifiers maximum seen values = false := by
  induction values generalizing seen with
  | nil => rfl
  | cons v values ih =>
    obtain ⟨absent, rest⟩ := List.nodup_cons.mp distinct
    rw [invalidIdentifiers, if_neg (by simp [valid v List.mem_cons_self]), if_neg (fresh v List.mem_cons_self)]
    apply ih (fun u member => valid u (List.mem_cons_of_mem _ member)) rest
    intro u member seen'
    rcases List.mem_cons.mp seen' with rfl | old
    · exact absent member
    · exact fresh u (List.mem_cons_of_mem _ member) old

theorem Declared.scope {buses : List String} (declared : Declared values buses) (id : String) :
    (Claims.request id "" buses .source true).validateScope = .ok () := by
  have distinct : invalidIdentifiers 64 [] buses = false :=
    invalidIdentifiers_of_distinct declared.valid declared.nodup (by simp)
  have few : ¬ maxBusScopes < buses.length := not_lt.mpr declared.count
  have some_bus : buses.length ≠ 0 := by
    rw [Ne, List.length_eq_zero_iff]
    exact declared.nonempty
  unfold Claims.validateScope
  apply if_neg
  rintro (named | empty | many | invalid)
  · exact named rfl
  · exact some_bus empty
  · exact few many
  · rw [show invalidIdentifiers 64 [] buses = true from invalid] at distinct
    cases distinct

theorem ownable_of_run (run : Runs P h w) (stored : w.store.data.sessions.lookup id = some r) :
    r.Ownable id w.store.data.ns.incarnation where
  own := (keyed_of_run run).sessions stored
  issuer := by
    apply fixed_of_run (Q := fun _ r => r.issuer = tokenIssuer) _ _ run id r stored
    · exact fun same issuer => same.issuer.trans issuer
    · exact fun _ _ _ _ _ _ _ => rfl
  incarnation := ((homed_of_run run).sessions stored).1
  scope := by
    obtain ⟨_, values, declared⟩ := declared_of_run run id r stored
    exact declared.scope id

namespace Service

variable {P : Primitives} {s : Service} {tx tx' : Tx} {r : SessionRecord} {ttl : Duration} {now : Time}

theorem tokenID_ne_empty {entropy : Bytes} (long : 16 ≤ entropy.length) :
    String.ofList (hexEncode (entropy.take 16)) ≠ "" := by
  intro empty
  have none : entropy.take 16 = [] := hexEncode_injective (String.ofList_injective empty)
  have sized : (entropy.take 16).length = 16 := List.length_take_of_le long
  rw [none] at sized
  cases sized

theorem randomTokenID_iff {jti : String} : randomTokenID tx = (.ok jti, tx') ↔ 16 ≤ tx.entropy.length ∧
    jti = String.ofList (hexEncode (tx.entropy.take 16)) ∧ tx' = { tx with entropy := tx.entropy.drop 16 } := by
  simp only [randomTokenID, Txn.bind_ok, Tx.readRandom_ok, Txn.pure_run]
  constructor
  · rintro ⟨_, _, ⟨long, rfl, rfl⟩, out⟩
    cases out
    exact ⟨long, rfl, rfl⟩
  · rintro ⟨long, rfl, rfl⟩
    exact ⟨_, _, ⟨long, rfl, rfl⟩, rfl⟩

theorem sign_owner (P : Primitives) (origin : Origin) (now : Time) (tx : Tx) {id incarnation : String}
    (secret : 32 ≤ s.secret.length) (positive : 0 < ttl) (ownable : r.Ownable id incarnation)
    (named : validIdentifier id maxIdentifierLength = true) (entropy : 16 ≤ tx.entropy.length) :
    ∃ σ, s.sign P origin r (Claims.request id "" r.requiredBuses .source true) ttl now tx =
        (.ok σ.token, { tx with entropy := tx.entropy.drop 16, signed := tx.signed ++ [σ] }) ∧
      ∃ jti, jti ≠ "" ∧ σ.claims = r.ownerClaims ttl now jti := by
  obtain ⟨rfl, issuer, _, scope⟩ := ownable
  let jti := String.ofList (hexEncode (tx.entropy.take 16))
  have drawn : randomTokenID tx = (.ok jti, { tx with entropy := tx.entropy.drop 16 }) :=
    randomTokenID_iff.mpr ⟨entropy, rfl, rfl⟩
  have known : knownIssuer r.issuer = true := by
    rw [issuer]
    rfl
  let claims := r.ownerClaims ttl now jti
  let token := P.signedString s.secret ⟨tokenAlg, tokenTyp⟩ claims
  have signed : signProfile P s.secret r.issuer r.incarnation (Claims.request r.id "" r.requiredBuses .source true) ttl
      now tx = (.ok ⟨claims, token⟩, { tx with entropy := tx.entropy.drop 16 }) := by
    simp only [signProfile, Txn.bind_ok, Txn.require_ok, Txn.lift_ok, Txn.pure_run]
    exact ⟨(), tx, ⟨known, rfl⟩, (), tx, ⟨scope, rfl⟩, (), tx, ⟨⟨secret, named, positive⟩, rfl⟩, jti, _, drawn, rfl⟩
  refine ⟨⟨origin, r, claims, token⟩, ?_, jti, tokenID_ne_empty entropy, rfl⟩
  rw [sign, Txn.ok_bind_run signed]
  rfl

theorem sign_owner_ok {origin : Origin} {token : String}
    (ok : s.sign P origin r (Claims.request r.id "" r.requiredBuses .source true) ttl now tx = (.ok token, tx')) :
    ∃ σ jti rest, tx' = { tx with entropy := rest, signed := tx.signed ++ [σ] } ∧ σ.token = token ∧
      σ.claims = r.ownerClaims ttl now jti ∧ jti ≠ "" ∧ validIdentifier r.id maxIdentifierLength = true ∧
      (Claims.request r.id "" r.requiredBuses .source true).validateScope = .ok () := by
  simp only [sign, signProfile, Txn.bind_ok, Txn.require_ok, Txn.lift_ok, Txn.modify_run, Txn.pure_run] at ok
  obtain ⟨c, u, ⟨_, _, ⟨_, rfl⟩, _, _, ⟨scope, rfl⟩, _, _, ⟨⟨_, named, _⟩, rfl⟩, jti, v, drew, out⟩, _, _, moved, text⟩ :=
    ok
  obtain ⟨entropy, rfl, rfl⟩ := randomTokenID_iff.mp drew
  cases out
  cases moved
  cases text
  exact ⟨_, _, _, rfl, rfl, rfl, tokenID_ne_empty entropy, named, scope⟩

end Service

namespace SessionRecord

variable {r : SessionRecord} {ttl : Duration} {t now : Time} {jti : String}

theorem ownerClaims_registered (signed : t ≤ now) (early : now < Time.truncate (t + ttl)) :
    registeredValid (r.ownerClaims ttl t jti) r.issuer now = true := by
  have notExpired : now < Time.truncate (t + ttl) + tokenLeeway := early.trans (Int.lt_add_of_pos_right _ (by decide))
  have issued : Time.truncate t - tokenLeeway ≤ now :=
    (Int.sub_le_self _ (by decide)).trans ((Time.truncate_le t).trans signed)
  have started : Time.truncate (t - 5 * second) - tokenLeeway ≤ now :=
    (Int.sub_le_self _ (by decide)).trans
      ((Time.truncate_le _).trans ((Int.sub_le_self _ (by decide)).trans signed))
  simp only [registeredValid, ownerClaims, Bool.and_eq_true, decide_eq_true_eq]
  exact ⟨⟨⟨⟨beq_self_eq_true _, by decide⟩, notExpired⟩, issued⟩, started⟩

theorem ownerClaims_profile (named : validIdentifier r.id maxIdentifierLength = true) (fresh : jti ≠ "")
    (positive : 0 < ttl) : profileValid (r.ownerClaims ttl t jti) = true := by
  have ordered : Time.truncate t ≤ Time.truncate (t + ttl) :=
    Time.truncate_mono (Int.le_add_of_nonneg_right (le_of_lt positive))
  simp only [profileValid, ownerClaims, Bool.and_eq_true, decide_eq_true_eq]
  exact ⟨⟨⟨named, bne_iff_ne.mpr fresh⟩, beq_iff_eq.mpr rfl⟩, ordered⟩

end SessionRecord

structure Signed.Owner (σ : Signed) (s : Service) (t : Time) (r : SessionRecord) : Prop where
  claims : ∃ jti, jti ≠ "" ∧ σ.claims = r.ownerClaims s.config.ownerTokenTTL t jti
  named : validIdentifier r.id maxIdentifierLength = true
  ownable : r.Ownable r.id s.incarnation

structure Service.Lasting (s : Service) : Prop where
  secret : 32 ≤ s.secret.length
  positive : 0 < s.config.ownerTokenTTL
  capped : s.config.ownerTokenTTL ≤ s.config.sessionTTL

theorem Signed.Owner.authorized {r' : SessionRecord} (owner : σ.Owner s t r) (lasting : s.Lasting)
    (ownable : r'.Ownable r.id s.incarnation)
    (genuine : P.parse s.secret σ.token = some (⟨tokenAlg, tokenTyp⟩, σ.claims))
    (text : σ.token ≠ "" ∧ σ.token.utf8ByteSize ≤ 16384) (signed : t ≤ now)
    (early : ∀ exp ∈ σ.claims.expiresAt, now < exp) : s.authorizeRecord P r' σ.token now = .ok σ.claims := by
  obtain ⟨⟨jti, fresh, claims⟩, named, same⟩ := owner
  have issuer : r'.issuer = r.issuer := ownable.issuer.trans same.issuer.symm
  have known : knownIssuer r'.issuer = true := by
    rw [ownable.issuer]
    rfl
  have exp : now < Time.truncate (t + s.config.ownerTokenTTL) := by
    apply early
    rw [claims]
    rfl
  have registered : registeredValid σ.claims r'.issuer now = true := by
    rw [claims, issuer]
    exact SessionRecord.ownerClaims_registered signed exp
  have profile : profileValid σ.claims = true := by
    rw [claims]
    exact SessionRecord.ownerClaims_profile named fresh lasting.positive
  have scope : σ.claims.validateScope = .ok () := by
    rw [claims]
    exact same.scope
  have verified : verifyProfile P s.secret σ.token r'.issuer now = .ok σ.claims :=
    verifyProfile_iff.mpr ⟨known, lasting.secret, text, genuine, registered, profile, scope⟩
  have session : σ.claims.sessionID = r'.id := by
    rw [claims, ownable.own]
    rfl
  have incarnation : σ.claims.incarnation = r'.incarnation := by
    rw [claims, ownable.incarnation]
    exact same.incarnation
  simp [Service.authorizeRecord, verified, session, incarnation]

theorem Store.update_run {α : Type} {env : Env} {st : Store} {fn : TxM α} {a : α} {tx : Tx}
    (isOpen : st.closed = false) (present : env.ctxDone = false) (ran : fn (st.start .write env) = (.ok a, tx)) :
    st.update env fn = ⟨.ok a, { st with data := tx.data }, tx.signed, tx.drawn⟩ := by
  simp [update, run, isOpen, present, ran]

namespace Service

variable {P : Primitives} {s : Service} {tx tx' : Tx} {env : Env} {st : Store}

theorem guarded_run {α : Type} {fn : TxM α} {a : α} (writes : tx.mode = .write) (passes : s.Passes tx.data.ns)
    (fits : Tx.Fits P (.ns { tx.data.ns with leaseExpiresAt := tx.now + s.config.writerLeaseDuration }))
    (ran : fn (tx.setData (s.prologue tx.now tx.data)) = (.ok a, tx')) : s.guarded P fn tx = (.ok a, tx') := by
  simp only [guarded, checkWriter, Txn.bind_ok, Tx.ns_run, Tx.clock_run, Txn.require_ok, Tx.putNamespace_ok,
    Tx.pruneExpired_ok]
  exact ⟨(), tx, ⟨_, _, rfl, passes, rfl⟩, _, _, rfl, _, _, rfl, (), _, ⟨fits, writes, rfl⟩, (), _, ⟨writes, rfl⟩, ran⟩

/-- What a renewal needs of the storage: an open store, a caller that waits, a random identifier
and records that are not too large. -/
structure Renews (P : Primitives) (s : Service) (id : String) (env : Env) (st : Store) : Prop where
  isOpen : st.closed = false
  present : env.ctxDone = false
  entropy : 16 ≤ env.entropy.length
  lease : Tx.Fits P (.ns { st.data.ns with leaseExpiresAt := env.now + s.config.writerLeaseDuration })
  record : ∀ r, st.data.sessions.lookup id = some r → Tx.Fits P (.session (r.extend s.config.sessionTTL env.now))

theorem renewOwner_run {id credential : String} {r : SessionRecord} {c : Claims} (lasting : s.Lasting)
    (storage : s.Renews P id env st) (passes : s.Passes st.data.ns) (active : s.Active st.data env.now id r)
    (ownable : r.Ownable id s.incarnation) (named : validIdentifier id maxIdentifierLength = true)
    (authorized : s.authorizeRecord P r credential env.now = .ok c) (control : c.canControl = true) :
    ∃ σ : Signed, (s.renewOwner P id credential env st).reply =
        .ok (σ.token, Time.truncate (env.now + s.config.ownerTokenTTL)) ∧
      (s.renewOwner P id credential env st).signed = [σ] ∧
      σ.claims.expiresAt = some (Time.truncate (env.now + s.config.ownerTokenTTL)) := by
  let tx := (st.start .write env).setData (s.prologue env.now st.data)
  have found : s.active id tx = (.ok r, tx) := by
    have kept := active.prologue
    rw [active_run]
    simp only [tx, Tx.setData, kept.found, Store.start]
    rw [if_pos ⟨active.live, active.incarnation⟩]
  obtain ⟨σ, signed, jti, _, claims⟩ := sign_owner P (.renew c) env.now tx lasting.secret lasting.positive ownable
    named storage.entropy
  have body : s.renewBody P id credential tx = (.ok (σ.token, Time.truncate (env.now + s.config.ownerTokenTTL)),
      { tx with
        data := tx.data.putSession (r.extend s.config.sessionTTL env.now)
        entropy := tx.entropy.drop 16, signed := [σ] }) := by
    simp only [renewBody, Txn.bind_ok, Tx.clock_run, Txn.lift_ok, Txn.require_ok, Tx.putSession_ok, Txn.pure_run]
    exact ⟨r, tx, found, _, tx, rfl, c, tx, ⟨authorized, rfl⟩, (), tx, ⟨control, rfl⟩, _, _, signed, (), _,
      ⟨storage.record r active.found, rfl, rfl⟩, rfl⟩
  have guarded : s.guarded P (s.renewBody P id credential) (st.start .write env) = _ :=
    guarded_run rfl passes storage.lease body
  have ran := Store.update_run storage.isOpen storage.present guarded
  refine ⟨σ, ?_, ?_, ?_⟩
  · rw [renewOwner, update, ran]
  · rw [renewOwner, update, ran]
  · rw [claims]
    rfl

end Service

/-! ## The runs of one deployment -/

def OpenedAs (secret : Bytes) (given : Config) (h : History) : Prop :=
  ∀ x ∈ h, ∀ key c, x.event.action = .openService key c → key = secret ∧ c = given

structure Spared (id : String) (h : History) : Prop where
  kept : ∀ x ∈ h, ∀ s, x.event.action ≠ .call s (.delete id)
  unreset : ∀ x ∈ h, ∀ maxSessions, x.event.action ≠ .reset maxSessions

theorem OpenedAs.start {secret : Bytes} (opened : OpenedAs secret given (h ++ k)) : OpenedAs secret given h :=
  fun x member => opened x (List.mem_append_left _ member)

theorem Spared.start (spared : Spared id (h ++ k)) : Spared id h :=
  ⟨fun x member => spared.kept x (List.mem_append_left _ member),
    fun x member => spared.unreset x (List.mem_append_left _ member)⟩

theorem Config.normalize_owner {c n : Config} (normal : c.normalize = .ok n) :
    0 < n.ownerTokenTTL ∧ n.ownerTokenTTL ≤ n.sessionTTL := by
  have second : (0 : Int) < 2 * hour ∧ (0 : Int) < 15 * minute := by decide
  unfold Config.normalize at normal
  grind [positiveOr]

namespace World

variable {P : Primitives} {w w' : World} {e : Event} {s : Service}

theorem opened_lasting (keyed : w.store.data.Keyed) (opened : (w.exec P e).reply = .ok (.opened s)) :
    ∃ given, e.action = .openService s.secret given ∧ given.normalize = .ok s.config ∧ s.Lasting := by
  obtain ⟨long, given, action, normal⟩ := opened_config keyed opened
  obtain ⟨positive, capped⟩ := Config.normalize_owner normal
  exact ⟨given, action, normal, long, positive, capped⟩

theorem Change.passes {d : Records} {replicas : List Service} (change : Change P w e d replicas)
    (passes : s.Passes w.store.data.ns) (started : s.incarnation ≠ "")
    (unreset : ∀ maxSessions, e.action ≠ .reset maxSessions)
    (group : ∀ s', (w.exec P e).reply = .ok (.opened s') → s'.config.writerID = s.config.writerID) :
    s.Passes d.ns := by
  obtain ⟨term, writer, incarnation⟩ := passes
  cases change with
  | quiet => exact ⟨term, writer, incarnation⟩
  | opened secret config base ns d _ named start taken cleared reply _ =>
    have same : config.writerID = s.config.writerID := group _ reply
    rw [cleared.ns]
    generalize (w.exec P e).drawn = drawn at start
    cases start with
    | first id unstarted => exact absurd (incarnation.symm.trans unstarted) started
    | recorded =>
      have own : w.store.data.ns.writerID = config.writerID := writer.trans same.symm
      rw [Service.adoptWriter, if_neg (own ▸ named), Service.takeOver_own own] at taken
      cases taken
      exact ⟨term, writer, incarnation⟩
  | reset rows id resets =>
    obtain ⟨maxSessions, action⟩ := resets
    exact absurd action (unreset maxSessions)
  | called s' request a d _ _ _ _ succeeded =>
    obtain ⟨incarnation', term', writer'⟩ := succeeded.fence
    exact ⟨term'.trans term, writer'.trans writer, incarnation'.trans incarnation⟩

end World

theorem Performed.keeps {drawn : List String} {k : String} (performed : Performed P s now d request a signed drawn d')
    (stored : k ∈ d.sessions) (kept : request ≠ .delete k) : k ∈ d'.sessions := by
  cases performed with
  | get | absent | ignore | replay | held | invite => exact stored
  | create | clear | publish | subscribe | renew | observe | place => exact (AList.mem_insert _).mpr (.inr stored)
  | @delete id =>
    rw [Records.deleteSession_sessions, AList.mem_erase]
    refine ⟨?_, stored⟩
    rintro rfl
    exact kept rfl
  | consume =>
    unfold Service.redeemed
    rw [Records.deleteGrant_sessions]
    split <;> exact stored

namespace World

variable {P : Primitives} {w w' : World} {e : Event} {s : Service} {id : String}

theorem Change.keeps {d : Records} {replicas : List Service} {r : SessionRecord} (change : Change P w e d replicas)
    (stored : w.store.data.sessions.lookup id = some r) (live : e.env.now < r.expiresAt)
    (kept : ∀ s, e.action ≠ .call s (.delete id)) (unreset : ∀ maxSessions, e.action ≠ .reset maxSessions) :
    ∃ r', d.sessions.lookup id = some r' := by
  cases change with
  | quiet => exact ⟨r, stored⟩
  | opened secret config base ns d _ _ _ _ cleared _ _ =>
    rcases cleared.sessions id with same | ⟨r', _, dropped⟩
    · exact ⟨r, same.trans stored⟩
    · exact ⟨r'.clear, dropped⟩
  | reset rows id resets =>
    obtain ⟨maxSessions, action⟩ := resets
    exact absurd action (unreset maxSessions)
  | called s request a d _ calls _ _ succeeded =>
    generalize (w.exec P e).signed = signed, (w.exec P e).drawn = drawn at succeeded
    cases succeeded with
    | read => exact ⟨r, stored⟩
    | performed performed =>
      have remains : (s.prologue e.env.now w.store.data).sessions.lookup id = some r :=
        Records.pruneExpired_sessions.mpr ⟨stored, live⟩
      have other : request ≠ .delete id := by
        rintro rfl
        exact kept s calls
      exact Table.mem_iff_lookup.mp (performed.keeps (Table.mem_iff_lookup.mpr ⟨r, remains⟩) other)

end World

/-- An owner capability is signed, and its Session lives for a full lifetime from then on. -/
structure Service.Entitles (s : Service) (now : Time) (σ : Signed) (d : Records) (r : SessionRecord) : Prop where
  owner : σ.Owner s now r
  extended : ∃ r', d.sessions.lookup r.id = some r' ∧ r'.expiresAt = now + s.config.sessionTTL

/-- What an owner capability rests on until it expires: the fence of its service, and a Session
that expires no earlier and that no activity can make expire earlier. -/
structure Standing (s : Service) (id : String) (exp : Time) (w : World) : Prop where
  passes : s.Passes w.store.data.ns
  stored : w.clock < exp → ∃ r, w.store.data.sessions.lookup id = some r ∧ exp ≤ r.expiresAt
  bounded : exp ≤ w.clock + s.config.sessionTTL

theorem Standing.step {w' : World} {e : Event} (standing : Standing s id exp w) (move : World.Moves P w e w')
    (keyed : w.store.data.Keyed) (started : s.incarnation ≠ "") (uniform : ∀ s' ∈ w.replicas, s'.config = s.config)
    (group : ∀ s', (w.exec P e).reply = .ok (.opened s') → s'.config = s.config)
    (kept : ∀ s, e.action ≠ .call s (.delete id)) (unreset : ∀ maxSessions, e.action ≠ .reset maxSessions) :
    Standing s id exp w' := by
  obtain ⟨passes, stored, bounded⟩ := standing
  have change := move.change keyed
  have time : w'.clock = e.env.now := by rw [move.result, World.next]
  have later : w.clock + s.config.sessionTTL ≤ e.env.now + s.config.sessionTTL :=
    Int.add_le_add_right move.chronological _
  constructor
  · exact change.passes passes started unreset fun s' opened => congrArg Config.writerID (group s' opened)
  · intro early
    rw [time] at early
    obtain ⟨r, found, outlives⟩ := stored (lt_of_le_of_lt move.chronological early)
    obtain ⟨r', found'⟩ := change.keeps found (lt_of_lt_of_le early outlives) kept unreset
    refine ⟨r', found', ?_⟩
    rcases move.steps.lifetime keyed found' with ⟨r₀, same, expires⟩ | ⟨s', member, expires⟩
    · rw [found] at same
      cases same
      exact outlives.trans (le_of_eq expires.symm)
    · rw [expires, uniform s' member]
      exact bounded.trans later
  · rw [time]
    exact bounded.trans later

theorem Service.Entitles.standing (entitles : s.Entitles now σ w.store.data r) (lasting : s.Lasting)
    (passes : s.Passes w.store.data.ns) (time : w.clock = now) :
    Standing s r.id (Time.truncate (now + s.config.ownerTokenTTL)) w := by
  obtain ⟨_, r', stored, extended⟩ := entitles
  have lifetime : Time.truncate (now + s.config.ownerTokenTTL) ≤ now + s.config.sessionTTL :=
    (Time.truncate_le _).trans (Int.add_le_add_left lasting.capped _)
  constructor
  · exact passes
  · exact fun _ => ⟨r', stored, extended ▸ lifetime⟩
  · rw [time]
    exact lifetime

section Deployment

variable {P : Primitives} {secret : Bytes} {given : Config} {h k : History} {v w : World} {s : Service}

theorem uniform_of_run (run : Runs P h w) (opened : OpenedAs secret given h) :
    ∀ s ∈ w.replicas, s.secret = secret ∧ given.normalize = .ok s.config ∧ s.Lasting := by
  refine Exec.history (G := OpenedAs secret given)
    (I := fun _ w => ∀ s ∈ w.replicas, s.secret = secret ∧ given.normalize = .ok s.config ∧ s.Lasting)
    OpenedAs.start ?_ ?_ run opened
  · simp [World.empty]
  · intro h t e u before opened all move
    apply move.steps.replicas all
    intro s reply
    obtain ⟨c, action, normal, lasting⟩ := World.opened_lasting (keyed_of_run before) reply
    obtain ⟨same, rfl⟩ := opened _ (List.mem_append_right _ List.mem_cons_self) _ _ action
    exact ⟨same, normal, lasting⟩

theorem standing_of_run {id : String} {exp : Time} (first : Runs P h v) (rest : Exec (World.Moves P) v k w)
    (opened : OpenedAs secret given (h ++ k)) (normal : given.normalize = .ok s.config) (started : s.incarnation ≠ "")
    (spared : Spared id k) (standing : Standing s id exp v) : Standing s id exp w := by
  refine Exec.history (G := fun k => OpenedAs secret given (h ++ k) ∧ Spared id k) (I := fun _ w => Standing s id exp w)
    ?_ standing ?_ rest ⟨opened, spared⟩
  · rintro k x ⟨opened, spared⟩
    rw [← List.append_assoc] at opened
    exact ⟨opened.start, spared.start⟩
  · rintro k t e u before ⟨opened, spared⟩ standing move
    have here : (⟨t, e, u⟩ : Step World Event) ∈ k ++ [⟨t, e, u⟩] := List.mem_append_right _ List.mem_cons_self
    have reached := first.append before
    have same : ∀ n, given.normalize = .ok n → n = s.config := by
      intro n normal'
      rw [normal] at normal'
      cases normal'
      rfl
    have earlier : OpenedAs secret given (h ++ k) := by
      rw [← List.append_assoc] at opened
      exact opened.start
    apply standing.step move (keyed_of_run reached) started
    · exact fun s' member => same _ (uniform_of_run reached earlier s' member).2.1
    · intro s' reply
      obtain ⟨c, action, normal', _⟩ := World.opened_lasting (keyed_of_run reached) reply
      obtain ⟨_, rfl⟩ := opened _ (List.mem_append_right _ here) _ _ action
      exact same _ normal'
    · exact spared.kept _ here
    · exact spared.unreset _ here

end Deployment

/-! ## The capabilities of a run -/

namespace Service

variable {P : Primitives} {s : Service} {tx tx' : Tx}
variable {credential id : String} {required : List String}

theorem createBody_entitles {out : Session} (ok : s.createBody P required tx = (.ok out, tx')) :
    ∃ σ r, tx'.signed = tx.signed ++ [σ] ∧ s.Entitles tx.now σ tx'.data r := by
  simp only [createBody, Txn.bind_ok, Tx.counts_run, Txn.require_ok, Tx.clock_run, Tx.putSession_ok, Txn.pure_run]
    at ok
  obtain ⟨_, _, counted, _, _, ⟨_, rfl⟩, id, _, drew, _, _, clock, token, _, signed, _, _, ⟨_, _, rfl⟩, out⟩ := ok
  cases counted
  cases clock
  cases out
  obtain ⟨_, rest, rfl⟩ := randomSessionID_ok drew
  obtain ⟨σ, jti, rest', rfl, _, claims, fresh, named, scope⟩ := sign_owner_ok (r := s.newSession id required tx.now) signed
  refine ⟨σ, s.newSession id required tx.now, rfl, ⟨⟨jti, fresh, claims⟩, named, ⟨rfl, rfl, rfl, scope⟩⟩, ?_⟩
  exact ⟨_, Records.putSession_lookup_self _ _, rfl⟩

theorem renewBody_entitles {out : String × Time}
    (ownable : ∀ r, tx.data.sessions.lookup id = some r → r.Ownable id s.incarnation)
    (ok : s.renewBody P id credential tx = (.ok out, tx')) :
    ∃ σ r, tx'.signed = tx.signed ++ [σ] ∧ s.Entitles tx.now σ tx'.data r := by
  simp only [renewBody, Txn.bind_ok, Tx.clock_run, Txn.lift_ok, Txn.require_ok, Tx.putSession_ok, Txn.pure_run] at ok
  obtain ⟨r, _, found, _, _, clock, c, _, ⟨_, rfl⟩, _, _, ⟨_, rfl⟩, _, _, signed, _, _, ⟨_, _, rfl⟩, out⟩ := ok
  obtain ⟨active, rfl⟩ := active_ok found
  cases clock
  cases out
  have own := ownable r active.found
  obtain rfl := own.own
  obtain ⟨σ, jti, rest, rfl, _, claims, fresh, named, _⟩ := sign_owner_ok signed
  exact ⟨σ, r, rfl, ⟨⟨jti, fresh, claims⟩, named, own⟩, _, Records.putSession_lookup_self _ _, rfl⟩

variable {env : Env} {st : Store} {a : Answer}

theorem create_entitles (ok : (s.answer P env st (.create required)).reply = .ok a) :
    ∃ σ r, (s.answer P env st (.create required)).signed = [σ] ∧
      s.Entitles env.now σ (s.answer P env st (.create required)).store.data r := by
  simp only [answer, createContext] at ok ⊢
  split at ok
  · cases ok
  · obtain ⟨tx, tx', out, now, _, ran, stored, _, unsigned, signed⟩ := update_ran ok
    obtain ⟨σ, r, log, entitles⟩ := createBody_entitles ran
    rw [signed, stored, log, unsigned, ← now]
    exact ⟨σ, r, rfl, entitles⟩

theorem renew_entitles (ownable : ∀ r, st.data.sessions.lookup id = some r → r.Ownable id s.incarnation)
    (ok : (s.answer P env st (.renew id credential)).reply = .ok a) :
    ∃ σ r, (s.answer P env st (.renew id credential)).signed = [σ] ∧
      s.Entitles env.now σ (s.answer P env st (.renew id credential)).store.data r := by
  simp only [answer, renewOwner] at ok ⊢
  obtain ⟨tx, tx', out, now, data, ran, stored, _, unsigned, signed⟩ := update_ran ok
  have still : ∀ r, tx.data.sessions.lookup id = some r → r.Ownable id s.incarnation := by
    intro r found
    rw [data] at found
    exact ownable r ((s.shrinks_prologue env.now st.data).sessions found)
  obtain ⟨σ, r, log, entitles⟩ := renewBody_entitles still ran
  rw [signed, stored, log, unsigned, ← now]
  exact ⟨σ, r, rfl, entitles⟩

end Service

theorem Performed.control {drawn : List String} (performed : Performed P s now d request a signed drawn d')
    (member : σ ∈ signed) (control : σ.claims.canControl = true) :
    (∃ required, request = .create required) ∨ ∃ id credential, request = .renew id credential := by
  have refuted : ∀ {origin r claims expiry}, σ.For origin r claims expiry → claims.canControl = false → False := by
    intro origin r claims expiry made without
    obtain ⟨_, _, ⟨_, _, _, role, controls⟩, _, _, _⟩ := made
    rw [Claims.canControl, role, controls, ← Claims.canControl, without] at control
    cases control
  cases performed with
  | create => exact .inl ⟨_, rfl⟩
  | renew => exact .inr ⟨_, _, rfl⟩
  | get | clear | delete | absent | ignore | observe | invite | replay | held | place => cases member
  | publish _ _ _ made | subscribe _ _ made =>
    obtain rfl := List.mem_singleton.mp member
    exact (refuted made rfl).elim
  | consume consumed =>
    obtain rfl := List.mem_singleton.mp member
    exact (refuted consumed.signed rfl).elim

theorem Succeeded.control {drawn : List String} (succeeded : Succeeded P s now d request a signed drawn d')
    (member : σ ∈ signed) (control : σ.claims.canControl = true) :
    (∃ required, request = .create required) ∨ ∃ id credential, request = .renew id credential := by
  cases succeeded with
  | read => cases member
  | performed performed => exact performed.control member control

theorem entitled_of_step {x : Step World Event} (run : Runs P h x.before)
    (move : World.Moves P x.before x.event x.after) (calls : x.event.action = .call s request)
    (ok : (ran P x).reply = .ok a) (member : σ ∈ (ran P x).signed) (control : σ.claims.canControl = true) :
    s.Passes x.after.store.data.ns ∧ ∃ r, s.Entitles x.event.env.now σ x.after.store.data r := by
  have unfolded : ran P x = s.answer P x.event.env x.before.store request := by
    simp only [ran, World.exec, calls]
  have left : x.after.store = (ran P x).store := by
    rw [move.result]
    rfl
  have succeeded := ran_succeeded move calls ok
  have passes : s.Passes x.before.store.data.ns := (Service.answer_succeeded (unfolded ▸ ok)).1
  have ownable : ∀ id r, x.before.store.data.sessions.lookup id = some r → r.Ownable id s.incarnation :=
    fun id r stored => passes.2.2 ▸ ownable_of_run run stored
  obtain ⟨incarnation, term, writer⟩ := succeeded.fence
  refine ⟨⟨term.trans passes.1, writer.trans passes.2.1, incarnation.trans passes.2.2⟩, ?_⟩
  have granted := succeeded.control member control
  rw [left]
  rw [unfolded] at ok member ⊢
  rcases granted with ⟨required, rfl⟩ | ⟨id, credential, rfl⟩
  · obtain ⟨σ', r, signed, entitles⟩ := Service.create_entitles ok
    rw [signed] at member
    obtain rfl := List.mem_singleton.mp member
    exact ⟨r, entitles⟩
  · obtain ⟨σ', r, signed, entitles⟩ := Service.renew_entitles (ownable id) ok
    rw [signed] at member
    obtain rfl := List.mem_singleton.mp member
    exact ⟨r, entitles⟩

theorem Signed.Owner.scope (owner : σ.Owner s t r) :
    σ.claims.sessionID = r.id ∧ σ.claims.expiresAt = some (Time.truncate (t + s.config.ownerTokenTTL)) := by
  obtain ⟨jti, _, claims⟩ := owner.claims
  rw [claims]
  exact ⟨rfl, rfl⟩

theorem Service.eq_of_fence {secret : Bytes} {s' : Service}
    (opened : s.secret = secret ∧ given.normalize = .ok s.config)
    (opened' : s'.secret = secret ∧ given.normalize = .ok s'.config ∧ s'.Lasting)
    (writer : s'.term = s.term ∧ s'.incarnation = s.incarnation) : s = s' := by
  obtain ⟨key, config, term, incarnation⟩ := s
  obtain ⟨rfl, normal⟩ := opened
  obtain ⟨same, normal', _⟩ := opened'
  rw [normal] at normal'
  cases s'
  cases normal'
  cases same
  obtain ⟨rfl, rfl⟩ := writer
  rfl

theorem clock_of_run {v : World} (run : Exec (World.Moves P) v h w) : v.clock ≤ w.clock := by
  apply run.invariant (I := fun w => v.clock ≤ w.clock) _ (le_refl _)
  intro t e u held move
  rw [move.result, World.next]
  exact held.trans move.chronological

namespace Plain

def stepIn (P : Primitives) (events : List Event) (e : Event) : Step World Event :=
  let w := World.empty.after P events
  ⟨w, e, w.next P e⟩

def opening : Event := event 1 (block 1) (.openService secret (defaults "group"))

def creating : Event := event 2 (block 2 ++ block 9) (.call service (.create []))

def peeking : Event := event 3 [] (.call service (.get sessionID))

end Plain

end Relay
