import Relay.Access.Revocation
import Relay.Server.MediaWriter

/-! Two verifiers of one token. The access service looks a Session up by the identifier of the
request and checks the token against the record. The media server takes the identifier from
the unverified token, asks for the stored profile and repeats the rules over it. -/
namespace Relay

inductive AuthorityMode where
  | standalone
  | managed
deriving DecidableEq

/-- The client of a managed access service: the outcome of one exchange for each Session. -/
structure CallbackClient where
  exchange : String → Except Failure AuthorityMetadata

def CallbackClient.metadata (client : CallbackClient) (id : String) : Except Failure AuthorityMetadata :=
  match client.exchange id with
  | .error e => .error e
  | .ok result => if result.sessionID ≠ id then .error .unavailable else .ok result

structure MediaServer where
  jwtSecret : Bytes
  authorityMode : AuthorityMode
  accessService : Option Service
  callbackClient : Option CallbackClient

inductive CapabilityErr where
  | invalidCapability
  | sessionNotFound
  | authorityUnavailable
deriving DecidableEq

def anyRole : Role := .other ""

def verifyRole (P : Primitives) (secret : Bytes) (encoded issuer : String) (role : Role) (now : Time) :
    Except Err Claims :=
  match verifyProfile P secret encoded issuer now with
  | .error e => .error e
  | .ok claims => if role ≠ anyRole ∧ claims.role ≠ role then .error .invalidCapability else .ok claims

def lookupCharacter (ch : Char) : Bool :=
  ('a' ≤ ch && ch ≤ 'z') || ('A' ≤ ch && ch ≤ 'Z') || ('0' ≤ ch && ch ≤ '9') || ch == '-' || ch == '_' || ch == '.'

namespace MediaServer

def authorityMetadata (m : MediaServer) (id : String) (env : Env) (st : Store) : Except Failure AuthorityMetadata :=
  match m.authorityMode with
  | .standalone =>
    match m.accessService with
    | none => .error .unavailable
    | some s => (s.metadata id env st).reply.mapError Failure.of
  | .managed =>
    match m.callbackClient with
    | none => .error .unavailable
    | some client => client.metadata id

/-- `parseUnverified` is the token library without a check of the signature. -/
def verifyCapability (P : Primitives) (parseUnverified : String → Option Claims) (m : MediaServer) (encoded : String)
    (role : Role) (now : Time) (env : Env) (st : Store) : Except CapabilityErr Claims :=
  if encoded.utf8ByteSize = 0 ∨ 8192 < encoded.utf8ByteSize then .error .invalidCapability
  else
    match parseUnverified encoded with
    | none => .error .invalidCapability
    | some untrusted =>
      if untrusted.sessionID.utf8ByteSize = 0 ∨ 128 < untrusted.sessionID.utf8ByteSize then .error .invalidCapability
      else if untrusted.sessionID.toList.any fun ch => !lookupCharacter ch then .error .invalidCapability
      else
        match m.authorityMetadata untrusted.sessionID env st with
        | .error .notFound => .error .sessionNotFound
        | .error _ => .error .authorityUnavailable
        | .ok metadata =>
          match verifyRole P m.jwtSecret encoded metadata.issuer role now with
          | .error _ => .error .invalidCapability
          | .ok claims =>
            if claims.sessionID ≠ metadata.sessionID then .error .invalidCapability
            else if claims.incarnation ≠ metadata.incarnation ∧
                (claims.incarnation ≠ "" ∨ metadata.issuer ≠ legacyIssuer ∨ metadata.legacyTokensBefore.isZero ∨
                  claims.issuedAt = none ∨ metadata.legacyTokensBefore < claims.issuedAt.getD 0) then
              .error .invalidCapability
            else .ok claims

/-- The access service is there: in the same process, or at the other end of every exchange. -/
def Reaches (m : MediaServer) (s : Service) (env : Env) (st : Store) : Prop :=
  match m.authorityMode with
  | .standalone => m.accessService = some s
  | .managed => ∃ client, m.callbackClient = some client ∧
    ∀ id, client.exchange id = (s.metadata id env st).reply.mapError Failure.of

end MediaServer

/-- The token library reads the same claims with and without a check of the signature. -/
def ReadsAlike (P : Primitives) (parseUnverified : String → Option Claims) : Prop :=
  ∀ secret encoded header claims, P.parse secret encoded = some (header, claims) →
    parseUnverified encoded = some claims

theorem lookupCharacter_eq (ch : Char) : lookupCharacter ch = identifierCharacter ch := by
  simp only [lookupCharacter, identifierCharacter, Bool.or_comm, Bool.or_left_comm]

theorem profileValid_sessionID {c : Claims} (valid : profileValid c = true) :
    validIdentifier c.sessionID maxIdentifierLength = true := by
  simp only [profileValid, Bool.and_eq_true] at valid
  exact valid.1.1.1

theorem issuedAt_of_verified {P : Primitives} {secret : Bytes} {encoded issuer : String} {now : Time} {c : Claims}
    (verified : verifyProfile P secret encoded issuer now = .ok c) : c.issuedAt ≠ none := by
  intro missing
  obtain ⟨_, _, _, _, _, profile, _⟩ := verifyProfile_iff.mp verified
  simp [profileValid, missing] at profile

theorem Store.view_iff {α : Type} {env : Env} {st : Store} {fn : TxM α} {a : α} :
    (st.view env fn).reply = .ok a ↔
      st.closed = false ∧ env.ctxDone = false ∧ ∃ tx, fn (st.start .read env) = (.ok a, tx) := by
  unfold Store.view Store.run
  cases closed : st.closed with
  | true => simp [Store.refuse]
  | false =>
    cases ran : fn (st.start .read env) with
    | mk reply tx =>
      cases reply with
      | error e => simp
      | ok b => cases env.ctxDone <;> simp

namespace Service

variable {P : Primitives} {s : Service} {env : Env} {st : Store} {id encoded : String}

def Admits (s : Service) (env : Env) (st : Store) (id : String) (r : SessionRecord) : Prop :=
  st.closed = false ∧ env.ctxDone = false ∧ s.Passes st.data.ns ∧ s.Active st.data env.now id r

theorem active_of {tx : Tx} {r : SessionRecord} (active : s.Active tx.data tx.now id r) :
    s.active id tx = (.ok r, tx) := by
  rw [active_run, active.found]
  exact if_pos ⟨active.live, active.incarnation⟩

theorem checkWriter_of {tx : Tx} (passes : s.Passes tx.data.ns) : s.checkWriter tx = (.ok (), tx) := by
  simp only [checkWriter, Txn.bind_run, Tx.ns_run, Txn.require, if_pos passes]
  rfl

theorem metadata_iff {a : AuthorityMetadata} :
    (s.metadata id env st).reply = .ok a ↔ ∃ r, s.Admits env st id r ∧ a = r.authority := by
  rw [metadata, view, Store.view_iff]
  constructor
  · rintro ⟨closed, waits, tx, ok⟩
    obtain ⟨passes, r, active, same, _⟩ := metadataBody_ok ok
    exact ⟨r, ⟨closed, waits, passes, active⟩, same⟩
  · rintro ⟨r, ⟨closed, waits, passes, active⟩, rfl⟩
    have read : s.active id (st.start .read env) = (.ok r, st.start .read env) := active_of active
    exact ⟨closed, waits, _, Txn.bind_ok.mpr ⟨(), _, checkWriter_of passes, Txn.bind_ok.mpr ⟨r, _, read, rfl⟩⟩⟩

theorem authorize_iff {c : Claims} :
    (s.authorize P id encoded env st).reply = .ok c ↔
      ∃ r, s.Admits env st id r ∧ s.authorizeRecord P r encoded env.now = .ok c := by
  rw [authorize, view, Store.view_iff]
  constructor
  · rintro ⟨closed, waits, tx, ok⟩
    obtain ⟨passes, r, active, authorized, _⟩ := authorizeBody_ok ok
    exact ⟨r, ⟨closed, waits, passes, active⟩, authorized⟩
  · rintro ⟨r, ⟨closed, waits, passes, active⟩, authorized⟩
    have read : s.active id (st.start .read env) = (.ok r, st.start .read env) := active_of active
    refine ⟨closed, waits, st.start .read env, Txn.bind_ok.mpr ⟨(), _, checkWriter_of passes, ?_⟩⟩
    exact Txn.bind_ok.mpr ⟨r, _, read, Txn.bind_ok.mpr ⟨env.now, _, rfl, Txn.lift_ok.mpr ⟨authorized, rfl⟩⟩⟩

/-- The rule of `authorizeRecord` and of `verifyCapability` for a token of another incarnation. -/
def Expected (c : Claims) (a : AuthorityMetadata) : Prop :=
  c.sessionID = a.sessionID ∧
    (c.incarnation = a.incarnation ∨
      c.incarnation = "" ∧ a.issuer = legacyIssuer ∧ a.legacyTokensBefore.isZero = false ∧
        c.issuedAt.getD 0 ≤ a.legacyTokensBefore)

theorem exempt_iff {own stored issuer : String} {before issued : Time} :
    ¬ (own ≠ stored ∧ (own ≠ "" ∨ issuer ≠ legacyIssuer ∨ before.isZero = true ∨ before < issued)) ↔
      own = stored ∨ own = "" ∧ issuer = legacyIssuer ∧ before.isZero = false ∧ issued ≤ before := by
  rw [not_and_or, not_not]
  push Not
  simp only [ne_eq, Bool.not_eq_true]

theorem authorizeRecord_iff {r : SessionRecord} {now : Time} {c : Claims} :
    s.authorizeRecord P r encoded now = .ok c ↔
      verifyProfile P s.secret encoded r.issuer now = .ok c ∧ Expected c r.authority := by
  unfold authorizeRecord
  cases verified : verifyProfile P s.secret encoded r.issuer now with
  | error e => simp
  | ok d =>
    simp only [Except.ok.injEq]
    constructor
    · intro accepted
      split_ifs at accepted with named expected
      cases accepted
      exact ⟨rfl, not_not.mp named, exempt_iff.mp expected⟩
    · rintro ⟨rfl, named, expected⟩
      exact (if_neg (not_not.mpr named)).trans (if_neg (exempt_iff.mpr expected))

end Service

namespace MediaServer

variable {P : Primitives} {parseUnverified : String → Option Claims} {m : MediaServer} {s : Service} {env : Env}
  {st : Store} {id encoded : String}

theorem mapError_ok {ε ε' α : Type} {f : ε → ε'} {x : Except ε α} {a : α} : x.mapError f = .ok a ↔ x = .ok a := by
  cases x <;> simp [Except.mapError]

theorem authorityMetadata_ok {a : AuthorityMetadata} (reaches : m.Reaches s env st)
    (answered : m.authorityMetadata id env st = .ok a) : (s.metadata id env st).reply = .ok a := by
  unfold Reaches at reaches
  unfold authorityMetadata at answered
  split at reaches
  · rename_i mode
    simp only [mode, reaches, mapError_ok] at answered
    exact answered
  · rename_i mode
    obtain ⟨client, here, exchanges⟩ := reaches
    simp only [mode, here, CallbackClient.metadata, exchanges] at answered
    split at answered
    · cases answered
    · rename_i result outcome
      split_ifs at answered
      cases answered
      exact mapError_ok.mp outcome

theorem authorityMetadata_of {a : AuthorityMetadata} (reaches : m.Reaches s env st)
    (answered : (s.metadata id env st).reply = .ok a) (named : a.sessionID = id) :
    m.authorityMetadata id env st = .ok a := by
  unfold Reaches at reaches
  unfold authorityMetadata
  split at reaches
  · simp only [reaches, answered, Except.mapError]
  · obtain ⟨client, here, exchanges⟩ := reaches
    simp [here, CallbackClient.metadata, exchanges, answered, Except.mapError, named]

theorem lookup_iff {value : String} :
    ¬ (value.utf8ByteSize = 0 ∨ 128 < value.utf8ByteSize) ∧ (value.toList.any fun ch => !lookupCharacter ch) = false ↔
      validIdentifier value maxIdentifierLength = true := by
  simp only [validIdentifier, lookupCharacter_eq, List.any_eq_false, List.all_eq_true, Bool.and_eq_true, bne_iff_ne,
    decide_eq_true_eq, not_or, not_lt, Bool.not_eq_true, Bool.not_eq_false']
  rfl

theorem verifyRole_iff {secret : Bytes} {issuer : String} {role : Role} {now : Time} {c : Claims} :
    verifyRole P secret encoded issuer role now = .ok c ↔
      verifyProfile P secret encoded issuer now = .ok c ∧ (role ≠ anyRole → c.role = role) := by
  unfold verifyRole
  cases verifyProfile P secret encoded issuer now with
  | error => simp
  | ok d =>
    simp only [Except.ok.injEq]
    constructor
    · intro accepted
      split_ifs at accepted with refused
      cases accepted
      exact ⟨rfl, fun restricted => by_contra fun other => refused ⟨restricted, other⟩⟩
    · rintro ⟨rfl, matching⟩
      exact if_neg fun refused => refused.2 (matching refused.1)

theorem verifyCapability_iff {role : Role} {now : Time} {c : Claims} :
    m.verifyCapability P parseUnverified encoded role now env st = .ok c ↔
      ¬ (encoded.utf8ByteSize = 0 ∨ 8192 < encoded.utf8ByteSize) ∧
        ∃ untrusted metadata, parseUnverified encoded = some untrusted ∧
          validIdentifier untrusted.sessionID maxIdentifierLength = true ∧
          m.authorityMetadata untrusted.sessionID env st = .ok metadata ∧
          verifyRole P m.jwtSecret encoded metadata.issuer role now = .ok c ∧ Service.Expected c metadata := by
  unfold verifyCapability
  constructor
  · intro accepted
    split_ifs at accepted with size
    split at accepted
    · cases accepted
    · rename_i untrusted read
      split_ifs at accepted with length characters
      split at accepted
      · cases accepted
      · cases accepted
      · rename_i metadata answered
        split at accepted
        · cases accepted
        · rename_i claims verified
          split_ifs at accepted with named expected
          cases accepted
          have valid := lookup_iff.mp ⟨length, Bool.eq_false_of_not_eq_true characters⟩
          rw [or_iff_right (issuedAt_of_verified (verifyRole_iff.mp verified).1), Service.exempt_iff] at expected
          exact ⟨size, untrusted, metadata, read, valid, answered, verified, not_not.mp named, expected⟩
  · rintro ⟨size, untrusted, metadata, read, valid, answered, verified, named, expected⟩
    obtain ⟨length, characters⟩ := lookup_iff.mpr valid
    rw [if_neg size, read]
    simp only [if_neg length, characters, Bool.false_eq_true, if_false, answered, verified]
    rw [if_neg (not_not.mpr named), if_neg]
    rw [or_iff_right (issuedAt_of_verified (verifyRole_iff.mp verified).1)]
    exact Service.exempt_iff.mpr expected

theorem verifyCapability_ok {role : Role} {now : Time} {c : Claims}
    (accepted : m.verifyCapability P parseUnverified encoded role now env st = .ok c) :
    (role ≠ anyRole → c.role = role) ∧ c.sessionID ≠ "" := by
  obtain ⟨_, _, _, _, _, _, verified, _⟩ := verifyCapability_iff.mp accepted
  obtain ⟨profile, matching⟩ := verifyRole_iff.mp verified
  refine ⟨matching, ?_⟩
  intro empty
  obtain ⟨_, _, _, _, _, profile, _⟩ := verifyProfile_iff.mp profile
  have valid := profileValid_sessionID profile
  rw [empty] at valid
  exact absurd valid (by decide)

end MediaServer

open MediaServer in
/-- The media server accepts what the access service accepts, with the same claims. -/
theorem verifiers_agree {P : Primitives} {parseUnverified : String → Option Claims}
    (alike : ReadsAlike P parseUnverified) {m : MediaServer} {s : Service} {env : Env} {st : Store}
    (reaches : m.Reaches s env st) (shared : m.jwtSecret = s.secret) {encoded : String}
    (short : encoded.utf8ByteSize ≤ 8192) (c : Claims) :
    m.verifyCapability P parseUnverified encoded anyRole env.now env st = .ok c ↔
      ∃ named, parseUnverified encoded = some named ∧ (s.authorize P named.sessionID encoded env st).reply = .ok c := by
  rw [verifyCapability_iff, shared]
  constructor
  · rintro ⟨_, untrusted, metadata, read, _, answered, verified, expected⟩
    obtain ⟨r, admitted, rfl⟩ := Service.metadata_iff.mp (authorityMetadata_ok reaches answered)
    have profile := (verifyRole_iff.mp verified).1
    have authorized := Service.authorizeRecord_iff.mpr ⟨profile, expected⟩
    exact ⟨untrusted, read, Service.authorize_iff.mpr ⟨r, admitted, authorized⟩⟩
  · rintro ⟨named, read, authorized⟩
    obtain ⟨r, admitted, accepted⟩ := Service.authorize_iff.mp authorized
    obtain ⟨verified, expected⟩ := Service.authorizeRecord_iff.mp accepted
    -- the claims read without the signature are the verified ones
    obtain ⟨_, _, ⟨present, _⟩, parsed, _, valid, _⟩ := verifyProfile_iff.mp verified
    have same : named = c := by
      have again := alike s.secret encoded _ c parsed
      rw [read] at again
      exact Option.some.inj again
    subst same
    have answered := Service.metadata_iff.mpr ⟨r, admitted, rfl⟩
    have unrestricted := verifyRole_iff.mpr ⟨verified, fun restricted => absurd rfl restricted⟩
    refine ⟨?_, named, r.authority, read, profileValid_sessionID valid, ?_, unrestricted, expected⟩
    · rintro (empty | long)
      · exact present (String.utf8ByteSize_eq_zero_iff.mp empty)
      · omega
    · exact authorityMetadata_of reaches answered expected.1.symm

namespace Plain

def mediaServer : MediaServer := ⟨secret, .standalone, some service, none⟩

def readUnverified (encoded : String) : Option Claims := if encoded = ownerToken then some ownerClaims else none

theorem reading_alike : ReadsAlike reading readUnverified := by
  intro secret encoded header claims parsed
  simp only [reading, readUnverified] at parsed ⊢
  split_ifs at parsed with same
  cases parsed
  exact if_pos same

def startedStore : Store := (World.empty.after reading (started [])).store

end Plain

open Plain in
theorem verifiers_agree_owner :
    (service.authorize reading sessionID ownerToken ⟨3, [], false⟩ startedStore).reply = .ok ownerClaims ∧
      mediaServer.verifyCapability reading readUnverified ownerToken anyRole 3 ⟨3, [], false⟩ startedStore =
        .ok ownerClaims := by
  have authorized : (service.authorize reading sessionID ownerToken ⟨3, [], false⟩ startedStore).reply =
      .ok ownerClaims := by
    decide +kernel
  have reaches : mediaServer.Reaches service ⟨3, [], false⟩ startedStore := rfl
  refine ⟨authorized, (verifiers_agree reading_alike reaches rfl ?_ ownerClaims).mpr
    ⟨ownerClaims, if_pos rfl, authorized⟩⟩
  decide +kernel

end Relay
