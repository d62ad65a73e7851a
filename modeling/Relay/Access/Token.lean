import Relay.Access.State

/-! Capability tokens. The token library is reached through two primitives: one
makes the text of a token, the other recovers header and claims from a text whose
signature verifies. Everything the profile itself checks is embedded here. -/
namespace Relay

def tokenIssuer : String := "pocketstation-relay"
def legacyIssuer : String := "pocketstation-control-plane"
def tokenAudience : String := "pocketstation-relay"
def tokenTyp : String := "pks-relay-capability+jwt"
def tokenAlg : String := "HS256"
def maxBusScopes : Nat := 16
def maxIdentifierLength : Nat := 128
def tokenLeeway : Duration := 5 * second

def invalidIdentifiers (maximum : Nat) : List String → List String → Bool
  | _, [] => false
  | seen, value :: rest =>
    if !validIdentifier value maximum then true
    else if value ∈ seen then true
    else invalidIdentifiers maximum (value :: seen) rest

namespace Claims

def canControl (c : Claims) : Bool := c.role == .source && c.control

def allowsBus (c : Claims) (busID : String) : Bool :=
  if c.role = .subscriber then c.busID == busID else c.busIDs.contains busID

def validateScope (c : Claims) : Except Err Unit :=
  match c.role with
  | .source =>
    if c.busID ≠ "" ∨ c.busIDs.length = 0 ∨ maxBusScopes < c.busIDs.length ∨
        invalidIdentifiers 64 [] c.busIDs then
      .error .invalidCapability
    else .ok ()
  | .subscriber =>
    if validIdentifier c.busID 64 = false ∨ c.busIDs.length ≠ 0 ∨ c.control then
      .error .invalidCapability
    else .ok ()
  | .other _ => .error .invalidCapability

def subjectText (c : Claims) : String := "relay-session:" ++ c.sessionID ++ ":" ++ c.role.text

def request (sessionID busID : String) (busIDs : List String) (role : Role) (control : Bool) :
    Claims :=
  { sessionID, busID, busIDs, role, control, incarnation := "", issuer := "", subject := "",
    audience := [], expiresAt := none, notBefore := none, issuedAt := none, id := "" }

def SameScope (c c' : Claims) : Prop :=
  c.sessionID = c'.sessionID ∧ c.busID = c'.busID ∧ c.busIDs = c'.busIDs ∧ c.role = c'.role ∧
    c.control = c'.control

end Claims

def knownIssuer (issuer : String) : Bool := issuer == tokenIssuer || issuer == legacyIssuer

structure Capability where
  claims : Claims
  token : String

def signProfile (P : Primitives) (secret : Bytes) (issuer incarnation : String) (claims : Claims)
    (ttl : Duration) (now : Time) : TxM Capability := do
  Txn.require (knownIssuer issuer) .invalidCapability
  let claims := { claims with incarnation := incarnation }
  Txn.lift claims.validateScope
  Txn.require (32 ≤ secret.length ∧ validIdentifier claims.sessionID maxIdentifierLength ∧ 0 < ttl)
    .invalidCapability
  let jti ← randomTokenID
  let claims :=
    { claims with
      issuer := issuer
      subject := claims.subjectText
      audience := [tokenAudience]
      expiresAt := some (Time.truncate (now + ttl))
      notBefore := some (Time.truncate (now - 5 * second))
      issuedAt := some (Time.truncate now)
      id := jti }
  pure ⟨claims, P.signedString secret ⟨tokenAlg, tokenTyp⟩ claims⟩

/-- The registered claims that the token library validates at an instant. -/
def registeredValid (c : Claims) (issuer : String) (now : Time) : Bool :=
  c.issuer == issuer && c.audience.contains tokenAudience &&
    (match c.expiresAt with
      | none => false
      | some exp => decide (now < exp + tokenLeeway)) &&
    (match c.issuedAt with
      | none => true
      | some iat => decide (iat - tokenLeeway ≤ now)) &&
    (match c.notBefore with
      | none => true
      | some nbf => decide (nbf - tokenLeeway ≤ now))

def profileValid (c : Claims) : Bool :=
  validIdentifier c.sessionID maxIdentifierLength && c.id != "" && c.subject == c.subjectText &&
    (match c.issuedAt, c.notBefore, c.expiresAt with
      | some iat, some _, some exp => decide (iat ≤ exp)
      | _, _, _ => false)

def verifyProfile (P : Primitives) (secret : Bytes) (encoded issuer : String) (now : Time) :
    Except Err Claims :=
  if knownIssuer issuer = false then .error .invalidCapability
  else if secret.length < 32 ∨ encoded = "" ∨ 16384 < encoded.utf8ByteSize then
    .error .invalidCapability
  else
    match P.parse secret encoded with
    | none => .error .invalidCapability
    | some (header, claims) =>
      if header.alg ≠ tokenAlg ∨ header.typ ≠ tokenTyp ∨ registeredValid claims issuer now = false ∨
          profileValid claims = false then
        .error .invalidCapability
      else
        match claims.validateScope with
        | .error e => .error e
        | .ok () => .ok claims

theorem signProfile_ok {P : Primitives} {secret : Bytes} {issuer incarnation : String}
    {claims : Claims} {ttl : Duration} {now : Time} {tx tx' : Tx} {c : Capability}
    (signed : signProfile P secret issuer incarnation claims ttl now tx = (.ok c, tx')) :
    c.claims.SameScope claims ∧ c.claims.issuer = issuer ∧ c.claims.incarnation = incarnation ∧
      c.claims.expiresAt = some (Time.truncate (now + ttl)) ∧
      ∃ rest, tx' = { tx with entropy := rest } := by
  simp only [signProfile, Txn.bind_ok, Txn.require_ok, Txn.lift_ok, Txn.pure_run] at signed
  obtain ⟨_, _, ⟨_, rfl⟩, _, _, ⟨_, rfl⟩, _, _, ⟨_, rfl⟩, jti, u, drew, out⟩ := signed
  obtain ⟨rest, rfl⟩ := randomTokenID_ok drew
  cases out
  exact ⟨⟨rfl, rfl, rfl, rfl, rfl⟩, rfl, rfl, rfl, rest, rfl⟩

theorem verifyProfile_iff {P : Primitives} {secret : Bytes} {encoded issuer : String} {now : Time} {c : Claims} :
    verifyProfile P secret encoded issuer now = .ok c ↔
      knownIssuer issuer = true ∧ 32 ≤ secret.length ∧ (encoded ≠ "" ∧ encoded.utf8ByteSize ≤ 16384) ∧
      P.parse secret encoded = some (⟨tokenAlg, tokenTyp⟩, c) ∧ registeredValid c issuer now = true ∧
      profileValid c = true ∧ c.validateScope = .ok () := by
  unfold verifyProfile
  constructor
  · intro verified
    split_ifs at verified with unknown unfit
    split at verified
    · cases verified
    · rename_i header claims parsed
      split_ifs at verified with refused
      split at verified
      · cases verified
      · rename_i scope
        cases verified
        push Not at unfit refused
        obtain ⟨alg, typ⟩ := header
        obtain ⟨rfl, rfl, registered, profile⟩ := refused
        exact ⟨Bool.eq_true_of_not_eq_false unknown, unfit.1, unfit.2, parsed, Bool.eq_true_of_not_eq_false registered,
          Bool.eq_true_of_not_eq_false profile, scope⟩
  · rintro ⟨known, long, text, parsed, registered, profile, scope⟩
    simp [known, long, text, parsed, registered, profile, scope]

end Relay
