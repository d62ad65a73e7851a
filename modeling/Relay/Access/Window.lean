import Relay.Access.Renewal

/-! The window in which a capability is valid. What the signer puts into a token is compared
with what the verifier asks of it, for every instant of either. -/
namespace Relay

/-- Every date of the claims is a whole second, as a `NumericDate` is. -/
structure Claims.Whole (c : Claims) : Prop where
  expiresAt : ∀ t ∈ c.expiresAt, Time.truncate t = t
  notBefore : ∀ t ∈ c.notBefore, Time.truncate t = t
  issuedAt : ∀ t ∈ c.issuedAt, Time.truncate t = t

/-- What the token library does with a token of HS256: it is read back under the secret it was
signed with, its dates in whole seconds, and it is read under no other. -/
structure Capability.Genuine (P : Primitives) (secret : Bytes) (c : Capability) : Prop where
  text : c.token ≠ ""
  reads : c.claims.Whole → P.parse secret c.token = some (⟨tokenAlg, tokenTyp⟩, c.claims)
  unforgeable : ∀ other ≠ secret, P.parse other c.token = none

/-- The instants at which a token is accepted that was signed at `now` for this long. -/
def InWindow (now : Time) (ttl : Duration) (t : Time) : Prop :=
  now / second * second - 5 * second ≤ t ∧ t < (now + ttl) / second * second + 5 * second

theorem Time.truncate_truncate (t : Time) : Time.truncate (Time.truncate t) = Time.truncate t := by
  have whole : ∀ v : Int, v - v % 1000000000 - (v - v % 1000000000) % 1000000000 = v - v % 1000000000 := by omega
  exact whole t

structure Claims.SignedAs (c : Claims) (issuer incarnation : String) (claims : Claims) (ttl : Duration) (now : Time) :
    Prop where
  scope : c.SameScope claims
  incarnation : c.incarnation = incarnation
  issuer : c.issuer = issuer
  subject : c.subject = c.subjectText
  audience : c.audience = [tokenAudience]
  expiresAt : c.expiresAt = some (Time.truncate (now + ttl))
  notBefore : c.notBefore = some (Time.truncate (now - 5 * second))
  issuedAt : c.issuedAt = some (Time.truncate now)
  id : c.id ≠ ""
  session : validIdentifier c.sessionID maxIdentifierLength = true
  valid : c.validateScope = .ok ()
  positive : 0 < ttl

theorem signProfile_signed {P : Primitives} {secret : Bytes} {issuer incarnation : String} {claims : Claims}
    {ttl : Duration} {now : Time} {tx tx' : Tx} {c : Capability}
    (signed : signProfile P secret issuer incarnation claims ttl now tx = (.ok c, tx')) :
    knownIssuer issuer = true ∧ 32 ≤ secret.length ∧ c.claims.SignedAs issuer incarnation claims ttl now := by
  simp only [signProfile, Txn.bind_ok, Txn.require_ok, Txn.lift_ok, Txn.pure_run] at signed
  obtain ⟨_, _, ⟨known, rfl⟩, _, _, ⟨scope, rfl⟩, _, _, ⟨⟨long, named, positive⟩, rfl⟩, jti, u, drew, out⟩ := signed
  obtain ⟨entropy, rfl, rfl⟩ := Service.randomTokenID_iff.mp drew
  cases out
  exact ⟨known, long, ⟨rfl, rfl, rfl, rfl, rfl⟩, rfl, rfl, rfl, rfl, rfl, rfl, rfl,
    Service.tokenID_ne_empty entropy, named, scope, positive⟩

namespace Claims.SignedAs

variable {c claims : Claims} {issuer incarnation : String} {ttl : Duration} {now t : Time}

section

variable (signed : c.SignedAs issuer incarnation claims ttl now)

include signed

theorem whole : c.Whole := by
  have dated : ∀ u t : Time, t ∈ some (Time.truncate u) → Time.truncate t = t := by
    intro u t date
    rw [← Option.mem_some_iff.mp date]
    exact Time.truncate_truncate u
  refine ⟨?_, ?_, ?_⟩
  · rw [signed.expiresAt]
    exact dated _
  · rw [signed.notBefore]
    exact dated _
  · rw [signed.issuedAt]
    exact dated _

theorem profile : profileValid c = true := by
  have ordered : Time.truncate now ≤ Time.truncate (now + ttl) :=
    Time.truncate_mono (Int.le_add_of_nonneg_right signed.positive.le)
  simp only [profileValid, signed.issuedAt, signed.notBefore, signed.expiresAt, Bool.and_eq_true, decide_eq_true_eq]
  exact ⟨⟨⟨signed.session, bne_iff_ne.mpr signed.id⟩, beq_iff_eq.mpr signed.subject⟩, ordered⟩

/-- The library accepts the dates of a token exactly in its window; the date before which it is
not valid lies further back than the leeway of the date of its issue. -/
theorem registered_iff (verifier : String) :
    registeredValid c verifier t = true ↔ verifier = issuer ∧ InWindow now ttl t := by
  simp only [registeredValid, signed.issuedAt, signed.notBefore, signed.expiresAt, signed.issuer, signed.audience,
    Bool.and_eq_true, decide_eq_true_eq, beq_iff_eq, InWindow]
  have back : Time.truncate (now - 5 * second) ≤ Time.truncate now :=
    Time.truncate_mono (Int.sub_le_self _ (by decide))
  rw [← Time.truncate_eq, ← Time.truncate_eq]
  constructor
  · rintro ⟨⟨⟨⟨same, _⟩, unexpired⟩, issued⟩, _⟩
    exact ⟨same.symm, issued, unexpired⟩
  · rintro ⟨same, issued, unexpired⟩
    exact ⟨⟨⟨⟨same.symm, by decide⟩, unexpired⟩, issued⟩, (Int.sub_le_sub_right back _).trans issued⟩

end

end Claims.SignedAs

theorem verifyProfile_unread {P : Primitives} {secret : Bytes} {encoded : String}
    (unread : P.parse secret encoded = none) (issuer : String) (now : Time) :
    verifyProfile P secret encoded issuer now = .error .invalidCapability := by
  unfold verifyProfile
  rw [unread]
  split_ifs <;> rfl

theorem verifyProfile_unregistered {P : Primitives} {secret : Bytes} {encoded issuer : String} {now : Time}
    {header : Header} {c : Claims} (parsed : P.parse secret encoded = some (header, c))
    (refused : registeredValid c issuer now = false) :
    verifyProfile P secret encoded issuer now = .error .invalidCapability := by
  unfold verifyProfile
  rw [parsed]
  split_ifs
  · rfl
  · rfl
  · dsimp only
    rw [if_pos (.inr (.inr (.inl refused)))]

namespace Plain

def briefClaims : Claims :=
  { Claims.request "session" "" ["voice"] .source true with
    incarnation := "first"
    issuer := tokenIssuer
    subject := "relay-session:session:source"
    audience := [tokenAudience]
    expiresAt := some (1 * second)
    notBefore := some (-5 * second)
    issuedAt := some 0
    id := String.ofList (hexEncode (block 1)) }

def oneToken : Primitives :=
  { primitives with
    signedString := fun _ _ _ => "token"
    parse := fun other encoded =>
      if other = secret ∧ encoded = "token" then some (⟨tokenAlg, tokenTyp⟩, briefClaims) else none }

def entropy : Tx := Store.empty.start .read ⟨0, block 1, false⟩

end Plain

end Relay
