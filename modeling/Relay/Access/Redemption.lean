import Relay.Access.Integrity

/-! One-use redemption. Over every history, a grant yields at most one capability that
its caller receives; every other successful redemption repeats, byte for byte, the
answer of an earlier one with the same key, locator and join code, for as long as its
receipt lives. -/
namespace Relay

def Signed.grantID (σ : Signed) : Option String :=
  match σ.origin with
  | .redeem id => some id
  | _ => none

def minted (P : Primitives) (x : Step World Event) : List String :=
  match (ran P x).reply with
  | .ok _ => (ran P x).signed.filterMap Signed.grantID
  | .error _ => []

variable {s : Service} {response : Bytes} {given key locator : String} {r : SessionRecord} {g : GrantRecord}
  {P : Primitives} {σ : Signed} {x : Step World Event} {a : Answer}

theorem minted_of_unsigned (unsigned : (ran P x).signed = []) : minted P x = [] := by
  unfold minted
  rw [unsigned]
  split <;> rfl

def mintedIn (P : Primitives) (h : History) : List String := h.flatMap (minted P)

@[simp] theorem mintedIn_snoc (P : Primitives) (h : History) (x : Step World Event) :
    mintedIn P (h ++ [x]) = mintedIn P h ++ minted P x := by
  simp [mintedIn]

/-- A step that redeemed a grant: who asked for what, the grant and the Session as they
were stored, the capability signed and the answer returned. -/
structure Redemption (P : Primitives) (x : Step World Event) (s : Service)
    (locator code key : String) (g : GrantRecord) (r : SessionRecord) (σ : Signed)
    (response : Bytes) : Prop where
  asked : ∃ given encode, x.event.action = .call s (.redeem locator given key encode) ∧
    Service.effectiveCode P locator given = code
  grant : x.before.store.data.grants.lookup g.id = some g
  session : x.before.store.data.sessions.lookup g.sessionID = some r
  joined : g.joinCode = code
  origin : σ.origin = .redeem g.id
  expiry : σ.claims.expiresAt =
    some (Time.truncate (x.event.env.now + s.config.subscriberTokenTTL))
  signed : (ran P x).signed = [σ]
  reply : (ran P x).reply = .ok (.redeemed response)

theorem Redemption.minted_eq {code : String} (redemption : Redemption P x s locator code key g r σ response) :
    minted P x = [g.id] := by
  simp [minted, redemption.reply, redemption.signed, Signed.grantID, redemption.origin]

theorem Signed.For.grantID_none {origin : Origin} {claims : Claims} {expiry : Time}
    (made : σ.For origin r claims expiry) (other : ∀ id, origin ≠ .redeem id) : σ.grantID = none := by
  unfold Signed.grantID
  rw [made.origin]
  cases origin with
  | redeem id => exact absurd rfl (other id)
  | _ => rfl

theorem Performed.mints {now : Time} {d d' : Records} {request : Request} {signed : List Signed} {drawn : List String}
    (performed : Performed P s now d request a signed drawn d') :
    (signed.filterMap Signed.grantID = [] ∧
        ∀ k c, d'.receipts.lookup k = some c → d.receipts.lookup k = some c) ∨
      ∃ locator code key encode response g r σ,
        request = .redeem locator code key encode ∧ a = .redeemed response ∧ signed = [σ] ∧
        drawn = [] ∧
        Service.Consumed P s d now locator (Service.effectiveCode P locator code) key encode response
          g r σ ∧
        d' = s.redeemed d key
          (s.redeemDigests P locator (Service.effectiveCode P locator code) key) g r response now := by
  cases performed with
  | create _ made | publish _ _ _ made | subscribe _ _ made | renew _ _ _ made =>
    exact .inl ⟨by simp [made.grantID_none (by simp)], fun _ _ => id⟩
  | get | clear | absent | ignore | observe | invite | replay | held | place =>
    exact .inl ⟨rfl, fun _ _ => id⟩
  | delete => exact .inl ⟨rfl, fun _ _ stored => (Records.deleteSession_receipts.mp stored).1⟩
  | consume consumed => exact .inr ⟨_, _, _, _, _, _, _, _, rfl, rfl, rfl, rfl, consumed, rfl⟩

def Receipted (P : Primitives) (x : Step World Event) (k : String) (c : Receipt) : Prop :=
  ∃ s locator code key g r σ response,
    Redemption P x s locator code key g r σ response ∧ key ≠ "" ∧
    k = (s.redeemDigests P locator code key).receiptKey ∧
    c = s.newReceipt (s.redeemDigests P locator code key) g r response x.event.env.now

structure Ledger (P : Primitives) (h : History) (d : Records) : Prop where
  unused : ∀ k g, d.grants.lookup k = some g → k ∉ mintedIn P h
  known : ∀ id ∈ mintedIn P h, id ∈ drawn P h
  once : (mintedIn P h).Nodup
  explained : ∀ k c, d.receipts.lookup k = some c → ∃ x ∈ h, Receipted P x k c

theorem ledger_empty (P : Primitives) : Ledger P [] Records.empty := by
  constructor <;> simp [Records.empty, mintedIn]

namespace Ledger

variable {P : Primitives} {h : History} {x : Step World Event} {d d' : Records}

theorem idle (ledger : Ledger P h d) (unrepeated : Unrepeated P (h ++ [x])) (none : minted P x = [])
    (grants : ∀ k g, d'.grants.lookup k = some g → d.grants.lookup k = some g ∨ k ∈ (ran P x).drawn)
    (receipts : ∀ k c, d'.receipts.lookup k = some c → d.receipts.lookup k = some c) :
    Ledger P (h ++ [x]) d' where
  unused k g stored := by
    rw [mintedIn_snoc, none, List.append_nil]
    rcases grants k g stored with found | drew
    · exact ledger.unused k g found
    · exact fun member => unrepeated.fresh k drew (ledger.known k member)
  known id member := by
    rw [mintedIn_snoc, none, List.append_nil] at member
    rw [drawn_snoc]
    exact List.mem_append_left _ (ledger.known id member)
  once := by
    rw [mintedIn_snoc, none, List.append_nil]
    exact ledger.once
  explained k c stored := by
    obtain ⟨y, member, receipted⟩ := ledger.explained k c (receipts k c stored)
    exact ⟨y, List.mem_append_left _ member, receipted⟩

theorem redeem {s : Service} {locator code key : String} {g : GrantRecord} {r : SessionRecord}
    {σ : Signed} {response : Bytes} (ledger : Ledger P h d)
    (redemption : Redemption P x s locator code key g r σ response)
    (stored : d.grants.lookup g.id = some g) (known : g.id ∈ drawn P h) :
    Ledger P (h ++ [x]) (s.redeemed d key (s.redeemDigests P locator code key) g r response
      x.event.env.now) where
  unused k g' found := by
    rw [mintedIn_snoc, redemption.minted_eq, List.mem_append, List.mem_singleton, not_or]
    obtain ⟨found, other⟩ := Records.deleteGrant_grants.mp found
    refine ⟨ledger.unused k g' ?_, other⟩
    split at found <;> exact found
  known id member := by
    rw [mintedIn_snoc, redemption.minted_eq, List.mem_append, List.mem_singleton] at member
    rw [drawn_snoc]
    rcases member with before | rfl
    · exact List.mem_append_left _ (ledger.known id before)
    · exact List.mem_append_left _ known
  once := by
    rw [mintedIn_snoc, redemption.minted_eq, List.nodup_append]
    refine ⟨ledger.once, List.nodup_singleton _, ?_⟩
    rintro a member b same rfl
    rw [List.mem_singleton] at same
    subst same
    exact ledger.unused _ g stored member
  explained k c found := by
    rw [Service.redeemed, Records.deleteGrant_receipts] at found
    split at found
    · rename_i keyed
      rcases Records.putReceipt_lookup.mp found with ⟨rfl, rfl⟩ | ⟨_, found⟩
      · exact ⟨x, by simp, s, locator, code, key, g, r, σ, response, redemption, keyed, rfl, rfl⟩
      · obtain ⟨y, member, receipted⟩ := ledger.explained k c found
        exact ⟨y, List.mem_append_left _ member, receipted⟩
    · obtain ⟨y, member, receipted⟩ := ledger.explained k c found
      exact ⟨y, List.mem_append_left _ member, receipted⟩

theorem shrink (ledger : Ledger P h d) (shrinks : d.Shrinks d') : Ledger P h d' where
  unused k g stored := ledger.unused k g (shrinks.grants stored).1
  known := ledger.known
  once := ledger.once
  explained k c stored := ledger.explained k c (shrinks.receipts stored)

end Ledger

theorem Service.Consumed.redemption {encode : ResolvedInvitation → Except Err Bytes}
    (consumed : Service.Consumed P s (s.prologue x.event.env.now x.before.store.data)
      x.event.env.now locator (Service.effectiveCode P locator given) key encode response g r σ)
    (keyed : x.before.store.data.Keyed) (asked : x.event.action = .call s (.redeem locator given key encode))
    (signed : (ran P x).signed = [σ]) (reply : (ran P x).reply = .ok (.redeemed response)) :
    Redemption P x s locator (Service.effectiveCode P locator given) key g r σ response := by
  have shrinks := s.shrinks_prologue x.event.env.now x.before.store.data
  obtain ⟨id, found⟩ := Tx.locate_some consumed.found
  have stored := (shrinks.grants found).1
  exact
    { asked := ⟨given, encode, asked, rfl⟩
      grant := by
        rw [keyed.grants stored]
        exact stored
      session := shrinks.sessions consumed.active.found
      joined := consumed.code
      origin := consumed.signed.origin
      expiry := consumed.signed.expiry
      signed := signed
      reply := reply }

section Runs

variable {P : Primitives} {h : History} {x : Step World Event} {d : Records}

theorem Succeeded.ledger {s : Service} {request : Request} {a : Answer} {signed : List Signed}
    {drew : List String}
    (succeeded : Succeeded P s x.event.env.now x.before.store.data request a signed drew d)
    (asked : x.event.action = .call s request) (signedHere : (ran P x).signed = signed)
    (drawnHere : (ran P x).drawn = drew) (reply : (ran P x).reply = .ok a)
    (sound : x.before.store.data.Sound (drawn P h)) (unrepeated : Unrepeated P (h ++ [x]))
    (ledger : Ledger P h x.before.store.data) : Ledger P (h ++ [x]) d := by
  cases succeeded with
  | read =>
    refine ledger.idle unrepeated ?_ (fun _ _ => .inl) (fun _ _ => id)
    exact minted_of_unsigned signedHere
  | performed performed =>
    have pruned := ledger.shrink (s.shrinks_prologue x.event.env.now x.before.store.data)
    rcases performed.mints with ⟨none, receipts⟩ |
      ⟨locator, given, key, encode, response, g, r, σ, rfl, rfl, rfl, rfl, consumed, rfl⟩
    · refine pruned.idle unrepeated ?_ ?_ receipts
      · simp [minted, reply, signedHere, none]
      · intro k g stored
        rw [drawnHere]
        exact performed.effect.grant_origin stored
    · have redemption := consumed.redemption sound.keyed asked signedHere reply
      obtain ⟨id, found⟩ := Tx.locate_some consumed.found
      have shrinks := s.shrinks_prologue x.event.env.now x.before.store.data
      have own : g.id = id := sound.keyed.grants (shrinks.grants found).1
      rw [← own] at found
      exact pruned.redeem redemption found (sound.grant_known redemption.grant)

theorem World.Change.ledger {replicas : List Service}
    (change : World.Change P x.before x.event d replicas)
    (sound : x.before.store.data.Sound (drawn P h)) (unrepeated : Unrepeated P (h ++ [x]))
    (ledger : Ledger P h x.before.store.data) : Ledger P (h ++ [x]) d := by
  cases change with
  | quiet cause =>
    refine ledger.idle unrepeated ?_ (fun _ _ => .inl) (fun _ _ => id)
    rcases cause with ⟨failure, failed⟩ | closes
    · simp [minted, ran, failed]
    · exact minted_of_unsigned (by simp [ran, World.exec, closes])
  | opened secret config base ns d _ _ _ _ cleared _ unsigned =>
    refine ledger.idle unrepeated ?_ ?_ ?_
    · exact minted_of_unsigned unsigned
    · intro k g stored
      rw [cleared.grants] at stored
      exact .inl stored
    · intro k c stored
      rw [cleared.receipts] at stored
      exact stored
  | reset rows id _ _ _ unsigned =>
    have shrinks := (Records.shrinks_deleteRows x.before.store.data rows).trans
      (Records.shrinks_putNamespace _ ⟨schemaVersion, id, 0, "", 0⟩)
    refine ledger.idle unrepeated ?_ ?_ (fun _ _ => shrinks.receipts)
    · exact minted_of_unsigned unsigned
    · exact fun k g stored => .inl (shrinks.grants stored).1
  | called s request a d _ asked reply _ succeeded =>
    exact succeeded.ledger asked rfl rfl reply sound unrepeated ledger

theorem ledger_of_run {w : World} (run : Runs P h w) (unrepeated : Unrepeated P h) :
    Ledger P h w.store.data := by
  refine Exec.history (G := Unrepeated P) (I := fun h w => Ledger P h w.store.data)
    Unrepeated.early ?_ ?_ run unrepeated
  · exact ledger_empty P
  · intro h t e u before good ledger move
    have sound := sound_of_run before good.early
    exact (move.change sound.keyed).ledger sound good ledger

end Runs

namespace Service

variable {s : Service} {g : GrantRecord} {r : SessionRecord} {now t : Time}

theorem foldl_min_le (bounds : List Int) (start : Int) :
    bounds.foldl (fun expires bound => if bound < expires then bound else expires) start ≤ start ∧
      ∀ bound ∈ bounds,
        bounds.foldl (fun expires bound => if bound < expires then bound else expires) start ≤ bound := by
  induction bounds generalizing start with
  | nil => simp
  | cons b bounds ih =>
    obtain ⟨below, all⟩ := ih (if b < start then b else start)
    have chosen : (if b < start then b else start) ≤ start ∧ (if b < start then b else start) ≤ b := by
      constructor <;> split <;> omega
    refine ⟨below.trans chosen.1, ?_⟩
    intro bound member
    rcases List.mem_cons.mp member with rfl | later
    · exact below.trans chosen.2
    · exact all bound later

theorem lt_receiptExpiry (before : t < s.receiptExpiry g r now) :
    t < now + s.config.receiptTTL ∧ t < g.expiresAt ∧ t < r.expiresAt ∧
      t < Time.truncate (now + s.config.subscriberTokenTTL) := by
  obtain ⟨own, all⟩ := foldl_min_le
    [g.expiresAt, r.expiresAt, Time.truncate (now + s.config.subscriberTokenTTL)]
    (now + s.config.receiptTTL)
  have grant := all g.expiresAt (by simp)
  have session := all r.expiresAt (by simp)
  have token := all (Time.truncate (now + s.config.subscriberTokenTTL)) (by simp)
  unfold receiptExpiry at before
  exact ⟨lt_of_lt_of_le before own, lt_of_lt_of_le before grant, lt_of_lt_of_le before session,
    lt_of_lt_of_le before token⟩

end Service

def digestedBy (x : Step World Event) : List String :=
  match x.event.action with
  | .call _ (.redeem locator _ key _) => [Service.requestMessage locator, Service.keyMessage key]
  | _ => []

def authenticatedBy (P : Primitives) (x : Step World Event) : List (Bytes × String) :=
  match x.event.action with
  | .call s (.redeem locator code _ _) =>
    [(s.secret, Service.codeMessage (Service.effectiveCode P locator code))]
  | _ => []

structure CollisionFree (P : Primitives) (h : History) : Prop where
  sha256 : ∀ m ∈ h.flatMap digestedBy, ∀ m' ∈ h.flatMap digestedBy, P.sha256 m = P.sha256 m' → m = m'
  hmac : ∀ m ∈ h.flatMap (authenticatedBy P), ∀ m' ∈ h.flatMap (authenticatedBy P),
    P.hmacSHA256 m.1 m.2 = P.hmacSHA256 m'.1 m'.2 → m.2 = m'.2

namespace CollisionFree

variable {P : Primitives} {h : History} {x y : Step World Event} {s s' : Service}
  {locator locator' code code' key key' : String}
  {encode encode' : ResolvedInvitation → Except Err Bytes}

theorem same_request (free : CollisionFree P h) (hx : x ∈ h) (hy : y ∈ h)
    (askedX : x.event.action = .call s (.redeem locator code key encode))
    (askedY : y.event.action = .call s' (.redeem locator' code' key' encode'))
    (keys : (P.sha256 (Service.keyMessage key)).hex = (P.sha256 (Service.keyMessage key')).hex)
    (requests : P.sha256 (Service.requestMessage locator) = P.sha256 (Service.requestMessage locator'))
    (codes : P.hmacSHA256 s.secret (Service.codeMessage (Service.effectiveCode P locator code)) =
      P.hmacSHA256 s'.secret (Service.codeMessage (Service.effectiveCode P locator' code'))) :
    key = key' ∧ locator = locator' ∧
      Service.effectiveCode P locator code = Service.effectiveCode P locator' code' := by
  have digested : ∀ m, m ∈ digestedBy x ∨ m ∈ digestedBy y → m ∈ h.flatMap digestedBy := by
    rintro m (member | member)
    · exact List.mem_flatMap.mpr ⟨x, hx, member⟩
    · exact List.mem_flatMap.mpr ⟨y, hy, member⟩
  have sameKey := free.sha256 _ (digested _ (.inl (by simp [digestedBy, askedX]))) _
    (digested _ (.inr (by simp [digestedBy, askedY]))) (Digest.hex_injective keys)
  have sameRequest := free.sha256 _ (digested _ (.inl (by simp [digestedBy, askedX]))) _
    (digested _ (.inr (by simp [digestedBy, askedY]))) requests
  have sameCode := free.hmac
    (s.secret, Service.codeMessage (Service.effectiveCode P locator code))
    (List.mem_flatMap.mpr ⟨x, hx, by simp [authenticatedBy, askedX]⟩)
    (s'.secret, Service.codeMessage (Service.effectiveCode P locator' code'))
    (List.mem_flatMap.mpr ⟨y, hy, by simp [authenticatedBy, askedY]⟩) codes
  exact ⟨(String.append_right_inj _).mp sameKey, (String.append_right_inj _).mp sameRequest,
    (String.append_right_inj _).mp sameCode⟩

end CollisionFree

def Repeats (P : Primitives) (x y : Step World Event) (locator code key : String)
    (response : Bytes) : Prop :=
  key ≠ "" ∧ ∃ s g r σ expiry, Redemption P x s locator code key g r σ response ∧
    y.event.env.now < x.event.env.now + s.config.receiptTTL ∧ y.event.env.now < g.expiresAt ∧
    y.event.env.now < r.expiresAt ∧ σ.claims.expiresAt = some expiry ∧ y.event.env.now < expiry

theorem redeem_answer {before after : History} {y : Step World Event} {w : World}
    (run : Runs P (before ++ y :: after) w) (unrepeated : Unrepeated P (before ++ y :: after))
    (free : CollisionFree P (before ++ y :: after)) {encode : ResolvedInvitation → Except Err Bytes}
    (asked : y.event.action = .call s (.redeem locator given key encode)) (reply : (ran P y).reply = .ok a) :
    ∃ response, a = .redeemed response ∧
      ((∃ g r σ, Redemption P y s locator (Service.effectiveCode P locator given) key g r σ response) ∨
        (minted P y = [] ∧ ∃ x ∈ before,
          Repeats P x y locator (Service.effectiveCode P locator given) key response)) := by
  obtain ⟨earlier, _, _⟩ := run.split_step
  have sound := sound_of_run earlier unrepeated.early
  have ledger := ledger_of_run earlier unrepeated.early
  have unfolded : ran P y = s.answer P y.event.env y.before.store (.redeem locator given key encode) := by
    simp only [ran, World.exec, asked]
  obtain ⟨_, succeeded⟩ := Service.answer_succeeded (unfolded ▸ reply)
  rw [← unfolded] at succeeded
  have shrinks := s.shrinks_prologue y.event.env.now y.before.store.data
  generalize signedHere : (ran P y).signed = signed at succeeded
  generalize (ran P y).drawn = drew at succeeded
  generalize (ran P y).store.data = d at succeeded
  cases succeeded with
  | read read => cases read
  | performed performed =>
    cases performed with
    | consume consumed =>
      exact ⟨_, rfl, .inl ⟨_, _, _, consumed.redemption sound.keyed asked signedHere reply⟩⟩
    | replay replayed =>
      refine ⟨_, rfl, .inr ⟨minted_of_unsigned signedHere, ?_⟩⟩
      obtain ⟨x, member, s', locator', code', key', g, r, σ, response, redemption, keyed, keys, rfl⟩ :=
        ledger.explained _ _ (shrinks.receipts replayed.found)
      obtain ⟨given', encode', asked', rfl⟩ := redemption.asked
      obtain ⟨rfl, rfl, sameCode⟩ := free.same_request (List.mem_append_left _ member) (by simp)
        asked' asked keys.symm replayed.request replayed.credential
      obtain ⟨own, grant, session, token⟩ := Service.lt_receiptExpiry replayed.fresh
      rw [replayed.response, ← sameCode]
      exact ⟨x, member, keyed, s', g, r, σ, _, redemption, own, grant, session, redemption.expiry, token⟩

/-- One-use redemption, over every history of any number of services on one store. -/
theorem one_use_redemption {P : Primitives} {h : History} {w : World} (run : Runs P h w)
    (unrepeated : Unrepeated P h) (free : CollisionFree P h) :
    (mintedIn P h).Nodup ∧
      (∀ before y after, h = before ++ y :: after → ∀ s locator given key encode a,
        y.event.action = .call s (.redeem locator given key encode) → (ran P y).reply = .ok a →
        ∃ response, a = .redeemed response ∧
          ((∃ g r σ, Redemption P y s locator (Service.effectiveCode P locator given) key g r σ
              response) ∨
            (minted P y = [] ∧ ∃ x ∈ before,
              Repeats P x y locator (Service.effectiveCode P locator given) key response))) ∧
      (∀ x ∈ h, ∀ s locator given key encode failure,
        x.event.action = .call s (.redeem locator given key encode) →
        (ran P x).reply = .error failure →
        x.after.store.data.grants = x.before.store.data.grants ∧
          x.after.store.data.receipts = x.before.store.data.receipts) := by
  refine ⟨(ledger_of_run run unrepeated).once, ?_, ?_⟩
  · rintro before y after rfl s locator given key encode a asked reply
    exact redeem_answer run unrepeated free asked reply
  · intro x member s locator given key encode failure asked failed
    have move := run.step_of_mem member
    have unfolded : ran P x = s.answer P x.event.env x.before.store (.redeem locator given key encode) := by
      simp only [ran, World.exec, asked]
    have same : x.after.store = x.before.store := by
      rw [move.result]
      change (ran P x).store = _
      rw [unfolded] at failed ⊢
      exact s.answer_atomic P _ _ _ failure failed
    rw [same]
    exact ⟨rfl, rfl⟩

namespace Plain

def encode (resolved : ResolvedInvitation) : Except Err Bytes :=
  .ok (resolved.subscriberToken.toList.map fun c => UInt8.ofNat c.toNat)

def retried : List Event :=
  invited ++
    [event 6 (block 5) (.call service (.redeem "red-fox" joinCode "0123456789abcdef" encode)),
      event 7 (block 6) (.call service (.redeem "red-fox" joinCode "0123456789abcdef" encode))]

end Plain

theorem one_use_redemption_retried :
    mintedIn Plain.primitives (World.empty.history Plain.primitives Plain.retried) =
        [uuidText (Plain.block 4)] ∧
      (mintedIn Plain.primitives (World.empty.history Plain.primitives Plain.retried)).Nodup := by
  obtain ⟨admissible, minted, unrepeated, sha256, hmac⟩ : World.empty.Admissible Plain.primitives Plain.retried ∧
      mintedIn Plain.primitives (World.empty.history Plain.primitives Plain.retried) = [uuidText (Plain.block 4)] ∧
      Unrepeated Plain.primitives (World.empty.history Plain.primitives Plain.retried) ∧
      (∀ m ∈ (World.empty.history Plain.primitives Plain.retried).flatMap digestedBy,
        ∀ m' ∈ (World.empty.history Plain.primitives Plain.retried).flatMap digestedBy,
          Plain.primitives.sha256 m = Plain.primitives.sha256 m' → m = m') ∧
      ∀ m ∈ (World.empty.history Plain.primitives Plain.retried).flatMap (authenticatedBy Plain.primitives),
        ∀ m' ∈ (World.empty.history Plain.primitives Plain.retried).flatMap (authenticatedBy Plain.primitives),
          Plain.primitives.hmacSHA256 m.1 m.2 = Plain.primitives.hmacSHA256 m'.1 m'.2 → m.2 = m'.2 := by
    decide +kernel
  exact ⟨minted, (one_use_redemption admissible.exec unrepeated ⟨sha256, hmac⟩).1⟩

end Relay
