import Relay.Access.Authority

/-! What each callback has done when it succeeds. Later proofs take an operation
apart with its lemma from this module and never unfold it. -/
namespace Relay

structure Records.Keyed (d : Records) : Prop where
  sessions : ∀ {k r}, d.sessions.lookup k = some r → r.id = k
  grants : ∀ {k g}, d.grants.lookup k = some g → g.id = k

structure Records.Cleared (d d' : Records) : Prop where
  grants : d'.grants = d.grants
  locators : d'.locators = d.locators
  receipts : d'.receipts = d.receipts
  ns : d'.ns = d.ns
  sessions : ∀ k, d'.sessions.lookup k = d.sessions.lookup k ∨
    ∃ r, d.sessions.lookup k = some r ∧ d'.sessions.lookup k = some r.clear

structure Service.Active (s : Service) (d : Records) (now : Time) (id : String)
    (r : SessionRecord) : Prop where
  found : d.sessions.lookup id = some r
  live : now < r.expiresAt
  incarnation : r.incarnation = s.incarnation

structure Signed.For (σ : Signed) (origin : Origin) (r : SessionRecord) (claims : Claims)
    (expiry : Time) : Prop where
  origin : σ.origin = origin
  record : σ.record = r
  scope : σ.claims.SameScope claims
  issuer : σ.claims.issuer = r.issuer
  incarnation : σ.claims.incarnation = r.incarnation
  expiry : σ.claims.expiresAt = some expiry

namespace Service

variable {P : Primitives} {s : Service} {tx tx' : Tx}

theorem active_run (s : Service) (id : String) (tx : Tx) :
    s.active id tx = match tx.data.sessions.lookup id with
      | none => (.error .noRows, tx)
      | some r =>
        if tx.now < r.expiresAt ∧ r.incarnation = s.incarnation then (.ok r, tx)
        else (.error .noRows, tx) := by
  simp only [active, Txn.bind_run, Tx.session_run, Tx.clock_run]
  cases tx.data.sessions.lookup id with
  | none => rfl
  | some r =>
    by_cases accepted : tx.now < r.expiresAt ∧ r.incarnation = s.incarnation
    · simp [Txn.bind_run, Txn.require, accepted]
    · simp only [Txn.bind_run, Txn.require, if_neg accepted]
      rfl

variable {bus code encoded id key locator policy token : String} {config : Config}
  {encode : ResolvedInvitation → Except Err Bytes} {role : Role} {now : Time} {out : Bytes} {u : Unit} {c : Claims}
  {r : SessionRecord}

theorem active_ok (ok : s.active id tx = (.ok r, tx')) : s.Active tx.data tx.now id r ∧ tx' = tx := by
  rw [active_run] at ok
  split at ok
  · cases ok
  · rename_i found
    split at ok
    · rename_i accepted
      cases ok
      exact ⟨⟨found, accepted.1, accepted.2⟩, rfl⟩
    · cases ok

theorem active_error {e : Err} (failed : s.active id tx = (.error e, tx')) :
    e = .noRows ∧ tx' = tx ∧ ∀ r, ¬ s.Active tx.data tx.now id r := by
  rw [active_run] at failed
  split at failed
  · rename_i missing
    cases failed
    refine ⟨rfl, rfl, ?_⟩
    rintro r ⟨found, _, _⟩
    rw [missing] at found
    cases found
  · rename_i r stored
    split at failed
    · cases failed
    · rename_i refused
      cases failed
      refine ⟨rfl, rfl, ?_⟩
      rintro r' ⟨found, live, incarnation⟩
      rw [stored] at found
      cases found
      exact refused ⟨live, incarnation⟩

theorem sign_ok {origin : Origin} {claims : Claims} {ttl : Duration}
    (ok : s.sign P origin r claims ttl now tx = (.ok token, tx')) :
    ∃ σ rest, σ.For origin r claims (Time.truncate (now + ttl)) ∧ σ.token = token ∧
      tx' = { tx with entropy := rest, signed := tx.signed ++ [σ] } := by
  simp only [sign, Txn.bind_ok, Txn.modify_run, Txn.pure_run] at ok
  obtain ⟨c, _, signed, _, _, moved, out⟩ := ok
  obtain ⟨scope, issuer, incarnation, expiry, rest, rfl⟩ := signProfile_ok signed
  cases moved
  cases out
  exact ⟨⟨origin, r, c.claims, c.token⟩, rest, ⟨rfl, rfl, scope, issuer, incarnation, expiry⟩, rfl, rfl⟩

theorem createBody_ok {required : List String} {out : Session}
    (ok : s.createBody P required tx = (.ok out, tx')) :
    (tx.data.sessions.size : Int) < s.config.maxSessions ∧
    ∃ id σ rest, id ≠ "" ∧ σ.For .create (s.newSession id required tx.now)
        (Claims.request id "" required .source true)
        (Time.truncate (tx.now + s.config.ownerTokenTTL)) ∧
      out = ⟨s.newSession id required tx.now, σ.token⟩ ∧
      tx' = { tx with
        data := tx.data.putSession (s.newSession id required tx.now)
        entropy := rest, signed := tx.signed ++ [σ], drawn := tx.drawn ++ [id] } := by
  simp only [createBody, Txn.bind_ok, Tx.counts_run, Txn.require_ok, Tx.clock_run, Tx.putSession_ok,
    Txn.pure_run] at ok
  obtain ⟨_, _, counted, _, _, ⟨room, rfl⟩, id, _, drew, _, _, clock, token, _, signed, _, _,
    ⟨_, _, rfl⟩, out⟩ := ok
  cases counted
  cases clock
  obtain ⟨named, rest, rfl⟩ := randomSessionID_ok drew
  obtain ⟨σ, rest', made, rfl, rfl⟩ := sign_ok signed
  cases out
  exact ⟨room, id, σ, rest', named, made, rfl, rfl⟩

theorem getBody_ok {out : Session} (ok : s.getBody P id tx = (.ok out, tx')) :
    ∃ r, s.Active tx.data tx.now id r ∧
      ((out = ⟨r, ""⟩ ∧ tx' = tx) ∨
        (s.staleObservation r tx.now ∧ r.observed) ∧ out = ⟨r.clear, ""⟩ ∧
          tx' = { tx with data := tx.data.putSession r.clear }) := by
  simp only [getBody, Txn.bind_ok, Tx.clock_run] at ok
  obtain ⟨r, _, found, _, _, clock, ok⟩ := ok
  obtain ⟨active, rfl⟩ := active_ok found
  cases clock
  refine ⟨r, active, ?_⟩
  split at ok
  · rename_i dropped
    simp only [Txn.bind_ok, Tx.putSession_ok, Txn.pure_run] at ok
    obtain ⟨_, _, ⟨_, _, rfl⟩, out⟩ := ok
    cases out
    exact .inr ⟨dropped, rfl, rfl⟩
  · cases ok
    exact .inl ⟨rfl, rfl⟩

theorem deleteBody_ok {out : Bool} (ok : s.deleteBody id tx = (.ok out, tx')) :
    (out = true ∧ tx' = { tx with data := tx.data.deleteSession id } ∧
        ∃ r, s.Active tx.data tx.now id r) ∨
      (out = false ∧ tx' = tx ∧ ∀ r, ¬ s.Active tx.data tx.now id r) := by
  simp only [deleteBody, Txn.bind_ok, Txn.attempt_ok] at ok
  obtain ⟨found, _, tried, ok⟩ := ok
  cases found with
  | ok r =>
    obtain ⟨active, rfl⟩ := active_ok tried
    simp only [Txn.bind_ok, Tx.deleteSession_ok, Txn.pure_run] at ok
    obtain ⟨_, _, ⟨_, rfl⟩, out⟩ := ok
    cases out
    exact .inl ⟨rfl, rfl, r, active⟩
  | error e =>
    obtain ⟨rfl, rfl, missing⟩ := active_error tried
    cases ok
    exact .inr ⟨rfl, rfl, missing⟩

theorem authorizeRecord_ok (ok : s.authorizeRecord P r encoded now = .ok c) :
    verifyProfile P s.secret encoded r.issuer now = .ok c ∧ c.sessionID = r.id := by
  unfold authorizeRecord at ok
  split at ok
  · cases ok
  · rename_i verified
    split_ifs at ok with other
    cases ok
    exact ⟨verified, not_not.mp other⟩

def issueClaims (id bus : String) (role : Role) : Claims :=
  if role = .source then Claims.request id "" [bus] role false else Claims.request id bus [] role false

theorem issueCredential_ok (ok : s.issueCredential P r id bus role now tx = (.ok token, tx')) :
    ∃ σ rest expiry, (role = .source → bus ≠ mix) ∧
      σ.For .issue r (issueClaims id bus role) expiry ∧ σ.token = token ∧
      tx' = { tx with entropy := rest, signed := tx.signed ++ [σ] } := by
  unfold issueCredential at ok
  split at ok
  · rename_i source
    simp only [Txn.bind_ok, Txn.require_ok] at ok
    obtain ⟨_, _, ⟨virtual, rfl⟩, signed⟩ := ok
    obtain ⟨σ, rest, made, named, rfl⟩ := sign_ok signed
    have claims : issueClaims id bus role = Claims.request id "" [bus] role false := if_pos source
    exact ⟨σ, rest, _, fun _ => virtual, claims ▸ made, named, rfl⟩
  · rename_i receiver
    obtain ⟨σ, rest, made, named, rfl⟩ := sign_ok ok
    have claims : issueClaims id bus role = Claims.request id bus [] role false := if_neg receiver
    exact ⟨σ, rest, _, fun source => absurd source receiver, claims ▸ made, named, rfl⟩

theorem issueBody_ok (ok : s.issueBody P id bus role tx = (.ok token, tx')) :
    ∃ r σ rest expiry, s.Active tx.data tx.now id r ∧ (bus = mix ∨ bus ∈ r.requiredBuses) ∧
      (role = .source → bus ≠ mix) ∧ σ.For .issue r (issueClaims id bus role) expiry ∧
      σ.token = token ∧
      tx' = { tx with
        data := tx.data.putSession (r.extend s.config.sessionTTL tx.now)
        entropy := rest, signed := tx.signed ++ [σ] } := by
  simp only [issueBody, Txn.bind_ok, Txn.require_ok, Tx.clock_run, Tx.putSession_ok,
    Txn.pure_run] at ok
  obtain ⟨r, _, found, _, _, ⟨declared, rfl⟩, _, _, clock, _, _, issued, _, _, ⟨_, _, rfl⟩, out⟩ := ok
  obtain ⟨active, rfl⟩ := active_ok found
  cases clock
  obtain ⟨σ, rest, expiry, virtual, made, named, rfl⟩ := issueCredential_ok issued
  cases out
  exact ⟨r, σ, rest, expiry, active, declared, virtual, made, named, rfl⟩

theorem applyBody_ok {snapshot : RelayState} {out : State × Bool} (ok : s.applyBody P id snapshot tx = (.ok out, tx')) :
    ∃ r, s.Active tx.data tx.now id r ∧ snapshot.writerTerm = r.mediaTerm ∧ r.mediaTerm ≠ 0 ∧
      snapshot.relayEpoch = r.relay.relayEpoch ∧
      ((snapshot.revision < r.relay.revision ∧ out = (r.state, false) ∧ tx' = tx) ∨
        (r.relay.revision ≤ snapshot.revision ∧ (∀ bus ∈ snapshot.buses, bus.busID ∈ r.requiredBuses) ∧
          out = ((s.observe r snapshot tx.now).state, changes r snapshot) ∧
          tx' = { tx with data := tx.data.putSession (s.observe r snapshot tx.now) })) := by
  simp only [applyBody, Txn.bind_ok, Txn.mapError_ok, Txn.require_ok] at ok
  obtain ⟨r, _, found, _, _, ⟨⟨term, placed, epoch⟩, rfl⟩, ok⟩ := ok
  obtain ⟨active, rfl⟩ := active_ok found
  refine ⟨r, active, term, placed, epoch, ?_⟩
  split at ok
  · rename_i older
    cases ok
    exact .inl ⟨older.2, rfl, rfl⟩
  · rename_i current
    simp only [Txn.bind_ok, Txn.require_ok, Tx.clock_run, Tx.putSession_ok, Txn.pure_run] at ok
    obtain ⟨_, _, ⟨declared, rfl⟩, _, _, clock, _, _, ⟨_, _, rfl⟩, out⟩ := ok
    cases clock
    cases out
    exact .inr ⟨by simpa [epoch] using current, declared, rfl, rfl⟩

theorem acquireBody_ok {epoch : String} {expected term : Nat}
    (ok : s.acquireBody P id epoch expected tx = (.ok term, tx')) :
    ∃ r, s.Active tx.data tx.now id r ∧
      ((r.relay.relayEpoch = epoch ∧ r.mediaTerm ≠ 0 ∧ term = r.mediaTerm ∧ tx' = tx) ∨
        (¬ (r.relay.relayEpoch = epoch ∧ r.mediaTerm ≠ 0) ∧ r.mediaTerm = expected ∧
          term = r.mediaTerm + 1 ∧
          tx' = { tx with data := tx.data.putSession (s.place r id epoch tx.now) })) := by
  simp only [acquireBody, Txn.bind_ok] at ok
  obtain ⟨r, _, found, ok⟩ := ok
  obtain ⟨active, rfl⟩ := active_ok found
  refine ⟨r, active, ?_⟩
  split at ok
  · rename_i held
    cases ok
    exact .inl ⟨held.1, held.2, rfl, rfl⟩
  · rename_i other
    simp only [Txn.bind_ok, Txn.require_ok, Tx.clock_run, Tx.putSession_ok, Txn.pure_run] at ok
    obtain ⟨_, _, ⟨swap, rfl⟩, _, _, clock, _, _, ⟨_, _, rfl⟩, out⟩ := ok
    cases clock
    cases out
    exact .inr ⟨other, swap, rfl, rfl⟩

theorem renewBody_ok {credential : String} {out : String × Time} (ok : s.renewBody P id credential tx = (.ok out, tx')) :
    ∃ r c σ rest, s.Active tx.data tx.now id r ∧
      s.authorizeRecord P r credential tx.now = .ok c ∧ c.canControl = true ∧
      σ.For (.renew c) r (Claims.request id "" r.requiredBuses .source true)
        (Time.truncate (tx.now + s.config.ownerTokenTTL)) ∧
      tx' = { tx with
        data := tx.data.putSession (r.extend s.config.sessionTTL tx.now)
        entropy := rest, signed := tx.signed ++ [σ] } := by
  simp only [renewBody, Txn.bind_ok, Tx.clock_run, Txn.lift_ok, Txn.require_ok, Tx.putSession_ok,
    Txn.pure_run] at ok
  obtain ⟨r, _, found, _, _, clock, c, _, ⟨authorized, rfl⟩, _, _, ⟨control, rfl⟩, _, _, signed,
    _, _, ⟨_, _, rfl⟩, out⟩ := ok
  obtain ⟨active, rfl⟩ := active_ok found
  cases clock
  obtain ⟨σ, rest, made, _, rfl⟩ := sign_ok signed
  cases out
  exact ⟨r, c, σ, rest, active, authorized, control, made, rfl⟩

structure Fresh (d : Records) (g : GrantRecord) : Prop where
  nonempty : g.id ≠ "" ∧ g.joinCode ≠ "" ∧ g.aliasText ≠ "" ∧ g.joinCode ≠ g.aliasText
  session : g.sessionID ∈ d.sessions
  id : g.id ∉ d.grants
  code : g.joinCode ∉ d.locators
  name : g.aliasText ∉ d.locators

theorem generateName_ok {words : Nat} {name : Name} (ok : generateName P words tx = (.ok name, tx')) :
    ∃ rest, P.generate words tx.entropy = .ok (name, rest) ∧ tx' = { tx with entropy := rest } := by
  simp only [generateName, Txn.bind_ok, Txn.get_run, Txn.lift_ok, Txn.modify_run, Txn.pure_run] at ok
  obtain ⟨_, _, read, drawn, _, ⟨generated, rfl⟩, _, _, moved, out⟩ := ok
  cases read
  cases moved
  cases out
  exact ⟨drawn.2, generated, rfl⟩

theorem allocate_ok {attempts shortCollisions : Nat} {out : Invitation}
    (ok : allocate P r id bus policy attempts shortCollisions tx = (.ok out, tx')) :
    ∃ words name code grantID drawn rest, code ∈ drawn ∧ grantID ∈ drawn ∧
      Fresh tx.data (newGrant r id bus words name code grantID tx.now) ∧
      tx' = { tx with
        data := tx.data.putGrant (newGrant r id bus words name code grantID tx.now)
        entropy := rest, drawn := tx.drawn ++ drawn } := by
  induction attempts generalizing shortCollisions tx with
  | zero => simp [allocate] at ok
  | succ attempts ih =>
    simp only [allocate, Txn.bind_ok, Tx.grant_run] at ok
    obtain ⟨name, _, generated, _, _, looked, ok⟩ := ok
    obtain ⟨rest, _, rfl⟩ := generateName_ok generated
    cases looked
    split at ok
    · obtain ⟨words, name', code, grantID, drawn, rest', hasCode, hasID, fresh, rfl⟩ := ih ok
      exact ⟨words, name', code, grantID, drawn, rest', hasCode, hasID, fresh, rfl⟩
    · simp only [Txn.bind_ok, Tx.clock_run, Txn.attempt_ok] at ok
      obtain ⟨code, _, drewCode, grantID, _, drewID, now, _, clock, stored, _, tried, ok⟩ := ok
      obtain ⟨_, rest', rfl⟩ := randomSessionID_ok drewCode
      obtain ⟨_, rest'', rfl⟩ := randomSessionID_ok drewID
      cases clock
      cases stored with
      | ok _ =>
        cases ok
        obtain ⟨_, _, nonempty, session, fresh, code', name', rfl⟩ := Tx.putGrant_ok.mp tried
        exact ⟨_, name, code, grantID, [code, grantID], rest'', by simp, by simp,
          ⟨nonempty, session, fresh, code', name'⟩, by simp [Tx.setData]⟩
      | error e =>
        have same := Tx.putGrant_error tried
        subst same
        cases e <;> try cases ok
        -- The attempt met a conflict; the transaction is as it was but for what it drew.
        simp only [Txn.bind_ok, Tx.grant_run] at ok
        obtain ⟨_, _, looked, ok⟩ := ok
        cases looked
        obtain ⟨words, name', code', grantID', drawn, rest, hasCode, hasID, fresh, rfl⟩ := ih ok
        exact ⟨words, name', code', grantID', [code, grantID] ++ drawn, rest, by simp [hasCode],
          by simp [hasID], fresh, by simp⟩

theorem createInvitationBody_ok {out : Invitation} (ok : s.createInvitationBody P id bus policy tx = (.ok out, tx')) :
    (tx.data.grants.size : Int) < s.config.maxInvitations ∧
    ∃ r words name code grantID drawn rest, s.Active tx.data tx.now id r ∧
      s.busReady r bus tx.now = true ∧ code ∈ drawn ∧ grantID ∈ drawn ∧
      Fresh tx.data (newGrant r id bus words name code grantID tx.now) ∧
      tx' = { tx with
        data := tx.data.putGrant (newGrant r id bus words name code grantID tx.now)
        entropy := rest, drawn := tx.drawn ++ drawn } := by
  simp only [createInvitationBody, Txn.bind_ok, Txn.mapError_ok, Tx.clock_run, Txn.require_ok,
    Tx.counts_run] at ok
  obtain ⟨r, _, found, _, _, clock, _, _, ⟨isReady, rfl⟩, _, _, counted, _, _, ⟨room, rfl⟩, ok⟩ := ok
  obtain ⟨active, rfl⟩ := active_ok found
  cases clock
  cases counted
  obtain ⟨words, name, code, grantID, drawn, rest, hasCode, hasID, fresh, rfl⟩ := allocate_ok ok
  exact ⟨room, r, words, name, code, grantID, drawn, rest, active, isReady, hasCode, hasID, fresh, rfl⟩

structure Replayed (P : Primitives) (s : Service) (d : Records) (now : Time)
    (locator code key : String) (response : Bytes) (receipt : Receipt) : Prop where
  keyed : key ≠ ""
  found : d.receipts.lookup (s.redeemDigests P locator code key).receiptKey = some receipt
  request : receipt.requestDigest = (s.redeemDigests P locator code key).request
  credential : receipt.credentialDigest = (s.redeemDigests P locator code key).credential
  fresh : now < receipt.expiresAt
  session : ∃ r, s.Active d now receipt.sessionID r
  response : response = receipt.response

structure Consumed (P : Primitives) (s : Service) (d : Records) (now : Time)
    (locator code key : String) (encode : ResolvedInvitation → Except Err Bytes) (response : Bytes)
    (grant : GrantRecord) (session : SessionRecord) (σ : Signed) : Prop where
  unanswered : key ≠ "" → d.receipts.lookup (s.redeemDigests P locator code key).receiptKey = none
  found : Tx.locate d locator = some grant
  fresh : now < grant.expiresAt
  code : grant.joinCode = code
  active : s.Active d now grant.sessionID session
  signed : σ.For (.redeem grant.id) session
    (Claims.request grant.sessionID grant.busID [] .subscriber false)
    (Time.truncate (now + s.config.subscriberTokenTTL))
  encoded : encode ⟨grant.sessionID, grant.busID, σ.token⟩ = .ok response

def redeemed (s : Service) (d : Records) (key : String) (digests : RedeemDigests)
    (grant : GrantRecord) (session : SessionRecord) (response : Bytes) (now : Time) : Records :=
  (if key ≠ "" then d.putReceipt (s.newReceipt digests grant session response now) else d).deleteGrant
    grant.id

theorem replay_ok {receipt : Receipt} (keyed : key ≠ "")
    (found : tx.data.receipts.lookup (s.redeemDigests P locator code key).receiptKey = some receipt)
    (ok : s.replay (s.redeemDigests P locator code key) receipt tx = (.ok out, tx')) :
    Replayed P s tx.data tx.now locator code key out receipt ∧ tx' = tx := by
  simp only [replay, Txn.bind_ok, Txn.require_ok, Tx.clock_run, Txn.mapError_ok, Txn.pure_run] at ok
  obtain ⟨_, _, ⟨⟨_, request, credential⟩, rfl⟩, _, _, clock, _, _, ⟨fresh, rfl⟩, r, _, session,
    out⟩ := ok
  cases clock
  obtain ⟨active, rfl⟩ := active_ok session
  cases out
  exact ⟨⟨keyed, found, request, credential, fresh, ⟨r, active⟩, rfl⟩, rfl⟩

theorem consume_ok
    (unanswered : key ≠ "" → tx.data.receipts.lookup (s.redeemDigests P locator code key).receiptKey = none)
    (ok : s.consume P locator code key (s.redeemDigests P locator code key) encode tx = (.ok out, tx')) :
    ∃ grant session σ rest, (key = "" ∨ (tx.data.receipts.size : Int) < s.config.maxReceipts) ∧
      Consumed P s tx.data tx.now locator code key encode out grant session σ ∧
      tx' = { tx with
        data := s.redeemed tx.data key (s.redeemDigests P locator code key) grant session out tx.now
        entropy := rest, signed := tx.signed ++ [σ] } := by
  simp only [consume, Txn.bind_ok, Tx.grant_run, Tx.clock_run] at ok
  obtain ⟨found, _, looked, _, _, clock, ok⟩ := ok
  cases looked
  cases clock
  cases stored : Tx.locate tx.data locator with
  | none =>
    rw [stored] at ok
    cases ok
  | some grant =>
    rw [stored] at ok
    simp only [Txn.bind_ok, Txn.require_ok, Txn.mapError_ok, Tx.counts_run, Txn.lift_ok,
      Tx.deleteGrant_ok, Txn.pure_run] at ok
    obtain ⟨_, _, ⟨⟨fresh, same⟩, rfl⟩, _, _, ⟨_, rfl⟩, session, _, found, _, _, counted, _, _,
      ⟨room, rfl⟩, token, _, signed, result, _, ⟨encoded, rfl⟩, _, _, ⟨_, rfl⟩, _, _, kept, _, _,
      ⟨_, rfl⟩, out⟩ := ok
    obtain ⟨active, rfl⟩ := active_ok found
    cases counted
    obtain ⟨σ, rest, made, rfl, rfl⟩ := sign_ok signed
    cases out
    refine ⟨grant, session, σ, rest, room, ⟨unanswered, stored, fresh, same, active, made, encoded⟩, ?_⟩
    rcases Txn.when_ok.mp kept with ⟨keyed, put⟩ | ⟨unkeyed, rfl⟩
    · obtain ⟨_, _, _, _, rfl⟩ := Tx.putReceipt_ok.mp put
      simp only [redeemed, if_pos keyed]
      rfl
    · simp only [redeemed, if_neg unkeyed]
      rfl

theorem redeemBody_ok (ok : s.redeemBody P locator code key encode tx = (.ok out, tx')) :
    (∃ receipt, Replayed P s tx.data tx.now locator code key out receipt ∧ tx' = tx) ∨
      ∃ grant session σ rest, (key = "" ∨ (tx.data.receipts.size : Int) < s.config.maxReceipts) ∧
        Consumed P s tx.data tx.now locator code key encode out grant session σ ∧
        tx' = { tx with
          data := s.redeemed tx.data key (s.redeemDigests P locator code key) grant session out tx.now
          entropy := rest, signed := tx.signed ++ [σ] } := by
  simp only [redeemBody, Txn.bind_ok] at ok
  obtain ⟨found, _, looked, ok⟩ := ok
  unfold findReceipt at looked
  split at looked
  · rename_i keyed
    cases looked
    cases stored : tx.data.receipts.lookup (s.redeemDigests P locator code key).receiptKey with
    | some receipt =>
      rw [stored] at ok
      exact .inl ⟨receipt, replay_ok keyed stored ok⟩
    | none =>
      rw [stored] at ok
      exact .inr (consume_ok (fun _ => stored) ok)
  · rename_i unkeyed
    cases looked
    exact .inr (consume_ok (fun keyed => absurd keyed unkeyed) ok)

theorem checkWriter_ok (ok : s.checkWriter tx = (.ok u, tx')) : s.Passes tx.data.ns ∧ tx = tx' := by
  simp only [checkWriter, Txn.bind_ok, Tx.ns_run, Txn.require_ok] at ok
  obtain ⟨_, _, read, passes, rfl⟩ := ok
  cases read
  exact ⟨passes, rfl⟩

theorem authorizeBody_ok (ok : s.authorizeBody P id encoded tx = (.ok c, tx')) :
    s.Passes tx.data.ns ∧ ∃ r, s.Active tx.data tx.now id r ∧
      s.authorizeRecord P r encoded tx.now = .ok c ∧ tx' = tx := by
  simp only [authorizeBody, Txn.bind_ok, Tx.clock_run, Txn.lift_ok] at ok
  obtain ⟨_, _, checked, r, _, found, _, _, clock, authorized, rfl⟩ := ok
  obtain ⟨passes, rfl⟩ := checkWriter_ok checked
  obtain ⟨active, rfl⟩ := active_ok found
  cases clock
  exact ⟨passes, r, active, authorized, rfl⟩

theorem metadataBody_ok {m : AuthorityMetadata} (ok : s.metadataBody id tx = (.ok m, tx')) :
    s.Passes tx.data.ns ∧ ∃ r, s.Active tx.data tx.now id r ∧ m = r.authority ∧ tx' = tx := by
  simp only [metadataBody, Txn.bind_ok, Txn.pure_run] at ok
  obtain ⟨_, _, checked, r, _, found, out⟩ := ok
  obtain ⟨passes, rfl⟩ := checkWriter_ok checked
  obtain ⟨active, rfl⟩ := active_ok found
  cases out
  exact ⟨passes, r, active, rfl, rfl⟩

theorem inspectBody_ok {m : InvitationMetadata} (ok : s.inspectBody P locator tx = (.ok m, tx')) :
    s.Passes tx.data.ns ∧ ∃ g r, Tx.locate tx.data locator = some g ∧ tx.now < g.expiresAt ∧
      s.Active tx.data tx.now g.sessionID r ∧ tx' = tx := by
  simp only [inspectBody, Txn.bind_ok, Tx.grant_run, Tx.clock_run] at ok
  obtain ⟨_, _, checked, found, _, looked, _, _, clock, ok⟩ := ok
  obtain ⟨passes, rfl⟩ := checkWriter_ok checked
  cases looked
  cases clock
  refine ⟨passes, ?_⟩
  cases stored : Tx.locate tx.data locator with
  | none =>
    rw [stored] at ok
    cases ok
  | some g =>
    rw [stored] at ok
    simp only [Txn.bind_ok, Txn.require_ok, Txn.mapError_ok, Txn.pure_run] at ok
    obtain ⟨_, _, ⟨fresh, rfl⟩, r, _, found, _, _, ⟨_, rfl⟩, out⟩ := ok
    obtain ⟨active, rfl⟩ := active_ok found
    cases out
    exact ⟨g, r, rfl, fresh, active, rfl⟩

theorem readyBody_ok (ok : s.readyBody tx = (.ok u, tx')) : s.Passes tx.data.ns ∧ tx' = tx := by
  simp only [readyBody, Txn.bind_ok, Tx.ns_run, Txn.require_ok] at ok
  obtain ⟨_, _, read, _, _, ⟨_, rfl⟩, checked⟩ := ok
  cases read
  obtain ⟨passes, rfl⟩ := checkWriter_ok checked
  exact ⟨passes, rfl⟩

def prologue (s : Service) (now : Time) (d : Records) : Records :=
  (d.putNamespace { d.ns with leaseExpiresAt := now + s.config.writerLeaseDuration }).pruneExpired now

theorem guarded_ok {α : Type} {fn : TxM α} {a : α} (ok : s.guarded P fn tx = (.ok a, tx')) :
    s.Passes tx.data.ns ∧ fn (tx.setData (s.prologue tx.now tx.data)) = (.ok a, tx') := by
  simp only [guarded, Txn.bind_ok, Tx.ns_run, Tx.clock_run, Tx.putNamespace_ok,
    Tx.pruneExpired_ok] at ok
  obtain ⟨_, _, checked, _, _, read, _, _, clock, _, _, ⟨_, _, rfl⟩, _, _, ⟨_, rfl⟩, ok⟩ := ok
  obtain ⟨passes, rfl⟩ := checkWriter_ok checked
  cases read
  cases clock
  exact ⟨passes, ok⟩

inductive Base (config : Config) (ns : Namespace) : List String → Namespace → Prop
  | first (id : String) :
    ns.incarnation = "" → id ≠ "" → Base config ns [id] ⟨schemaVersion, id, 1, config.writerID, 0⟩
  | recorded : ns.incarnation ≠ "" → Base config ns [] ns

theorem initialNamespace_ok {ns base : Namespace} (ok : initialNamespace config ns tx = (.ok base, tx')) :
    ∃ drawn rest, Base config ns drawn base ∧
      tx' = { tx with entropy := rest, drawn := tx.drawn ++ drawn } := by
  unfold initialNamespace at ok
  split at ok
  · rename_i fresh
    simp only [Txn.bind_ok, Txn.pure_run] at ok
    obtain ⟨id, _, drew, out⟩ := ok
    obtain ⟨nonempty, rest, rfl⟩ := randomSessionID_ok drew
    cases out
    exact ⟨[id], rest, .first id fresh nonempty, rfl⟩
  · rename_i recorded
    cases ok
    exact ⟨[], tx.entropy, .recorded recorded, by simp⟩

/-- The loop compares every step with the records it began with, so a row that was
listed then may be written at any later step. -/
theorem clearObservations_ok {d : Records} {rows : List SessionRecord} (ok : clearObservations P rows tx = (.ok u, tx'))
    (keyed : d.Keyed) (listed : ∀ r ∈ rows, d.sessions.lookup r.id = some r) (cleared : d.Cleared tx.data)
    (left : ∀ k r, tx.data.sessions.lookup k = some r → r.observed → r ∈ rows) :
    ∃ d', d.Cleared d' ∧ tx' = { tx with data := d' } ∧ ∀ k r, d'.sessions.lookup k = some r → ¬ r.observed := by
  have dropped (r : SessionRecord) : ¬ r.clear.observed := by simp [SessionRecord.observed, SessionRecord.clear]
  induction rows generalizing tx with
  | nil =>
    cases ok
    exact ⟨_, cleared, rfl, fun k r stored observed => absurd (left k r stored observed) List.not_mem_nil⟩
  | cons r rows ih =>
    simp only [clearObservations, Txn.bind_ok] at ok
    obtain ⟨_, _, done, ok⟩ := ok
    have rest : ∀ r ∈ rows, d.sessions.lookup r.id = some r :=
      fun r' member => listed r' (List.mem_cons_of_mem _ member)
    rcases Txn.when_ok.mp done with ⟨_, put⟩ | ⟨unobserved, rfl⟩
    · obtain ⟨_, _, rfl⟩ := Tx.putSession_ok.mp put
      have step : d.Cleared (tx.data.putSession r.clear) := by
        refine ⟨cleared.grants, cleared.locators, cleared.receipts, cleared.ns, ?_⟩
        intro k
        by_cases here : k = r.id
        · subst here
          exact .inr ⟨r, listed r List.mem_cons_self, Records.putSession_lookup_self _ r.clear⟩
        · rw [Records.putSession_lookup_ne (r := r.clear) here]
          exact cleared.sessions k
      apply ih ok rest step
      intro k r' stored observed
      rcases Records.putSession_sessions.mp stored with ⟨_, rfl⟩ | ⟨other, found⟩
      · exact absurd observed (dropped r)
      · rcases List.mem_cons.mp (left k r' found observed) with rfl | later
        · rcases cleared.sessions k with same | ⟨r, _, without⟩
          · exact absurd (keyed.sessions (same.symm.trans found)).symm other
          · rw [without] at found
            cases found
            exact absurd observed (dropped r)
        · exact later
    · apply ih ok rest cleared
      intro k r' stored observed
      rcases List.mem_cons.mp (left k r' stored observed) with rfl | later
      · exact absurd observed unobserved
      · exact later

theorem openNamespace_ok {secret : Bytes} {out : Service} (keyed : tx.data.Keyed)
    (ok : openNamespace P secret config tx = (.ok out, tx')) :
    ∃ drawn base ns rest d, Base config tx.data.ns drawn base ∧
      takeOver config tx.now (adoptWriter config base) = .ok ns ∧
      out = ⟨secret, config, ns.writerTerm, ns.incarnation⟩ ∧
      (tx.data.putNamespace
        { ns with leaseExpiresAt := tx.now + config.writerLeaseDuration }).Cleared d ∧
      tx' = { tx with data := d, entropy := rest, drawn := tx.drawn ++ drawn } ∧
      ∀ k r, d.sessions.lookup k = some r → ¬ r.observed := by
  simp only [openNamespace, Txn.bind_ok, Tx.ns_run, Txn.require_ok, Tx.clock_run, Txn.lift_ok,
    Tx.putNamespace_ok, Txn.pure_run] at ok
  obtain ⟨_, _, read, _, _, ⟨_, rfl⟩, base, _, initial, _, _, clock, ns, _, ⟨taken, rfl⟩, _, _,
    ⟨_, _, rfl⟩, rows, _, listed, _, _, cleared, out⟩ := ok
  cases read
  obtain ⟨drawn, rest, start, rfl⟩ := initialNamespace_ok initial
  cases clock
  obtain ⟨rfl, rows_iff⟩ := Tx.sessions_ok listed
  have own : ∀ r ∈ rows, tx.data.sessions.lookup r.id = some r := by
    intro r member
    obtain ⟨k, found⟩ := (rows_iff r).mp member
    rw [keyed.sessions found]
    exact found
  obtain ⟨d, done, rfl, unobserved⟩ := clearObservations_ok cleared
    (d := tx.data.putNamespace { ns with leaseExpiresAt := tx.now + config.writerLeaseDuration })
    ⟨keyed.sessions, keyed.grants⟩ own ⟨rfl, rfl, rfl, rfl, fun _ => .inl rfl⟩
    fun k r stored _ => (rows_iff r).mpr ⟨k, stored⟩
  cases out
  exact ⟨drawn, base, ns, rest, d, start, taken, rfl, done, rfl, unobserved⟩

end Service

def Records.deleteRows (rows : List SessionRecord) (d : Records) : Records :=
  rows.foldl (fun d r => d.deleteSession r.id) d

namespace Records

variable {rows : List SessionRecord} {d : Records} {k : String}

theorem deleteRows_sessions {r : SessionRecord} : (d.deleteRows rows).sessions.lookup k = some r ↔
      d.sessions.lookup k = some r ∧ ∀ row ∈ rows, k ≠ row.id := by
  induction rows generalizing d with
  | nil => simp [deleteRows]
  | cons row rows ih =>
    refine ih.trans ?_
    rw [deleteSession_sessions, Table.lookup_erase_some, List.forall_mem_cons]
    tauto

theorem deleteRows_grants {g : GrantRecord} : (d.deleteRows rows).grants.lookup k = some g ↔
      d.grants.lookup k = some g ∧ ∀ row ∈ rows, g.sessionID ≠ row.id := by
  induction rows generalizing d with
  | nil => simp [deleteRows]
  | cons row rows ih =>
    refine ih.trans ?_
    rw [deleteSession_grants, List.forall_mem_cons]
    tauto

theorem deleteRows_receipts {c : Receipt} : (d.deleteRows rows).receipts.lookup k = some c ↔
      d.receipts.lookup k = some c ∧ ∀ row ∈ rows, c.sessionID ≠ row.id := by
  induction rows generalizing d with
  | nil => simp [deleteRows]
  | cons row rows ih =>
    refine ih.trans ?_
    rw [deleteSession_receipts, List.forall_mem_cons]
    tauto

end Records

variable {tx tx' : Tx} {u : Unit}

theorem deleteRows_ok {rows : List SessionRecord} (ok : deleteRows rows tx = (.ok u, tx')) :
    tx' = { tx with data := tx.data.deleteRows rows } := by
  induction rows generalizing tx with
  | nil =>
    cases ok
    rfl
  | cons r rows ih =>
    simp only [deleteRows, Txn.bind_ok, Tx.deleteSession_ok] at ok
    obtain ⟨_, _, ⟨_, rfl⟩, ok⟩ := ok
    exact ih ok

theorem resetBody_ok {P : Primitives} {maxSessions : Int} (ok : resetBody P maxSessions tx = (.ok u, tx')) :
    ∃ rows id rest, (∀ r, r ∈ rows ↔ ∃ k, tx.data.sessions.lookup k = some r) ∧
      tx' = { tx with
        data := (tx.data.deleteRows rows).putNamespace ⟨schemaVersion, id, 0, "", 0⟩
        entropy := rest, drawn := tx.drawn ++ [id] } := by
  simp only [resetBody, Txn.bind_ok, Tx.putNamespace_ok] at ok
  obtain ⟨rows, _, listed, _, _, deleted, id, _, drew, _, _, rfl⟩ := ok
  obtain ⟨rfl, rows_iff⟩ := Tx.sessions_ok listed
  have emptied := deleteRows_ok deleted
  subst emptied
  obtain ⟨_, rest, rfl⟩ := randomSessionID_ok drew
  exact ⟨rows, id, rest, rows_iff, rfl⟩

end Relay
