import Relay.Access.Service

/-! One-use invitations: allocation of a readable name, inspection, and redemption
with an optional retry receipt. -/
namespace Relay

def invitationTTL : Duration := 15 * minute
def visibilityPublic : String := "public"
def visibilityPrivate : String := "private"
def maxResponseBytes : Nat := 16384

structure InvitationOptions where
  visibility : String
  wordCount : Int

structure Invitation where
  wordCount : Nat
  code : String
  aliasText : String
  visibility : String
  expiresAt : Time
deriving DecidableEq

structure InvitationMetadata where
  wordCount : Nat
  aliasText : String
  visibility : String
  expiresAt : Time
deriving DecidableEq

structure ResolvedInvitation where
  sessionID : String
  busID : String
  subscriberToken : String
deriving DecidableEq

namespace Service

def selectedWords (options : InvitationOptions) : Except Err (Option Nat) :=
  let words : Except Err (Option Nat) :=
    if options.visibility = "" then .ok none
    else if options.visibility = visibilityPublic then .ok (some 2)
    else if options.visibility = visibilityPrivate then .ok (some 3)
    else .error .invalidInvitationVisibility
  match words with
  | .error e => .error e
  | .ok words =>
    if options.wordCount = 0 then .ok words
    else if options.wordCount < minWordCount ∨ maxWordCount < options.wordCount ∨ words ≠ none then
      .error .invalidWordCount
    else .ok (some options.wordCount.toNat)

def busReady (s : Service) (r : SessionRecord) (bus : String) (now : Time) : Bool :=
  if s.staleObservation r now then false
  else if bus = mix then r.state.ready
  else if bus ∉ r.requiredBuses then false
  else
    match r.relay.buses.find? (·.busID == bus) with
    | none => false
    | some b => b.sourceActive

/-- The words of the next attempt: a fixed count, or three after eight collisions. -/
def attemptWords (policy : String) (shortCollisions : Nat) : Nat :=
  match fixedCount policy with
  | some fixed => fixed
  | none => if 8 ≤ shortCollisions then 3 else 2

def generateName (P : Primitives) (words : Nat) : TxM Name := do
  let tx ← Txn.get
  let drawn ← Txn.lift (P.generate words tx.entropy)
  Txn.modify fun tx => { tx with entropy := drawn.2 }
  pure drawn.1

def grantExpiry (r : SessionRecord) (now : Time) : Time :=
  if r.expiresAt < now + invitationTTL then r.expiresAt else now + invitationTTL

def wordsVisibility (words : Nat) : String :=
  if 3 ≤ words then visibilityPrivate else visibilityPublic

def newGrant (r : SessionRecord) (id bus : String) (words : Nat) (name : Name)
    (code grantID : String) (now : Time) : GrantRecord :=
  { schemaVersion := schemaVersion
    id := grantID
    joinCode := code
    aliasText := name.text
    grammarName := name.grammarName
    wordCount := words
    visibility := wordsVisibility words
    sessionID := id
    busID := bus
    createdAt := now
    expiresAt := grantExpiry r now }

/-- The bounded loop of attempts, with the short names found occupied so far. -/
def allocate (P : Primitives) (r : SessionRecord) (id bus policy : String) :
    Nat → Nat → TxM Invitation
  | 0, _ => Txn.throw .nameAllocationUnavailable
  | attempts + 1, shortCollisions => do
    let words := attemptWords policy shortCollisions
    let name ← generateName P words
    let occupied ← Tx.grant name.text
    if occupied.isSome then
      allocate P r id bus policy attempts (if words = 2 then shortCollisions + 1 else shortCollisions)
    else do
      let code ← randomSessionID
      let grantID ← randomSessionID
      let now ← Tx.clock
      let stored ← Txn.attempt (Tx.putGrant P (newGrant r id bus words name code grantID now))
      match stored with
      | .ok _ => pure ⟨words, code, name.text, wordsVisibility words, grantExpiry r now⟩
      | .error .conflict => do
        -- A code or ID conflict consumes budget but cannot trigger longer names.
        let occupied ← Tx.grant name.text
        allocate P r id bus policy attempts
          (if occupied.isSome ∧ words = 2 then shortCollisions + 1 else shortCollisions)
      | .error e => Txn.throw e

def invitationAttempts : Nat := 32

def createInvitationBody (P : Primitives) (s : Service) (id bus policy : String) :
    TxM Invitation := do
  let r ← Txn.mapError absent (s.active id)
  let now ← Tx.clock
  Txn.require (s.busReady r bus now) .sessionNotReady
  let counts ← Tx.counts
  Txn.require ((counts.grantCount : Int) < s.config.maxInvitations) .invitationCapacity
  allocate P r id bus policy invitationAttempts 0

def createInvitation (P : Primitives) (s : Service) (id bus : String) (options : InvitationOptions)
    (env : Env) (st : Store) : Ran Invitation :=
  match selectedWords options with
  | .error e => st.refuse e
  | .ok words =>
    let policy := match words with
      | none => s.config.namePolicy
      | some count => fixedNamePolicy count
    s.update P env st (s.createInvitationBody P id bus policy)

def inspectBody (P : Primitives) (s : Service) (locator : String) : TxM InvitationMetadata := do
  s.checkWriter
  let found ← Tx.grant locator
  let now ← Tx.clock
  match found with
  | none => Txn.throw .notExist
  | some r => do
    Txn.require (now < r.expiresAt) .notExist
    let _ ← Txn.mapError absent (s.active r.sessionID)
    Txn.require (P.parseStored r.grammarName r.aliasText) .invalidGrammar
    pure ⟨r.wordCount, r.aliasText, r.visibility, r.expiresAt⟩

def inspectInvitation (P : Primitives) (s : Service) (locator : String) (env : Env) (st : Store) :
    Ran InvitationMetadata :=
  if locator = "" ∨ maxNameBytes < locator.utf8ByteSize then st.refuse .notExist
  else view env st (s.inspectBody P locator)

structure RedeemDigests where
  request : Digest
  credential : Digest
  receiptKey : String

/-- A locator that is itself a join code stands for an omitted code. -/
def effectiveCode (P : Primitives) (locator code : String) : String :=
  if code = "" ∧ validOpaqueInvitationCode P locator then locator else code

def requestMessage (locator : String) : String := "redeem\x00" ++ locator
def codeMessage (code : String) : String := "join\x00" ++ code
def keyMessage (key : String) : String := "redeem\x00" ++ key

def redeemDigests (P : Primitives) (s : Service) (locator code key : String) : RedeemDigests :=
  { request := P.sha256 (requestMessage locator)
    credential := P.hmacSHA256 s.secret (codeMessage code)
    receiptKey := (P.sha256 (keyMessage key)).hex }

def redeemOperation : String := "redeem"

def replay (s : Service) (digests : RedeemDigests) (receipt : Receipt) : TxM Bytes := do
  Txn.require (receipt.operation = redeemOperation ∧ receipt.requestDigest = digests.request ∧
    receipt.credentialDigest = digests.credential) .retryConflict
  let now ← Tx.clock
  Txn.require (now < receipt.expiresAt) .notExist
  let _ ← Txn.mapError absent (s.active receipt.sessionID)
  pure receipt.response

/-- A receipt expires with the first of its own lifetime, its grant, its Session
and the capability it carries. -/
def receiptExpiry (s : Service) (grant : GrantRecord) (session : SessionRecord) (now : Time) : Time :=
  [grant.expiresAt, session.expiresAt, Time.truncate (now + s.config.subscriberTokenTTL)].foldl
    (fun expires bound => if bound < expires then bound else expires) (now + s.config.receiptTTL)

def newReceipt (s : Service) (digests : RedeemDigests) (grant : GrantRecord)
    (session : SessionRecord) (response : Bytes) (now : Time) : Receipt :=
  { schemaVersion := schemaVersion
    key := digests.receiptKey
    operation := redeemOperation
    sessionID := grant.sessionID
    requestDigest := digests.request
    credentialDigest := digests.credential
    response := response
    statusCode := 200
    createdAt := now
    expiresAt := s.receiptExpiry grant session now }

def consume (P : Primitives) (s : Service) (locator code key : String) (digests : RedeemDigests)
    (encode : ResolvedInvitation → Except Err Bytes) : TxM Bytes := do
  let found ← Tx.grant locator
  let now ← Tx.clock
  match found with
  | none => Txn.throw .notExist
  | some grant => do
    Txn.require (now < grant.expiresAt ∧ grant.joinCode = code) .notExist
    Txn.require (P.parseStored grant.grammarName grant.aliasText) .invalidGrammar
    let session ← Txn.mapError absent (s.active grant.sessionID)
    let counts ← Tx.counts
    Txn.require (key = "" ∨ (counts.receiptCount : Int) < s.config.maxReceipts) .receiptCapacity
    let credential ← s.sign P (.redeem grant.id) session
      (Claims.request grant.sessionID grant.busID [] .subscriber false)
      s.config.subscriberTokenTTL now
    let result ← Txn.lift (encode ⟨grant.sessionID, grant.busID, credential⟩)
    Txn.require (result.length ≤ maxResponseBytes) .capacity
    Txn.when (key ≠ "") (Tx.putReceipt P (s.newReceipt digests grant session result now))
    Tx.deleteGrant grant.id
    pure result

def findReceipt (key receiptKey : String) : TxM (Option Receipt) :=
  if key ≠ "" then Tx.receipt receiptKey else pure none

def redeemBody (P : Primitives) (s : Service) (locator code key : String)
    (encode : ResolvedInvitation → Except Err Bytes) : TxM Bytes := do
  let digests := s.redeemDigests P locator code key
  let found ← findReceipt key digests.receiptKey
  match found with
  | some receipt => s.replay digests receipt
  | none => s.consume P locator code key digests encode

def redeem (P : Primitives) (s : Service) (locator code key : String)
    (encode : ResolvedInvitation → Except Err Bytes) (env : Env) (st : Store) : Ran Bytes :=
  let code := effectiveCode P locator code
  if validOpaqueInvitationCode P code = false ∨ maxNameBytes < locator.utf8ByteSize ∨
      locator = "" then
    st.refuse .notExist
  else if key ≠ "" ∧ (key.utf8ByteSize < 16 ∨ 128 < key.utf8ByteSize ∨
      validIdentifier key 128 = false) then
    st.refuse .retryConflict
  else s.update P env st (s.redeemBody P locator code key encode)

end Service

end Relay
