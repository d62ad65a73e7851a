import Relay.Lib.Table
import Mathlib.Algebra.Ring.Int.Defs
import Mathlib.Data.String.Basic

/-! The data model of the access service: instants, failures, the stored records
and the capability payload. Strings are compared and measured as the source does;
revision counters and terms are unbounded naturals. -/
namespace Relay

abbrev Time : Type := Int

abbrev Duration : Type := Int

abbrev Bytes : Type := List UInt8

abbrev Digest : Type := Vector UInt8 32

def millisecond : Duration := 1000000
def second : Duration := 1000000000
def minute : Duration := 60 * second
def hour : Duration := 60 * minute

def maxDuration : Duration := 2 ^ 63 - 1
def minDuration : Duration := -2 ^ 63

/-- The difference of two instants saturates at the limits of a duration. -/
def Time.sub (t u : Time) : Duration := max minDuration (min maxDuration (t - u))

def Time.truncate (t : Time) : Time := t - t % second

def Time.isZero (t : Time) : Bool := t == 0

inductive Err where
  | noRows
  | notExist
  | sessionCapacity
  | invitationCapacity
  | sessionNotReady
  | writerFenced
  | invalidWordCount
  | invalidInvitationVisibility
  | nameAllocationUnavailable
  | retryConflict
  | receiptCapacity
  | invalidRelayState
  | invalidCapability
  | conflict
  | readOnly
  | closed
  | capacity
  | unsupportedSchema
  | invalidGrammar
  | invalidConfiguration
  | entropy
  | encoding
  | contextDone
deriving DecidableEq

def schemaVersion : Nat := 1
def maxRecordBytes : Nat := 262144

structure Namespace where
  schemaVersion : Nat
  incarnation : String
  writerTerm : Nat
  writerID : String
  leaseExpiresAt : Time
deriving DecidableEq

def Namespace.empty : Namespace := ⟨0, "", 0, "", 0⟩

structure BusState where
  busID : String
  role : String
  sourceActive : Bool
  sourceGeneration : Nat
deriving DecidableEq

structure SubscriptionState where
  subscriberID : String
  busID : String
deriving DecidableEq

structure RelayState where
  contractVersion : Nat
  sessionID : String
  relayEpoch : String
  revision : Nat
  writerTerm : Nat
  observedAt : Time
  buses : List BusState
  subscriptions : List SubscriptionState
deriving DecidableEq

def RelayState.empty : RelayState := ⟨0, "", "", 0, 0, 0, [], []⟩

structure SessionRecord where
  schemaVersion : Nat
  id : String
  issuer : String
  incarnation : String
  legacyTokensBefore : Time
  requiredBuses : List String
  codec : String
  stateRevision : Nat
  relay : RelayState
  writerTerm : Nat
  mediaTerm : Nat
  lastActiveAt : Time
  expiresAt : Time
deriving DecidableEq

structure GrantRecord where
  schemaVersion : Nat
  id : String
  joinCode : String
  aliasText : String
  grammarName : String
  wordCount : Nat
  visibility : String
  sessionID : String
  busID : String
  createdAt : Time
  expiresAt : Time
deriving DecidableEq

structure Receipt where
  schemaVersion : Nat
  key : String
  operation : String
  sessionID : String
  requestDigest : Digest
  credentialDigest : Digest
  response : Bytes
  statusCode : Nat
  createdAt : Time
  expiresAt : Time
deriving DecidableEq

structure Counts where
  sessionCount : Nat
  grantCount : Nat
  receiptCount : Nat
deriving DecidableEq

structure Records where
  sessions : Table String SessionRecord
  grants : Table String GrantRecord
  locators : Table String String
  receipts : Table String Receipt
  ns : Namespace

def Records.empty : Records := ⟨∅, ∅, ∅, ∅, Namespace.empty⟩

/-- The operation a capability authorizes. A decoded token may carry any text. -/
inductive Role where
  | source
  | subscriber
  | other (text : String)
deriving DecidableEq

def Role.text : Role → String
  | .source => "source"
  | .subscriber => "subscriber"
  | .other text => text

structure Claims where
  sessionID : String
  busID : String
  busIDs : List String
  role : Role
  control : Bool
  incarnation : String
  issuer : String
  subject : String
  audience : List String
  expiresAt : Option Time
  notBefore : Option Time
  issuedAt : Option Time
  id : String
deriving DecidableEq

inductive Origin where
  | create
  | renew (presented : Claims)
  | issue
  | redeem (grantID : String)
deriving DecidableEq

structure Signed where
  origin : Origin
  record : SessionRecord
  claims : Claims
  token : String
deriving DecidableEq

structure Header where
  alg : String
  typ : String
deriving DecidableEq

structure Name where
  text : String
  grammarName : String
  wordCount : Nat
deriving DecidableEq

inductive Stored where
  | ns (r : Namespace)
  | session (r : SessionRecord)
  | grant (r : GrantRecord)
  | receipt (r : Receipt)

/-- What the service calls and this development does not embed: the two digests,
the token library, the UUID library, the serialized size of a record and the
readable names. No property of them is assumed here. -/
structure Primitives where
  sha256 : String → Digest
  hmacSHA256 : Bytes → String → Digest
  signedString : Bytes → Header → Claims → String
  /-- The header and claims of a well-formed token whose signature verifies. -/
  parse : Bytes → String → Option (Header × Claims)
  uuidParse : String → Bool
  marshal : Stored → Option Nat
  generate : Nat → Bytes → Except Err (Name × Bytes)
  parseStored : String → String → Bool

end Relay
