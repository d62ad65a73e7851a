import Relay.Access.Token
import Relay.Lib.Table

/-! Which bus each track of a WebSocket publisher goes to. The declaration of the publisher is
checked once against the scope of its capability; the tracks then claim their buses in
whatever order they arrive. -/
namespace Relay

def maxPublishBusBindings : Nat := 16
def maxPublishIdentifier : Nat := 64

structure PublishBusBinding where
  streamID : String
  busID : String
deriving DecidableEq

inductive MessageType where
  | publish
  | subscribe
deriving DecidableEq

/-- The fields of a signaling message that choose a Session and a bus. `publishBuses` is
`none` when the list is absent, which is not an empty list. -/
structure ClientMessage where
  type : MessageType
  sessionID : String
  roomID : String
  busID : String
  publishBuses : Option (List PublishBusBinding)
  token : String
deriving DecidableEq

def ClientMessage.effectiveSessionID (m : ClientMessage) : String := if m.sessionID ≠ "" then m.sessionID else m.roomID

inductive PublishErr where
  | ambiguousPublishBus
  | publishBusCount
  | publishBusIdentity
  | publishBusDuplicate
  | publishBusScope
  | publishTrackUnknown (streamID : String)
  | publishTrackClaimed (streamID : Option String)
deriving DecidableEq

/-- The texts of the errors, without the stream that two of them quote. -/
def PublishErr.text : PublishErr → String
  | .ambiguousPublishBus => "PUBLISH cannot combine bus_id with publish_buses"
  | .publishBusCount => "publish_buses must contain between 1 and 16 bindings"
  | .publishBusIdentity => "publish_buses contains an invalid stream_id or bus_id"
  | .publishBusDuplicate => "publish_buses stream_id and bus_id values must be unique"
  | .publishBusScope => "publish_buses exceeds the source token bus scope"
  | .publishTrackUnknown _ => "publisher track is not declared in publish_buses"
  | .publishTrackClaimed _ => "publisher track has already attached to an AudioBus"

def validPublishIdentifier (value : String) : Bool := validIdentifier value maxPublishIdentifier

structure PublishBusPlan where
  legacyBusID : String
  byStreamID : Table String String
  claimed : List String

def declareBuses (claims : Claims) :
    List PublishBusBinding → Table String String → List String → Except PublishErr (Table String String)
  | [], byStreamID, _ => .ok byStreamID
  | binding :: rest, byStreamID, busIDs =>
    if validPublishIdentifier binding.streamID = false ∨ validPublishIdentifier binding.busID = false then
      .error .publishBusIdentity
    else if claims.allowsBus binding.busID = false then .error .publishBusScope
    else if (byStreamID.lookup binding.streamID).isSome then .error .publishBusDuplicate
    else if binding.busID ∈ busIDs then .error .publishBusDuplicate
    else declareBuses claims rest (byStreamID.insert binding.streamID binding.busID) (binding.busID :: busIDs)

def legacyBus (message : ClientMessage) (claims : Claims) : String :=
  if message.busID = "" ∧ claims.busIDs.length = 1 then claims.busIDs.headD "" else message.busID

def newPublishBusPlan (message : ClientMessage) (claims : Claims) : Except PublishErr PublishBusPlan :=
  match message.publishBuses with
  | none =>
    if legacyBus message claims = "" ∨ claims.allowsBus (legacyBus message claims) = false then .error .publishBusScope
    else .ok ⟨legacyBus message claims, ∅, []⟩
  | some bindings =>
    if message.busID ≠ "" then .error .ambiguousPublishBus
    else if bindings.length = 0 ∨ maxPublishBusBindings < bindings.length then .error .publishBusCount
    else
      match declareBuses claims bindings ∅ [] with
      | .error e => .error e
      | .ok byStreamID => .ok ⟨"", byStreamID, []⟩

namespace PublishBusPlan

def primaryBusID (plan : PublishBusPlan) : String := plan.legacyBusID

def claim (plan : PublishBusPlan) (streamID : String) : Except PublishErr String × PublishBusPlan :=
  if plan.legacyBusID ≠ "" then
    if plan.claimed.length ≠ 0 then (.error (.publishTrackClaimed none), plan)
    else (.ok plan.legacyBusID, { plan with claimed := streamID :: plan.claimed })
  else
    match plan.byStreamID.lookup streamID with
    | none => (.error (.publishTrackUnknown streamID), plan)
    | some busID =>
      if streamID ∈ plan.claimed then (.error (.publishTrackClaimed (some streamID)), plan)
      else (.ok busID, { plan with claimed := streamID :: plan.claimed })

def after (plan : PublishBusPlan) (arrivals : List String) : PublishBusPlan :=
  arrivals.foldl (fun plan streamID => (plan.claim streamID).2) plan

def served : PublishBusPlan → List String → List (String × String)
  | _, [] => []
  | plan, streamID :: rest =>
    match plan.claim streamID with
    | (.ok busID, plan') => (streamID, busID) :: served plan' rest
    | (.error _, plan') => served plan' rest

def Offers (plan : PublishBusPlan) (streamID busID : String) : Prop :=
  plan.legacyBusID ≠ "" ∧ plan.claimed = [] ∧ busID = plan.legacyBusID ∨
    plan.legacyBusID = "" ∧ plan.byStreamID.lookup streamID = some busID ∧ streamID ∉ plan.claimed

def Separate (plan : PublishBusPlan) : Prop :=
  ∀ s t busID, plan.byStreamID.lookup s = some busID → plan.byStreamID.lookup t = some busID → s = t

def record (plan : PublishBusPlan) (streamID : String) : PublishBusPlan :=
  { plan with claimed := streamID :: plan.claimed }

variable {plan plan' : PublishBusPlan} {s t busID busID' : String}

theorem claim_cases (plan : PublishBusPlan) (s : String) :
    (∃ busID, plan.Offers s busID ∧ plan.claim s = (.ok busID, plan.record s)) ∨
      (∀ busID, ¬ plan.Offers s busID) ∧ ∃ e, plan.claim s = (.error e, plan) := by
  unfold claim Offers
  by_cases legacy : plan.legacyBusID = ""
  · rw [if_neg (not_not.mpr legacy)]
    cases found : plan.byStreamID.lookup s with
    | none => exact .inr ⟨by simp [legacy], _, rfl⟩
    | some busID =>
      by_cases again : s ∈ plan.claimed
      · exact .inr ⟨by simp [legacy, again], _, if_pos again⟩
      · exact .inl ⟨busID, .inr ⟨legacy, rfl, again⟩, if_neg again⟩
  · rw [if_pos legacy]
    by_cases fresh : plan.claimed = []
    · refine .inl ⟨plan.legacyBusID, .inl ⟨legacy, fresh, rfl⟩, if_neg ?_⟩
      rw [fresh]
      exact not_not.mpr rfl
    · exact .inr ⟨by simp [legacy, fresh], _, if_pos (mt List.length_eq_zero_iff.mp fresh)⟩

theorem claim_ok_iff : (plan.claim s).1 = .ok busID ↔ plan.Offers s busID := by
  rcases claim_cases plan s with ⟨given, offers, done⟩ | ⟨nothing, e, failed⟩
  · rw [done]
    constructor
    · rintro ⟨⟩
      exact offers
    · intro other
      rcases offers with ⟨legacy, _, rfl⟩ | ⟨legacy, found, _⟩
      · rcases other with ⟨_, _, rfl⟩ | ⟨none, _⟩
        · rfl
        · exact absurd none legacy
      · rcases other with ⟨some, _⟩ | ⟨_, found', _⟩
        · exact absurd legacy some
        · rw [found] at found'
          rw [Option.some.inj found']
  · rw [failed]
    exact ⟨nofun, fun offers => absurd offers (nothing busID)⟩

theorem offers_of_record (offers : (plan.record s).Offers t busID) : plan.Offers t busID := by
  rcases offers with ⟨_, fresh, _⟩ | ⟨legacy, found, unclaimed⟩
  · cases fresh
  · exact .inr ⟨legacy, found, fun member => unclaimed (List.mem_cons_of_mem _ member)⟩

theorem record_offers (separate : plan.Separate) (given : plan.Offers s busID)
    (offers : (plan.record s).Offers t busID') : t ≠ s ∧ busID' ≠ busID := by
  rcases offers with ⟨_, fresh, _⟩ | ⟨legacy, found, unclaimed⟩
  · cases fresh
  · have other : t ≠ s := by
      rintro rfl
      exact unclaimed List.mem_cons_self
    refine ⟨other, ?_⟩
    rintro rfl
    rcases given with ⟨some, _⟩ | ⟨_, found', _⟩
    · exact some legacy
    · exact other (separate t s busID' found found')

theorem offers_of_served {arrivals : List String} (member : (s, busID) ∈ plan.served arrivals) :
    plan.Offers s busID := by
  induction arrivals generalizing plan with
  | nil => cases member
  | cons t rest ih =>
    rcases claim_cases plan t with ⟨given, offers, done⟩ | ⟨_, e, failed⟩
    · rw [served, done] at member
      rcases List.mem_cons.mp member with same | later
      · cases same
        exact offers
      · exact offers_of_record (ih later)
    · rw [served, failed] at member
      exact ih member

theorem served_pairwise (separate : plan.Separate) (arrivals : List String) :
    (plan.served arrivals).Pairwise fun x y => x.1 ≠ y.1 ∧ x.2 ≠ y.2 := by
  induction arrivals generalizing plan with
  | nil => exact .nil
  | cons s rest ih =>
    rcases claim_cases plan s with ⟨given, offers, done⟩ | ⟨_, e, failed⟩
    · rw [served, done]
      refine .cons ?_ (ih separate)
      rintro ⟨t, busID⟩ later
      obtain ⟨other, apart⟩ := record_offers separate offers (offers_of_served later)
      exact ⟨other.symm, apart.symm⟩
    · rw [served, failed]
      exact ih separate

theorem after_snoc (plan : PublishBusPlan) (arrivals : List String) (s : String) :
    plan.after (arrivals ++ [s]) = ((plan.after arrivals).claim s).2 := by
  rw [after, List.foldl_append]
  rfl

theorem after_declared (plan : PublishBusPlan) (arrivals : List String) :
    (plan.after arrivals).legacyBusID = plan.legacyBusID ∧ (plan.after arrivals).byStreamID = plan.byStreamID := by
  induction arrivals generalizing plan with
  | nil => exact ⟨rfl, rfl⟩
  | cons s rest ih =>
    obtain ⟨legacy, streams⟩ := ih (plan.claim s).2
    rcases claim_cases plan s with ⟨_, _, done⟩ | ⟨_, e, failed⟩
    · rw [done] at legacy streams
      rw [after, List.foldl_cons, done]
      exact ⟨legacy, streams⟩
    · rw [failed] at legacy streams
      rw [after, List.foldl_cons, failed]
      exact ⟨legacy, streams⟩

theorem after_claimed (plan : PublishBusPlan) (arrivals : List String) :
    s ∈ (plan.after arrivals).claimed ↔ s ∈ (plan.served arrivals).map Prod.fst ∨ s ∈ plan.claimed := by
  induction arrivals generalizing plan with
  | nil => simp [after, served]
  | cons t rest ih =>
    have later := ih (plan.claim t).2
    rcases claim_cases plan t with ⟨_, _, done⟩ | ⟨_, e, failed⟩
    · rw [done] at later
      rw [after, List.foldl_cons, served, done]
      exact later.trans (by simp [record, or_left_comm, or_assoc])
    · rw [failed] at later
      rw [after, List.foldl_cons, served, failed]
      exact later

theorem claim_error {e : PublishErr} (failed : (plan.claim s).1 = .error e) : (plan.claim s).2 = plan := by
  rcases claim_cases plan s with ⟨_, _, done⟩ | ⟨_, _, kept⟩
  · rw [done] at failed
    cases failed
  · rw [kept]

end PublishBusPlan

structure DeclaredBuses (claims : Claims) (bindings : List PublishBusBinding) (byStreamID : Table String String) :
    Prop where
  exact : ∀ s busID, byStreamID.lookup s = some busID ↔ ⟨s, busID⟩ ∈ bindings
  scope : ∀ x ∈ bindings, claims.allowsBus x.busID = true
  buses : (bindings.map PublishBusBinding.busID).Nodup

namespace DeclaredBuses

variable {claims : Claims} {bindings : List PublishBusBinding} {byStreamID : Table String String}

theorem empty (claims : Claims) : DeclaredBuses claims [] ∅ where
  exact s busID := by simp
  scope := nofun
  buses := .nil

theorem snoc (declared : DeclaredBuses claims bindings byStreamID) {x : PublishBusBinding}
    (scope : claims.allowsBus x.busID = true) (fresh : byStreamID.lookup x.streamID = none)
    (unused : x.busID ∉ bindings.map PublishBusBinding.busID) :
    DeclaredBuses claims (bindings ++ [x]) (byStreamID.insert x.streamID x.busID) where
  exact s busID := by
    rw [Table.lookup_insert_some, List.mem_append, List.mem_singleton, declared.exact]
    constructor
    · rintro (⟨rfl, rfl⟩ | ⟨_, old⟩)
      · exact .inr rfl
      · exact .inl old
    · rintro (old | rfl)
      · refine .inr ⟨?_, old⟩
        rintro rfl
        rw [(declared.exact x.streamID busID).mpr old] at fresh
        cases fresh
      · exact .inl ⟨rfl, rfl⟩
  scope y member := by
    rcases List.mem_append.mp member with old | newest
    · exact declared.scope y old
    · rw [List.mem_singleton.mp newest]
      exact scope
  buses := by
    rw [List.map_append, List.map_singleton, List.nodup_append]
    refine ⟨declared.buses, List.nodup_singleton _, ?_⟩
    intro busID old newest member
    rw [List.mem_singleton.mp member]
    rintro rfl
    exact unused old

theorem separate (declared : DeclaredBuses claims bindings byStreamID) {legacyBusID : String} {claimed : List String} :
    (⟨legacyBusID, byStreamID, claimed⟩ : PublishBusPlan).Separate := by
  intro s t busID first second
  have there := (declared.exact s busID).mp first
  have here := (declared.exact t busID).mp second
  have same := List.inj_on_of_nodup_map declared.buses there here rfl
  exact congrArg PublishBusBinding.streamID same

end DeclaredBuses

variable {claims : Claims}

theorem declareBuses_ok {before rest : List PublishBusBinding} {byStreamID result : Table String String}
    {busIDs : List String} (declared : DeclaredBuses claims before byStreamID)
    (named : ∀ busID, busID ∈ busIDs ↔ busID ∈ before.map PublishBusBinding.busID)
    (accepted : declareBuses claims rest byStreamID busIDs = .ok result) :
    DeclaredBuses claims (before ++ rest) result := by
  induction rest generalizing before byStreamID busIDs with
  | nil =>
    cases accepted
    rwa [List.append_nil]
  | cons x rest ih =>
    rw [declareBuses] at accepted
    split_ifs at accepted with invalid foreign again repeated
    have more := declared.snoc (Bool.eq_true_of_not_eq_false foreign) (Option.not_isSome_iff_eq_none.mp again)
      (mt (named x.busID).mpr repeated)
    have next := ih more (fun busID => by simp [named busID, or_comm]) accepted
    rwa [List.append_assoc] at next

variable {message : ClientMessage} {plan : PublishBusPlan}

section

variable (accepted : newPublishBusPlan message claims = .ok plan)

include accepted

theorem newPublishBusPlan_ok :
    plan.claimed = [] ∧
      (message.publishBuses = none ∧ plan.legacyBusID ≠ "" ∧ claims.allowsBus plan.legacyBusID = true ∧
          plan.byStreamID = ∅ ∨
        ∃ bindings, message.publishBuses = some bindings ∧ plan.legacyBusID = "" ∧
          DeclaredBuses claims bindings plan.byStreamID) := by
  unfold newPublishBusPlan at accepted
  split at accepted
  · rename_i absent
    split_ifs at accepted with refused
    cases accepted
    push Not at refused
    exact ⟨rfl, .inl ⟨absent, refused.1, Bool.eq_true_of_not_eq_false refused.2, rfl⟩⟩
  · rename_i bindings present
    split_ifs at accepted with both count
    split at accepted
    · cases accepted
    · rename_i byStreamID loop
      cases accepted
      exact ⟨rfl, .inr ⟨bindings, present, rfl, declareBuses_ok (.empty claims) (fun _ => Iff.rfl) loop⟩⟩

theorem newPublishBusPlan_separate : plan.Separate := by
  obtain ⟨_, ⟨_, _, _, empty⟩ | ⟨bindings, _, _, declared⟩⟩ := newPublishBusPlan_ok accepted
  · intro s t busID found
    rw [empty] at found
    cases found
  · exact declared.separate

theorem claim_declared {bindings : List PublishBusBinding} (declares : message.publishBuses = some bindings)
    (arrivals : List String) (s busID : String) :
    ((plan.after arrivals).claim s).1 = .ok busID ↔
      ⟨s, busID⟩ ∈ bindings ∧ s ∉ (plan.served arrivals).map Prod.fst := by
  obtain ⟨legacy, streams⟩ := plan.after_declared arrivals
  obtain ⟨unclaimed, ⟨absent, _⟩ | ⟨bindings', present, none, declared⟩⟩ := newPublishBusPlan_ok accepted
  · rw [declares] at absent
    cases absent
  · rw [declares] at present
    cases present
    rw [PublishBusPlan.claim_ok_iff, PublishBusPlan.Offers, legacy, streams, PublishBusPlan.after_claimed, unclaimed,
      none, declared.exact]
    simp

theorem offered_in_scope {arrivals : List String} {s busID : String} (offers : (plan.after arrivals).Offers s busID) :
    claims.allowsBus busID = true := by
  obtain ⟨legacy, streams⟩ := plan.after_declared arrivals
  obtain ⟨_, ⟨_, some, allowed, _⟩ | ⟨bindings, _, none, declared⟩⟩ := newPublishBusPlan_ok accepted
  · rcases offers with ⟨_, _, rfl⟩ | ⟨none, _⟩
    · rw [legacy]
      exact allowed
    · exact absurd (legacy.symm.trans none) some
  · rcases offers with ⟨some, _⟩ | ⟨_, found, _⟩
    · exact absurd (legacy.trans none) some
    · rw [streams] at found
      exact declared.scope _ ((declared.exact s busID).mp found)

end

end Relay
