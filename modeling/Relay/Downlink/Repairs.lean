import Relay.Downlink.RetransmissionCache
import Relay.Lib.Run

/-! What the retransmission cache answers to a NACK, compared with the history of the calls
and not with the cache: the last packet stored in the place, and the grants since. -/
namespace Relay

namespace RetransmissionCache

variable {c : RetransmissionCache} {o : OwnedPackets} {seq : UInt16} {nowNs : Int} {k : Slot}

def Due (c : RetransmissionCache) (j : Fin retransmissionCachePackets) (nowNs : Int) : Prop :=
  (c.slots j).retransmitCount < maxRetransmissionsPerPacket ∧
    ((c.slots j).lastRetransmitAtNs ≠ 0 → c.throttle ≤ nowNs - (c.slots j).lastRetransmitAtNs)

theorem load_missed (other : ∀ k, (c.slots (index seq)).owned = some k → (o.packet k).sequenceNumber ≠ seq) :
    c.load o seq nowNs = (c, .missed) := by
  unfold load
  cases here : (c.slots (index seq)).owned with
  | none => simp only [here]
  | some k => simp only [here, if_pos (other k here)]

theorem load_throttled (here : (c.slots (index seq)).owned = some k) (same : (o.packet k).sequenceNumber = seq)
    (early : ¬ c.Due (index seq) nowNs) : c.load o seq nowNs = (c, .throttled) := by
  simp only [load, here, same, ne_eq, not_true_eq_false, if_false]
  by_cases spent : maxRetransmissionsPerPacket ≤ (c.slots (index seq)).retransmitCount
  · rw [if_pos spent]
  · have recent : (c.slots (index seq)).lastRetransmitAtNs ≠ 0 ∧
        nowNs - (c.slots (index seq)).lastRetransmitAtNs < c.throttle := by
      by_contra late
      apply early
      refine ⟨Nat.lt_of_not_le spent, fun before => ?_⟩
      by_contra soon
      exact late ⟨before, Int.lt_of_not_ge soon⟩
    rw [if_neg spent, if_pos recent]

theorem load_granted (here : (c.slots (index seq)).owned = some k) (same : (o.packet k).sequenceNumber = seq)
    (due : c.Due (index seq) nowNs) :
    c.load o seq nowNs =
      ({ c with
          slots := Function.update c.slots (index seq)
            ⟨some k, nowNs, (c.slots (index seq)).retransmitCount + 1⟩ }, .granted k) := by
  have late : ¬ ((c.slots (index seq)).lastRetransmitAtNs ≠ 0 ∧
      nowNs - (c.slots (index seq)).lastRetransmitAtNs < c.throttle) :=
    fun recent => Int.not_le.mpr recent.2 (due.2 recent.1)
  simp only [load, here, same, ne_eq, not_true_eq_false, if_false]
  rw [if_neg (Nat.not_le.mpr due.1), if_neg late]

end RetransmissionCache

structure RepairStore where
  owned : OwnedPackets
  cache : RetransmissionCache

inductive RepairCall where
  | claim (k : Slot) (pkt : RtpPacket)
  | write (k : Slot) (pkt : RtpPacket)
  | release (k : Slot)
  | storeOwned (k : Slot)
  | setRTT (rtt : Duration)
  | load (seq : UInt16) (nowNs : Int)

/-- A load is at a positive time, and a reported round trip is below 2^62 ns. -/
def RepairCall.Regular : RepairCall → Prop
  | .load _ nowNs => 0 < nowNs
  | .setRTT rtt => rtt < 2 ^ 62
  | _ => True

instance : (call : RepairCall) → Decidable call.Regular
  | .load _ nowNs => inferInstanceAs (Decidable (0 < nowNs))
  | .setRTT rtt => inferInstanceAs (Decidable (rtt < 2 ^ 62))
  | .claim .. | .write .. | .release .. | .storeOwned .. => .isTrue trivial

namespace RepairStore

def new : RepairStore := ⟨.new, .new⟩

def Held (s : RepairStore) (k : Slot) : Prop :=
  s.owned.claimed k = true ∧ ∀ j, (s.cache.slots j).owned ≠ some k

instance (s : RepairStore) (k : Slot) : Decidable (s.Held k) := inferInstanceAs (Decidable (_ ∧ _))

/-- `storeOwned` with the release of the previous packet. -/
def storeOwned (s : RepairStore) (k : Slot) : RepairStore :=
  let (cache, previous) := s.cache.storeOwned s.owned k
  ⟨previous.elim s.owned s.owned.release, cache⟩

def step (s : RepairStore) : RepairCall → Option RepairStore
  | .claim k pkt => if s.owned.claimed k then none else some { s with owned := s.owned.claim k pkt }
  | .write k pkt => if s.Held k then some { s with owned := s.owned.write k pkt } else none
  | .release k => if s.Held k then some { s with owned := s.owned.release k } else none
  | .storeOwned k => if s.Held k then some (s.storeOwned k) else none
  | .setRTT rtt => some { s with cache := s.cache.setRTT rtt }
  | .load seq nowNs => some { s with cache := (s.cache.load s.owned seq nowNs).1 }

end RepairStore

abbrev RepairHistory : Type := List (Step RepairStore RepairCall)

def storedIn (j : Fin retransmissionCachePackets) (x : Step RepairStore RepairCall) : Option RtpPacket :=
  match x.event with
  | .storeOwned k =>
    let pkt := x.before.owned.packet k
    if RetransmissionCache.index pkt.sequenceNumber = j then some pkt else none
  | _ => none

def grantedIn (j : Fin retransmissionCachePackets) (x : Step RepairStore RepairCall) : Option Int :=
  match x.event with
  | .load seq nowNs =>
    if RetransmissionCache.index seq = j then
      match (x.before.cache.load x.before.owned seq nowNs).2 with
      | .granted _ => some nowNs
      | _ => none
    else none
  | _ => none

namespace RepairHistory

def lastStored (j : Fin retransmissionCachePackets) (h : RepairHistory) : Option RtpPacket :=
  h.foldl (fun stored x => (storedIn j x).or stored) none

def grants (j : Fin retransmissionCachePackets) (h : RepairHistory) : List Int :=
  h.foldl (fun times x => if (storedIn j x).isSome then [] else times ++ (grantedIn j x).toList) []

/-- The round trip last reported; negative reports do not count. -/
def rtt (h : RepairHistory) : Duration :=
  h.foldl (fun rtt x =>
    match x.event with
    | .setRTT d => if 0 ≤ d then d else rtt
    | _ => rtt) 0

def Regular (h : RepairHistory) : Prop := ∀ x ∈ h, x.event.Regular

instance (h : RepairHistory) : Decidable h.Regular := inferInstanceAs (Decidable (∀ x ∈ h, _))

variable {j : Fin retransmissionCachePackets} {h : RepairHistory} {x : Step RepairStore RepairCall}

theorem lastStored_snoc : lastStored j (h ++ [x]) = (storedIn j x).or (lastStored j h) := by
  simp only [lastStored, List.foldl_append, List.foldl_cons, List.foldl_nil]

theorem grants_snoc :
    grants j (h ++ [x]) = if (storedIn j x).isSome then [] else grants j h ++ (grantedIn j x).toList := by
  simp only [grants, List.foldl_append, List.foldl_cons, List.foldl_nil]

theorem Regular.shorter (regular : Regular (h ++ [x])) : Regular h :=
  fun y member => regular y (List.mem_append_left _ member)

theorem Regular.last (regular : Regular (h ++ [x])) : x.event.Regular := regular x (by simp)

end RepairHistory

open RetransmissionCache (index)

def repairInterval (rtt : Duration) : Duration :=
  if rtt = 0 then maxRetransmissionThrottle
  else min (max (2 * rtt) minRetransmissionThrottle) maxRetransmissionThrottle

theorem RetransmissionCache.throttle_eq {c : RetransmissionCache} (low : 0 ≤ c.rttNs) (high : c.rttNs < 2 ^ 62) :
    c.throttle = repairInterval c.rttNs := by
  unfold throttle repairInterval
  by_cases zero : c.rttNs = 0
  · rw [if_pos zero, if_neg (by omega)]
  · have exact : (2 * c.rttNs).bmod (2 ^ 64) = 2 * c.rttNs := Int.bmod_eq_of_le (by omega) (by omega)
    rw [if_neg zero, if_pos (by omega), exact]

structure Recorded (j : Fin retransmissionCachePackets) (h : RepairHistory) (o : OwnedPackets)
    (slot : RetransmissionSlot) : Prop where
  stored : h.lastStored j = slot.owned.map o.packet
  count : slot.retransmitCount = (h.grants j).length
  last : slot.lastRetransmitAtNs = (h.grants j).getLast?.getD 0
  positive : ∀ time ∈ h.grants j, 0 < time

structure RepairStore.Agrees (h : RepairHistory) (s : RepairStore) : Prop where
  recorded : ∀ j, Recorded j h s.owned (s.cache.slots j)
  claimed : ∀ j k, (s.cache.slots j).owned = some k → s.owned.claimed k = true
  apart : ∀ i j k, (s.cache.slots i).owned = some k → (s.cache.slots j).owned = some k → i = j
  rtt : s.cache.rttNs = h.rtt
  low : 0 ≤ h.rtt
  high : h.rtt < 2 ^ 62

variable {h : RepairHistory} {j : Fin retransmissionCachePackets} {slot : RetransmissionSlot} {o : OwnedPackets}
  {k : Slot} {x : Step RepairStore RepairCall}

theorem Recorded.keep {o' : OwnedPackets} (recorded : Recorded j h o slot) (unstored : storedIn j x = none)
    (ungranted : grantedIn j x = none) (same : ∀ k, slot.owned = some k → o'.packet k = o.packet k) :
    Recorded j (h ++ [x]) o' slot := by
  have times : RepairHistory.grants j (h ++ [x]) = h.grants j := by
    rw [RepairHistory.grants_snoc, unstored, ungranted]
    exact List.append_nil _
  refine ⟨?_, ?_, ?_, ?_⟩
  · rw [RepairHistory.lastStored_snoc, unstored, Option.none_or, recorded.stored]
    exact Option.map_congr fun k here => (same k here).symm
  · rw [times, recorded.count]
  · rw [times, recorded.last]
  · rw [times]
    exact recorded.positive

theorem Recorded.store (stored : storedIn j x = some (o.packet k)) : Recorded j (h ++ [x]) o ⟨some k, 0, 0⟩ := by
  have times : RepairHistory.grants j (h ++ [x]) = [] := by
    rw [RepairHistory.grants_snoc, stored]
    rfl
  refine ⟨?_, ?_, ?_, ?_⟩
  · rw [RepairHistory.lastStored_snoc, stored]
    rfl
  · rw [times]
    rfl
  · rw [times]
    rfl
  · rw [times]
    exact nofun

theorem Recorded.grant {nowNs : Int} (recorded : Recorded j h o slot) (here : slot.owned = some k)
    (unstored : storedIn j x = none) (granted : grantedIn j x = some nowNs) (positive : 0 < nowNs) :
    Recorded j (h ++ [x]) o ⟨some k, nowNs, slot.retransmitCount + 1⟩ := by
  have times : RepairHistory.grants j (h ++ [x]) = h.grants j ++ [nowNs] := by
    rw [RepairHistory.grants_snoc, unstored, granted]
    rfl
  refine ⟨?_, ?_, ?_, ?_⟩
  · rw [RepairHistory.lastStored_snoc, unstored, Option.none_or, recorded.stored, here]
  · simp [times, recorded.count]
  · simp [times]
  · intro time member
    rw [times, List.mem_append, List.mem_singleton] at member
    rcases member with old | rfl
    · exact recorded.positive time old
    · exact positive

namespace RepairStore

variable {h : RepairHistory} {s : RepairStore} {k : Slot}

theorem Agrees.new : Agrees [] new where
  recorded _ := ⟨rfl, rfl, rfl, nofun⟩
  claimed := nofun
  apart := nofun
  rtt := rfl
  low := le_rfl
  high := by decide

theorem Agrees.outside {x : Step RepairStore RepairCall} {o : OwnedPackets} (agrees : Agrees h s)
    (unstored : ∀ j, storedIn j x = none) (ungranted : ∀ j, grantedIn j x = none)
    (rtt : RepairHistory.rtt (h ++ [x]) = h.rtt)
    (same : ∀ k, (∃ j, (s.cache.slots j).owned = some k) →
      o.packet k = s.owned.packet k ∧ o.claimed k = s.owned.claimed k) :
    Agrees (h ++ [x]) { s with owned := o } where
  recorded j := (agrees.recorded j).keep (unstored j) (ungranted j) fun k here => (same k ⟨j, here⟩).1
  claimed j k here := (same k ⟨j, here⟩).2.trans (agrees.claimed j k here)
  apart := agrees.apart
  rtt := agrees.rtt.trans rtt.symm
  low := rtt ▸ agrees.low
  high := rtt ▸ agrees.high

theorem Held.ne (held : s.Held k) {k' : Slot} (inside : ∃ j, (s.cache.slots j).owned = some k') : k' ≠ k := by
  rintro rfl
  obtain ⟨j, here⟩ := inside
  exact held.2 j here

variable {t : RepairStore}

theorem Agrees.storeOwned (agrees : Agrees h s) (held : s.Held k) :
    Agrees (h ++ [⟨s, .storeOwned k, t⟩]) (s.storeOwned k) := by
  have rtt : RepairHistory.rtt (h ++ [⟨s, .storeOwned k, t⟩]) = h.rtt := by
    simp only [RepairHistory.rtt, List.foldl_append, List.foldl_cons, List.foldl_nil]
  generalize place : index (s.owned.packet k).sequenceNumber = j
  have slots : (s.storeOwned k).cache.slots = Function.update s.cache.slots j ⟨some k, 0, 0⟩ := by
    rw [← place]
    rfl
  have owned : (s.storeOwned k).owned = (s.cache.slots j).owned.elim s.owned s.owned.release := by
    rw [← place]
    rfl
  -- only the packet that was in the place is given back
  have kept : ∀ k', (s.cache.slots j).owned ≠ some k' →
      (s.storeOwned k).owned.packet k' = s.owned.packet k' ∧
        (s.storeOwned k).owned.claimed k' = s.owned.claimed k' := by
    intro k' other
    rw [owned]
    cases previous : (s.cache.slots j).owned with
    | none => exact ⟨rfl, rfl⟩
    | some p =>
      have ne : k' ≠ p := by
        rintro rfl
        exact other previous
      exact ⟨Function.update_of_ne ne _ _, Function.update_of_ne ne _ _⟩
  have away : ∀ i k', i ≠ j → (s.cache.slots i).owned = some k' → (s.cache.slots j).owned ≠ some k' :=
    fun i k' ne here there => ne (agrees.apart i j k' here there)
  refine ⟨?_, ?_, ?_, agrees.rtt.trans rtt.symm, rtt ▸ agrees.low, rtt ▸ agrees.high⟩
  · intro i
    rw [slots]
    by_cases same : i = j
    · subst same
      rw [Function.update_self]
      apply Recorded.store
      rw [(kept k (held.2 i)).1]
      exact if_pos place
    · rw [Function.update_of_ne same]
      apply (agrees.recorded i).keep
      · exact if_neg fun here => same (here.symm.trans place)
      · rfl
      · exact fun k' here => (kept k' (away i k' same here)).1
  · intro i k' here
    rw [slots] at here
    by_cases same : i = j
    · subst same
      rw [Function.update_self] at here
      cases here
      rw [(kept k (held.2 i)).2]
      exact held.1
    · rw [Function.update_of_ne same] at here
      rw [(kept k' (away i k' same here)).2]
      exact agrees.claimed i k' here
  · intro i i' k' here there
    rw [slots] at here there
    by_cases first : i = j <;> by_cases second : i' = j
    · exact first.trans second.symm
    · rw [first, Function.update_self] at here
      rw [Function.update_of_ne second] at there
      cases here
      exact absurd there (held.2 i')
    · rw [second, Function.update_self] at there
      rw [Function.update_of_ne first] at here
      cases there
      exact absurd here (held.2 i)
    · rw [Function.update_of_ne first] at here
      rw [Function.update_of_ne second] at there
      exact agrees.apart i i' k' here there

theorem load_cases (s : RepairStore) (seq : UInt16) (nowNs : Int) :
    ((s.cache.load s.owned seq nowNs).1 = s.cache ∧ ∀ k, (s.cache.load s.owned seq nowNs).2 ≠ .granted k) ∨
      ∃ k, (s.cache.slots (index seq)).owned = some k ∧
        s.cache.load s.owned seq nowNs =
          ({ s.cache with
              slots := Function.update s.cache.slots (index seq)
                ⟨some k, nowNs, (s.cache.slots (index seq)).retransmitCount + 1⟩ }, .granted k) := by
  by_cases other : ∀ k, (s.cache.slots (index seq)).owned = some k → (s.owned.packet k).sequenceNumber ≠ seq
  · rw [RetransmissionCache.load_missed other]
    exact .inl ⟨rfl, nofun⟩
  · push Not at other
    obtain ⟨k, here, same⟩ := other
    by_cases due : s.cache.Due (index seq) nowNs
    · exact .inr ⟨k, here, RetransmissionCache.load_granted here same due⟩
    · rw [RetransmissionCache.load_throttled here same due]
      exact .inl ⟨rfl, nofun⟩

theorem Agrees.load (agrees : Agrees h s) (seq : UInt16) {nowNs : Int} (positive : 0 < nowNs) :
    Agrees (h ++ [⟨s, .load seq nowNs, t⟩]) { s with cache := (s.cache.load s.owned seq nowNs).1 } := by
  have rtt : RepairHistory.rtt (h ++ [⟨s, .load seq nowNs, t⟩]) = h.rtt := by
    simp only [RepairHistory.rtt, List.foldl_append, List.foldl_cons, List.foldl_nil]
  have owned := s.cache.load_owned s.owned seq nowNs
  refine ⟨?_, ?_, ?_, ?_, rtt ▸ agrees.low, rtt ▸ agrees.high⟩
  · intro j
    rcases s.load_cases seq nowNs with ⟨same, ungranted⟩ | ⟨k, here, granted⟩
    · rw [same]
      apply (agrees.recorded j).keep
      · rfl
      · cases answer : (s.cache.load s.owned seq nowNs).2 with
        | granted k => exact absurd answer (ungranted k)
        | missed | throttled => simp only [grantedIn, answer, ite_self]
      · exact fun _ _ => rfl
    · rw [granted]
      by_cases place : index seq = j
      · subst place
        simp only [Function.update_self]
        apply (agrees.recorded _).grant here
        · rfl
        · simp only [grantedIn, if_true, granted]
        · exact positive
      · simp only [Function.update_of_ne (Ne.symm place)]
        apply (agrees.recorded j).keep
        · rfl
        · exact if_neg place
        · exact fun _ _ => rfl
  · intro j k here
    exact agrees.claimed j k ((owned j).symm.trans here)
  · intro i j k here there
    exact agrees.apart i j k ((owned i).symm.trans here) ((owned j).symm.trans there)
  · rw [rtt, ← agrees.rtt]
    rcases s.load_cases seq nowNs with ⟨same, _⟩ | ⟨k, _, granted⟩
    · rw [same]
    · rw [granted]

theorem Agrees.setRTT (agrees : Agrees h s) {rtt : Duration} (small : rtt < 2 ^ 62) :
    Agrees (h ++ [⟨s, .setRTT rtt, t⟩]) { s with cache := s.cache.setRTT rtt } := by
  have current : RepairHistory.rtt (h ++ [⟨s, .setRTT rtt, t⟩]) = if 0 ≤ rtt then rtt else h.rtt := by
    simp only [RepairHistory.rtt, List.foldl_append, List.foldl_cons, List.foldl_nil]
  have slots : (s.cache.setRTT rtt).slots = s.cache.slots := by
    unfold RetransmissionCache.setRTT
    split_ifs <;> rfl
  have rate : (s.cache.setRTT rtt).rttNs = if 0 ≤ rtt then rtt else s.cache.rttNs := by
    unfold RetransmissionCache.setRTT
    split_ifs <;> rfl
  refine ⟨?_, ?_, ?_, ?_, ?_, ?_⟩
  · intro j
    simp only [slots]
    exact (agrees.recorded j).keep rfl rfl fun _ _ => rfl
  · simpa only [slots] using agrees.claimed
  · simpa only [slots] using agrees.apart
  · rw [current, rate, agrees.rtt]
  · rw [current]
    split_ifs with sign
    · exact sign
    · exact agrees.low
  · rw [current]
    split_ifs
    · exact small
    · exact agrees.high

theorem Agrees.step {call : RepairCall} (agrees : Agrees h s) (regular : RepairHistory.Regular (h ++ [⟨s, call, t⟩]))
    (moves : s.step call = some t) : Agrees (h ++ [⟨s, call, t⟩]) t := by
  have rtt : (∀ d, call ≠ .setRTT d) → RepairHistory.rtt (h ++ [⟨s, call, t⟩]) = h.rtt := by
    intro other
    rw [RepairHistory.rtt, List.foldl_append]
    cases call with
    | setRTT d => exact absurd rfl (other d)
    | claim | write | release | storeOwned | load => rfl
  cases call with
  | claim k pkt =>
    obtain ⟨free, ⟨⟩⟩ := Option.ite_none_left_eq_some.mp moves
    apply agrees.outside (fun _ => rfl) (fun _ => rfl) (rtt nofun)
    rintro k' ⟨j, here⟩
    have ne : k' ≠ k := by
      rintro rfl
      exact free (agrees.claimed j k' here)
    exact ⟨Function.update_of_ne ne _ _, Function.update_of_ne ne _ _⟩
  | write k pkt =>
    obtain ⟨held, ⟨⟩⟩ := Option.ite_none_right_eq_some.mp moves
    apply agrees.outside (fun _ => rfl) (fun _ => rfl) (rtt nofun)
    intro k' inside
    exact ⟨Function.update_of_ne (held.ne inside) _ _, rfl⟩
  | release k =>
    obtain ⟨held, ⟨⟩⟩ := Option.ite_none_right_eq_some.mp moves
    apply agrees.outside (fun _ => rfl) (fun _ => rfl) (rtt nofun)
    intro k' inside
    exact ⟨Function.update_of_ne (held.ne inside) _ _, Function.update_of_ne (held.ne inside) _ _⟩
  | storeOwned k =>
    obtain ⟨held, ⟨⟩⟩ := Option.ite_none_right_eq_some.mp moves
    exact agrees.storeOwned held
  | setRTT d =>
    obtain rfl := Option.some.inj moves
    exact agrees.setRTT regular.last
  | load seq nowNs =>
    obtain rfl := Option.some.inj moves
    exact agrees.load seq regular.last

theorem agrees_of_run (run : Exec (Machine.Moves step) new h s) (regular : h.Regular) : Agrees h s :=
  Exec.history (G := RepairHistory.Regular) (I := Agrees) RepairHistory.Regular.shorter Agrees.new
    (fun _ regular agrees moves => agrees.step regular moves) run regular

end RepairStore

def RepairHistory.Due (h : RepairHistory) (j : Fin retransmissionCachePackets) (nowNs : Int) : Prop :=
  (h.grants j).length < maxRetransmissionsPerPacket ∧
    ∀ last ∈ (h.grants j).getLast?, repairInterval h.rtt ≤ nowNs - last

theorem RepairStore.Agrees.due_iff {s : RepairStore} (agrees : s.Agrees h) (j : Fin retransmissionCachePackets)
    (nowNs : Int) : s.cache.Due j nowNs ↔ h.Due j nowNs := by
  have recorded := agrees.recorded j
  have interval : s.cache.throttle = repairInterval h.rtt := by
    rw [← agrees.rtt]
    exact RetransmissionCache.throttle_eq (agrees.rtt ▸ agrees.low) (agrees.rtt ▸ agrees.high)
  unfold RetransmissionCache.Due RepairHistory.Due
  rw [recorded.count, recorded.last, interval]
  apply and_congr_right'
  cases latest : (h.grants j).getLast? with
  | none => simp
  | some time =>
    have positive := recorded.positive time (List.mem_of_getLast? latest)
    simp [positive.ne']

/-- The answer to a NACK is decided by the history: the packet last stored in the place is
granted if it has the number, at most three times, and not before the interval is over. A
refusal changes nothing. -/
theorem retransmission_exact {h : RepairHistory} {s : RepairStore}
    (run : Exec (Machine.Moves RepairStore.step) .new h s) (regular : h.Regular) (seq : UInt16) (nowNs : Int) :
    ((∃ k, (s.cache.load s.owned seq nowNs).2 = .granted k) ↔
        ∃ pkt, h.lastStored (index seq) = some pkt ∧ pkt.sequenceNumber = seq ∧ h.Due (index seq) nowNs) ∧
      (∀ k, (s.cache.load s.owned seq nowNs).2 = .granted k →
        h.lastStored (index seq) = some (s.owned.packet k)) ∧
      ((s.cache.load s.owned seq nowNs).2 = .missed ↔
        ∀ pkt, h.lastStored (index seq) = some pkt → pkt.sequenceNumber ≠ seq) ∧
      ((s.cache.load s.owned seq nowNs).2 = .throttled ↔
        ∃ pkt, h.lastStored (index seq) = some pkt ∧ pkt.sequenceNumber = seq ∧ ¬ h.Due (index seq) nowNs) ∧
      ((∀ k, (s.cache.load s.owned seq nowNs).2 ≠ .granted k) → (s.cache.load s.owned seq nowNs).1 = s.cache) := by
  have agrees := RepairStore.agrees_of_run run regular
  have stored := (agrees.recorded (index seq)).stored
  have due := agrees.due_iff (index seq) nowNs
  by_cases other : ∀ k, (s.cache.slots (index seq)).owned = some k → (s.owned.packet k).sequenceNumber ≠ seq
  · have differs : ∀ pkt, h.lastStored (index seq) = some pkt → pkt.sequenceNumber ≠ seq := by
      intro pkt last
      rw [stored] at last
      obtain ⟨k, here, rfl⟩ := Option.map_eq_some_iff.mp last
      exact other k here
    rw [RetransmissionCache.load_missed other]
    refine ⟨?_, nofun, ?_, ?_, fun _ => rfl⟩
    · exact ⟨nofun, fun ⟨pkt, last, same, _⟩ => absurd same (differs pkt last)⟩
    · exact ⟨fun _ => differs, fun _ => rfl⟩
    · exact ⟨nofun, fun ⟨pkt, last, same, _⟩ => absurd same (differs pkt last)⟩
  · push Not at other
    obtain ⟨k, here, same⟩ := other
    have last : h.lastStored (index seq) = some (s.owned.packet k) := by rw [stored, here, Option.map_some]
    by_cases ready : s.cache.Due (index seq) nowNs
    · rw [RetransmissionCache.load_granted here same ready]
      refine ⟨?_, ?_, ?_, ?_, ?_⟩
      · exact ⟨fun _ => ⟨_, last, same, due.mp ready⟩, fun _ => ⟨k, rfl⟩⟩
      · intro k' granted
        cases granted
        exact last
      · exact ⟨nofun, fun differs => absurd same (differs _ last)⟩
      · exact ⟨nofun, fun ⟨_, _, _, early⟩ => absurd (due.mp ready) early⟩
      · exact fun refused => absurd rfl (refused k)
    · rw [RetransmissionCache.load_throttled here same ready]
      refine ⟨?_, nofun, ?_, ?_, fun _ => rfl⟩
      · exact ⟨nofun, fun ⟨_, _, _, late⟩ => absurd (due.mpr late) ready⟩
      · exact ⟨nofun, fun differs => absurd same (differs _ last)⟩
      · exact ⟨fun _ => ⟨_, last, same, fun late => ready (due.mpr late)⟩, fun _ => rfl⟩

namespace Plain

def storedPacket : RtpPacket := { RtpPacket.zero with sequenceNumber := 517 }

def repairCalls : List RepairCall :=
  [.claim ⟨0, by decide⟩ storedPacket, .storeOwned ⟨0, by decide⟩, .setRTT (10 * millisecond), .load 517 1]

def repaired : RepairStore := Machine.final RepairStore.step .new repairCalls

def repairs : RepairHistory := Machine.trail RepairStore.step .new repairCalls

end Plain

open Plain in
/-- The packet is granted again after 20 ms and not before, and not for the number 512 less. -/
theorem retransmission_exact_twice :
    (∃ k, (repaired.cache.load repaired.owned 517 20000001).2 = .granted k) ∧
      (repaired.cache.load repaired.owned 517 20000000).2 = .throttled ∧
      (repaired.cache.load repaired.owned 5 20000001).2 = .missed := by
  have run : Exec (Machine.Moves RepairStore.step) .new repairs repaired :=
    Machine.exec_of_allows (by decide +kernel)
  have regular : repairs.Regular := by decide +kernel
  have stored : repairs.lastStored (index 517) = some storedPacket := by decide +kernel
  have once : repairs.grants (index 517) = [1] := by decide +kernel
  have rtt : repairs.rtt = 10 * millisecond := by decide +kernel
  refine ⟨?_, ?_, ?_⟩
  · apply (retransmission_exact run regular 517 20000001).1.mpr
    refine ⟨storedPacket, stored, rfl, ?_⟩
    rw [RepairHistory.Due, once, rtt]
    decide
  · apply (retransmission_exact run regular 517 20000000).2.2.2.1.mpr
    refine ⟨storedPacket, stored, rfl, ?_⟩
    rw [RepairHistory.Due, once, rtt]
    decide
  · apply (retransmission_exact run regular 5 20000001).2.2.1.mpr
    intro pkt last
    cases stored.symm.trans last
    decide

end Relay
