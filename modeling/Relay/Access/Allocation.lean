import Relay.Access.System
import Relay.Names.Bijection

/-! The allocation of an invitation's name. The loop is cut into its attempts, each of which
stores a grant, meets an occupied name or another conflict, or fails; the words of an attempt
follow from the attempts before it. -/
namespace Relay

structure RandomSource where
  int : Nat → Bytes → Except Err (Nat × Bytes)
  below : ∀ {max : Nat} {bytes rest : Bytes} {n : Nat}, int max bytes = .ok (n, rest) → n < max

namespace Names

def generate (T : Tables) (random : RandomSource) (failure : Fault NameError → Err) (count : Nat) (bytes : Bytes) :
    Except Err (Name × Bytes) :=
  if T.capacityBig count = 0 then .error (failure (.failed .wordCount))
  else
    match random.int (T.capacityBig count) bytes with
    | .error e => .error e
    | .ok (index, rest) =>
      match T.atBig (some index) count with
      | .error e => .error (failure e)
      | .ok name => .ok (name, rest)

def wordsIn (text : String) : List String := Text.split '-' text

theorem generate_words {random : RandomSource} {failure : Fault NameError → Err} {count : Nat} {bytes rest : Bytes}
    {name : Name} (many : minWordCount ≤ count) (few : count ≤ maxWordCount)
    (generated : generate tables random failure count bytes = .ok (name, rest)) :
    (wordsIn name.text).length = count := by
  have ranks : Ranks tables (Lexicon.recorded count) count :=
    Lexicon.ranks lexicon_wellFormed lexicon_supplied many few
  unfold generate at generated
  split at generated
  · cases generated
  · split at generated
    · cases generated
    · rename_i index rest drawn
      obtain ⟨name', named, _, size, _, _, read⟩ := ranks.round_trip many few (Int.natCast_nonneg index)
        (Int.ofNat_lt.mpr (random.below drawn))
      rw [named] at generated
      cases generated
      obtain ⟨value, _, _, same⟩ := Tables.parseStored_ok.mp read
      have text := congrArg Name.text same
      have words := congrArg Name.wordCount same
      rw [wordsIn, text]
      exact words.symm.trans size

end Names

/-- One attempt of the loop: the words it asked for, the name it got, and whether that name was
found occupied. -/
structure Trial where
  words : Nat
  name : Option Name
  occupied : Bool
deriving DecidableEq

def Trial.collided (t : Trial) : Bool := t.words == 2 && t.occupied

/-- An attempt that got a name: the name was generated for so many words, and was occupied
exactly if it leads to a grant. -/
structure Trial.Made (P : Primitives) (d : Records) (t : Trial) (name : Name) : Prop where
  named : t.name = some name
  generated : ∃ bytes rest, P.generate t.words bytes = .ok (name, rest)
  occupied : t.occupied = (Tx.locate d name.text).isSome

def Primitives.naming (P : Primitives) (random : RandomSource) (failure : Fault Names.NameError → Err) :
    Primitives :=
  { P with generate := Names.generate Names.tables random failure }

variable {count : Nat}

theorem fixedCount_range {policy : String} (fixed : fixedCount policy = some count) :
    minWordCount ≤ count ∧ count ≤ maxWordCount := by
  have listed := List.mem_of_find?_eq_some fixed
  simp only [List.mem_range'_1, minWordCount, maxWordCount] at listed ⊢
  omega

theorem fixedCount_fixedNamePolicy (many : minWordCount ≤ count) (few : count ≤ maxWordCount) :
    fixedCount (fixedNamePolicy count) = some count := by
  have all : ∀ count ∈ List.range' minWordCount (maxWordCount + 1 - minWordCount),
      fixedCount (fixedNamePolicy count) = some count := by decide
  refine all count (List.mem_range'_1.mpr ⟨many, ?_⟩)
  simp only [minWordCount, maxWordCount] at few ⊢
  omega

namespace Service

variable {P : Primitives} {s : Service} {r : SessionRecord} {id bus policy : String} {tx tx' : Tx}

def attempt (P : Primitives) (r : SessionRecord) (id bus : String) (words : Nat) :
    TxM (Trial × Option Invitation) := do
  let name ← generateName P words
  let occupied ← Tx.grant name.text
  if occupied.isSome then pure (⟨words, some name, true⟩, none)
  else do
    let code ← randomSessionID
    let grantID ← randomSessionID
    let now ← Tx.clock
    let stored ← Txn.attempt (Tx.putGrant P (newGrant r id bus words name code grantID now))
    match stored with
    | .ok _ =>
      pure (⟨words, some name, false⟩, some ⟨words, code, name.text, wordsVisibility words, grantExpiry r now⟩)
    | .error .conflict => do
      let occupied ← Tx.grant name.text
      pure (⟨words, some name, occupied.isSome⟩, none)
    | .error e => Txn.throw e

def trials (P : Primitives) (r : SessionRecord) (id bus policy : String) : Nat → Nat → Tx → List Trial
  | 0, _, _ => []
  | attempts + 1, shortCollisions, tx =>
    match attempt P r id bus (attemptWords policy shortCollisions) tx with
    | (.error _, _) => [⟨attemptWords policy shortCollisions, none, false⟩]
    | (.ok (t, some _), _) => [t]
    | (.ok (t, none), tx') =>
      t :: trials P r id bus policy attempts (if t.collided then shortCollisions + 1 else shortCollisions) tx'

theorem allocate_succ (attempts shortCollisions : Nat) (tx : Tx) :
    allocate P r id bus policy (attempts + 1) shortCollisions tx =
      match attempt P r id bus (attemptWords policy shortCollisions) tx with
      | (.error e, tx') => (.error e, tx')
      | (.ok (_, some invitation), tx') => (.ok invitation, tx')
      | (.ok (t, none), tx') =>
        allocate P r id bus policy attempts (if t.collided then shortCollisions + 1 else shortCollisions) tx' := by
  simp only [allocate, attempt, Txn.bind_run]
  cases generated : generateName P (attemptWords policy shortCollisions) tx with
  | mk made tx₁ =>
    cases made with
    | error e => rfl
    | ok name =>
      simp only [Tx.grant_run]
      cases occupied : (Tx.locate tx₁.data name.text).isSome with
      | true => simp [Trial.collided]
      | false =>
        simp only [Bool.false_eq_true, if_false, Txn.bind_run]
        rcases randomSessionID tx₁ with ⟨_ | code, tx₂⟩
        · rfl
        · dsimp only
          rcases randomSessionID tx₂ with ⟨_ | grantID, tx₃⟩
          · rfl
          · simp only [Tx.clock_run, Txn.attempt_run]
            rcases Tx.putGrant P
              (newGrant r id bus (attemptWords policy shortCollisions) name code grantID tx₃.now) tx₃ with ⟨e | _, tx₄⟩
            · cases e <;> simp [Txn.bind_run, Trial.collided, and_comm]
            · rfl

variable {d : Records} {t : Trial} {words : Option Nat} {rest : Bytes} {name : Name} {options : InvitationOptions}
  {st : Store} {env : Env} {invitation : Invitation}

theorem attempt_ok {words : Nat} {out : Option Invitation} (ok : attempt P r id bus words tx = (.ok (t, out), tx')) :
    t.words = words ∧ ∃ name, Trial.Made P tx.data t name ∧ tx'.now = tx.now ∧
      match out with
      | none => tx'.data = tx.data
      | some invitation => t.occupied = false ∧ ∃ code grantID,
        Fresh tx.data (newGrant r id bus words name code grantID tx.now) ∧
        tx'.data = tx.data.putGrant (newGrant r id bus words name code grantID tx.now) ∧
        invitation = ⟨words, code, name.text, wordsVisibility words, grantExpiry r tx.now⟩ := by
  simp only [attempt, Txn.bind_ok, Tx.grant_run] at ok
  obtain ⟨name, _, generated, _, _, looked, ok⟩ := ok
  obtain ⟨rest, made, rfl⟩ := generateName_ok generated
  cases looked
  split at ok
  · rename_i occupied
    cases ok
    exact ⟨rfl, name, ⟨rfl, ⟨_, rest, made⟩, occupied.symm⟩, rfl, rfl⟩
  · rename_i free
    have free : (Tx.locate tx.data name.text).isSome = false := Bool.eq_false_iff.mpr free
    simp only [Txn.bind_ok, Tx.clock_run, Txn.attempt_ok] at ok
    obtain ⟨code, _, drewCode, grantID, _, drewID, now, _, clock, stored, _, tried, ok⟩ := ok
    obtain ⟨_, _, rfl⟩ := randomSessionID_ok drewCode
    obtain ⟨_, _, rfl⟩ := randomSessionID_ok drewID
    cases clock
    cases stored with
    | ok _ =>
      cases ok
      obtain ⟨_, _, nonempty, session, fresh, code', name', rfl⟩ := Tx.putGrant_ok.mp tried
      exact ⟨rfl, name, ⟨rfl, ⟨_, rest, made⟩, free.symm⟩, rfl, rfl, code, grantID,
        ⟨nonempty, session, fresh, code', name'⟩, rfl, rfl⟩
    | error e =>
      have same := Tx.putGrant_error tried
      subst same
      cases e <;> try cases ok
      simp only [Txn.bind_ok, Tx.grant_run, Txn.pure_run] at ok
      obtain ⟨_, _, looked, ok⟩ := ok
      cases looked
      cases ok
      exact ⟨rfl, name, ⟨rfl, ⟨_, rest, made⟩, rfl⟩, rfl, rfl⟩

theorem trials_length (attempts shortCollisions : Nat) (tx : Tx) :
    (trials P r id bus policy attempts shortCollisions tx).length ≤ attempts := by
  induction attempts generalizing shortCollisions tx with
  | zero => exact le_rfl
  | succ attempts ih =>
    unfold trials
    split
    · exact Nat.succ_le_succ (Nat.zero_le _)
    · exact Nat.succ_le_succ (Nat.zero_le _)
    · exact Nat.succ_le_succ (ih _ _)

structure Allocated (P : Primitives) (r : SessionRecord) (id bus policy : String) (shortCollisions : Nat)
    (d : Records) (now : Time) (earlier : List Trial) (last : Trial) (invitation : Invitation) (g : GrantRecord) :
    Prop where
  words : last.words = attemptWords policy (shortCollisions + earlier.countP Trial.collided)
  name : ∃ name code grantID, Trial.Made P d last name ∧ last.occupied = false ∧
    g = newGrant r id bus last.words name code grantID now ∧
    invitation = ⟨last.words, code, name.text, wordsVisibility last.words, grantExpiry r now⟩
  fresh : Fresh d g
  earlier : ∀ t ∈ earlier, ∃ name collisions, Trial.Made P d t name ∧ t.words = attemptWords policy collisions

theorem allocate_allocated {attempts shortCollisions : Nat}
    (ok : allocate P r id bus policy attempts shortCollisions tx = (.ok invitation, tx')) :
    ∃ earlier last g, trials P r id bus policy attempts shortCollisions tx = earlier ++ [last] ∧
      Allocated P r id bus policy shortCollisions tx.data tx.now earlier last invitation g ∧
      tx'.data = tx.data.putGrant g := by
  induction attempts generalizing shortCollisions tx with
  | zero => cases ok
  | succ attempts ih =>
    rw [allocate_succ] at ok
    rw [trials]
    split at ok
    · cases ok
    · rename_i t invitation' tx₁ done
      cases ok
      obtain ⟨words, name, made, _, free, code, grantID, fresh, stored, same⟩ := attempt_ok done
      rw [← words] at fresh stored same
      exact ⟨[], t, _, rfl, ⟨words, ⟨name, code, grantID, made, free, rfl, same⟩, fresh, by simp⟩, stored⟩
    · rename_i t tx₁ retried
      obtain ⟨words, name, made, now, kept⟩ := attempt_ok retried
      obtain ⟨earlier, last, g, listed, allocated, stored⟩ := ih ok
      rw [kept, now] at allocated
      refine ⟨t :: earlier, last, g, by simp [listed], ⟨?_, allocated.name, allocated.fresh, ?_⟩,
        by rw [stored, kept]⟩
      · rw [allocated.words, List.countP_cons]
        cases t.collided <;> simp [Nat.add_assoc, Nat.add_comm 1]
      · intro u member
        rcases List.mem_cons.mp member with rfl | later
        · exact ⟨name, shortCollisions, made, words⟩
        · exact allocated.earlier u later

def invitable (s : Service) (id bus : String) : TxM SessionRecord := do
  let r ← Txn.mapError absent (s.active id)
  let now ← Tx.clock
  Txn.require (s.busReady r bus now) .sessionNotReady
  let counts ← Tx.counts
  Txn.require ((counts.grantCount : Int) < s.config.maxInvitations) .invitationCapacity
  pure r

def callPolicy (s : Service) (options : InvitationOptions) : String :=
  match selectedWords options with
  | .ok (some count) => fixedNamePolicy count
  | _ => s.config.namePolicy

def invitationTrials (P : Primitives) (s : Service) (id bus : String) (options : InvitationOptions) (env : Env)
    (st : Store) : List Trial :=
  match selectedWords options with
  | .error _ => []
  | .ok _ =>
    if st.closed then []
    else
      match s.guarded P (s.invitable id bus) (st.start .write env) with
      | (.error _, _) => []
      | (.ok r, tx) => trials P r id bus (s.callPolicy options) invitationAttempts 0 tx

theorem guarded_invitation : s.guarded P (s.createInvitationBody P id bus policy) =
    s.guarded P (s.invitable id bus) >>= fun r => allocate P r id bus policy invitationAttempts 0 := by
  simp only [guarded, createInvitationBody, invitable, Txn.bind_assoc]
  rfl

theorem createInvitation_selected (selected : selectedWords options = .ok words) :
    s.createInvitation P id bus options env st =
      st.update env (s.guarded P (s.invitable id bus) >>= fun r =>
        allocate P r id bus (s.callPolicy options) invitationAttempts 0) := by
  rw [← guarded_invitation]
  unfold createInvitation callPolicy
  rw [selected]
  cases words <;> rfl

theorem invitationTrials_length (P : Primitives) (s : Service) (id bus : String) (options : InvitationOptions)
    (env : Env) (st : Store) : (s.invitationTrials P id bus options env st).length ≤ 32 := by
  unfold invitationTrials
  split
  · exact Nat.zero_le _
  · split
    · exact Nat.zero_le _
    · split
      · exact Nat.zero_le _
      · exact trials_length invitationAttempts 0 _

theorem createInvitation_error {e : Err} (failed : (s.createInvitation P id bus options env st).reply = .error e) :
    (s.createInvitation P id bus options env st).store = st := by
  cases selected : selectedWords options with
  | error e =>
    unfold createInvitation
    rw [selected]
    rfl
  | ok words =>
    rw [createInvitation_selected selected] at failed ⊢
    exact Store.run_error failed

theorem invitable_ok (ok : s.invitable id bus tx = (.ok r, tx')) : tx' = tx := by
  simp only [invitable, Txn.bind_ok, Txn.mapError_ok, Tx.clock_run, Txn.require_ok, Tx.counts_run,
    Txn.pure_run] at ok
  obtain ⟨r, _, found, _, _, clock, _, _, ⟨_, rfl⟩, _, _, counted, _, _, ⟨_, rfl⟩, out⟩ := ok
  obtain ⟨_, rfl⟩ := active_ok found
  cases clock
  cases counted
  cases out
  rfl

theorem createInvitation_allocated (ok : (s.createInvitation P id bus options env st).reply = .ok invitation) :
    ∃ r earlier last g, s.invitationTrials P id bus options env st = earlier ++ [last] ∧
      Allocated P r id bus (s.callPolicy options) 0 (s.prologue env.now st.data) env.now earlier last invitation g ∧
      (s.createInvitation P id bus options env st).store.data = (s.prologue env.now st.data).putGrant g := by
  cases selected : selectedWords options with
  | error e =>
    unfold createInvitation at ok
    rw [selected] at ok
    cases ok
  | ok words =>
    rw [createInvitation_selected selected] at ok ⊢
    unfold invitationTrials
    rw [selected]
    obtain ⟨tx, done, _, _, stored⟩ := Store.update_ok ok
    obtain ⟨r, tx₁, checked, allocated⟩ := Txn.bind_ok.mp done
    obtain ⟨_, passed⟩ := guarded_ok checked
    cases invitable_ok passed
    obtain ⟨earlier, last, g, listed, allocated, data⟩ := allocate_allocated allocated
    refine ⟨r, earlier, last, g, ?_, allocated, by rw [stored]; exact data⟩
    have isOpen : ¬st.closed = true := by
      intro closed
      simp [Store.update, Store.run, closed, Store.refuse] at ok
    simp only [checked]
    rw [if_neg isOpen, listed]

def fixedWords (s : Service) (options : InvitationOptions) : Option Nat :=
  match selectedWords options with
  | .ok (some count) => some count
  | _ => fixedCount s.config.namePolicy

theorem selectedWords_range {count : Nat} (selected : selectedWords options = .ok (some count)) :
    minWordCount ≤ count ∧ count ≤ maxWordCount := by
  simp only [selectedWords] at selected
  split at selected
  · cases selected
  · rename_i words chosen
    split at selected
    · cases selected
      split at chosen
      · cases chosen
      · split at chosen
        · cases chosen
          decide
        · split at chosen
          · cases chosen
            decide
          · cases chosen
    · split at selected
      · cases selected
      · cases selected
        simp only [minWordCount, maxWordCount] at *
        omega

theorem fixedCount_callPolicy (s : Service) (options : InvitationOptions) :
    fixedCount (s.callPolicy options) = s.fixedWords options := by
  unfold callPolicy fixedWords
  split
  · rename_i count selected
    obtain ⟨many, few⟩ := selectedWords_range selected
    exact fixedCount_fixedNamePolicy many few
  · rfl

theorem attemptWords_range (policy : String) (shortCollisions : Nat) :
    minWordCount ≤ attemptWords policy shortCollisions ∧ attemptWords policy shortCollisions ≤ maxWordCount := by
  unfold attemptWords
  split
  · rename_i fixed
    exact fixedCount_range fixed
  · split <;> decide

theorem made_words {random : RandomSource} {failure : Fault Names.NameError → Err} {collisions : Nat}
    (made : Trial.Made (P.naming random failure) d t name) (words : t.words = attemptWords policy collisions) :
    (Names.wordsIn name.text).length = t.words := by
  obtain ⟨many, few⟩ := attemptWords_range policy collisions
  obtain ⟨bytes, rest, generated⟩ := made.generated
  exact Names.generate_words (words ▸ many) (words ▸ few) generated

theorem randomSessionID_long (long : 16 ≤ tx.entropy.length) :
    randomSessionID tx = (.ok (uuidText (tx.entropy.take 16)),
      { tx with entropy := tx.entropy.drop 16, drawn := tx.drawn ++ [uuidText (tx.entropy.take 16)] }) := by
  unfold randomSessionID
  rw [Txn.ok_bind_run (Tx.readRandom_ok.mpr ⟨long, rfl, rfl⟩)]
  rfl

def drawnGrant (r : SessionRecord) (id bus : String) (words : Nat) (name : Name) (bytes : Bytes) (now : Time) :
    GrantRecord :=
  newGrant r id bus words name (uuidText (bytes.take 16)) (uuidText ((bytes.drop 16).take 16)) now

theorem Fresh.stored {g : GrantRecord} (fresh : Fresh d g) (fits : Tx.Fits P (.grant g)) (tx : Tx) (data : tx.data = d)
    (writes : tx.mode = .write) : Tx.putGrant P g tx = (.ok (), tx.setData (d.putGrant g)) := by
  subst data
  exact Tx.putGrant_ok.mpr
    ⟨fits, writes, fresh.nonempty, fresh.session, fresh.id, fresh.code, fresh.name, rfl⟩

theorem attempt_stores {words : Nat} (writes : tx.mode = .write)
    (generated : P.generate words tx.entropy = .ok (name, rest)) (long : 32 ≤ rest.length)
    (fits : Tx.Fits P (.grant (drawnGrant r id bus words name rest tx.now)))
    (fresh : Fresh tx.data (drawnGrant r id bus words name rest tx.now)) :
    ∃ t invitation tx', attempt P r id bus words tx = (.ok (t, some invitation), tx') ∧
      tx'.data = tx.data.putGrant (drawnGrant r id bus words name rest tx.now) := by
  have named : generateName P words tx = (.ok name, { tx with entropy := rest }) := by
    simp [generateName, Txn.bind_run, generated, Txn.lift]
  have free : Tx.locate tx.data name.text = none := by
    have absent : tx.data.locators.lookup name.text = none := AList.lookup_eq_none.mpr fresh.name
    rw [Tx.locate, absent]
    rfl
  let code := uuidText (rest.take 16)
  let grantID := uuidText ((rest.drop 16).take 16)
  let coded : Tx := { tx with entropy := rest.drop 16, drawn := tx.drawn ++ [code] }
  let identified : Tx := { coded with entropy := (rest.drop 16).drop 16, drawn := coded.drawn ++ [grantID] }
  have drewCode : randomSessionID { tx with entropy := rest } = (.ok code, coded) :=
    randomSessionID_long ((by decide : 16 ≤ 32).trans long)
  have drewID : randomSessionID coded = (.ok grantID, identified) := by
    apply randomSessionID_long
    rw [List.length_drop]
    omega
  have stored := Fresh.stored fresh fits identified rfl writes
  unfold attempt
  rw [Txn.ok_bind_run named, Txn.ok_bind_run (Tx.grant_run _ _)]
  simp only [free, Option.isSome_none, Bool.false_eq_true, if_false]
  rw [Txn.ok_bind_run drewCode, Txn.ok_bind_run drewID, Txn.ok_bind_run (Tx.clock_run _)]
  refine ⟨_, _, _, Txn.ok_bind_run (Txn.attempt_ok.mpr stored), ?_⟩
  rfl

theorem createInvitation_first (selected : selectedWords options = .ok words) (isOpen : st.closed = false)
    (live : env.ctxDone = false) (ready : s.guarded P (s.invitable id bus) (st.start .write env) = (.ok r, tx))
    (generated : P.generate (attemptWords (s.callPolicy options) 0) env.entropy = .ok (name, rest))
    (long : 32 ≤ rest.length)
    (fits : Tx.Fits P (.grant (drawnGrant r id bus (attemptWords (s.callPolicy options) 0) name rest env.now)))
    (fresh : Fresh (s.prologue env.now st.data)
      (drawnGrant r id bus (attemptWords (s.callPolicy options) 0) name rest env.now)) :
    (s.createInvitation P id bus options env st).reply.toBool = true ∧
      (s.createInvitation P id bus options env st).store.data = (s.prologue env.now st.data).putGrant
        (drawnGrant r id bus (attemptWords (s.callPolicy options) 0) name rest env.now) := by
  obtain ⟨_, passed⟩ := guarded_ok ready
  cases invitable_ok passed
  let begun := (st.start .write env).setData (s.prologue env.now st.data)
  have writes : begun.mode = .write := rfl
  obtain ⟨t, invitation, tx', made, data⟩ := attempt_stores writes generated long fits fresh
  have allocated : allocate P r id bus (s.callPolicy options) invitationAttempts 0 begun = (.ok invitation, tx') := by
    rw [invitationAttempts, allocate_succ, made]
  have ran : (s.guarded P (s.invitable id bus) >>= fun r =>
      allocate P r id bus (s.callPolicy options) invitationAttempts 0) (st.start .write env) = (.ok invitation, tx') :=
    (Txn.ok_bind_run ready).trans allocated
  rw [createInvitation_selected selected]
  simp only [Store.update, Store.run, isOpen, live, ran]
  exact ⟨rfl, data⟩

theorem naming_generate (P : Primitives) (random : RandomSource) (failure : Fault Names.NameError → Err) (count : Nat)
    (bytes : Bytes) :
    (P.naming random failure).generate count bytes = Names.generate Names.tables random failure count bytes := rfl

theorem guarded_naming (random : RandomSource) (failure : Fault Names.NameError → Err) :
    s.guarded (P.naming random failure) (s.invitable id bus) = s.guarded P (s.invitable id bus) := rfl

end Service

namespace Plain

def renewed : List Event :=
  invited ++ [event (15 * minute) [] (.call service (.apply sessionID { snapshot with revision := 2 }))]

def outlived : Store := (World.empty.after primitives renewed).store

def later : Env := ⟨15 * minute + 10, block 5 ++ block 6, false⟩

def unexpired : Records := service.prologue later.now outlived.data

def zero : RandomSource where
  int max bytes := if 0 < max then .ok (0, bytes) else .error .nameAllocationUnavailable
  below := by
    intro max bytes rest n drawn
    split at drawn
    · cases drawn
      assumption
    · cases drawn

theorem generate_zero {T : Names.Tables} {failure : Fault Names.NameError → Err} {count : Nat} {name : Name}
    (bytes : Bytes) (positive : 0 < T.capacityBig count) (named : T.atBig (some 0) count = .ok name) :
    Names.generate T zero failure count bytes = .ok (name, bytes) := by
  simp only [Names.generate, zero]
  rw [if_neg (Nat.pos_iff_ne_zero.mp positive), if_pos positive]
  simp only [Nat.cast_zero]
  rw [named]

theorem zero_generates (failure : Fault Names.NameError → Err) (bytes : Bytes) : ∃ name,
    Names.generate Names.tables zero failure 2 bytes = .ok (name, bytes) ∧ (Names.wordsIn name.text).length = 2 := by
  have ranks : Names.Ranks Names.tables (Names.Lexicon.recorded 2) 2 :=
    Names.Lexicon.ranks Names.lexicon_wellFormed Names.lexicon_supplied (by decide) (by decide)
  obtain ⟨name, named, _⟩ := ranks.round_trip (by decide) (by decide) le_rfl (Int.ofNat_lt.mpr ranks.some_rank)
  have generated : Names.generate Names.tables zero failure 2 bytes = .ok (name, bytes) :=
    generate_zero bytes ranks.some_rank named
  exact ⟨name, generated, Names.generate_words (by decide) (by decide) generated⟩

def reinvited : Ran Invitation :=
  service.createInvitation (primitives.naming zero fun _ => .nameAllocationUnavailable) sessionID mix ⟨"", 0⟩ later
    outlived

end Plain

end Relay
