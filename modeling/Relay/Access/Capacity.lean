import Relay.Access.Contract
import Relay.Access.Integrity

/-! Finite capacity. The three operations that add a record count the records first, in the
transaction that adds it; every other operation rewrites or removes what is stored. So no run
exceeds the limits, whatever the clocks and the lifetimes are. With one lifetime and a clock
that does not go back, a Session's expiry never moves back, and no grant outlives its Session. -/
namespace Relay

namespace World

structure Steps (P : Primitives) (w : World) (e : Event) (w' : World) : Prop where
  known : ∀ s request, e.action = .call s request → s ∈ w.replicas
  result : w' = w.next P e

variable {P : Primitives} {w w' : World} {e : Event}

theorem Moves.steps (move : Moves P w e w') : Steps P w e w' :=
  ⟨move.known, move.result⟩

theorem Steps.change (step : Steps P w e w') (keyed : w.store.data.Keyed) : Change P w e w'.store.data w'.replicas := by
  rw [step.result]
  exact next_change step.known keyed

end World

namespace Records

structure NoMore (d d' : Records) : Prop where
  sessions : d'.sessions.size ≤ d.sessions.size
  grants : d'.grants.size ≤ d.grants.size
  receipts : d'.receipts.size ≤ d.receipts.size

variable {d d' : Records}

theorem Shrinks.noMore (shrinks : d.Shrinks d') : d.NoMore d' := by
  have smaller : ∀ {α : Type} {t t' : Table String α}, (∀ {k v}, t'.lookup k = some v → t.lookup k = some v) →
      t'.size ≤ t.size := by
    intro α t t' old
    apply Table.size_le_of_mem
    intro k member
    obtain ⟨v, found⟩ := Table.mem_iff_lookup.mp member
    exact Table.mem_iff_lookup.mpr ⟨v, old found⟩
  exact ⟨smaller shrinks.sessions, smaller fun found => (shrinks.grants found).1, smaller shrinks.receipts⟩

theorem Cleared.noMore (cleared : d.Cleared d') : d.NoMore d' := by
  refine ⟨Table.size_le_of_mem ?_, by rw [cleared.grants], by rw [cleared.receipts]⟩
  intro k member
  obtain ⟨r', found⟩ := Table.mem_iff_lookup.mp member
  obtain ⟨r, stored, _⟩ := cleared.origin found
  exact Table.mem_iff_lookup.mpr ⟨r, stored⟩

theorem noMore_rewrite {r r' : SessionRecord} {id : String} (keyed : d.Keyed) (stored : d.sessions.lookup id = some r)
    (same : r.Same r') : d.NoMore (d.putSession r') := by
  refine ⟨Table.size_le_of_mem ?_, le_refl _, le_refl _⟩
  intro k member
  rcases (AList.mem_insert _).mp member with rfl | member
  · rw [same.id, keyed.sessions stored]
    exact Table.mem_iff_lookup.mpr ⟨r, stored⟩
  · exact member

structure Within (limits : Config) (d : Records) : Prop where
  sessions : (d.sessions.size : Int) ≤ limits.maxSessions
  grants : (d.grants.size : Int) ≤ limits.maxInvitations
  receipts : (d.receipts.size : Int) ≤ limits.maxReceipts

theorem NoMore.within {limits : Config} (noMore : d.NoMore d') (within : d.Within limits) :
    d'.Within limits where
  sessions := (Int.ofNat_le.mpr noMore.sessions).trans within.sessions
  grants := (Int.ofNat_le.mpr noMore.grants).trans within.grants
  receipts := (Int.ofNat_le.mpr noMore.receipts).trans within.receipts

end Records

namespace Service

variable {P : Primitives} {s : Service} {env : Env} {st : Store}

/-- A request that adds a record finds room for it. A repeated redemption adds none. -/
def Room (P : Primitives) (s : Service) (d : Records) : Request → Prop
  | .create _ => (d.sessions.size : Int) < s.config.maxSessions
  | .invite _ _ _ => (d.grants.size : Int) < s.config.maxInvitations
  | .redeem locator code key _ =>
    key = "" ∨ d.receipts.lookup (s.redeemDigests P locator (effectiveCode P locator code) key).receiptKey ≠ none ∨
      (d.receipts.size : Int) < s.config.maxReceipts
  | _ => True

theorem update_ran {α : Type} {fn : TxM α} {f : α → Answer} {b : Answer}
    (ok : ((s.update P env st fn).map f).reply = .ok b) :
    ∃ tx tx' a, tx.now = env.now ∧ tx.data = s.prologue env.now st.data ∧ fn tx = (.ok a, tx') ∧
      ((s.update P env st fn).map f).store.data = tx'.data ∧ b = f a ∧ tx.signed = [] ∧
      ((s.update P env st fn).map f).signed = tx'.signed := by
  obtain ⟨a, done, rfl⟩ := Ran.map_ok ok
  unfold update at done ⊢
  obtain ⟨tx, guarded, signed, _, stored⟩ := Store.update_ok done
  obtain ⟨_, ran⟩ := guarded_ok guarded
  rw [Ran.map_store, Ran.map_signed, stored, signed]
  exact ⟨_, tx, a, rfl, rfl, ran, rfl, rfl, rfl, rfl⟩

theorem answer_room {request : Request} {a : Answer} (ok : (s.answer P env st request).reply = .ok a) :
    s.Room P (s.prologue env.now st.data) request := by
  cases request with
  | create required =>
    simp only [answer, createContext] at ok
    split at ok
    · cases ok
    · obtain ⟨tx, _, _, _, data, ran, _⟩ := update_ran ok
      exact data ▸ (createBody_ok ran).1
  | invite id bus options =>
    simp only [answer, createInvitation] at ok
    split at ok
    · cases ok
    · obtain ⟨tx, _, _, _, data, ran, _⟩ := update_ran ok
      exact data ▸ (createInvitationBody_ok ran).1
  | redeem locator code key encode =>
    simp only [answer, redeem] at ok
    split at ok
    · cases ok
    · split at ok
      · cases ok
      · obtain ⟨tx, _, _, _, data, ran, _⟩ := update_ran ok
        rw [← data]
        rcases redeemBody_ok ran with ⟨receipt, replayed, _⟩ | ⟨_, _, _, _, room, _⟩
        · exact .inr (.inl (by simp [replayed.found]))
        · exact room.imp_right .inr
  | _ => trivial

end Service

theorem insert_fits {α : Type} {t : Table String α} {limit : Int} (room : (t.size : Int) < limit) (k : String) (v : α) :
    (Table.size (t.insert k v) : Int) ≤ limit := by
  have one := Table.size_insert_le t k v
  omega

variable {drawn : List String} {s : Service} {P : Primitives} {d d' : Records} {a : Answer} {now : Time}
  {signed : List Signed} {request : Request}

theorem Performed.within (performed : Performed P s now d request a signed drawn d') (keyed : d.Keyed)
    (room : s.Room P d request) (within : d.Within s.config) : d'.Within s.config := by
  cases performed with
  | create => exact ⟨insert_fits room _ _, within.grants, within.receipts⟩
  | get | absent | ignore | replay | held => exact within
  | clear active => exact (Records.noMore_rewrite keyed active.found (SessionRecord.same_clear _)).within within
  | delete => exact (Records.shrinks_deleteSession d _).noMore.within within
  | publish active | subscribe active | renew active =>
    exact (Records.noMore_rewrite keyed active.found (SessionRecord.same_extend _ _ _)).within within
  | observe _ _ active => exact (Records.noMore_rewrite keyed active.found (s.same_observe _ _ _)).within within
  | invite => exact ⟨within.sessions, insert_fits room _ _, within.receipts⟩
  | consume consumed =>
    apply (Records.shrinks_deleteGrant _ _).noMore.within
    split
    · rename_i keyed
      have space : (d.receipts.size : Int) < s.config.maxReceipts := by
        rcases room with unkeyed | answered | space
        · exact absurd unkeyed keyed
        · -- a key with a receipt is answered from it and consumes nothing
          exact absurd (consumed.unanswered keyed) answered
        · exact space
      exact ⟨within.sessions, within.grants, insert_fits space _ _⟩
    · exact within
  | place active => exact (Records.noMore_rewrite keyed active.found (s.same_place _ _ _ _)).within within

theorem Succeeded.within (succeeded : Succeeded P s now d request a signed drawn d') (keyed : d.Keyed)
    (room : s.Room P (s.prologue now d) request) (within : d.Within s.config) : d'.Within s.config := by
  cases succeeded with
  | read => exact within
  | performed performed =>
    have shrinks := s.shrinks_prologue now d
    exact performed.within (keyed.shrink shrinks) room (shrinks.noMore.within within)

structure Config.SameLimits (c c' : Config) : Prop where
  sessions : c'.maxSessions = c.maxSessions
  invitations : c'.maxInvitations = c.maxInvitations
  receipts : c'.maxReceipts = c.maxReceipts

namespace Config

variable {c c' n : Config}

theorem SameLimits.normalize {n' : Config} (same : c.SameLimits c') (normal : c.normalize = .ok n)
    (normal' : c'.normalize = .ok n') : n.SameLimits n' := by
  obtain ⟨sessions, invitations, receipts⟩ := same
  unfold Config.normalize at normal normal'
  grind [SameLimits]

theorem SameLimits.within {d : Records} (same : c.SameLimits c') : d.Within c' ↔ d.Within c := by
  constructor
  · rintro ⟨sessions, grants, receipts⟩
    exact ⟨same.sessions ▸ sessions, same.invitations ▸ grants, same.receipts ▸ receipts⟩
  · rintro ⟨sessions, grants, receipts⟩
    exact ⟨same.sessions ▸ sessions, same.invitations ▸ grants, same.receipts ▸ receipts⟩

theorem normalize_sessionTTL (normal : c.normalize = .ok n) : n.sessionTTL = positiveOr c.sessionTTL (2 * hour) := by
  unfold Config.normalize at normal
  grind

theorem normalize_positive (normal : c.normalize = .ok n) :
    0 < n.maxSessions ∧ 0 < n.maxInvitations ∧ 0 < n.maxReceipts := by
  unfold Config.normalize at normal
  grind [positiveOr]

end Config

namespace World

variable {P : Primitives} {w w' : World} {e : Event}

theorem opened_config {s : Service} (keyed : w.store.data.Keyed) (opened : (w.exec P e).reply = .ok (.opened s)) :
    32 ≤ s.secret.length ∧ ∃ given, e.action = .openService s.secret given ∧ given.normalize = .ok s.config := by
  obtain ⟨secret, given, config, action, normal, made, _⟩ := opening_of_reply opened
  have long : 32 ≤ secret.length := by
    by_contra short
    simp [exec, action, Service.newService, not_le.mp short, Store.refuse, Ran.map, Except.map] at opened
  obtain ⟨tx, done, _⟩ := Store.update_ok made
  obtain ⟨_, _, _, _, _, _, _, rfl, _⟩ := Service.openNamespace_ok keyed done
  exact ⟨long, given, action, normal⟩

theorem Change.within {limits : Config} {d : Records} {replicas : List Service} (change : Change P w e d replicas)
    (keyed : w.store.data.Keyed) (same : ∀ s ∈ w.replicas, limits.SameLimits s.config)
    (within : w.store.data.Within limits) : d.Within limits := by
  cases change with
  | quiet => exact within
  | opened secret config base ns d _ _ _ _ cleared _ _ =>
    exact cleared.noMore.within ((Records.shrinks_putNamespace _ _).noMore.within within)
  | reset rows id _ _ _ _ =>
    exact (Records.shrinks_putNamespace _ _).noMore.within ((Records.shrinks_deleteRows _ rows).noMore.within within)
  | called s request a d member calls ok _ succeeded =>
    have room : s.Room P (s.prologue e.env.now w.store.data) request := by
      simp only [exec, calls] at ok
      exact Service.answer_room ok
    exact (same s member).within.mp (succeeded.within keyed room ((same s member).within.mpr within))

theorem Steps.lifetime (step : Steps P w e w') (keyed : w.store.data.Keyed) {k : String} {r' : SessionRecord}
    (stored : w'.store.data.sessions.lookup k = some r') :
    (∃ r, w.store.data.sessions.lookup k = some r ∧ r'.expiresAt = r.expiresAt) ∨
      ∃ s ∈ w.replicas, r'.expiresAt = e.env.now + s.config.sessionTTL := by
  rcases (step.change keyed).fate keyed stored with ⟨r, found, rfl | rfl⟩ | ⟨s, request, a, calls, _, fate⟩
  · exact .inl ⟨r', found, rfl⟩
  · exact .inl ⟨r, found, rfl⟩
  · have member := step.known s request calls
    cases fate with
    | kept found => exact .inl ⟨r', found, rfl⟩
    | revised found revision =>
      cases revision with
      | clear | place => exact .inl ⟨_, found, rfl⟩
      | extend => exact .inr ⟨s, member, rfl⟩
      | observe snapshot =>
        unfold Service.observe
        dsimp only
        split
        · exact .inr ⟨s, member, rfl⟩
        · exact .inl ⟨_, found, rfl⟩
    | created => exact .inr ⟨s, member, rfl⟩

end World

namespace Records

/-- A grant that is stored afterwards expires no later than its Session, or was stored before
and its Session is not gone. -/
def Hosts (d d' : Records) : Prop := ∀ k g, d'.grants.lookup k = some g →
  (∃ r, d'.sessions.lookup g.sessionID = some r ∧ g.expiresAt ≤ r.expiresAt) ∨
    d.grants.lookup k = some g ∧ (g.sessionID ∈ d.sessions → g.sessionID ∈ d'.sessions)

variable {d d₁ d' : Records}

theorem Hosts.refl (d : Records) : d.Hosts d := fun _ _ found => .inr ⟨found, id⟩

theorem Shrinks.mem_sessions (shrinks : d.Shrinks d') {k : String} {g : GrantRecord}
    (found : d'.grants.lookup k = some g) (stored : g.sessionID ∈ d.sessions) : g.sessionID ∈ d'.sessions := by
  obtain ⟨r, session⟩ := Table.mem_iff_lookup.mp stored
  exact Table.mem_iff_lookup.mpr ⟨r, (shrinks.grants found).2 r session⟩

theorem Shrinks.hosts (shrinks : d.Shrinks d') : d.Hosts d' :=
  fun _ _ found => .inr ⟨(shrinks.grants found).1, shrinks.mem_sessions found⟩

theorem Hosts.after (shrinks : d.Shrinks d₁) (hosts : d₁.Hosts d') : d.Hosts d' := by
  intro k g found
  rcases hosts k g found with fits | ⟨stored, kept⟩
  · exact .inl fits
  · exact .inr ⟨(shrinks.grants stored).1, fun session => kept (shrinks.mem_sessions stored session)⟩

theorem hosts_putSession (d : Records) (r : SessionRecord) : d.Hosts (d.putSession r) :=
  fun _ _ found => .inr ⟨found, fun stored => (AList.mem_insert _).mpr (.inr stored)⟩

theorem Cleared.hosts (cleared : d.Cleared d') : d.Hosts d' := by
  intro k g found
  refine .inr ⟨cleared.grants ▸ found, fun stored => ?_⟩
  obtain ⟨r, session⟩ := Table.mem_iff_lookup.mp stored
  rcases cleared.sessions g.sessionID with same | ⟨r, _, dropped⟩
  · exact Table.mem_iff_lookup.mpr ⟨r, same.trans session⟩
  · exact Table.mem_iff_lookup.mpr ⟨r.clear, dropped⟩

end Records

theorem grantExpiry_le (r : SessionRecord) (now : Time) : Service.grantExpiry r now ≤ r.expiresAt := by
  unfold Service.grantExpiry
  split
  · exact le_refl _
  · rename_i later
    exact not_lt.mp later

namespace Service

variable {P : Primitives} {s : Service} {env : Env} {st : Store}

theorem invite_hosts {id bus : String} {options : InvitationOptions} {a : Answer}
    (ok : (s.answer P env st (.invite id bus options)).reply = .ok a) :
    (s.prologue env.now st.data).Hosts (s.answer P env st (.invite id bus options)).store.data := by
  simp only [answer, createInvitation] at ok ⊢
  split at ok
  · cases ok
  · obtain ⟨tx, tx', out, _, data, ran, stored, _⟩ := update_ran ok
    obtain ⟨_, r, words, name, code, grantID, drew, rest, active, _, _, _, _, rfl⟩ := createInvitationBody_ok ran
    rw [stored, ← data]
    intro k g found
    rcases Records.putGrant_grants.mp found with ⟨_, rfl⟩ | ⟨_, found⟩
    · exact .inl ⟨r, active.found, grantExpiry_le r tx.now⟩
    · exact .inr ⟨found, fun stored => stored⟩

end Service

theorem Performed.hosts (performed : Performed P s now d request a signed drawn d')
    (other : ∀ id bus options, request ≠ .invite id bus options) : d.Hosts d' := by
  cases performed with
  | get | absent | ignore | replay | held => exact .refl d
  | create | clear | publish | subscribe | renew | observe | place => exact d.hosts_putSession _
  | delete => exact (Records.shrinks_deleteSession d _).hosts
  | invite => exact absurd rfl (other _ _ _)
  | consume consumed =>
    unfold Service.redeemed
    split
    · exact (Records.shrinks_deleteGrant (d.putReceipt _) _).hosts
    · exact (Records.shrinks_deleteGrant d _).hosts

theorem Succeeded.hosts (succeeded : Succeeded P s now d request a signed drawn d')
    (other : ∀ id bus options, request ≠ .invite id bus options) : d.Hosts d' := by
  cases succeeded with
  | read => exact .refl d
  | performed performed => exact .after (s.shrinks_prologue now d) (performed.hosts other)

namespace World

variable {P : Primitives} {w w' : World} {e : Event}

theorem Change.hosts {d : Records} {replicas : List Service} (change : Change P w e d replicas)
    (left : (w.exec P e).store.data = d) : w.store.data.Hosts d := by
  cases change with
  | quiet => exact .refl _
  | opened secret config base ns d _ _ _ _ cleared _ _ =>
    exact .after (Records.shrinks_putNamespace _ _) cleared.hosts
  | reset rows id _ _ _ _ =>
    exact .after (Records.shrinks_deleteRows _ rows) (Records.shrinks_putNamespace _ _).hosts
  | called s request a d _ calls ok _ succeeded =>
    -- only an invitation adds a grant, and what it adds is known from its own transaction
    by_cases invites : ∃ id bus options, request = .invite id bus options
    · obtain ⟨id, bus, options, rfl⟩ := invites
      simp only [exec, calls] at ok left
      rw [← left]
      exact .after (s.shrinks_prologue _ _) (Service.invite_hosts ok)
    · push Not at invites
      exact succeeded.hosts invites

end World

structure Hosted (ttl : Duration) (h : History) (w : World) : Prop where
  keyed : w.store.data.Keyed
  lifetime : ∀ s ∈ w.replicas, s.config.sessionTTL = ttl
  bounded : ∀ k r, w.store.data.sessions.lookup k = some r → ∃ x ∈ h, r.expiresAt ≤ x.event.env.now + ttl
  outlived : ∀ k g, w.store.data.grants.lookup k = some g →
    ∃ r, w.store.data.sessions.lookup g.sessionID = some r ∧ g.expiresAt ≤ r.expiresAt

theorem Hosted.later {ttl : Duration} {h : History} {w w' : World} {e : Event} (hosted : Hosted ttl h w)
    (step : World.Steps P w e w') (latest : ∀ x ∈ h, x.event.env.now ≤ e.env.now) {k : String} {r r' : SessionRecord}
    (before : w.store.data.sessions.lookup k = some r) (after : w'.store.data.sessions.lookup k = some r') :
    r.expiresAt ≤ r'.expiresAt := by
  rcases step.lifetime hosted.keyed after with ⟨r₀, found, same⟩ | ⟨s, member, renewed⟩
  · rw [before] at found
    cases found
    exact le_of_eq same.symm
  · obtain ⟨x, earlier, bound⟩ := hosted.bounded k r before
    rw [renewed, hosted.lifetime s member]
    exact bound.trans (Int.add_le_add_right (latest x earlier) ttl)

namespace World

variable {P : Primitives} {w w' : World} {e : Event}

theorem Steps.replicas {Q : Service → Prop} (step : Steps P w e w') (all : ∀ s ∈ w.replicas, Q s)
    (opens : ∀ s, (w.exec P e).reply = .ok (.opened s) → Q s) : ∀ s ∈ w'.replicas, Q s := by
  intro s member
  rw [step.result, next] at member
  cases reply : (w.exec P e).reply with
  | error failure =>
    rw [reply] at member
    exact all s member
  | ok a =>
    rw [reply] at member
    cases a with
    | opened s' =>
      rcases List.mem_append.mp member with before | new
      · exact all s before
      · obtain rfl := List.mem_singleton.mp new
        exact opens s reply
    | _ => exact all s member

theorem Steps.configs {Q : Config → Prop} (step : Steps P w e w') (keyed : w.store.data.Keyed)
    (all : ∀ s ∈ w.replicas, Q s.config)
    (opens : ∀ secret c n, e.action = .openService secret c → c.normalize = .ok n → Q n) :
    ∀ s ∈ w'.replicas, Q s.config := by
  apply step.replicas all
  intro s reply
  obtain ⟨_, c, action, normal⟩ := opened_config keyed reply
  exact opens s.secret c _ action normal

end World

section Runs

variable {P : Primitives} {h : History} {w : World} {given limits : Config}

theorem keyed_of_steps (run : Exec (World.Steps P) World.empty h w) : w.store.data.Keyed :=
  run.invariant (I := fun w => w.store.data.Keyed) (fun keyed step => (step.change keyed).keyed keyed)
    Records.keyed_empty

def OpenedWith (given : Config) (h : History) : Prop :=
  ∀ x ∈ h, ∀ secret c, x.event.action = .openService secret c → given.SameLimits c

variable {k : History} {ttl : Duration}

theorem OpenedWith.early (opened : OpenedWith given (h ++ k)) : OpenedWith given h :=
  fun y member => opened y (List.mem_append_left _ member)

theorem within_of_run (normal : given.normalize = .ok limits) (run : Exec (World.Steps P) World.empty h w)
    (opened : OpenedWith given h) : w.store.data.Within limits := by
  have both : (∀ s ∈ w.replicas, limits.SameLimits s.config) ∧ w.store.data.Within limits := by
    refine Exec.history (G := OpenedWith given)
      (I := fun _ w => (∀ s ∈ w.replicas, limits.SameLimits s.config) ∧ w.store.data.Within limits)
      OpenedWith.early ?_ ?_ run opened
    · obtain ⟨sessions, invitations, receipts⟩ := Config.normalize_positive normal
      have none : ∀ s ∈ World.empty.replicas, limits.SameLimits s.config := fun s member => by simp [World.empty] at member
      exact ⟨none, le_of_lt sessions, le_of_lt invitations, le_of_lt receipts⟩
    · rintro h w e w' before opened ⟨same, within⟩ step
      have keyed := keyed_of_steps before
      refine ⟨step.configs keyed same ?_, (step.change keyed).within keyed same within⟩
      intro secret c n action normal'
      exact (opened _ (List.mem_append_right _ List.mem_cons_self) secret c action).normalize normal normal'
  exact both.2

/-- The clock does not go back, and every service gives Sessions the same lifetime. -/
structure Steadfast (ttl : Duration) (h : History) : Prop where
  chronological : h.Pairwise fun x y => x.event.env.now ≤ y.event.env.now
  lifetime : ∀ x ∈ h, ∀ secret c, x.event.action = .openService secret c → c.sessionTTL = ttl

theorem Steadfast.early (steadfast : Steadfast ttl (h ++ k)) : Steadfast ttl h :=
  ⟨(List.pairwise_append.mp steadfast.chronological).1,
    fun y member => steadfast.lifetime y (List.mem_append_left _ member)⟩

theorem hosted_of_run (run : Exec (World.Steps P) World.empty h w) (steadfast : Steadfast ttl h) :
    Hosted (positiveOr ttl (2 * hour)) h w := by
  refine Exec.history (G := Steadfast ttl) (I := Hosted (positiveOr ttl (2 * hour))) Steadfast.early ?_ ?_ run steadfast
  · constructor
    · exact Records.keyed_empty
    · simp [World.empty]
    · simp [World.empty, Store.empty, Records.empty]
    · simp [World.empty, Store.empty, Records.empty]
  · intro h w e w' before steadfast hosted step
    have keyed := hosted.keyed
    have latest : ∀ x ∈ h, x.event.env.now ≤ e.env.now :=
      fun x member => (List.pairwise_append.mp steadfast.chronological).2.2 x member _ List.mem_cons_self
    constructor
    · exact (step.change keyed).keyed keyed
    · apply step.configs (Q := fun c => c.sessionTTL = positiveOr ttl (2 * hour)) keyed hosted.lifetime
      intro secret c n action normal
      have given := steadfast.lifetime _ (List.mem_append_right _ List.mem_cons_self) secret c action
      rw [Config.normalize_sessionTTL normal, given]
    · intro k r' stored
      rcases step.lifetime keyed stored with ⟨r, found, same⟩ | ⟨s, member, renewed⟩
      · obtain ⟨x, earlier, bound⟩ := hosted.bounded k r found
        exact ⟨x, List.mem_append_left _ earlier, same ▸ bound⟩
      · exact ⟨_, List.mem_append_right _ List.mem_cons_self, le_of_eq (hosted.lifetime s member ▸ renewed)⟩
    · intro k g stored
      have left : (w.exec P e).store.data = w'.store.data := by rw [step.result, World.next]
      rcases (step.change keyed).hosts left k g stored with fits | ⟨found, kept⟩
      · exact fits
      · -- the record of the Session may be another one by now, but its expiry did not move back
        obtain ⟨r, session, bound⟩ := hosted.outlived k g found
        obtain ⟨r', session'⟩ := Table.mem_iff_lookup.mp (kept (Table.mem_iff_lookup.mpr ⟨r, session⟩))
        exact ⟨r', session', bound.trans (hosted.later step latest session session')⟩

/-- Finite capacity. However the services that were opened with the same limits interleave, and
whatever their clocks and lifetimes are, no transaction leaves more Sessions, grants or receipts
than the limits allow. With one lifetime and a clock that does not go back, every grant expires
no later than its Session. And the read of all Sessions, with which a service opens on the same
configuration, never finds too many. -/
theorem capacity_finite (run : Exec (World.Steps P) World.empty h w) (normal : given.normalize = .ok limits)
    (opened : OpenedWith given h) :
    (∀ x ∈ h, (x.after.store.data.sessions.size : Int) ≤ limits.maxSessions ∧
      (x.after.store.data.grants.size : Int) ≤ limits.maxInvitations ∧
      (x.after.store.data.receipts.size : Int) ≤ limits.maxReceipts) ∧
    (Steadfast given.sessionTTL h → ∀ x ∈ h, ∀ k g, x.after.store.data.grants.lookup k = some g →
      ∃ r, x.after.store.data.sessions.lookup g.sessionID = some r ∧ g.expiresAt ≤ r.expiresAt) ∧
    ∀ tx : Tx, tx.data.sessions = w.store.data.sessions →
      ∃ rows, Tx.sessions limits.maxSessions tx = (.ok rows, tx) := by
  -- a step of the history ends a history of its own
  have upTo : ∀ x ∈ h, ∃ front rest, h = front ++ [x] ++ rest ∧
      Exec (World.Steps P) World.empty (front ++ [x]) x.after := by
    intro x member
    obtain ⟨front, rest, rfl⟩ := List.append_of_mem member
    obtain ⟨before, step, _⟩ := run.split_step
    exact ⟨front, rest, by simp, .snoc before step⟩
  refine ⟨?_, ?_, ?_⟩
  · intro x member
    obtain ⟨front, rest, rfl, reached⟩ := upTo x member
    obtain ⟨sessions, grants, receipts⟩ := within_of_run normal reached opened.early
    exact ⟨sessions, grants, receipts⟩
  · intro steadfast x member
    obtain ⟨front, rest, rfl, reached⟩ := upTo x member
    exact (hosted_of_run reached steadfast.early).outlived
  · intro tx same
    have positive := (Config.normalize_positive normal).1
    have few : (tx.data.sessions.size : Int) ≤ limits.maxSessions := same ▸ (within_of_run normal run opened).sessions
    rw [Tx.sessions_run, if_pos ⟨le_of_lt positive, few⟩]
    exact ⟨_, rfl⟩

end Runs

open Plain in
theorem capacity_finite_invited :
    (World.empty.after primitives invited).store.data.grants.size = 1 ∧
      ∀ x ∈ World.empty.history primitives invited, (x.after.store.data.sessions.size : Int) ≤ 1000 ∧
        ∀ k g, x.after.store.data.grants.lookup k = some g →
          ∃ r, x.after.store.data.sessions.lookup g.sessionID = some r ∧ g.expiresAt ≤ r.expiresAt := by
  have run := World.Admissible.exec (P := primitives) (w := World.empty)
    (show World.empty.Admissible primitives invited by decide +kernel)
  have configured : ∀ x ∈ World.empty.history primitives invited, ∀ secret c,
      x.event.action = .openService secret c → c = defaults "group" := by
    intro x member secret c action
    have event := World.event_mem_of_history member
    simp only [invited, started, Plain.event, List.cons_append, List.nil_append, List.mem_cons, List.not_mem_nil,
      or_false] at event
    rcases event with event | event | event | event | event <;> rw [event] at action <;> cases action
    rfl
  have chronological : (World.empty.history primitives invited).Pairwise
      fun x y => x.event.env.now ≤ y.event.env.now := by
    decide +kernel
  have opened : OpenedWith (defaults "group") (World.empty.history primitives invited) :=
    fun x member secret c action => configured x member secret c action ▸ ⟨rfl, rfl, rfl⟩
  have steadfast : Steadfast (defaults "group").sessionTTL (World.empty.history primitives invited) :=
    ⟨chronological, fun x member secret c action => configured x member secret c action ▸ rfl⟩
  obtain ⟨within, outlived, _⟩ := capacity_finite (run.mono World.Moves.steps) rfl opened
  exact ⟨by decide +kernel, fun x member => ⟨(within x member).1, outlived steadfast x member⟩⟩

end Relay
