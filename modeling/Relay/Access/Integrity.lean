import Relay.Access.System

/-! What holds of the records in every reachable state: they are stored under their own
identifiers, every identifier in use was drawn, and a grant belongs to a stored Session
that declares its bus. -/
namespace Relay

def SessionRecord.Offers (r : SessionRecord) (bus : String) : Prop := bus = mix ∨ bus ∈ r.requiredBuses

structure SessionRecord.Same (r r' : SessionRecord) : Prop where
  id : r'.id = r.id
  issuer : r'.issuer = r.issuer
  incarnation : r'.incarnation = r.incarnation
  requiredBuses : r'.requiredBuses = r.requiredBuses

namespace SessionRecord.Same

theorem refl (r : SessionRecord) : r.Same r := ⟨rfl, rfl, rfl, rfl⟩

theorem trans {a b c : SessionRecord} (first : a.Same b) (second : b.Same c) : a.Same c :=
  ⟨second.id.trans first.id, second.issuer.trans first.issuer,
    second.incarnation.trans first.incarnation, second.requiredBuses.trans first.requiredBuses⟩

theorem offers {r r' : SessionRecord} (same : r.Same r') {bus : String} (offered : r.Offers bus) :
    r'.Offers bus := by
  unfold Offers at *
  rw [same.requiredBuses]
  exact offered

end SessionRecord.Same

theorem SessionRecord.same_clear (r : SessionRecord) : r.Same r.clear := ⟨rfl, rfl, rfl, rfl⟩

theorem SessionRecord.same_extend (r : SessionRecord) (ttl : Duration) (now : Time) :
    r.Same (r.extend ttl now) := ⟨rfl, rfl, rfl, rfl⟩

theorem Service.same_observe (s : Service) (r : SessionRecord) (snapshot : RelayState) (now : Time) :
    r.Same (s.observe r snapshot now) := by
  unfold Service.observe
  dsimp only
  split <;> exact ⟨rfl, rfl, rfl, rfl⟩

theorem Service.same_place (s : Service) (r : SessionRecord) (id epoch : String) (now : Time) :
    r.Same (s.place r id epoch now) := ⟨rfl, rfl, rfl, rfl⟩

inductive Effect (P : Primitives) (s : Service) (now : Time) (drawn : List String) (d : Records) :
    Records → Prop
  | keep : Effect P s now drawn d d
  | declare (id : String) (buses values : List String) :
    id ∈ drawn → Declared values buses →
    Effect P s now drawn d (d.putSession (s.newSession id buses now))
  | revise (id : String) (r r' : SessionRecord) :
    s.Active d now id r → r.Same r' → Effect P s now drawn d (d.putSession r')
  | revoke (id : String) (r : SessionRecord) :
    s.Active d now id r → Effect P s now drawn d (d.deleteSession id)
  | invite (r : SessionRecord) (g : GrantRecord) :
    s.Active d now g.sessionID r → s.busReady r g.busID now = true → g.id ∈ drawn →
    Effect P s now drawn d (d.putGrant g)
  | redeem (key : String) (digests : Service.RedeemDigests) (response : Bytes) (g : GrantRecord)
      (r : SessionRecord) :
    s.Active d now g.sessionID r → Effect P s now drawn d (s.redeemed d key digests g r response now)

variable {r r' : SessionRecord} {P : Primitives} {s : Service} {now : Time} {k : String} {d d' : Records}
  {request : Request} {a : Answer} {h : History} {w : World} {signed : List Signed}

theorem Performed.effect {drawn : List String} (performed : Performed P s now d request a signed drawn d') :
    Effect P s now drawn d d' := by
  cases performed with
  | create declared made => exact .declare _ _ _ (by simp) (validateRequiredBuses_ok declared)
  | get | absent | ignore | replay | held => exact .keep
  | clear active => exact .revise _ _ _ active (SessionRecord.same_clear _)
  | delete active => exact .revoke _ _ active
  | publish active | subscribe active | renew active =>
    exact .revise _ _ _ active (SessionRecord.same_extend _ _ _)
  | observe _ _ active => exact .revise _ _ _ active (s.same_observe _ _ _)
  | invite active session bus isReady drew fresh =>
    subst session
    subst bus
    exact .invite _ _ active isReady drew
  | consume consumed => exact .redeem _ _ _ _ _ consumed.active
  | place active => exact .revise _ _ _ active (s.same_place _ _ _ _)

theorem Service.busReady_offers {bus : String} (isReady : s.busReady r bus now = true) : r.Offers bus := by
  unfold Service.busReady at isReady
  split at isReady
  · cases isReady
  · split at isReady
    · exact .inl (by assumption)
    · split at isReady
      · cases isReady
      · rename_i declared
        exact .inr (not_not.mp declared)

namespace Records

theorem Cleared.origin {d d' : Records} (cleared : d.Cleared d') {k : String} {r' : SessionRecord}
    (found : d'.sessions.lookup k = some r') : ∃ r, d.sessions.lookup k = some r ∧ r.Same r' := by
  rcases cleared.sessions k with same | ⟨r, stored, dropped⟩
  · exact ⟨r', same ▸ found, .refl r'⟩
  · rw [dropped] at found
    cases found
    exact ⟨r, stored, r.same_clear⟩

structure Shrinks (d d' : Records) : Prop where
  sessions : ∀ {k r}, d'.sessions.lookup k = some r → d.sessions.lookup k = some r
  grants : ∀ {k g}, d'.grants.lookup k = some g → d.grants.lookup k = some g ∧
    ∀ r, d.sessions.lookup g.sessionID = some r → d'.sessions.lookup g.sessionID = some r
  receipts : ∀ {k c}, d'.receipts.lookup k = some c → d.receipts.lookup k = some c

theorem shrinks_putNamespace (d : Records) (n : Namespace) : d.Shrinks (d.putNamespace n) :=
  ⟨id, fun found => ⟨found, fun _ => id⟩, id⟩

theorem Shrinks.trans {a b c : Records} (first : a.Shrinks b) (second : b.Shrinks c) : a.Shrinks c where
  sessions found := first.sessions (second.sessions found)
  grants found := by
    obtain ⟨middle, keeps⟩ := second.grants found
    obtain ⟨early, keeps'⟩ := first.grants middle
    exact ⟨early, fun r stored => keeps r (keeps' r stored)⟩
  receipts found := first.receipts (second.receipts found)

theorem shrinks_deleteGrant (d : Records) (id : String) : d.Shrinks (d.deleteGrant id) where
  sessions found := by simpa using found
  grants found := ⟨(deleteGrant_grants.mp found).1, fun r stored => by simpa using stored⟩
  receipts found := by simpa using found

theorem shrinks_deleteSession (d : Records) (id : String) : d.Shrinks (d.deleteSession id) where
  sessions found := by
    rw [deleteSession_sessions, Table.lookup_erase_some] at found
    exact found.2
  grants found := by
    obtain ⟨stored, other⟩ := deleteSession_grants.mp found
    refine ⟨stored, fun r session => ?_⟩
    rw [deleteSession_sessions, Table.lookup_erase_some]
    exact ⟨other, session⟩
  receipts found := (deleteSession_receipts.mp found).1

theorem shrinks_pruneExpired (d : Records) (now : Time) : d.Shrinks (d.pruneExpired now) where
  sessions found := (pruneExpired_sessions.mp found).1
  grants found := by
    obtain ⟨stored, _, live⟩ := pruneExpired_grants.mp found
    exact ⟨stored, fun r session => pruneExpired_sessions.mpr ⟨session, live r session⟩⟩
  receipts found := (pruneExpired_receipts.mp found).1

theorem shrinks_deleteRows (d : Records) (rows : List SessionRecord) : d.Shrinks (d.deleteRows rows) where
  sessions found := (deleteRows_sessions.mp found).1
  grants found := by
    obtain ⟨stored, others⟩ := deleteRows_grants.mp found
    exact ⟨stored, fun r session => deleteRows_sessions.mpr ⟨session, others⟩⟩
  receipts found := (deleteRows_receipts.mp found).1

namespace Keyed

variable {d d' : Records}

theorem shrink (keyed : d.Keyed) (shrinks : d.Shrinks d') : d'.Keyed where
  sessions found := keyed.sessions (shrinks.sessions found)
  grants found := keyed.grants (shrinks.grants found).1

theorem putSession (keyed : d.Keyed) (r : SessionRecord) : (d.putSession r).Keyed where
  sessions found := by
    rcases putSession_sessions.mp found with ⟨rfl, rfl⟩ | ⟨_, found⟩
    · rfl
    · exact keyed.sessions found
  grants := keyed.grants

theorem putGrant (keyed : d.Keyed) (g : GrantRecord) : (d.putGrant g).Keyed where
  sessions := keyed.sessions
  grants found := by
    rcases putGrant_grants.mp found with ⟨rfl, rfl⟩ | ⟨_, found⟩
    · rfl
    · exact keyed.grants found

theorem putReceipt (keyed : d.Keyed) (c : Receipt) : (d.putReceipt c).Keyed :=
  ⟨keyed.sessions, keyed.grants⟩

theorem cleared (keyed : d.Keyed) (cleared : d.Cleared d') : d'.Keyed where
  sessions found := by
    obtain ⟨r, stored, same⟩ := cleared.origin found
    exact same.id.trans (keyed.sessions stored)
  grants found := keyed.grants (cleared.grants ▸ found)

theorem effect {P : Primitives} {s : Service} {now : Time} {drawn : List String} (keyed : d.Keyed)
    (effect : Effect P s now drawn d d') : d'.Keyed := by
  cases effect with
  | keep => exact keyed
  | declare | revise => exact keyed.putSession _
  | revoke => exact keyed.shrink (shrinks_deleteSession _ _)
  | invite => exact keyed.putGrant _
  | redeem =>
    refine Keyed.shrink ?_ (shrinks_deleteGrant _ _)
    split
    · exact keyed.putReceipt _
    · exact keyed

end Keyed

structure Sound (known : List String) (d : Records) : Prop where
  keyed : d.Keyed
  session_known : ∀ {k r}, d.sessions.lookup k = some r → k ∈ known
  grant_known : ∀ {k g}, d.grants.lookup k = some g → k ∈ known
  grant_session : ∀ {k g}, d.grants.lookup k = some g →
    ∃ r, d.sessions.lookup g.sessionID = some r ∧ r.Offers g.busID
  receipt_known : ∀ {k c}, d.receipts.lookup k = some c → c.sessionID ∈ known

theorem keyed_empty : Keyed Records.empty := by
  constructor <;> simp [empty]

theorem sound_empty : Sound [] Records.empty := by
  constructor
  · exact keyed_empty
  all_goals simp [empty]

namespace Sound

variable {known known' : List String} {d d' : Records}

theorem mono (sound : Sound known d) (more : known ⊆ known') : Sound known' d where
  keyed := sound.keyed
  session_known found := more (sound.session_known found)
  grant_known found := more (sound.grant_known found)
  grant_session := sound.grant_session
  receipt_known found := more (sound.receipt_known found)

theorem shrink (sound : Sound known d) (shrinks : d.Shrinks d') : Sound known d' where
  keyed := sound.keyed.shrink shrinks
  session_known found := sound.session_known (shrinks.sessions found)
  grant_known found := sound.grant_known (shrinks.grants found).1
  grant_session found := by
    obtain ⟨stored, keeps⟩ := shrinks.grants found
    obtain ⟨r, session, offered⟩ := sound.grant_session stored
    exact ⟨r, keeps r session, offered⟩
  receipt_known found := sound.receipt_known (shrinks.receipts found)

theorem rewrite (sound : Sound known d) (keyed : d'.Keyed) (grants : d'.grants = d.grants)
    (receipts : d'.receipts = d.receipts)
    (sessions : ∀ k r', d'.sessions.lookup k = some r' → k ∈ known)
    (kept : ∀ k r g, d.grants.lookup k = some g → d.sessions.lookup g.sessionID = some r →
      ∃ r', d'.sessions.lookup g.sessionID = some r' ∧ r.Same r') : Sound known d' where
  keyed := keyed
  session_known found := sessions _ _ found
  grant_known found := sound.grant_known (grants ▸ found)
  grant_session found := by
    rw [grants] at found
    obtain ⟨r, session, offered⟩ := sound.grant_session found
    obtain ⟨r', session', same⟩ := kept _ r _ found session
    exact ⟨r', session', same.offers offered⟩
  receipt_known found := sound.receipt_known (receipts ▸ found)

variable {r : SessionRecord}

theorem putSession (sound : Sound known d) (member : r.id ∈ known) (kept : ∀ old, d.sessions.lookup r.id = some old →
      (∃ k g, d.grants.lookup k = some g ∧ g.sessionID = r.id) → old.Same r) :
    Sound known (d.putSession r) := by
  refine sound.rewrite (sound.keyed.putSession r) rfl rfl ?_ ?_
  · intro k r' found
    rcases putSession_sessions.mp found with ⟨rfl, rfl⟩ | ⟨_, found⟩
    · exact member
    · exact sound.session_known found
  · intro k old g stored session
    by_cases here : g.sessionID = r.id
    · refine ⟨r, ?_, kept old (here ▸ session) ⟨k, g, stored, here⟩⟩
      rw [here]
      exact putSession_lookup_self d r
    · refine ⟨old, ?_, .refl old⟩
      rw [putSession_lookup_ne here]
      exact session

theorem cleared (sound : Sound known d) (cleared : d.Cleared d') : Sound known d' := by
  refine sound.rewrite (sound.keyed.cleared cleared) cleared.grants cleared.receipts ?_ ?_
  · intro k r' found
    obtain ⟨r, stored, _⟩ := cleared.origin found
    exact sound.session_known stored
  · intro k r g _ session
    rcases cleared.sessions g.sessionID with same | ⟨r', stored, dropped⟩
    · exact ⟨r, same.trans session, .refl r⟩
    · rw [session] at stored
      cases stored
      exact ⟨r.clear, dropped, r.same_clear⟩

theorem putGrant {g : GrantRecord} (sound : Sound known d) (member : g.id ∈ known)
    (session : d.sessions.lookup g.sessionID = some r) (offered : r.Offers g.busID) :
    Sound known (d.putGrant g) where
  keyed := sound.keyed.putGrant g
  session_known := sound.session_known
  grant_known found := by
    rcases putGrant_grants.mp found with ⟨rfl, rfl⟩ | ⟨_, found⟩
    · exact member
    · exact sound.grant_known found
  grant_session found := by
    rcases putGrant_grants.mp found with ⟨rfl, rfl⟩ | ⟨_, found⟩
    · exact ⟨r, session, offered⟩
    · exact sound.grant_session found
  receipt_known := sound.receipt_known

theorem putReceipt {c : Receipt} (sound : Sound known d) (member : c.sessionID ∈ known) :
    Sound known (d.putReceipt c) where
  keyed := sound.keyed.putReceipt c
  session_known := sound.session_known
  grant_known := sound.grant_known
  grant_session := sound.grant_session
  receipt_known found := by
    rcases putReceipt_lookup.mp found with ⟨_, rfl⟩ | ⟨_, found⟩
    · exact member
    · exact sound.receipt_known found

theorem effect {P : Primitives} {s : Service} {now : Time} {drawn : List String}
    (sound : Sound known d) (fresh : ∀ id ∈ drawn, id ∉ known)
    (effect : Effect P s now drawn d d') : Sound (known ++ drawn) d' := by
  have wider : Sound (known ++ drawn) d := sound.mono (List.subset_append_left _ _)
  cases effect with
  | keep => exact wider
  | declare id required values drew declared =>
    refine wider.putSession (List.mem_append_right _ drew) ?_
    -- An identifier drawn now cannot be one that is stored.
    intro old stored
    exact absurd (sound.session_known stored) (fresh id drew)
  | revise id r r' active same =>
    have own : r'.id = id := same.id.trans (sound.keyed.sessions active.found)
    refine wider.putSession (own ▸ wider.session_known active.found) ?_
    intro old stored _
    rw [own, active.found] at stored
    cases stored
    exact same
  | revoke id r active => exact wider.shrink (shrinks_deleteSession d id)
  | invite r g active isReady drew =>
    exact wider.putGrant (List.mem_append_right _ drew) active.found
      (Service.busReady_offers isReady)
  | redeem key digests response g r active =>
    unfold Service.redeemed
    refine Sound.shrink ?_ (shrinks_deleteGrant _ _)
    split
    · exact wider.putReceipt (wider.session_known active.found)
    · exact wider

end Sound

end Records

theorem Service.shrinks_prologue (s : Service) (now : Time) (d : Records) :
    d.Shrinks (s.prologue now d) :=
  (Records.shrinks_putNamespace d _).trans (Records.shrinks_pruneExpired _ now)

theorem Effect.grant_origin {drawn : List String} (effect : Effect P s now drawn d d') {g : GrantRecord}
    (stored : d'.grants.lookup k = some g) : d.grants.lookup k = some g ∨ k ∈ drawn := by
  cases effect with
  | keep => exact .inl stored
  | declare | revise => exact .inl stored
  | revoke id r active => exact .inl (Records.deleteSession_grants.mp stored).1
  | invite r g' active isReady drew =>
    rcases Records.putGrant_grants.mp stored with ⟨rfl, _⟩ | ⟨_, found⟩
    · exact .inr drew
    · exact .inl found
  | redeem key digests response g' r active =>
    obtain ⟨found, _⟩ := Records.deleteGrant_grants.mp stored
    left
    split at found
    · exact found
    · exact found

inductive Revision (s : Service) (now : Time) (request : Request) (a : Answer) (id : String) :
    SessionRecord → SessionRecord → Prop
  | clear (r : SessionRecord) : Revision s now request a id r r.clear
  | extend (r : SessionRecord) : Revision s now request a id r (r.extend s.config.sessionTTL now)
  | observe (r : SessionRecord) (snapshot : RelayState) :
    request = .apply id snapshot → snapshot.relayEpoch = r.relay.relayEpoch →
    r.relay.revision ≤ snapshot.revision →
    Revision s now request a id r (s.observe r (normalizeRelaySnapshot snapshot) now)
  | place (r : SessionRecord) (epoch : String) :
    request = .acquire id epoch r.mediaTerm → a = .term (r.mediaTerm + 1) →
    validIdentifier epoch maxRelayEpochSize = true →
    Revision s now request a id r (s.place r id epoch now)

theorem Revision.same {id : String} (revision : Revision s now request a id r r') : r.Same r' := by
  cases revision with
  | clear => exact r.same_clear
  | extend => exact r.same_extend _ _
  | observe snapshot => exact s.same_observe r _ now
  | place epoch => exact s.same_place r id epoch now

inductive Fate (s : Service) (now : Time) (d : Records) (request : Request) (a : Answer)
    (drawn : List String) (k : String) : SessionRecord → Prop
  | kept {r : SessionRecord} : d.sessions.lookup k = some r → Fate s now d request a drawn k r
  | revised {r r' : SessionRecord} :
    d.sessions.lookup k = some r → Revision s now request a k r r' → Fate s now d request a drawn k r'
  | created {required buses : List String} :
    request = .create required → k ∈ drawn → k ≠ "" →
    validateRequiredBuses (if required.length = 0 then Service.defaultBuses else required) = .ok buses →
    Fate s now d request a drawn k (s.newSession k buses now)

namespace Fate

variable {s : Service} {now : Time} {d : Records} {request : Request} {a : Answer}
  {drawn : List String} {k : String} {r' : SessionRecord}

theorem of_revision (keyed : d.Keyed) {id : String} {r x : SessionRecord}
    (found : d.sessions.lookup id = some r) (revision : Revision s now request a id r x)
    (stored : (d.putSession x).sessions.lookup k = some r') : Fate s now d request a drawn k r' := by
  rcases Records.putSession_sessions.mp stored with ⟨rfl, rfl⟩ | ⟨_, stored⟩
  · have own : x.id = id := revision.same.id.trans (keyed.sessions found)
    rw [own]
    exact .revised found revision
  · exact .kept stored

theorem later {d₀ : Records} (fate : Fate s now d request a drawn k r') (shrinks : d₀.Shrinks d) :
    Fate s now d₀ request a drawn k r' := by
  cases fate with
  | kept found => exact .kept (shrinks.sessions found)
  | revised found revision => exact .revised (shrinks.sessions found) revision
  | created asked drew named declared => exact .created asked drew named declared

end Fate

theorem Performed.fate {drawn : List String} (performed : Performed P s now d request a signed drawn d')
    (keyed : d.Keyed) (stored : d'.sessions.lookup k = some r') : Fate s now d request a drawn k r' := by
  cases performed with
  | create declared made named =>
    rcases Records.putSession_sessions.mp stored with ⟨rfl, rfl⟩ | ⟨_, stored⟩
    · exact .created rfl (by simp) named declared
    · exact .kept stored
  | get | absent | ignore | replay | held | invite => exact .kept stored
  | clear active => exact .of_revision keyed active.found (.clear _) stored
  | delete active => exact .kept ((Records.shrinks_deleteSession _ _).sessions stored)
  | publish active | subscribe active | renew active =>
    exact .of_revision keyed active.found (.extend _) stored
  | observe _ _ active _ _ epoch newer =>
    exact .of_revision keyed active.found (.observe _ _ rfl epoch newer) stored
  | place active _ valid => exact .of_revision keyed active.found (.place _ _ rfl rfl valid) stored
  | consume consumed =>
    unfold Service.redeemed at stored
    rw [Records.deleteGrant_sessions] at stored
    split at stored <;> exact .kept stored

theorem Succeeded.fate {drawn : List String} (succeeded : Succeeded P s now d request a signed drawn d')
    (keyed : d.Keyed) (stored : d'.sessions.lookup k = some r') : Fate s now d request a drawn k r' := by
  cases succeeded with
  | read => exact .kept stored
  | performed performed =>
    have shrinks := s.shrinks_prologue now d
    exact (performed.fate (keyed.shrink shrinks) stored).later shrinks

theorem Succeeded.effect {drawn : List String} (succeeded : Succeeded P s now d request a signed drawn d') :
    d' = d ∨ Effect P s now drawn (s.prologue now d) d' := by
  cases succeeded with
  | read => exact .inl rfl
  | performed performed => exact .inr performed.effect

namespace World

variable {P : Primitives} {w w' : World} {e : Event} {known : List String}
variable {replicas : List Service} {r' : SessionRecord} {k : String} {d : Records}

section

variable (change : Change P w e d replicas)

include change

theorem Change.keyed (keyed : w.store.data.Keyed) : d.Keyed := by
  cases change with
  | quiet => exact keyed
  | opened secret config base ns d _ _ _ _ cleared _ _ =>
    exact (keyed.shrink (Records.shrinks_putNamespace _ _)).cleared cleared
  | reset rows id _ _ _ _ =>
    exact (keyed.shrink (Records.shrinks_deleteRows _ rows)).shrink (Records.shrinks_putNamespace _ _)
  | called s request a d _ _ _ _ succeeded =>
    rcases succeeded.effect with rfl | effect
    · exact keyed
    · exact (keyed.shrink (s.shrinks_prologue _ _)).effect effect

theorem Change.fate (keyed : w.store.data.Keyed) (stored : d.sessions.lookup k = some r') :
    (∃ r, w.store.data.sessions.lookup k = some r ∧ (r' = r ∨ r' = r.clear)) ∨
      ∃ s request a, e.action = .call s request ∧ (w.exec P e).reply = .ok a ∧
        Fate s e.env.now w.store.data request a (w.exec P e).drawn k r' := by
  cases change with
  | quiet => exact .inl ⟨r', stored, .inl rfl⟩
  | opened secret config base ns d _ _ _ _ cleared _ _ =>
    left
    rcases cleared.sessions k with same | ⟨r, found, dropped⟩
    · exact ⟨r', same ▸ stored, .inl rfl⟩
    · rw [dropped] at stored
      exact ⟨r, found, .inr (Option.some.inj stored).symm⟩
  | reset rows id _ _ _ _ =>
    exact .inl ⟨r', (Records.shrinks_deleteRows _ rows).sessions stored, .inl rfl⟩
  | called s request a d _ calls ok _ succeeded =>
    exact .inr ⟨s, request, a, calls, ok, succeeded.fate keyed stored⟩

theorem Change.session_origin (keyed : w.store.data.Keyed) (stored : d.sessions.lookup k = some r') :
    (∃ r, w.store.data.sessions.lookup k = some r ∧ r.Same r') ∨
      ∃ s required buses, e.action = .call s (.create required) ∧ k ∈ (w.exec P e).drawn ∧ k ≠ "" ∧
        validateRequiredBuses (if required.length = 0 then Service.defaultBuses else required) =
          .ok buses ∧
        r' = s.newSession k buses e.env.now := by
  rcases change.fate keyed stored with
    ⟨r, found, rfl | rfl⟩ | ⟨s, request, a, calls, _, fate⟩
  · exact .inl ⟨r', found, .refl r'⟩
  · exact .inl ⟨r, found, r.same_clear⟩
  · cases fate with
    | kept found => exact .inl ⟨r', found, .refl r'⟩
    | revised found revision => exact .inl ⟨_, found, revision.same⟩
    | created asked drew named declared =>
      subst asked
      exact .inr ⟨s, _, _, calls, drew, named, declared, rfl⟩

theorem Change.sound (fresh : ∀ id ∈ (w.exec P e).drawn, id ∉ known) (sound : w.store.data.Sound known) :
    d.Sound (known ++ (w.exec P e).drawn) := by
  have wider : w.store.data.Sound (known ++ (w.exec P e).drawn) :=
    sound.mono (List.subset_append_left _ _)
  cases change with
  | quiet => exact wider
  | opened secret config base ns d _ _ _ _ cleared _ _ =>
    exact (wider.shrink (Records.shrinks_putNamespace _ _)).cleared cleared
  | reset rows id _ _ _ _ =>
    exact (wider.shrink (Records.shrinks_deleteRows _ rows)).shrink (Records.shrinks_putNamespace _ _)
  | called s request a d _ _ _ _ succeeded =>
    rcases succeeded.effect with rfl | effect
    · exact wider
    · exact (sound.shrink (s.shrinks_prologue _ _)).effect fresh effect

end

end World

theorem keyed_of_run (run : Runs P h w) : w.store.data.Keyed :=
  run.invariant (I := fun w => w.store.data.Keyed)
    (fun keyed move => (move.change keyed).keyed keyed) Records.keyed_empty

theorem fixed_of_run {Q : String → SessionRecord → Prop} (same : ∀ {k r r'}, r.Same r' → Q k r → Q k r')
    (created : ∀ (s : Service) {required buses : List String} {k : String} {now : Time}, k ≠ "" →
      validateRequiredBuses (if required.length = 0 then Service.defaultBuses else required) =
        .ok buses → Q k (s.newSession k buses now)) (run : Runs P h w) :
    ∀ k r, w.store.data.sessions.lookup k = some r → Q k r := by
  induction run with
  | nil =>
    intro k r stored
    cases stored
  | snoc before move ih =>
    intro k r' stored
    have keyed := keyed_of_run before
    rcases (move.change keyed).session_origin keyed stored with
      ⟨r, found, fixed⟩ | ⟨s, _, _, _, _, named, declared, rfl⟩
    · exact same fixed (ih k r found)
    · exact created s named declared

theorem declared_of_run (run : Runs P h w) :
    ∀ k r, w.store.data.sessions.lookup k = some r →
      k ≠ "" ∧ ∃ values, Declared values r.requiredBuses := by
  apply fixed_of_run (Q := fun k r => k ≠ "" ∧ ∃ values, Declared values r.requiredBuses) _ _ run
  · rintro k r r' same ⟨named, values, declared⟩
    exact ⟨named, values, same.requiredBuses ▸ declared⟩
  · intro s required buses k now named declared
    exact ⟨named, _, validateRequiredBuses_ok declared⟩

def Unrepeated (P : Primitives) (h : History) : Prop := (drawn P h).Nodup

instance (P : Primitives) (h : History) : Decidable (Unrepeated P h) := inferInstanceAs (Decidable (List.Nodup _))

theorem Unrepeated.early {k : History} (unrepeated : Unrepeated P (h ++ k)) : Unrepeated P h := by
  unfold Unrepeated drawn at *
  rw [List.flatMap_append] at unrepeated
  exact (List.nodup_append.mp unrepeated).1

theorem Unrepeated.fresh {x : Step World Event} (unrepeated : Unrepeated P (h ++ [x])) :
    ∀ id ∈ (ran P x).drawn, id ∉ drawn P h := by
  unfold Unrepeated at unrepeated
  rw [drawn_snoc] at unrepeated
  intro id drew before
  exact (List.nodup_append.mp unrepeated).2.2 id before id drew rfl

theorem sound_of_run (run : Runs P h w) (unrepeated : Unrepeated P h) : w.store.data.Sound (drawn P h) := by
  refine Exec.history (G := Unrepeated P) (I := fun h w => w.store.data.Sound (drawn P h))
    Unrepeated.early ?_ ?_ run unrepeated
  · exact Records.sound_empty
  · intro h t e u _ good sound move
    rw [drawn_snoc]
    exact (move.change sound.keyed).sound good.fresh sound

end Relay
