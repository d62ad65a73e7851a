import Relay.Access.Integrity

/-! What every signature was made for, whether or not the call that made it succeeded:
a transaction that fails after signing leaves its signature in the log. -/
namespace Relay

abbrev Silent {α : Type} (m : TxM α) : Prop := Txn.Keeps Tx.signed m

namespace Tx

@[simp] theorem silent_setData (g : Tx → Records) :
    Silent (Txn.modify fun tx => tx.setData (g tx) : TxM Unit) := Txn.keeps_modify fun _ => rfl

@[simp] theorem silent_bounded (P : Primitives) (v : Stored) : Silent (bounded P v) := by
  simp [bounded]

@[simp] theorem silent_write : Silent write := by simp [write]

@[simp] theorem silent_clock : Silent clock := by simp [clock]

@[simp] theorem silent_ns : Silent ns := by simp [ns]

@[simp] theorem silent_counts : Silent counts := by simp [counts]

@[simp] theorem silent_receipt (key : String) : Silent (receipt key) := by simp [receipt]

@[simp] theorem silent_grant (locator : String) : Silent (grant locator) := by
  intro tx
  rw [grant_run]

@[simp] theorem silent_putSession (P : Primitives) (r : SessionRecord) : Silent (putSession P r) := by
  simp [putSession]

@[simp] theorem silent_putReceipt (P : Primitives) (r : Receipt) : Silent (putReceipt P r) := by
  unfold putReceipt
  repeat' first
    | solve | simp
    | refine Txn.keeps_bind ?_ fun _ => ?_

@[simp] theorem silent_putGrant (P : Primitives) (r : GrantRecord) : Silent (putGrant P r) := by
  unfold putGrant
  repeat' first
    | solve | simp
    | refine Txn.keeps_bind ?_ fun _ => ?_

@[simp] theorem silent_deleteSession (id : String) : Silent (deleteSession id) := by
  simp [deleteSession]

@[simp] theorem silent_deleteGrant (id : String) : Silent (deleteGrant id) := by simp [deleteGrant]

@[simp] theorem silent_pruneExpired : Silent pruneExpired := by simp [pruneExpired]

@[simp] theorem silent_putNamespace (P : Primitives) (r : Namespace) : Silent (putNamespace P r) := by
  simp [putNamespace]

@[simp] theorem silent_sessions (limit : Int) : Silent (sessions limit) := by
  unfold sessions
  repeat' first
    | solve | simp
    | refine Txn.keeps_bind ?_ fun _ => ?_

@[simp] theorem silent_readRandom (n : Nat) : Silent (readRandom n) := by
  unfold readRandom
  repeat' first
    | solve | simp
    | refine Txn.keeps_bind ?_ fun _ => ?_
    | exact Txn.keeps_modify fun _ => rfl

end Tx

@[simp] theorem silent_randomSessionID : Silent randomSessionID := by
  refine Txn.keeps_bind (Tx.silent_readRandom 16) fun _ => ?_
  exact Txn.keeps_bind (Txn.keeps_modify fun _ => rfl) fun _ => Txn.keeps_pure _

@[simp] theorem silent_randomTokenID : Silent randomTokenID := by simp [randomTokenID]

theorem silent_signProfile (P : Primitives) (secret : Bytes) (issuer incarnation : String)
    (claims : Claims) (ttl : Duration) (now : Time) :
    Silent (signProfile P secret issuer incarnation claims ttl now) := by
  unfold signProfile
  repeat' first
    | solve | simp
    | refine Txn.keeps_bind ?_ fun _ => ?_

namespace Service

@[simp] theorem silent_active (s : Service) (id : String) : Silent (s.active id) := by
  intro tx
  rw [active_run]
  cases tx.data.sessions.lookup id with
  | none => rfl
  | some r =>
    dsimp only
    split <;> rfl

@[simp] theorem silent_checkWriter (s : Service) : Silent s.checkWriter := by simp [checkWriter]

section

variable (P : Primitives)

include P

theorem silent_getBody (s : Service) (id : String) : Silent (s.getBody P id) := by
  unfold getBody
  repeat' first
    | solve | simp
    | refine Txn.keeps_bind ?_ fun _ => ?_

omit P in
theorem silent_deleteBody (s : Service) (id : String) : Silent (s.deleteBody id) := by
  refine Txn.keeps_bind (Txn.keeps_attempt (s.silent_active id)) fun found => ?_
  cases found with
  | ok r => simp
  | error e => cases e <;> simp

theorem silent_applyBody (s : Service) (id : String) (snapshot : RelayState) : Silent (s.applyBody P id snapshot) := by
  unfold applyBody
  repeat' first
    | solve | simp
    | refine Txn.keeps_bind ?_ fun _ => ?_
    | refine Txn.keeps_ite _ ?_ ?_

theorem silent_acquireBody (s : Service) (id epoch : String) (expected : Nat) :
    Silent (s.acquireBody P id epoch expected) := by
  unfold acquireBody
  repeat' first
    | solve | simp
    | refine Txn.keeps_bind ?_ fun _ => ?_
    | refine Txn.keeps_ite _ ?_ ?_

@[simp] theorem silent_generateName (words : Nat) : Silent (generateName P words) := by
  unfold generateName
  repeat' first
    | solve | simp
    | refine Txn.keeps_bind ?_ fun _ => ?_
    | exact Txn.keeps_modify fun _ => rfl

@[simp] theorem silent_allocate (r : SessionRecord) (id bus policy : String) (attempts shortCollisions : Nat) :
    Silent (allocate P r id bus policy attempts shortCollisions) := by
  induction attempts generalizing shortCollisions with
  | zero => exact Txn.keeps_throw _
  | succ attempts ih =>
    refine Txn.keeps_bind (silent_generateName P _) fun name => ?_
    refine Txn.keeps_bind (Tx.silent_grant _) fun occupied => Txn.keeps_ite _ (ih _) ?_
    refine Txn.keeps_bind silent_randomSessionID fun code => ?_
    refine Txn.keeps_bind silent_randomSessionID fun grantID => ?_
    refine Txn.keeps_bind Tx.silent_clock fun now => ?_
    refine Txn.keeps_bind (Txn.keeps_attempt (Tx.silent_putGrant P _)) fun stored => ?_
    cases stored with
    | ok u => exact Txn.keeps_pure _
    | error e =>
      cases e <;> try exact Txn.keeps_throw _
      exact Txn.keeps_bind (Tx.silent_grant _) fun _ => ih _

theorem silent_createInvitationBody (s : Service) (id bus policy : String) :
    Silent (s.createInvitationBody P id bus policy) := by
  unfold createInvitationBody
  repeat' first
    | solve | simp
    | refine Txn.keeps_bind ?_ fun _ => ?_

theorem silent_authorizeBody (s : Service) (id encoded : String) : Silent (s.authorizeBody P id encoded) := by
  unfold authorizeBody
  repeat' first
    | solve | simp
    | refine Txn.keeps_bind ?_ fun _ => ?_

omit P in
theorem silent_metadataBody (s : Service) (id : String) : Silent (s.metadataBody id) := by
  simp [metadataBody]

theorem silent_inspectBody (s : Service) (locator : String) : Silent (s.inspectBody P locator) := by
  refine Txn.keeps_bind s.silent_checkWriter fun _ => ?_
  refine Txn.keeps_bind (Tx.silent_grant locator) fun found => ?_
  refine Txn.keeps_bind Tx.silent_clock fun now => ?_
  cases found with
  | none => exact Txn.keeps_throw _
  | some g =>
    repeat' first
      | solve | simp
      | refine Txn.keeps_bind ?_ fun _ => ?_

omit P in
theorem silent_readyBody (s : Service) : Silent s.readyBody := by simp [readyBody]

theorem silent_clearObservations (rows : List SessionRecord) : Silent (clearObservations P rows) := by
  induction rows with
  | nil => exact Txn.keeps_pure _
  | cons r rows ih =>
    exact Txn.keeps_bind (Txn.keeps_when _ (Tx.silent_putSession P _)) fun _ => ih

theorem silent_openNamespace (secret : Bytes) (config : Config) : Silent (openNamespace P secret config) := by
  refine Txn.keeps_bind Tx.silent_ns fun ns => ?_
  refine Txn.keeps_bind (Txn.keeps_require _ _) fun _ => ?_
  refine Txn.keeps_bind ?_ fun base => ?_
  · unfold initialNamespace
    split
    · exact Txn.keeps_bind silent_randomSessionID fun _ => Txn.keeps_pure _
    · exact Txn.keeps_pure _
  · refine Txn.keeps_bind Tx.silent_clock fun now => ?_
    refine Txn.keeps_bind (Txn.keeps_lift _) fun ns => ?_
    refine Txn.keeps_bind (Tx.silent_putNamespace P _) fun _ => ?_
    refine Txn.keeps_bind (Tx.silent_sessions _) fun rows => ?_
    exact Txn.keeps_bind (silent_clearObservations P rows) fun _ => Txn.keeps_pure _

end

theorem silent_replay (s : Service) (digests : RedeemDigests) (receipt : Receipt) :
    Silent (s.replay digests receipt) := by
  unfold replay
  repeat' first
    | solve | simp
    | refine Txn.keeps_bind ?_ fun _ => ?_

end Service

theorem Store.run_silent {α : Type} {mode : Mode} {env : Env} {st : Store} {fn : TxM α}
    (silent : Silent fn) : (st.run mode env fn).signed = [] := by
  rcases Store.run_logs mode env st fn with ⟨none, _⟩ | ⟨logged, _⟩
  · exact none
  · rw [logged]
    exact silent _

def Signs {α : Type} (Q : Signed → Prop) (m : TxM α) (tx : Tx) : Prop :=
  ∀ σ ∈ (m tx).2.signed, σ ∈ tx.signed ∨ Q σ

namespace Signs

variable {α β : Type} {Q : Signed → Prop} {tx : Tx}
variable {f : α → TxM β} {m : TxM α}

theorem of_silent (silent : Silent m) : Signs Q m tx :=
  fun _ member => .inl (silent tx ▸ member)

theorem bind (first : Signs Q m tx) (rest : ∀ a u, m tx = (.ok a, u) → Signs Q (f a) u) : Signs Q (m >>= f) tx := by
  refine Txn.bind_moves (R := fun t u : Tx => ∀ σ ∈ u.signed, σ ∈ t.signed ∨ Q σ) ?_ first rest
  intro a b c ab bc σ member
  rcases bc σ member with earlier | new
  · exact ab σ earlier
  · exact .inr new

theorem after (silent : Silent m) (rest : ∀ a u, m tx = (.ok a, u) → Signs Q (f a) u) : Signs Q (m >>= f) tx :=
  bind (of_silent silent) rest

theorem before (first : Signs Q m tx) (silent : ∀ a, Silent (f a)) : Signs Q (m >>= f) tx :=
  bind first fun a _ _ => of_silent (silent a)

end Signs

namespace Service

variable {P : Primitives} {s : Service} {tx : Tx} {Q : Signed → Prop}
variable {role : Role} {bus code given id key locator : String} {encode : ResolvedInvitation → Except Err Bytes}
  {r : SessionRecord} {now : Time}

theorem sign_signs {origin : Origin} {claims : Claims} {ttl : Duration}
    (made : ∀ σ expiry, σ.For origin r claims expiry → Q σ) : Signs Q (s.sign P origin r claims ttl now) tx := by
  refine Signs.after (silent_signProfile P _ _ _ _ _ _) ?_
  intro c u signed
  obtain ⟨scope, issuer, incarnation, expiry, rest, rfl⟩ := signProfile_ok signed
  refine Signs.before ?_ fun _ => Txn.keeps_pure _
  intro σ member
  simp only [Txn.modify_run, List.mem_append, List.mem_singleton] at member
  rcases member with earlier | rfl
  · exact .inl earlier
  · exact .inr (made _ _ ⟨rfl, rfl, scope, issuer, incarnation, expiry⟩)

theorem guarded_signs {α : Type} {fn : TxM α}
    (body : Signs Q fn (tx.setData (s.prologue tx.now tx.data))) : Signs Q (s.guarded P fn) tx := by
  refine Signs.after s.silent_checkWriter ?_
  intro _ _ checked
  obtain ⟨_, rfl⟩ := checkWriter_ok checked
  refine Signs.after Tx.silent_ns ?_
  intro _ _ read
  cases read
  refine Signs.after Tx.silent_clock ?_
  intro _ _ clock
  cases clock
  refine Signs.after (Tx.silent_putNamespace P _) ?_
  intro _ _ renewed
  obtain ⟨_, _, rfl⟩ := Tx.putNamespace_ok.mp renewed
  refine Signs.after Tx.silent_pruneExpired ?_
  intro _ _ pruned
  obtain ⟨_, rfl⟩ := Tx.pruneExpired_ok.mp pruned
  exact body

inductive MaySign (P : Primitives) (s : Service) (now : Time) (d : Records) : Request → Signed → Prop
  | create {required buses : List String} {id : String} {σ : Signed} {expiry : Time} :
    validateRequiredBuses (if required.length = 0 then defaultBuses else required) = .ok buses →
    σ.For .create (s.newSession id buses now) (Claims.request id "" buses .source true) expiry →
    MaySign P s now d (.create required) σ
  | publish {id bus : String} {r : SessionRecord} {σ : Signed} {expiry : Time} :
    s.Active d now id r → bus ≠ mix → bus ∈ r.requiredBuses →
    σ.For .issue r (Claims.request id "" [bus] .source false) expiry →
    MaySign P s now d (.publish id bus) σ
  | subscribe {id bus : String} {r : SessionRecord} {σ : Signed} {expiry : Time} :
    s.Active d now id r → bus = mix ∨ bus ∈ r.requiredBuses →
    σ.For .issue r (Claims.request id bus [] .subscriber false) expiry →
    MaySign P s now d (.subscribe id bus) σ
  | redeem {locator code key : String} {encode : ResolvedInvitation → Except Err Bytes}
      {g : GrantRecord} {r : SessionRecord} {σ : Signed} {expiry : Time} :
    Tx.locate d locator = some g → s.Active d now g.sessionID r →
    σ.For (.redeem g.id) r (Claims.request g.sessionID g.busID [] .subscriber false) expiry →
    MaySign P s now d (.redeem locator code key encode) σ
  | renew {id credential : String} {r : SessionRecord} {c : Claims} {σ : Signed} {expiry : Time} :
    s.Active d now id r → s.authorizeRecord P r credential now = .ok c → c.canControl = true →
    σ.For (.renew c) r (Claims.request id "" r.requiredBuses .source true) expiry →
    MaySign P s now d (.renew id credential) σ

theorem createBody_signs {required buses : List String}
    (declared : validateRequiredBuses (if required.length = 0 then defaultBuses else required) =
      .ok buses) :
    Signs (MaySign P s tx.now tx.data (.create required)) (s.createBody P buses) tx := by
  refine Signs.after Tx.silent_counts ?_
  intro _ _ counted
  cases counted
  refine Signs.after (Txn.keeps_require _ _) ?_
  intro _ _ checked
  obtain ⟨_, rfl⟩ := Txn.require_ok.mp checked
  refine Signs.after silent_randomSessionID ?_
  intro id _ drew
  obtain ⟨_, rest, rfl⟩ := randomSessionID_ok drew
  refine Signs.after Tx.silent_clock ?_
  intro _ _ clock
  cases clock
  refine Signs.before (sign_signs fun σ expiry made => .create declared made) ?_
  intro _
  simp

theorem issueCredential_signs
    (made : ∀ σ expiry, (role = .source → bus ≠ mix) → σ.For .issue r (issueClaims id bus role) expiry → Q σ) :
    Signs Q (s.issueCredential P r id bus role now) tx := by
  unfold issueCredential
  split
  · rename_i source
    refine Signs.after (Txn.keeps_require _ _) ?_
    intro _ _ checked
    obtain ⟨virtual, rfl⟩ := Txn.require_ok.mp checked
    refine sign_signs fun σ expiry signed => made σ expiry (fun _ => virtual) ?_
    rw [issueClaims, if_pos source]
    exact signed
  · rename_i receiver
    refine sign_signs fun σ expiry signed => made σ expiry (fun source => absurd source receiver) ?_
    rw [issueClaims, if_neg receiver]
    exact signed

theorem issueBody_signs (made : ∀ r σ expiry, s.Active tx.data tx.now id r → bus = mix ∨ bus ∈ r.requiredBuses →
      (role = .source → bus ≠ mix) → σ.For .issue r (issueClaims id bus role) expiry → Q σ) :
    Signs Q (s.issueBody P id bus role) tx := by
  refine Signs.after (s.silent_active id) ?_
  intro r _ found
  obtain ⟨active, rfl⟩ := active_ok found
  refine Signs.after (Txn.keeps_require _ _) ?_
  intro _ _ checked
  obtain ⟨offered, rfl⟩ := Txn.require_ok.mp checked
  refine Signs.after Tx.silent_clock ?_
  intro _ _ clock
  cases clock
  refine Signs.before (issueCredential_signs fun σ expiry virtual signed =>
    made r σ expiry active offered virtual signed) ?_
  intro _
  simp

theorem renewBody_signs {credential : String} :
    Signs (MaySign P s tx.now tx.data (.renew id credential)) (s.renewBody P id credential) tx := by
  refine Signs.after (s.silent_active id) ?_
  intro r _ found
  obtain ⟨active, rfl⟩ := active_ok found
  refine Signs.after Tx.silent_clock ?_
  intro _ _ clock
  cases clock
  refine Signs.after (Txn.keeps_lift _) ?_
  intro c _ checked
  obtain ⟨authorized, rfl⟩ := Txn.lift_ok.mp checked
  refine Signs.after (Txn.keeps_require _ _) ?_
  intro _ _ checked
  obtain ⟨control, rfl⟩ := Txn.require_ok.mp checked
  refine Signs.before (sign_signs fun σ expiry made => .renew active authorized control made) ?_
  intro _
  simp

theorem consume_signs {digests : RedeemDigests} :
    Signs (MaySign P s tx.now tx.data (.redeem locator given key encode))
      (s.consume P locator code key digests encode) tx := by
  refine Signs.after (Tx.silent_grant locator) ?_
  intro found _ looked
  rw [Tx.grant_run] at looked
  cases looked
  refine Signs.after Tx.silent_clock ?_
  intro _ _ clock
  cases clock
  cases located : Tx.locate tx.data locator with
  | none => exact Signs.of_silent (Txn.keeps_throw _)
  | some g =>
    refine Signs.after (Txn.keeps_require _ _) ?_
    intro _ _ checked
    obtain ⟨_, rfl⟩ := Txn.require_ok.mp checked
    refine Signs.after (Txn.keeps_require _ _) ?_
    intro _ _ checked
    obtain ⟨_, rfl⟩ := Txn.require_ok.mp checked
    refine Signs.after (Txn.keeps_mapError (s.silent_active _)) ?_
    intro r _ found
    obtain ⟨active, rfl⟩ := active_ok (Txn.mapError_ok.mp found)
    refine Signs.after Tx.silent_counts ?_
    intro _ _ counted
    cases counted
    refine Signs.after (Txn.keeps_require _ _) ?_
    intro _ _ checked
    obtain ⟨_, rfl⟩ := Txn.require_ok.mp checked
    refine Signs.before (sign_signs fun σ expiry made => .redeem located active made) ?_
    intro credential
    repeat' first
      | solve | simp
      | refine Txn.keeps_bind ?_ fun _ => ?_

theorem redeemBody_signs :
    Signs (MaySign P s tx.now tx.data (.redeem locator given key encode))
      (s.redeemBody P locator code key encode) tx := by
  have silent : ∀ k, Silent (findReceipt key k) := by
    intro k
    unfold findReceipt
    split <;> simp
  refine Signs.after (silent _) ?_
  intro found u looked
  have same : u = tx := by
    unfold findReceipt at looked
    split at looked <;> cases looked <;> rfl
  subst same
  cases found with
  | some receipt => exact Signs.of_silent (s.silent_replay _ _)
  | none => exact consume_signs

section Calls

variable {env : Env} {st : Store}
variable {α β : Type}

theorem update_signs {fn : TxM α} {f : α → β}
    (body : Signs Q fn ((st.start .write env).setData (s.prologue env.now st.data))) :
    ∀ σ ∈ ((s.update P env st fn).map f).signed, Q σ := by
  intro σ member
  rcases Store.run_logs .write env st (s.guarded P fn) with ⟨none, _⟩ | ⟨logged, _⟩
  · rw [Ran.map_signed, update, Store.update, none] at member
    cases member
  · rw [Ran.map_signed, update, Store.update, logged] at member
    have all : Signs Q (s.guarded P fn) (st.start .write env) := guarded_signs body
    rcases all σ member with earlier | new
    · cases earlier
    · exact new

theorem update_silent {fn : TxM α} {f : α → β} (silent : Silent fn) :
    ∀ σ ∈ ((s.update P env st fn).map f).signed, Q σ :=
  update_signs (Signs.of_silent silent)

theorem view_silent {fn : TxM α} {f : α → β} (silent : Silent fn) : ∀ σ ∈ ((view env st fn).map f).signed, Q σ := by
  intro σ member
  rw [Ran.map_signed, view, Store.view, Store.run_silent silent] at member
  cases member

theorem refuse_silent {f : α → β} {e : Err} : ∀ σ ∈ ((st.refuse e).map f).signed, Q σ := by
  intro σ member
  cases member

theorem answer_signs (request : Request) :
    ∀ σ ∈ (s.answer P env st request).signed,
      MaySign P s env.now (s.prologue env.now st.data) request σ := by
  cases request with
  | create required =>
    simp only [answer, createContext]
    split
    · exact refuse_silent
    · rename_i declared
      exact update_signs (createBody_signs declared)
  | get id => exact update_silent (silent_getBody P s id)
  | delete id => exact update_silent (s.silent_deleteBody id)
  | authorize id encoded => exact view_silent (s.silent_authorizeBody P id encoded)
  | publish id bus =>
    exact update_signs (issueBody_signs fun r σ expiry active offered virtual made =>
      .publish active (virtual rfl) (offered.resolve_left (virtual rfl)) made)
  | subscribe id bus =>
    exact update_signs (issueBody_signs fun r σ expiry active offered _ made =>
      .subscribe active offered made)
  | apply id snapshot =>
    simp only [answer, applyRelayStateContext]
    split
    · exact refuse_silent
    · split
      · exact refuse_silent
      · exact update_silent (silent_applyBody P s id _)
  | invite id bus options =>
    simp only [answer, createInvitation]
    split
    · exact refuse_silent
    · exact update_silent (silent_createInvitationBody P s id bus _)
  | inspect locator =>
    simp only [answer, inspectInvitation]
    split
    · exact refuse_silent
    · exact view_silent (silent_inspectBody P s locator)
  | redeem locator code key encode =>
    simp only [answer, redeem]
    split
    · exact refuse_silent
    · split
      · exact refuse_silent
      · exact update_signs redeemBody_signs
  | metadata id => exact view_silent (s.silent_metadataBody id)
  | acquire id epoch expected =>
    simp only [answer, acquireRelayWriter]
    split
    · exact refuse_silent
    · exact update_silent (silent_acquireBody P s id epoch expected)
  | renew id credential => exact update_signs renewBody_signs
  | ready => exact view_silent s.silent_readyBody

end Calls

end Service

theorem silent_deleteRows (rows : List SessionRecord) : Silent (deleteRows rows) := by
  induction rows with
  | nil => exact Txn.keeps_pure _
  | cons r rows ih => exact Txn.keeps_bind (Tx.silent_deleteSession _) fun _ => ih

theorem silent_resetBody (P : Primitives) (maxSessions : Int) : Silent (resetBody P maxSessions) := by
  refine Txn.keeps_bind (Tx.silent_sessions _) fun rows => ?_
  refine Txn.keeps_bind (silent_deleteRows rows) fun _ => ?_
  exact Txn.keeps_bind silent_randomSessionID fun _ => Tx.silent_putNamespace P _

theorem World.exec_signs {P : Primitives} {w : World} {e : Event} {σ : Signed}
    (member : σ ∈ (w.exec P e).signed) : ∃ s request, e.action = .call s request ∧
      Service.MaySign P s e.env.now (s.prologue e.env.now w.store.data) request σ := by
  cases action : e.action with
  | openService secret config =>
    have none : (w.exec P e).signed = [] := by
      simp only [World.exec, action, Ran.map_signed, Service.newService]
      split
      · rfl
      · split
        · rfl
        · exact Store.run_silent (Service.silent_openNamespace P secret _)
    rw [none] at member
    cases member
  | reset maxSessions =>
    have none : (w.exec P e).signed = [] := by
      simp only [World.exec, action, Ran.map_signed]
      exact Store.run_silent (silent_resetBody P maxSessions)
    rw [none] at member
    cases member
  | close =>
    simp only [World.exec, action] at member
    cases member
  | call s request =>
    simp only [World.exec, action] at member
    exact ⟨s, request, rfl, Service.answer_signs request σ member⟩

end Relay
