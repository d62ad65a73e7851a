import Relay.Access.Effects
import Relay.Lib.Run

/-! The access service as a system: any number of services opened over one store, and
the calls that reach them in any order under a clock that never goes back. -/
namespace Relay

inductive Request where
  | create (required : List String)
  | get (id : String)
  | delete (id : String)
  | authorize (id encoded : String)
  | publish (id bus : String)
  | subscribe (id bus : String)
  | apply (id : String) (snapshot : RelayState)
  | invite (id bus : String) (options : InvitationOptions)
  | inspect (locator : String)
  | redeem (locator code key : String) (encode : ResolvedInvitation → Except Err Bytes)
  | metadata (id : String)
  | acquire (id epoch : String) (expected : Nat)
  | renew (id credential : String)
  | ready

inductive Answer where
  | session (v : Session)
  | deleted (v : Bool)
  | claims (v : Claims)
  | token (v : String)
  | state (v : State × Bool)
  | invitation (v : Invitation)
  | inspected (v : InvitationMetadata)
  | redeemed (v : Bytes)
  | authority (v : AuthorityMetadata)
  | term (v : Nat)
  | renewed (v : String × Time)
  | done
  | opened (s : Service)
deriving DecidableEq

def Ran.map {α β : Type} (f : α → β) (r : Ran α) : Ran β := ⟨r.reply.map f, r.store, r.signed, r.drawn⟩

section

variable {α β : Type} (f : α → β) (r : Ran α)

@[simp] theorem Ran.map_store : (r.map f).store = r.store := rfl
@[simp] theorem Ran.map_signed : (r.map f).signed = r.signed := rfl
@[simp] theorem Ran.map_drawn : (r.map f).drawn = r.drawn := rfl

theorem Ran.map_ok {f : α → β} {r : Ran α} {b : β} (ok : (r.map f).reply = .ok b) :
    ∃ a, r.reply = .ok a ∧ f a = b := by
  cases out : r.reply with
  | error e => simp [Ran.map, out, Except.map] at ok
  | ok a =>
    refine ⟨a, rfl, ?_⟩
    simpa [Ran.map, out, Except.map] using ok

theorem Ran.map_error {f : α → β} {r : Ran α} {e : Err} (failed : (r.map f).reply = .error e) :
    r.reply = .error e := by
  cases out : r.reply with
  | error e' => simpa [Ran.map, out, Except.map] using failed
  | ok a => simp [Ran.map, out, Except.map] at failed

def Ran.Atomic (r : Ran α) (st : Store) : Prop := ∀ e, r.reply = .error e → r.store = st

variable {st : Store}

theorem Store.refuse_atomic {f : α → β} (e : Err) : ((st.refuse e).map f).Atomic st :=
  fun _ _ => rfl

theorem Store.run_atomic {mode : Mode} {env : Env} {fn : TxM α} {f : α → β} :
    ((st.run mode env fn).map f).Atomic st := by
  intro e failed
  exact Store.run_error (Ran.map_error failed)

end

def Service.answer (P : Primitives) (s : Service) (env : Env) (st : Store) : Request → Ran Answer
  | .create required => (s.createContext P required env st).map .session
  | .get id => (s.getContext P id env st).map .session
  | .delete id => (s.deleteContext P id env st).map .deleted
  | .authorize id encoded => (s.authorize P id encoded env st).map .claims
  | .publish id bus => (s.issuePublisherToken P id bus env st).map .token
  | .subscribe id bus => (s.issueSubscriberToken P id bus env st).map .token
  | .apply id snapshot => (s.applyRelayStateContext P id snapshot env st).map .state
  | .invite id bus options => (s.createInvitation P id bus options env st).map .invitation
  | .inspect locator => (s.inspectInvitation P locator env st).map .inspected
  | .redeem locator code key encode => (s.redeem P locator code key encode env st).map .redeemed
  | .metadata id => (s.metadata id env st).map .authority
  | .acquire id epoch expected => (s.acquireRelayWriter P id epoch expected env st).map .term
  | .renew id credential => (s.renewOwner P id credential env st).map .renewed
  | .ready => (s.ready env st).map fun _ => .done

inductive Action where
  | openService (secret : Bytes) (config : Config)
  | reset (maxSessions : Int)
  | close
  | call (s : Service) (request : Request)

structure Event where
  env : Env
  action : Action

structure World where
  store : Store
  clock : Time
  replicas : List Service

namespace World

def empty : World := ⟨Store.empty, 0, []⟩

def exec (P : Primitives) (w : World) (e : Event) : Ran Answer :=
  match e.action with
  | .openService secret config => (Service.newService P secret config e.env w.store).map .opened
  | .reset maxSessions => (resetRestoredStore P maxSessions e.env w.store).map fun _ => .done
  | .close => ⟨.ok .done, w.store.close, [], []⟩
  | .call s request => s.answer P e.env w.store request

def joined (replicas : List Service) : Except Err Answer → List Service
  | .ok (.opened s) => replicas ++ [s]
  | _ => replicas

def next (P : Primitives) (w : World) (e : Event) : World :=
  { store := (w.exec P e).store
    clock := e.env.now
    replicas := joined w.replicas (w.exec P e).reply }

structure Moves (P : Primitives) (w : World) (e : Event) (w' : World) : Prop where
  chronological : w.clock ≤ e.env.now
  known : ∀ s request, e.action = .call s request → s ∈ w.replicas
  result : w' = w.next P e

end World

abbrev History : Type := List (Step World Event)

/-- The histories of the system from an empty store. -/
abbrev Runs (P : Primitives) (h : History) (w : World) : Prop := Exec (World.Moves P) World.empty h w

def ran (P : Primitives) (x : Step World Event) : Ran Answer := x.before.exec P x.event

namespace World

def Reaches (replicas : List Service) : Action → Prop
  | .call s _ => s ∈ replicas
  | _ => True

instance (replicas : List Service) : (action : Action) → Decidable (Reaches replicas action)
  | .call s _ => inferInstanceAs (Decidable (s ∈ replicas))
  | .openService _ _ => inferInstanceAs (Decidable True)
  | .reset _ => inferInstanceAs (Decidable True)
  | .close => inferInstanceAs (Decidable True)

def Allows (w : World) (e : Event) : Prop := w.clock ≤ e.env.now ∧ Reaches w.replicas e.action

instance (w : World) (e : Event) : Decidable (w.Allows e) := inferInstanceAs (Decidable (_ ∧ _))

variable {P : Primitives} {w : World}

theorem Allows.moves {e : Event} (allowed : w.Allows e) : Moves P w e (w.next P e) := by
  refine ⟨allowed.1, ?_, rfl⟩
  intro s request calls
  have reaches := allowed.2
  rw [calls] at reaches
  exact reaches

def Admissible (P : Primitives) : World → List Event → Prop
  | _, [] => True
  | w, e :: events => w.clock ≤ e.env.now ∧ Reaches w.replicas e.action ∧ Admissible P (w.next P e) events

instance decidableAdmissible (P : Primitives) :
    (w : World) → (events : List Event) → Decidable (Admissible P w events)
  | _, [] => inferInstanceAs (Decidable True)
  | w, e :: events =>
    have := decidableAdmissible P (w.next P e) events
    inferInstanceAs (Decidable (_ ∧ _ ∧ _))

def history (P : Primitives) : World → List Event → History
  | _, [] => []
  | w, e :: events => ⟨w, e, w.next P e⟩ :: history P (w.next P e) events

variable {events : List Event}

theorem event_mem_of_history {x : Step World Event} (member : x ∈ w.history P events) : x.event ∈ events := by
  induction events generalizing w with
  | nil => cases member
  | cons e events ih =>
    rcases List.mem_cons.mp member with rfl | later
    · exact List.mem_cons_self
    · exact List.mem_cons_of_mem _ (ih later)

def after (P : Primitives) : World → List Event → World
  | w, [] => w
  | w, e :: events => after P (w.next P e) events

theorem Admissible.exec (admissible : Admissible P w events) :
    Exec (Moves P) w (history P w events) (after P w events) := by
  induction events generalizing w with
  | nil => exact .nil
  | cons e events ih =>
    obtain ⟨chronological, reaches, rest⟩ := admissible
    have allowed : w.Allows e := ⟨chronological, reaches⟩
    exact Exec.cons allowed.moves (ih rest)

end World

def drawn (P : Primitives) (h : History) : List String := h.flatMap fun x => (ran P x).drawn

@[simp] theorem drawn_snoc (P : Primitives) (h : History) (x : Step World Event) :
    drawn P (h ++ [x]) = drawn P h ++ (ran P x).drawn := by
  simp [drawn]

inductive Read (P : Primitives) (s : Service) (now : Time) (d : Records) : Request → Answer → Prop
  | authorize {id encoded : String} {r : SessionRecord} {c : Claims} :
    s.Active d now id r → s.authorizeRecord P r encoded now = .ok c →
    Read P s now d (.authorize id encoded) (.claims c)
  | inspect {locator : String} {g : GrantRecord} {r : SessionRecord} {m : InvitationMetadata} :
    Tx.locate d locator = some g → now < g.expiresAt → s.Active d now g.sessionID r →
    Read P s now d (.inspect locator) (.inspected m)
  | metadata {id : String} {r : SessionRecord} :
    s.Active d now id r → Read P s now d (.metadata id) (.authority r.authority)
  | ready : Read P s now d .ready .done

/-- What a guarded call that succeeds answers, signs, draws and leaves stored, from the
records that its callback starts from. -/
inductive Performed (P : Primitives) (s : Service) (now : Time) (d : Records) :
    Request → Answer → List Signed → List String → Records → Prop
  | create {required buses : List String} {id : String} {σ : Signed} :
    validateRequiredBuses (if required.length = 0 then Service.defaultBuses else required) = .ok buses →
    σ.For .create (s.newSession id buses now) (Claims.request id "" buses .source true)
      (Time.truncate (now + s.config.ownerTokenTTL)) → id ≠ "" →
    Performed P s now d (.create required) (.session ⟨s.newSession id buses now, σ.token⟩) [σ] [id]
      (d.putSession (s.newSession id buses now))
  | get {id : String} {r : SessionRecord} :
    s.Active d now id r → Performed P s now d (.get id) (.session ⟨r, ""⟩) [] [] d
  | clear {id : String} {r : SessionRecord} :
    s.Active d now id r →
    Performed P s now d (.get id) (.session ⟨r.clear, ""⟩) [] [] (d.putSession r.clear)
  | delete {id : String} {r : SessionRecord} :
    s.Active d now id r → Performed P s now d (.delete id) (.deleted true) [] [] (d.deleteSession id)
  | absent {id : String} :
    (∀ r, ¬ s.Active d now id r) → Performed P s now d (.delete id) (.deleted false) [] [] d
  | publish {id bus : String} {r : SessionRecord} {σ : Signed} {expiry : Time} :
    s.Active d now id r → bus ≠ mix → bus ∈ r.requiredBuses →
    σ.For .issue r (Claims.request id "" [bus] .source false) expiry →
    Performed P s now d (.publish id bus) (.token σ.token) [σ] []
      (d.putSession (r.extend s.config.sessionTTL now))
  | subscribe {id bus : String} {r : SessionRecord} {σ : Signed} {expiry : Time} :
    s.Active d now id r → bus = mix ∨ bus ∈ r.requiredBuses →
    σ.For .issue r (Claims.request id bus [] .subscriber false) expiry →
    Performed P s now d (.subscribe id bus) (.token σ.token) [σ] []
      (d.putSession (r.extend s.config.sessionTTL now))
  | ignore {id : String} {snapshot : RelayState} {r : SessionRecord} :
    snapshot.sessionID = id → validateRelaySnapshot snapshot = .ok () → s.Active d now id r →
    snapshot.writerTerm = r.mediaTerm → r.mediaTerm ≠ 0 →
    snapshot.relayEpoch = r.relay.relayEpoch → snapshot.revision < r.relay.revision →
    Performed P s now d (.apply id snapshot) (.state (r.state, false)) [] [] d
  | observe {id : String} {snapshot : RelayState} {r : SessionRecord} {out : State × Bool} :
    snapshot.sessionID = id → validateRelaySnapshot snapshot = .ok () → s.Active d now id r →
    snapshot.writerTerm = r.mediaTerm → r.mediaTerm ≠ 0 →
    snapshot.relayEpoch = r.relay.relayEpoch → r.relay.revision ≤ snapshot.revision →
    Performed P s now d (.apply id snapshot) (.state out) [] []
      (d.putSession (s.observe r (normalizeRelaySnapshot snapshot) now))
  | invite {id bus : String} {options : InvitationOptions} {r : SessionRecord} {g : GrantRecord}
      {out : Invitation} {drawn : List String} :
    s.Active d now id r → g.sessionID = id → g.busID = bus → s.busReady r bus now = true →
    g.id ∈ drawn → Service.Fresh d g →
    Performed P s now d (.invite id bus options) (.invitation out) [] drawn (d.putGrant g)
  | replay {locator code key : String} {encode : ResolvedInvitation → Except Err Bytes}
      {response : Bytes} {receipt : Receipt} :
    Service.Replayed P s d now locator (Service.effectiveCode P locator code) key response receipt →
    Performed P s now d (.redeem locator code key encode) (.redeemed response) [] [] d
  | consume {locator code key : String} {encode : ResolvedInvitation → Except Err Bytes}
      {response : Bytes} {g : GrantRecord} {r : SessionRecord} {σ : Signed} :
    Service.Consumed P s d now locator (Service.effectiveCode P locator code) key encode response g r σ →
    Performed P s now d (.redeem locator code key encode) (.redeemed response) [σ] []
      (s.redeemed d key (s.redeemDigests P locator (Service.effectiveCode P locator code) key) g r
        response now)
  | held {id epoch : String} {expected : Nat} {r : SessionRecord} :
    s.Active d now id r → r.relay.relayEpoch = epoch → r.mediaTerm ≠ 0 →
    Performed P s now d (.acquire id epoch expected) (.term r.mediaTerm) [] [] d
  | place {id epoch : String} {r : SessionRecord} :
    s.Active d now id r → ¬ (r.relay.relayEpoch = epoch ∧ r.mediaTerm ≠ 0) →
    validIdentifier epoch maxRelayEpochSize = true →
    Performed P s now d (.acquire id epoch r.mediaTerm) (.term (r.mediaTerm + 1)) [] []
      (d.putSession (s.place r id epoch now))
  | renew {id credential : String} {r : SessionRecord} {c : Claims} {σ : Signed}
      {out : String × Time} :
    s.Active d now id r → s.authorizeRecord P r credential now = .ok c → c.canControl = true →
    σ.For (.renew c) r (Claims.request id "" r.requiredBuses .source true)
      (Time.truncate (now + s.config.ownerTokenTTL)) →
    Performed P s now d (.renew id credential) (.renewed out) [σ] []
      (d.putSession (r.extend s.config.sessionTTL now))

inductive Succeeded (P : Primitives) (s : Service) (now : Time) (d : Records) (request : Request)
    (a : Answer) : List Signed → List String → Records → Prop
  | read : Read P s now d request a → Succeeded P s now d request a [] [] d
  | performed {signed : List Signed} {drawn : List String} {d' : Records} :
    Performed P s now (s.prologue now d) request a signed drawn d' →
    Succeeded P s now d request a signed drawn d'

def Explained (P : Primitives) (s : Service) (env : Env) (st : Store) (request : Request) (a : Answer)
    (out : Ran Answer) : Prop :=
  s.Passes st.data.ns ∧
    Succeeded P s env.now st.data request a out.signed out.drawn out.store.data

namespace Service

variable {P : Primitives} {s : Service} {env : Env} {st : Store} {request : Request}
variable {b : Answer} {bus id : String} {α : Type}

theorem update_performed {fn : TxM α} {f : α → Answer} (ok : ((s.update P env st fn).map f).reply = .ok b)
    (body : ∀ {tx tx' : Tx} {a : α}, tx.signed = [] → tx.drawn = [] → fn tx = (.ok a, tx') →
      Performed P s tx.now tx.data request (f a) tx'.signed tx'.drawn tx'.data) :
    Explained P s env st request b ((s.update P env st fn).map f) := by
  obtain ⟨a, done, rfl⟩ := Ran.map_ok ok
  unfold update at done ⊢
  obtain ⟨tx, guarded, signed, drew, stored⟩ := Store.update_ok done
  obtain ⟨passes, ran⟩ := guarded_ok guarded
  refine ⟨passes, ?_⟩
  rw [Ran.map_signed, Ran.map_drawn, Ran.map_store, signed, drew, stored]
  exact .performed (body rfl rfl ran)

theorem view_read {fn : TxM α} {f : α → Answer} (ok : ((view env st fn).map f).reply = .ok b)
    (body : ∀ {tx tx' : Tx} {a : α}, fn tx = (.ok a, tx') →
      s.Passes tx.data.ns ∧ Read P s tx.now tx.data request (f a) ∧ tx' = tx) :
    Explained P s env st request b ((view env st fn).map f) := by
  obtain ⟨a, done, rfl⟩ := Ran.map_ok ok
  unfold view Store.view at done ⊢
  obtain ⟨tx, ran, signed, drew, stored⟩ := Store.run_ok done
  obtain ⟨passes, read, rfl⟩ := body ran
  refine ⟨passes, ?_⟩
  rw [Ran.map_signed, Ran.map_drawn, Ran.map_store, signed, drew, stored]
  exact .read read

variable {a : Answer}

theorem create_succeeded {required : List String} (ok : (s.answer P env st (.create required)).reply = .ok a) :
    Explained P s env st (.create required) a (s.answer P env st (.create required)) := by
  simp only [answer, createContext] at ok ⊢
  split at ok
  · cases ok
  · rename_i buses declared
    refine update_performed ok ?_
    intro tx tx' out unsigned undrawn done
    obtain ⟨_, id, σ, rest, named, made, rfl, rfl⟩ := createBody_ok done
    simp only [unsigned, undrawn, List.nil_append]
    exact .create declared made named

theorem get_succeeded (ok : (s.answer P env st (.get id)).reply = .ok a) :
    Explained P s env st (.get id) a (s.answer P env st (.get id)) := by
  refine update_performed ok ?_
  intro tx tx' out unsigned undrawn done
  obtain ⟨r, active, ⟨rfl, rfl⟩ | ⟨_, rfl, rfl⟩⟩ := getBody_ok done
  · rw [unsigned, undrawn]
    exact .get active
  · simp only [unsigned, undrawn]
    exact .clear active

theorem delete_succeeded (ok : (s.answer P env st (.delete id)).reply = .ok a) :
    Explained P s env st (.delete id) a (s.answer P env st (.delete id)) := by
  refine update_performed ok ?_
  intro tx tx' out unsigned undrawn done
  obtain ⟨rfl, rfl, r, active⟩ | ⟨rfl, rfl, missing⟩ := deleteBody_ok done
  · simp only [unsigned, undrawn]
    exact .delete active
  · rw [unsigned, undrawn]
    exact .absent missing

theorem publish_succeeded (ok : (s.answer P env st (.publish id bus)).reply = .ok a) :
    Explained P s env st (.publish id bus) a (s.answer P env st (.publish id bus)) := by
  refine update_performed ok ?_
  intro tx tx' out unsigned undrawn done
  obtain ⟨r, σ, rest, expiry, active, offered, virtual, made, rfl, rfl⟩ := issueBody_ok done
  simp only [unsigned, undrawn, List.nil_append]
  exact .publish active (virtual rfl) (offered.resolve_left (virtual rfl)) made

theorem subscribe_succeeded (ok : (s.answer P env st (.subscribe id bus)).reply = .ok a) :
    Explained P s env st (.subscribe id bus) a (s.answer P env st (.subscribe id bus)) := by
  refine update_performed ok ?_
  intro tx tx' out unsigned undrawn done
  obtain ⟨r, σ, rest, expiry, active, offered, _, made, rfl, rfl⟩ := issueBody_ok done
  simp only [unsigned, undrawn, List.nil_append]
  exact .subscribe active offered made

theorem apply_succeeded {snapshot : RelayState} (ok : (s.answer P env st (.apply id snapshot)).reply = .ok a) :
    Explained P s env st (.apply id snapshot) a (s.answer P env st (.apply id snapshot)) := by
  simp only [answer, applyRelayStateContext] at ok ⊢
  split at ok
  · cases ok
  · rename_i named
    rw [if_neg named]
    split at ok
    · cases ok
    · rename_i valid
      refine update_performed ok ?_
      intro tx tx' out unsigned undrawn done
      obtain ⟨r, active, term, placed, epoch, ⟨older, rfl, rfl⟩ | ⟨newer, _, rfl, rfl⟩⟩ :=
        applyBody_ok done
      · rw [unsigned, undrawn]
        exact .ignore (not_not.mp named) valid active term placed epoch older
      · simp only [unsigned, undrawn]
        exact .observe (not_not.mp named) valid active term placed epoch newer

theorem invite_succeeded {options : InvitationOptions} (ok : (s.answer P env st (.invite id bus options)).reply = .ok a) :
    Explained P s env st (.invite id bus options) a (s.answer P env st (.invite id bus options)) := by
  simp only [answer, createInvitation] at ok ⊢
  split at ok
  · cases ok
  · refine update_performed ok ?_
    intro tx tx' out unsigned undrawn done
    obtain ⟨_, r, words, name, code, grantID, drew, rest, active, isReady, _, hasID, fresh, rfl⟩ :=
      createInvitationBody_ok done
    simp only [unsigned, undrawn, List.nil_append]
    exact .invite active rfl rfl isReady hasID fresh

theorem redeem_succeeded {locator code key : String} {encode : ResolvedInvitation → Except Err Bytes}
    (ok : (s.answer P env st (.redeem locator code key encode)).reply = .ok a) :
    Explained P s env st (.redeem locator code key encode) a (s.answer P env st (.redeem locator code key encode)) := by
  simp only [answer, redeem] at ok ⊢
  split at ok
  · cases ok
  · rename_i wellFormed
    rw [if_neg wellFormed]
    split at ok
    · cases ok
    · rename_i keyFormed
      rw [if_neg keyFormed]
      refine update_performed ok ?_
      intro tx tx' out unsigned undrawn done
      obtain ⟨receipt, replayed, rfl⟩ | ⟨g, r, σ, rest, _, consumed, rfl⟩ := redeemBody_ok done
      · rw [unsigned, undrawn]
        exact .replay replayed
      · simp only [unsigned, undrawn, List.nil_append]
        exact .consume consumed

theorem acquire_succeeded {epoch : String} {expected : Nat}
    (ok : (s.answer P env st (.acquire id epoch expected)).reply = .ok a) :
    Explained P s env st (.acquire id epoch expected) a (s.answer P env st (.acquire id epoch expected)) := by
  simp only [answer, acquireRelayWriter] at ok ⊢
  split at ok
  · cases ok
  · rename_i valid
    rw [if_neg valid]
    refine update_performed ok ?_
    intro tx tx' out unsigned undrawn done
    obtain ⟨r, active, ⟨epoch, placed, rfl, rfl⟩ | ⟨other, rfl, rfl, rfl⟩⟩ := acquireBody_ok done
    · rw [unsigned, undrawn]
      exact .held active epoch placed
    · simp only [unsigned, undrawn]
      exact .place active other (by simpa [maxRelayEpochSize] using valid)

theorem renew_succeeded {credential : String} (ok : (s.answer P env st (.renew id credential)).reply = .ok a) :
    Explained P s env st (.renew id credential) a (s.answer P env st (.renew id credential)) := by
  refine update_performed ok ?_
  intro tx tx' out unsigned undrawn done
  obtain ⟨r, c, σ, rest, active, authorized, control, made, rfl⟩ := renewBody_ok done
  simp only [unsigned, undrawn, List.nil_append]
  exact .renew active authorized control made

theorem answer_succeeded (ok : (s.answer P env st request).reply = .ok a) :
    Explained P s env st request a (s.answer P env st request) := by
  cases request with
  | create required => exact create_succeeded ok
  | get id => exact get_succeeded ok
  | delete id => exact delete_succeeded ok
  | authorize id encoded =>
    refine view_read ok ?_
    intro tx tx' c done
    obtain ⟨passes, r, active, authorized, same⟩ := authorizeBody_ok done
    exact ⟨passes, .authorize active authorized, same⟩
  | publish id bus => exact publish_succeeded ok
  | subscribe id bus => exact subscribe_succeeded ok
  | apply id snapshot => exact apply_succeeded ok
  | invite id bus options => exact invite_succeeded ok
  | inspect locator =>
    simp only [answer, inspectInvitation] at ok ⊢
    split at ok
    · cases ok
    · rename_i sized
      rw [if_neg sized]
      refine view_read ok ?_
      intro tx tx' m done
      obtain ⟨passes, g, r, found, fresh, active, same⟩ := inspectBody_ok done
      exact ⟨passes, .inspect found fresh active, same⟩
  | redeem locator code key encode => exact redeem_succeeded ok
  | metadata id =>
    refine view_read ok ?_
    intro tx tx' m done
    obtain ⟨passes, r, active, rfl, same⟩ := metadataBody_ok done
    exact ⟨passes, .metadata active, same⟩
  | acquire id epoch expected => exact acquire_succeeded ok
  | renew id credential => exact renew_succeeded ok
  | ready =>
    refine view_read ok ?_
    intro tx tx' u done
    obtain ⟨passes, same⟩ := readyBody_ok done
    exact ⟨passes, .ready, same⟩

theorem answer_atomic (P : Primitives) (s : Service) (env : Env) (st : Store) (request : Request) :
    (s.answer P env st request).Atomic st := by
  cases request with
  | create required =>
    simp only [answer, createContext]
    split
    · exact Store.refuse_atomic _
    · exact Store.run_atomic
  | apply id snapshot =>
    simp only [answer, applyRelayStateContext]
    split
    · exact Store.refuse_atomic _
    · split
      · exact Store.refuse_atomic _
      · exact Store.run_atomic
  | invite id bus options =>
    simp only [answer, createInvitation]
    split
    · exact Store.refuse_atomic _
    · exact Store.run_atomic
  | inspect locator =>
    simp only [answer, inspectInvitation]
    split
    · exact Store.refuse_atomic _
    · exact Store.run_atomic
  | redeem locator code key encode =>
    simp only [answer, redeem]
    split
    · exact Store.refuse_atomic _
    · split
      · exact Store.refuse_atomic _
      · exact Store.run_atomic
  | acquire id epoch expected =>
    simp only [answer, acquireRelayWriter]
    split
    · exact Store.refuse_atomic _
    · exact Store.run_atomic
  | _ => exact Store.run_atomic

theorem answer_ne_opened (P : Primitives) (s : Service) (env : Env) (st : Store) (request : Request)
    (s' : Service) : (s.answer P env st request).reply ≠ .ok (.opened s') := by
  intro opened
  cases request <;> obtain ⟨_, _, other⟩ := Ran.map_ok opened <;> cases other

end Service

theorem Config.normalize_writerID {c c' : Config} (ok : c.normalize = .ok c') : c'.writerID ≠ "" := by
  unfold Config.normalize at ok
  grind

variable {st : Store} {P : Primitives} {env : Env} {config : Config}

theorem Service.newService_error {secret : Bytes} {failure : Err}
    (failed : (Service.newService P secret config env st).reply = .error failure) :
    (Service.newService P secret config env st).store = st := by
  unfold Service.newService at failed ⊢
  split
  · rfl
  · rename_i long
    rw [if_neg long] at failed
    split at failed
    · rfl
    · exact Store.run_error failed

theorem Service.newService_ok {secret : Bytes} {s : Service}
    (ok : (Service.newService P secret config env st).reply = .ok s) :
    ∃ config', config.normalize = .ok config' ∧
      Service.newService P secret config env st = st.update env (openNamespace P secret config') := by
  unfold Service.newService at ok ⊢
  split at ok
  · cases ok
  · rename_i long
    rw [if_neg long]
    split at ok
    · cases ok
    · rename_i config' normal
      exact ⟨config', normal, rfl⟩

namespace World

inductive Change (P : Primitives) (w : World) (e : Event) : Records → List Service → Prop
  | quiet : (∃ failure, (w.exec P e).reply = .error failure) ∨ e.action = .close →
    Change P w e w.store.data w.replicas
  | opened (secret : Bytes) (config : Config) (base ns : Namespace) (d : Records) :
    (∃ given, e.action = .openService secret given) → config.writerID ≠ "" →
    Service.Base config w.store.data.ns (w.exec P e).drawn base →
    Service.takeOver config e.env.now (Service.adoptWriter config base) = .ok ns →
    (w.store.data.putNamespace
      { ns with leaseExpiresAt := e.env.now + config.writerLeaseDuration }).Cleared d →
    (w.exec P e).reply = .ok (.opened ⟨secret, config, ns.writerTerm, ns.incarnation⟩) →
    (w.exec P e).signed = [] →
    Change P w e d (w.replicas ++ [⟨secret, config, ns.writerTerm, ns.incarnation⟩])
  | reset (rows : List SessionRecord) (id : String) :
    (∃ maxSessions, e.action = .reset maxSessions) →
    (∀ r, r ∈ rows ↔ ∃ k, w.store.data.sessions.lookup k = some r) → (w.exec P e).drawn = [id] →
    (w.exec P e).signed = [] →
    Change P w e ((w.store.data.deleteRows rows).putNamespace ⟨schemaVersion, id, 0, "", 0⟩) w.replicas
  | called (s : Service) (request : Request) (a : Answer) (d : Records) :
    s ∈ w.replicas → e.action = .call s request → (w.exec P e).reply = .ok a →
    s.Passes w.store.data.ns →
    Succeeded P s e.env.now w.store.data request a (w.exec P e).signed (w.exec P e).drawn d →
    Change P w e d w.replicas

variable {P : Primitives} {w w' : World} {e : Event}

theorem failed_change {failure : Err} (failed : (w.exec P e).reply = .error failure)
    (same : (w.exec P e).store = w.store) :
    Change P w e (w.next P e).store.data (w.next P e).replicas := by
  simp only [next, failed, joined, same]
  exact .quiet (.inl ⟨failure, failed⟩)

theorem open_change {secret : Bytes} {config : Config} (opens : e.action = .openService secret config)
    (keyed : w.store.data.Keyed) : Change P w e (w.next P e).store.data (w.next P e).replicas := by
  have unfolded : w.exec P e = (Service.newService P secret config e.env w.store).map .opened := by
    simp only [exec, opens]
  cases out : (Service.newService P secret config e.env w.store).reply with
  | error failure =>
    refine @failed_change P w e failure ?_ ?_
    · rw [unfolded]
      simp only [Ran.map, out, Except.map]
    · rw [unfolded, Ran.map_store, Service.newService_error out]
  | ok s =>
    obtain ⟨config', normal, updated⟩ := Service.newService_ok out
    rw [updated] at out unfolded
    obtain ⟨tx, done, signed, drew, stored⟩ := Store.update_ok out
    obtain ⟨drawn, base, ns, rest, d, start, taken, rfl, cleared, rfl, _⟩ := Service.openNamespace_ok keyed done
    have reply : (w.exec P e).reply =
        .ok (.opened ⟨secret, config', ns.writerTerm, ns.incarnation⟩) := by
      rw [unfolded]
      simp only [Ran.map, out, Except.map]
    have drawnHere : (w.exec P e).drawn = drawn := by
      rw [unfolded, Ran.map_drawn, drew]
      rfl
    have unsigned : (w.exec P e).signed = [] := by
      rw [unfolded, Ran.map_signed, signed]
      rfl
    have data : (w.exec P e).store.data = d := by
      rw [unfolded, Ran.map_store, stored]
    simp only [next, reply, joined, data]
    exact .opened secret config' base ns d ⟨config, opens⟩ (Config.normalize_writerID normal) (drawnHere ▸ start)
      taken cleared reply unsigned

theorem reset_change {maxSessions : Int} (resets : e.action = .reset maxSessions) :
    Change P w e (w.next P e).store.data (w.next P e).replicas := by
  have unfolded : w.exec P e = (resetRestoredStore P maxSessions e.env w.store).map fun _ => .done := by
    simp only [exec, resets]
  cases out : (resetRestoredStore P maxSessions e.env w.store).reply with
  | error failure =>
    refine @failed_change P w e failure ?_ ?_
    · rw [unfolded]
      simp only [Ran.map, out, Except.map]
    · rw [unfolded, Ran.map_store]
      exact Store.run_error out
  | ok u =>
    obtain ⟨tx, done, signed, drew, stored⟩ := Store.update_ok out
    obtain ⟨rows, id, rest, listed, rfl⟩ := resetBody_ok done
    have drawnHere : (w.exec P e).drawn = [id] := by
      rw [unfolded, Ran.map_drawn]
      exact drew
    have unsigned : (w.exec P e).signed = [] := by
      rw [unfolded, Ran.map_signed]
      exact signed
    have data : (resetRestoredStore P maxSessions e.env w.store).store.data =
        (w.store.data.deleteRows rows).putNamespace ⟨schemaVersion, id, 0, "", 0⟩ :=
      congrArg Store.data stored
    simp only [next, unfolded, Ran.map, out, Except.map, joined, data]
    exact .reset rows id ⟨maxSessions, resets⟩ listed drawnHere unsigned

variable {s : Service}

theorem call_change {request : Request} (member : s ∈ w.replicas) (calls : e.action = .call s request) :
    Change P w e (w.next P e).store.data (w.next P e).replicas := by
  have unfolded : w.exec P e = s.answer P e.env w.store request := by
    simp only [exec, calls]
  cases out : (w.exec P e).reply with
  | error failure =>
    refine failed_change out ?_
    rw [unfolded] at out ⊢
    exact s.answer_atomic P e.env w.store request failure out
  | ok a =>
    have same : joined w.replicas (.ok a) = w.replicas := by
      cases a with
      | opened s' => exact absurd (unfolded ▸ out) (s.answer_ne_opened P e.env w.store request s')
      | _ => rfl
    obtain ⟨passes, succeeded⟩ := Service.answer_succeeded (unfolded ▸ out)
    rw [← unfolded] at succeeded
    simp only [next, out, same]
    exact .called s request a _ member calls out passes succeeded

theorem next_change (known : ∀ s request, e.action = .call s request → s ∈ w.replicas)
    (keyed : w.store.data.Keyed) : Change P w e (w.next P e).store.data (w.next P e).replicas := by
  cases action : e.action with
  | openService secret config => exact open_change action keyed
  | reset maxSessions => exact reset_change action
  | close =>
    simp only [next, exec, action, joined, Store.close]
    exact .quiet (.inr action)
  | call s request => exact call_change (known s request action) action

theorem Moves.change (move : Moves P w e w') (keyed : w.store.data.Keyed) :
    Change P w e w'.store.data w'.replicas := by
  rw [move.result]
  exact next_change move.known keyed

theorem opening_of_reply (opened : (w.exec P e).reply = .ok (.opened s)) :
    ∃ secret given config, e.action = .openService secret given ∧ given.normalize = .ok config ∧
      (w.store.update e.env (Service.openNamespace P secret config)).reply = .ok s ∧
      (w.exec P e).store = (w.store.update e.env (Service.openNamespace P secret config)).store := by
  cases action : e.action with
  | openService secret given =>
    simp only [exec, action] at opened ⊢
    obtain ⟨s', made, same⟩ := Ran.map_ok opened
    cases same
    obtain ⟨config, normal, updated⟩ := Service.newService_ok made
    rw [Ran.map_store, updated]
    exact ⟨secret, given, config, rfl, normal, updated ▸ made, rfl⟩
  | reset maxSessions =>
    simp only [exec, action] at opened
    obtain ⟨_, _, other⟩ := Ran.map_ok opened
    cases other
  | close => simp [exec, action] at opened
  | call s' request =>
    simp only [exec, action] at opened
    exact absurd opened (s'.answer_ne_opened P e.env w.store request s)

end World

/-! A service over simple primitives, on which histories can be evaluated. A digest is
the length of its message and a token is its own identifier. -/
namespace Plain

def primitives : Primitives where
  sha256 m := Vector.replicate 32 (UInt8.ofNat m.utf8ByteSize)
  hmacSHA256 _ m := Vector.replicate 32 (UInt8.ofNat m.utf8ByteSize)
  signedString _ _ c := c.id
  parse _ _ := none
  uuidParse _ := true
  marshal _ := some 0
  generate words bytes := .ok (⟨"red-fox", "plain", words⟩, bytes)
  parseStored _ _ := true

def block (b : UInt8) : Bytes := List.replicate 16 b

def secret : Bytes := List.replicate 32 7

def defaults (writerID : String) : Config :=
  { namePolicy := "", maxSessions := 0, maxInvitations := 0, maxReceipts := 0, sessionTTL := 0,
    ownerTokenTTL := 0, publisherTokenTTL := 0, subscriberTokenTTL := 0, receiptTTL := 0,
    observationTTL := 0, writerLeaseDuration := 0, writerID := writerID }

def service : Service where
  secret := secret
  config :=
    { namePolicy := "auto", maxSessions := 1000, maxInvitations := 4000, maxReceipts := 4000,
      sessionTTL := 2 * hour, ownerTokenTTL := 15 * minute, publisherTokenTTL := 15 * minute,
      subscriberTokenTTL := 2 * hour, receiptTTL := 2 * minute, observationTTL := 15 * second,
      writerLeaseDuration := 30 * second, writerID := "group" }
  term := 1
  incarnation := uuidText (block 1)

def event (now : Time) (entropy : Bytes) (action : Action) : Event := ⟨⟨now, entropy, false⟩, action⟩

def started (required : List String) : List Event :=
  [event 1 (block 1) (.openService secret (defaults "group")),
    event 2 (block 2 ++ block 9) (.call service (.create required))]

def sessionID : String := uuidText (block 2)

def snapshot : RelayState where
  contractVersion := 1
  sessionID := sessionID
  relayEpoch := "epoch"
  revision := 1
  writerTerm := 1
  observedAt := 1
  buses := [⟨"application", "voice", true, 1⟩, ⟨"microphone", "voice", true, 1⟩]
  subscriptions := []

def invited : List Event :=
  started [] ++
    [event 3 [] (.call service (.acquire sessionID "epoch" 0)),
      event 4 [] (.call service (.apply sessionID snapshot)),
      event 5 (block 3 ++ block 4) (.call service (.invite sessionID mix ⟨"", 0⟩))]

def joinCode : String := uuidText (block 3)

end Plain

end Relay
