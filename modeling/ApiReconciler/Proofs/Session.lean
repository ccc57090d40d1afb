import ApiReconciler.Proofs.NormalForm
import ApiReconciler.Proofs.Preparation
import ApiReconciler.Proofs.Reconcile.Course

/-!
# `ApiReconciler.Proofs.Session` — what a deployer is, after whatever it was asked for

A deployer is prepared, asked to deploy, to take down and to name URLs, asked about definitions and about itself,
and prepared again, in any order, and each of these can fail. A session is such a course of actions together with
its record (`Session.past`), which says what was asked for and what came of it, and nothing of the deployer. From
the record alone one can tell which preparation was the last that returned (`lastPrepared`).

The invariant is that this is what the deployer is connected by. It holds of one action because only a preparation
makes another deployer and because it does so last, when its settings are read and its client is open
(`prepare_returned`). That is also why one connection can stand for all that a preparation sets. So the invariant
holds of a session by induction on its actions, and it says of every entry of the record which deployer was asked.
All else is read off from it: an action that fails changes nothing, and before the first preparation that returns
there is no connection, so whatever needs one fails before its first call.

Which region and stage a deployer works at shows in its requests as well (`Request.IsAt`). The settings and the
transport are one connection, so a call that an earlier preparation's transport would answer cannot be told apart
by its text; that is why a session is answered by a backend of its own for every transport.

## Contents
- `Action`, `Response`, `Action.program`: what a deployer can be asked for.
- `Session`, `Session.step`, `Session.run`: courses of actions, recorded.
- `lastPrepared`, `Session.Faithful`: the invariant; `Faithful.step`, `faithful_run`: steps and runs preserve it.
- `Request.IsAt`, `program_asks_isAt`: the requests of a connected deployer name its region and its stage.
- `Environment.Names`, `settingsOf_names`: the region and the stage that a preparation is given.
- `Entry.InKeeping`, `session_is_last_preparation`: what it all means for what can be seen of a deployer.
-/

namespace ApiReconciler

open Program

/-! ## Actions -/

/-- What a deployer can be asked for. -/
inductive Action
  | prepare (e : Environment) (transport : Transport)
  | deploy (definition : Definition) (text : Option String)
  | undeploy (text : String) (delete : Bool)
  | executionUrl (text : String)
  | validate (definition : Definition)
  | normalize (definition : Definition)
  | status

/-- What it gives back. -/
inductive Response
  | prepared
  | reference (text : String)
  | removed
  | url (text : String)
  | verdict (v : Validity)
  | normalized (definition : Definition)
  | status (ready : Bool) (region stage : Option String)

/-- An action, with the deployer that there is afterwards. -/
def Action.program (d : Deployer) : Action → Program (Response × Deployer)
  | .prepare e transport => (d.prepare e transport).bind fun next => .done (.prepared, next)
  | .deploy definition text => (d.deploy definition text).bind fun new => .done (.reference new, d)
  | .undeploy text delete => (d.undeploy text delete).bind fun _ => .done (.removed, d)
  | .executionUrl text => (ofExcept (d.executionUrl text)).bind fun url => .done (.url url, d)
  | .validate definition => (ofExcept definition.verdict).bind fun v => .done (.verdict v, d)
  | .normalize definition => .done (.normalized definition.normalize, d)
  | .status => .done (.status d.isReady d.region d.stage, d)

/-- Whether an action is for prepared deployers only. -/
def Action.needsConnection : Action → Bool
  | .deploy .. | .undeploy .. | .executionUrl _ => true
  | _ => false

/-- The transport that the calls of an action go through. A preparation opens a client of its own; without a
connection there is nothing to call. -/
def Action.transport (d : Deployer) : Action → Transport
  | .prepare .. => .opened
  | _ => (d.connection.map Connection.transport).getD .opened

/-! ## Sessions -/

/-- What was asked for, and what came of it. -/
structure Entry where
  action : Action
  result : Except Failure Response
  exchanges : List Exchange
  events : List Event

/-- A deployer with the record of what it was asked for, the latest entry first. -/
structure Session where
  deployer : Deployer
  past : List Entry

namespace Session

/-- Before the first action. -/
def start (g : GatewayType) : Session := ⟨Deployer.new g, []⟩

section

variable {σ : Type} (world : Transport → Backend σ)

/-- The entry of an action that a deployer is asked for. -/
def entry (d : Deployer) (a : Action) (s : σ) : Entry :=
  let b := world (a.transport d)
  ⟨a, ((a.program d).run b s).result.map Prod.fst, (a.program d).exchanges b s, ((a.program d).run b s).events⟩

/-- The deployer that there is afterwards: what the action gives, or the same when it fails. -/
def next (d : Deployer) (a : Action) (s : σ) : Deployer :=
  match ((a.program d).run (world (a.transport d)) s).result with
  | .ok (_, d') => d'
  | .error _ => d

/-- One more action, answered from a state of the gateway. -/
def step (S : Session) (a : Action) (s : σ) : Session :=
  ⟨next world S.deployer a s, entry world S.deployer a s :: S.past⟩

/-- Actions one after the other, each answered from a state of its own. -/
def run (S : Session) (turns : List (Action × σ)) : Session :=
  turns.foldl (fun S turn => S.step world turn.1 turn.2) S

end

end Session

/-! ## The last preparation -/

/-- The connection that an entry stands for: it is a preparation, and it returned. -/
def Entry.prepared? (e : Entry) : Option Connection :=
  match e.action, e.result with
  | .prepare env transport, .ok _ =>
    match Deployer.settingsOf env with
    | .ok st => some ⟨st, transport⟩
    | .error _ => none
  | _, _ => none

/-- The connection of the last preparation that returned. -/
def lastPrepared (past : List Entry) : Option Connection := past.findSome? Entry.prepared?

theorem Entry.prepared?_of_error {e : Entry} {f : Failure} (h : e.result = .error f) : e.prepared? = none := by
  unfold Entry.prepared?
  rw [h]
  cases e.action <;> rfl

theorem Entry.prepared?_of_other {e : Entry} (h : ∀ env transport, e.action ≠ .prepare env transport) :
    e.prepared? = none := by
  unfold Entry.prepared?
  split
  · next haction _ => exact absurd haction (h _ _)
  · rfl

theorem Entry.prepared?_of_returned {e : Entry} {env : Environment} {transport : Transport} {r : Response}
    {st : Settings} (haction : e.action = .prepare env transport) (hresult : e.result = .ok r)
    (hsettings : Deployer.settingsOf env = .ok st) : e.prepared? = some ⟨st, transport⟩ := by
  unfold Entry.prepared?
  rw [haction, hresult]
  simp only [hsettings]

theorem lastPrepared_cons (e : Entry) (past : List Entry) :
    lastPrepared (e :: past) = e.prepared?.or (lastPrepared past) := by
  unfold lastPrepared
  rw [List.findSome?_cons]
  cases e.prepared? <;> rfl

section

variable {d next : Deployer} {e : Environment} {transport : Transport} {xs : List Exchange} {a : Action}

theorem prepare_eq (d : Deployer) (e : Environment) (transport : Transport) :
    d.prepare e transport = (ofExcept (Deployer.settingsOf e)).bind fun st =>
      (if transport = .opened then openClient st else .done ()).bind fun _ =>
        .done { d with connection := some ⟨st, transport⟩ } := by
  cases transport <;> rfl

/-- A preparation that returns has read its settings, and gives a deployer that is connected by them. -/
theorem prepare_returned (h : (d.prepare e transport).Trace xs (.ok next)) :
    ∃ st, Deployer.settingsOf e = .ok st ∧ next = { d with connection := some ⟨st, transport⟩ } := by
  rw [prepare_eq] at h
  obtain ⟨st, _, _, rfl, hsettings, hrest⟩ := trace_bind_ok.mp h
  obtain ⟨-, hst⟩ := trace_ofExcept.mp hsettings
  obtain ⟨_, _, _, rfl, -, hdone⟩ := trace_bind_ok.mp hrest
  obtain ⟨-, hnext⟩ := hdone
  exact ⟨st, hst.symm, Except.ok.inj hnext⟩

/-- A program that answers for a deployer gives the same one. -/
theorem returned_same {α : Type} {p : Program α} {answer : α → Response} {r : Response}
    (h : (p.bind fun v => .done (answer v, d)).Trace xs (.ok (r, next))) : next = d := by
  obtain ⟨_, _, _, -, -, -, hdone⟩ := trace_bind_ok.mp h
  exact (Prod.mk.inj (Except.ok.inj hdone)).2

/-- Nothing but a preparation gives another deployer. -/
theorem program_returned {r : Response} (h : (a.program d).Trace xs (.ok (r, next))) :
    ((∀ e transport, a ≠ .prepare e transport) ∧ next = d) ∨
      ∃ e transport st, a = .prepare e transport ∧ Deployer.settingsOf e = .ok st ∧
        next = { d with connection := some ⟨st, transport⟩ } := by
  cases a with
  | prepare e transport =>
      obtain ⟨d', _, _, -, hprepare, -, hdone⟩ := trace_bind_ok.mp h
      obtain ⟨-, rfl⟩ := Prod.mk.inj (Except.ok.inj hdone)
      obtain ⟨st, hsettings, hnext⟩ := prepare_returned hprepare
      exact .inr ⟨e, transport, st, rfl, hsettings, hnext⟩
  | deploy definition text => exact .inl ⟨fun _ _ => Action.noConfusion, returned_same h⟩
  | undeploy text delete => exact .inl ⟨fun _ _ => Action.noConfusion, returned_same h⟩
  | executionUrl text => exact .inl ⟨fun _ _ => Action.noConfusion, returned_same h⟩
  | validate definition => exact .inl ⟨fun _ _ => Action.noConfusion, returned_same h⟩
  | normalize definition => exact .inl ⟨fun _ _ => Action.noConfusion, (Prod.mk.inj (Except.ok.inj h.2)).2⟩
  | status => exact .inl ⟨fun _ _ => Action.noConfusion, (Prod.mk.inj (Except.ok.inj h.2)).2⟩

/-- Without a connection, an action that needs one fails before anything is done. -/
theorem program_unprepared (hnone : d.connection = none) (hneeds : a.needsConnection = true) :
    a.program d = .fail (.configuration (.uninitialized d.gateway.name)) := by
  have hrequire : d.require = .error (.configuration (.uninitialized d.gateway.name)) := by
    unfold Deployer.require
    rw [hnone]
  cases a with
  | deploy definition text =>
      show (d.deploy definition text).bind _ = _
      unfold Deployer.deploy
      rw [hrequire]
      rfl
  | undeploy text delete =>
      show (d.undeploy text delete).bind _ = _
      unfold Deployer.undeploy
      rw [hrequire]
      rfl
  | executionUrl text =>
      show (ofExcept (d.executionUrl text)).bind _ = _
      unfold Deployer.executionUrl
      rw [hrequire]
      rfl
  | prepare e transport => cases hneeds
  | validate definition => cases hneeds
  | normalize definition => cases hneeds
  | status => cases hneeds

end

/-! ## The invariant -/

namespace Session

variable {σ : Type} {world : Transport → Backend σ} {S : Session} {g : GatewayType}

/-- A session is faithful to its record: the deployer is connected by the last preparation that returned, and so
was the one that each entry is about. -/
structure Faithful (world : Transport → Backend σ) (g : GatewayType) (S : Session) : Prop where
  deployer : S.deployer = ⟨g, lastPrepared S.past⟩
  entries : ∀ newer e older, S.past = newer ++ e :: older →
    ∃ a s, e = entry world ⟨g, lastPrepared older⟩ a s

/-- The deployer after an action is what its entry says. -/
theorem next_eq (d : Deployer) (a : Action) (s : σ) :
    next world d a s = ⟨d.gateway, (entry world d a s).prepared?.or d.connection⟩ := by
  have htrace := trace_run (world (a.transport d)) (a.program d) s
  have hentry : (entry world d a s).result =
      ((a.program d).run (world (a.transport d)) s).result.map Prod.fst := rfl
  unfold next
  cases hresult : ((a.program d).run (world (a.transport d)) s).result with
  | error f =>
      rw [hresult] at hentry
      rw [Entry.prepared?_of_error hentry]
      rfl
  | ok x =>
      obtain ⟨r, d'⟩ := x
      rw [hresult] at htrace hentry
      rcases program_returned htrace with ⟨hother, rfl⟩ | ⟨e, transport, st, rfl, hsettings, rfl⟩
      · rw [Entry.prepared?_of_other hother]
        rfl
      · rw [Entry.prepared?_of_returned rfl hentry hsettings]
        rfl

/-- **One action preserves the invariant.** -/
theorem Faithful.step (h : S.Faithful world g) (a : Action) (s : σ) : (S.step world a s).Faithful world g := by
  have hentry : entry world S.deployer a s = entry world ⟨g, lastPrepared S.past⟩ a s := by
    rw [h.deployer]
  constructor
  · show next world S.deployer a s = ⟨g, lastPrepared (entry world S.deployer a s :: S.past)⟩
    rw [next_eq, lastPrepared_cons, h.deployer]
  · intro newer e older hpast
    cases newer with
    | nil =>
        obtain ⟨rfl, rfl⟩ := List.cons_eq_cons.mp hpast
        exact ⟨a, s, hentry⟩
    | cons e' newer =>
        obtain ⟨-, hpast⟩ := List.cons_eq_cons.mp hpast
        exact h.entries newer e older hpast

theorem faithful_start (world : Transport → Backend σ) (g : GatewayType) : (start g).Faithful world g := by
  constructor
  · rfl
  · intro newer e older hpast
    cases newer <;> cases hpast

/-- **Sessions are faithful**, however long they are. -/
theorem faithful_run (h : S.Faithful world g) (turns : List (Action × σ)) : (S.run world turns).Faithful world g := by
  induction turns generalizing S with
  | nil => exact h
  | cons turn turns ih => exact ih (h.step turn.1 turn.2)

end Session

/-! ## Where a deployer works -/

/-- A request that names a stage names the one of a target, and an authorizer that it makes is invoked in the
region of the target. -/
def Request.IsAt (t : Target) : Request → Prop
  | .call (.createDeployment _ stage) | .call (.deleteStage _ stage) => stage = t.stage
  | .call (.createAuthorizer _ spec) => ∃ key : AuthorizerKey, spec.uri = key.uri t.region
  | _ => True

/-- The operations that have a place. -/
def placedOperations : List Operation := [.createDeployment, .deleteStage, .createAuthorizer]

section

variable {t : Target} {api : String} {ops : List Operation} {q : Request} {definition : Definition}

theorem isAt_of_not_placed (h : q.operation ∉ placedOperations) : q.IsAt t := by
  cases q with
  | list l => trivial
  | call c =>
      cases c with
      | createDeployment api stage => exact absurd List.mem_cons_self h
      | deleteStage api stage => exact absurd (List.mem_cons_of_mem _ List.mem_cons_self) h
      | createAuthorizer api spec =>
          exact absurd (List.mem_cons_of_mem _ (List.mem_cons_of_mem _ List.mem_cons_self)) h
      | _ => trivial

theorem isAt_of_on (hops : ∀ op ∈ ops, op ∉ placedOperations) (h : q.On api ops) : q.IsAt t :=
  isAt_of_not_placed (hops _ h.2)

theorem createMissing_asks_isAt (keys : List AuthorizerKey) (b : Bindings) :
    (createMissing api t.region keys b).Asks (Request.IsAt t) := by
  induction keys generalizing b with
  | nil => trivial
  | cons key keys ih =>
      unfold createMissing
      split
      · exact ih b
      · have hcreate : (createAuthorizer api t.region key).Asks (Request.IsAt t) :=
          asks_bind (asks_relabel (asks_perform.mpr ⟨key, rfl⟩)) fun _ => asks_textMember
        exact asks_bind hcreate fun id => ih _

theorem synchronize_asks_isAt (existing : List Existing) (prune : Bool) :
    (synchronize api t.region definition existing prune).Asks (Request.IsAt t) := by
  rw [synchronize_eq]
  refine asks_bind asks_ofExcept fun scopes => asks_bind (createMissing_asks_isAt _ _) fun b => ?_
  refine asks_bind ?_ fun _ => asks_note.mpr asks_done
  cases prune with
  | false => trivial
  | true =>
      refine (deleteSuperfluous_asks_listed _ _ b).mono ?_
      rintro q ⟨a, -, rfl⟩
      trivial

theorem synchronizeImported_asks_isAt (i : Imported) :
    (synchronizeImported t i definition).Asks (Request.IsAt t) := by
  unfold synchronizeImported
  split
  · exact synchronize_asks_isAt [] false
  · have hexisting : (existingAuthorizers i.api).Asks (Request.IsAt t) :=
      asks_bind (asks_relabel (asks_collect.mpr trivial)) fun items => managed_asks items
    exact asks_bind hexisting fun existing => synchronize_asks_isAt existing true

theorem deploy_asks_isAt : (ApiReconciler.deploy api t.stage).Asks (Request.IsAt t) := by
  have hcreate : Request.IsAt t (.call (.createDeployment api t.stage)) := rfl
  rw [deploy_eq]
  refine asks_bind (asks_relabel (asks_perform.mpr hcreate)) fun reply => ?_
  refine asks_bind asks_textMember fun deployment => asks_note.mpr ?_
  refine asks_bind ((pruneDeployments_asks deployment).mono fun _ => isAt_of_on (by decide)) fun left => ?_
  refine asks_bind ?_ fun _ => asks_done
  unfold noteSuperseded
  split <;> trivial

/-- **All that follows an import is at the target.** -/
theorem complete_asks_isAt (i : Imported) (baseUrl : String) :
    (complete t i definition baseUrl).Asks (Request.IsAt t) := by
  refine asks_bind (fetchResources_asks.mono fun _ => isAt_of_on (by decide)) fun resources => ?_
  refine asks_bind (synchronizeImported_asks_isAt i) fun b => ?_
  refine asks_bind ((bindAll_asks resources baseUrl b).mono fun _ => isAt_of_on (by decide)) fun _ => ?_
  exact asks_bind deploy_asks_isAt fun _ => readReference_asks.mono fun _ => isAt_of_on (by decide)

theorem importApi_asks_isAt : (importApi t definition).Asks (Request.IsAt t) := by
  refine asks_bind asks_ofExcept fun baseUrl => asks_bind ?_ fun i => ?_
  · have hops : ∀ op ∈ importOperations, op ∉ placedOperations := by decide
    exact importDefinition_asks.mono fun q hq => isAt_of_not_placed (hops _ hq)
  · exact asks_rescue (complete_asks_isAt i baseUrl) fun f =>
      (abandon_asks f).mono fun _ => isAt_of_on (by decide)

theorem reimportApi_asks_isAt (r : Reference) : (reimportApi t r definition).Asks (Request.IsAt t) := by
  refine asks_bind asks_ofExcept fun baseUrl => asks_bind ?_ fun i => complete_asks_isAt i baseUrl
  exact (overwriteDefinition_asks definition).mono fun _ => isAt_of_on (by decide)

theorem deleteDeployments_asks_isAt (items : List Object) :
    (deleteDeployments api items).Asks (Request.IsAt t) := by
  induction items with
  | nil => trivial
  | cons item items ih =>
      refine asks_bind asks_textMember fun id => asks_bind (removing_asks ?_ _ _) fun _ => ih
      exact asks_bind (asks_perform.mpr trivial) fun _ => asks_done

theorem takeDown_asks_isAt : (takeDown api t.stage).Asks (Request.IsAt t) := by
  have hstages : (Program.stages api).Asks (Request.IsAt t) := asks_bind (asks_perform.mpr trivial) fun _ => trivial
  rw [takeDown_eq]
  refine asks_bind (removing_asks (asks_bind hstages fun _ => asks_done) _ _) fun stages => ?_
  cases stages with
  | none => trivial
  | some stages =>
      refine asks_bind ?_ fun _ => asks_bind (removing_asks ?_ _ _) fun listed => ?_
      · have hdelete : Request.IsAt t (.call (.deleteStage api t.stage)) := rfl
        unfold removeStage
        split
        · exact removing_asks (asks_bind (asks_perform.mpr hdelete) fun _ => asks_log) _ _
        · trivial
      · exact asks_bind (asks_collect.mpr trivial) fun _ => asks_done
      · cases listed with
        | none => trivial
        | some items => exact asks_bind (deleteDeployments_asks_isAt items) fun _ => asks_log

theorem tearDown_asks_isAt (r : Reference) (delete : Bool) : (tearDown t r delete).Asks (Request.IsAt t) := by
  rw [tearDown_eq]
  refine asks_bind takeDown_asks_isAt fun _ => ?_
  cases delete with
  | true =>
      have hdelete : (deleteApi r.api).Asks (Request.IsAt t) :=
        deleteApi_asks.mono fun _ => isAt_of_on (by decide)
      exact asks_bind (asks_relabel hdelete) fun _ => trivial
  | false => trivial

/-- **A connected deployer works where its settings say**, whatever it is asked for. -/
theorem program_asks_isAt {d : Deployer} {c : Connection} {a : Action} (hc : d.connection = some c)
    (hother : ∀ e transport, a ≠ .prepare e transport) : (a.program d).Asks (Request.IsAt c.target) := by
  cases a with
  | prepare e transport => exact absurd rfl (hother e transport)
  | deploy definition text =>
      refine asks_bind ?_ fun _ => asks_done
      cases text with
      | none =>
          rw [deploy_new_eq hc]
          exact asks_note.mpr (asks_bind importApi_asks_isAt fun _ => asks_ofExcept)
      | some text =>
          rw [deploy_over_eq hc]
          refine asks_note.mpr (asks_bind asks_ofExcept fun r => ?_)
          exact asks_bind (reimportApi_asks_isAt r) fun _ => asks_ofExcept
  | undeploy text delete =>
      have hdown : (d.undeploy text delete).Asks (Request.IsAt c.target) := by
        unfold Deployer.undeploy
        rw [Deployer.require_eq_ok.mpr hc, bind_eq, ofExcept_ok, done_bind]
        exact asks_bind asks_ofExcept fun r => tearDown_asks_isAt r delete
      exact asks_bind hdown fun _ => asks_done
  | executionUrl text => exact asks_bind asks_ofExcept fun _ => asks_done
  | validate definition => exact asks_bind asks_ofExcept fun _ => asks_done
  | normalize definition => trivial
  | status => trivial

end

/-! ## What environments name -/

/-- The region and the stage that an environment names. Properties that give no stage, or an empty one, name the
default stage. -/
def Environment.Names : Environment → String → String → Prop
  | .settings st, region, stage => region = st.region ∧ stage = st.stage
  | .properties ms, region, stage =>
    Checked.text (Settings.property ms "region") = .passed region ∧
      if (Settings.property ms "stage").isTruthy then Checked.text (Settings.property ms "stage") = .passed stage
      else stage = Settings.defaultStage

section

variable {st : Settings}

/-- What is prepared for an environment is where the environment names. -/
theorem settingsOf_names {e : Environment} (h : Deployer.settingsOf e = .ok st) : e.Names st.region st.stage := by
  cases e with
  | settings s =>
      obtain rfl := Except.ok.inj h
      exact ⟨rfl, rfl⟩
  | properties ms =>
      cases hread : Settings.ofProperties ms with
      | failed issues =>
          rw [Deployer.settingsOf, hread] at h
          cases h
      | passed s =>
          rw [Deployer.settingsOf, hread] at h
          obtain rfl := Except.ok.inj h
          have hfields := Settings.read_eq_passed_iff.mp hread
          refine ⟨Checked.under_eq_passed.mp hfields.region, ?_⟩
          have hstage' := Checked.under_eq_passed.mp hfields.stage
          split
          · next htruthy =>
              rw [if_pos htruthy] at hstage'
              exact hstage'
          · next htruthy =>
              rw [if_neg htruthy] at hstage'
              exact (Checked.passed.inj hstage').symm

end

/-! ## What can be seen of a deployer -/

/-- An entry is in keeping with the connection that the last preparation before it left, or with there being
none. -/
structure Entry.InKeeping {σ : Type} (world : Transport → Backend σ) (g : GatewayType) (before : Option Connection)
    (e : Entry) : Prop where
  asked : ∃ a s, e = Session.entry world ⟨g, before⟩ a s
  prepared : ∀ env transport r, e.action = .prepare env transport → e.result = .ok r →
    ∃ st, e.prepared? = some ⟨st, transport⟩ ∧ env.Names st.region st.stage
  kept : (∀ env transport r, e.action = .prepare env transport → e.result ≠ .ok r) → e.prepared? = none
  unprepared : before = none → e.action.needsConnection = true →
    e.result = .error (.configuration (.uninitialized g.name)) ∧ e.exchanges = [] ∧ e.events = []
  placed : ∀ c, before = some c → (∀ env transport, e.action ≠ .prepare env transport) →
    ∀ x ∈ e.exchanges, x.request.IsAt c.target
  url : ∀ text url, e.action = .executionUrl text → e.result = .ok (.url url) →
    ∃ c r, before = some c ∧ Reference.parse text = .ok r ∧
      url = "https://" ++ r.api ++ ".execute-api." ++ c.target.region ++ ".amazonaws.com/" ++ c.target.stage
  status : e.action = .status →
    e.result = .ok (.status before.isSome (before.map fun c => c.target.region) (before.map fun c => c.target.stage))

namespace Session

variable {σ : Type} {world : Transport → Backend σ} {g : GatewayType} {before : Option Connection}

/-- What a deployer answers about a URL comes from its connection. -/
theorem entry_url {text url : String} {s : σ}
    (h : (entry world ⟨g, before⟩ (.executionUrl text) s).result = .ok (.url url)) :
    ∃ c r, before = some c ∧ Reference.parse text = .ok r ∧
      url = "https://" ++ r.api ++ ".execute-api." ++ c.target.region ++ ".amazonaws.com/" ++ c.target.stage := by
  cases before with
  | none =>
      have hfails := program_unprepared (d := ⟨g, none⟩) (a := .executionUrl text) rfl rfl
      simp only [entry, hfails, run_fail] at h
      cases h
  | some c =>
      cases hparse : Reference.parse text with
      | ok r =>
          have hurl := executionUrl_eq (d := ⟨g, some c⟩) rfl hparse
          simp only [entry, Action.program, hurl, ofExcept_ok, done_bind, run_done] at h
          exact ⟨c, r, rfl, rfl, (Response.url.inj (Except.ok.inj h)).symm⟩
      | error e =>
          have hurl : (⟨g, some c⟩ : Deployer).executionUrl text = .error (.reference e) :=
            (refuses_of_parse (world .opened) s hparse rfl).url
          simp only [entry, Action.program, hurl, ofExcept_error, fail_bind, run_fail] at h
          cases h

/-- **Whatever a deployer is asked for, what comes of it is in keeping with its connection.** -/
theorem entry_inKeeping (a : Action) (s : σ) :
    (entry world ⟨g, before⟩ a s).InKeeping world g before := by
  have htrace := trace_run (world (a.transport ⟨g, before⟩)) (a.program ⟨g, before⟩) s
  have hresult : (entry world ⟨g, before⟩ a s).result =
      ((a.program ⟨g, before⟩).run (world (a.transport ⟨g, before⟩)) s).result.map Prod.fst := rfl
  refine ⟨⟨a, s, rfl⟩, ?_, ?_, ?_, ?_, ?_, ?_⟩
  · intro env transport r haction hok
    obtain rfl : a = .prepare env transport := haction
    cases hrun : (((Action.prepare env transport).program ⟨g, before⟩).run
        (world (Action.transport ⟨g, before⟩ (.prepare env transport))) s).result with
    | error f =>
        rw [hrun] at hresult
        rw [hresult] at hok
        cases hok
    | ok x =>
        obtain ⟨r', d'⟩ := x
        rw [hrun] at htrace
        rcases program_returned htrace with ⟨hother, -⟩ | ⟨_, _, st, haction, hsettings, -⟩
        · exact absurd rfl (hother env transport)
        · obtain ⟨rfl, rfl⟩ := Action.prepare.inj haction
          exact ⟨st, Entry.prepared?_of_returned rfl hok hsettings, settingsOf_names hsettings⟩
  · intro hnone
    unfold Entry.prepared?
    split
    · next haction hok => exact absurd hok (hnone _ _ _ haction)
    · rfl
  · rintro rfl hneeds
    have hfails := program_unprepared (d := ⟨g, none⟩) (a := a) rfl hneeds
    have hentry : entry world ⟨g, none⟩ a s = ⟨a, .error (.configuration (.uninitialized g.name)), [], []⟩ := by
      unfold entry
      rw [hfails]
      rfl
    rw [hentry]
    exact ⟨rfl, rfl, rfl⟩
  · rintro c rfl hother
    exact (program_asks_isAt rfl hother).exchanges
  · intro text url haction hok
    obtain rfl : a = .executionUrl text := haction
    exact entry_url hok
  · intro haction
    obtain rfl : a = .status := haction
    cases before <;> rfl

/-- **A deployer is always what the last preparation that returned made it.** After any actions, in any order and
however they are answered, the deployer is connected by the settings and through the transport of that
preparation, and what it says of itself is said of them; without one it is as new. An action that fails leaves it
as it is. And so has it been all along: every entry of the record is in keeping with the last preparation before
it. In particular, what needs a connection has failed before anything was done until a first preparation
returned, and everything after it was done at the place that the last one before it named. -/
theorem session_is_last_preparation (world : Transport → Backend σ) (g : GatewayType)
    (turns : List (Action × σ)) :
    let S := (start g).run world turns
    S.deployer = ⟨g, lastPrepared S.past⟩ ∧
      S.deployer.isReady = (lastPrepared S.past).isSome ∧
      S.deployer.region = (lastPrepared S.past).map (fun c => c.target.region) ∧
      S.deployer.stage = (lastPrepared S.past).map (fun c => c.target.stage) ∧
      (∀ a s f, (entry world S.deployer a s).result = .error f → (S.step world a s).deployer = S.deployer) ∧
      ∀ newer e older, S.past = newer ++ e :: older → e.InKeeping world g (lastPrepared older) := by
  intro S
  have hfaithful : S.Faithful world g := faithful_run (faithful_start world g) turns
  have hdeployer := hfaithful.deployer
  refine ⟨hdeployer, ?_, ?_, ?_, ?_, ?_⟩
  · rw [hdeployer]
    rfl
  · rw [hdeployer]
    rfl
  · rw [hdeployer]
    rfl
  · intro a s f hfailed
    show next world S.deployer a s = S.deployer
    rw [next_eq, Entry.prepared?_of_error hfailed]
    rfl
  · intro newer e older hpast
    obtain ⟨a, s, rfl⟩ := hfaithful.entries newer e older hpast
    exact entry_inKeeping a s

/-- A preparation without a region fails, and the deployer stays as the one before it left it. -/
example :
    let S := (start .aws).run (fun _ => Script.backend true)
      [(.prepare (.settings impatientSettings) (.given 1), Script.empty),
        (.prepare (.properties [(.text "stage", .text "test")]) (.given 2), Script.empty)]
    S.deployer.stage = some "live" ∧ lastPrepared S.past = some ⟨impatientSettings, .given 1⟩ :=
  ⟨rfl, rfl⟩

end Session

end ApiReconciler
