import ApiReconciler.Proofs.Gateway.Trace
import ApiReconciler.Proofs.Reconcile.Stages

/-!
# `ApiReconciler.Proofs.Reconcile.Requests` — which requests each stage makes

One lemma for each stage: the API it addresses and the operations it can come to, whatever the gateway
answers. A stage's lemma is all that the others need to know of its calls, so "nothing else touches this"
is read off the lists of operations below.

## Contents
- `Request.On`: a request about one API, of one of some operations.
- The operations of the stages, and `…_asks`: a stage keeps to its own.
- `complete_asks`, `abandon_asks`: the requests after an import, and those of its removal;
  `tearDown_asks`: those of taking an API down.
-/

namespace ApiReconciler

open Program

/-- A request about an API, of one of the given operations. -/
def Request.On (api : String) (ops : List Operation) (q : Request) : Prop :=
  q.api? = some api ∧ q.operation ∈ ops

theorem Request.On.mono {api : String} {ops ops' : List Operation} {q : Request}
    (h : q.On api ops) (hs : ops ⊆ ops') : q.On api ops' :=
  ⟨h.1, hs h.2⟩

/-- A request of other operations than those it would have to be of. -/
theorem Request.On.ne {api : String} {ops : List Operation} {q : Request} {op : Operation}
    (h : q.On api ops) (hop : op ∉ ops) : q.operation ≠ op :=
  fun he => hop (he ▸ h.2)

/-! ## The operations of the stages -/

/-- Reading the resources of an API. -/
def readOperations : List Operation := [.getResources, .getMethod]

/-- Synchronizing the authorizers of an API. -/
def authorizerOperations : List Operation := [.getAuthorizers, .createAuthorizer, .deleteAuthorizer]

/-- Declaring the response of a method. -/
def responseOperations : List Operation := [.putMethodResponse, .updateMethodResponse]

/-- Setting up the answer to preflight requests. -/
def preflightOperations : List Operation :=
  [.putMethod, .putIntegration, .putIntegrationResponse] ++ responseOperations

/-- Binding the methods of an API. -/
def bindOperations : List Operation :=
  preflightOperations ++ [.updateMethod, .updateIntegrationResponse]

/-- Deleting the deployments that were superseded. -/
def pruneOperations : List Operation := [.getDeployments, .deleteDeployment]

/-- Deploying an API. -/
def deployOperations : List Operation := [.createDeployment, .getDeployments, .deleteDeployment]

/-- Deleting an API. -/
def removalOperations : List Operation := [.getApi, .deleteApi]

/-- Taking an API down, and deleting it. -/
def teardownOperations : List Operation :=
  [.getStages, .deleteStage, .getDeployments, .deleteDeployment] ++ removalOperations

/-- Everything that follows an import that succeeded. -/
def completionOperations : List Operation :=
  readOperations ++ authorizerOperations ++ bindOperations ++ deployOperations ++ [.getApi]

variable {api : String} {ops : List Operation}

theorem perform_asks {c : Call} (ha : c.api? = some api) (ho : ops.contains c.operation = true) :
    (perform c).Asks (Request.On api ops) :=
  asks_perform.mpr ⟨ha, List.contains_iff_mem.mp ho⟩

theorem collect_asks {l : Listing} (ha : l.api? = some api) (ho : ops.contains l.operation = true) :
    (collect l).Asks (Request.On api ops) :=
  asks_collect.mpr ⟨ha, List.contains_iff_mem.mp ho⟩

/-! ## Overwriting -/

theorem logAll_asks {P : Request → Prop} (ns : List Note) : (logAll ns).Asks P := by
  induction ns with
  | nil => trivial
  | cons n ns ih => exact ih

theorem overwriteDefinition_asks (d : Definition) :
    (overwriteDefinition api d).Asks (Request.On api [.overwriteApi]) := by
  refine asks_bind (asks_relabel (perform_asks rfl rfl)) fun reply => ?_
  refine asks_bind (logAll_asks _) fun _ => asks_bind asks_log fun _ => asks_bind ?_ fun _ => asks_done
  unfold addressedApi
  split
  · trivial
  · exact asks_textMember

/-! ## Reading -/

theorem fetchMethods_asks (resource : String) (verbs : List String) :
    (fetchMethods api resource verbs).Asks (Request.On api readOperations) := by
  induction verbs with
  | nil => trivial
  | cons verb verbs ih =>
      exact asks_bind (perform_asks rfl rfl) fun _ => asks_bind ih fun _ => trivial

theorem pathOf_asks (item : Object) {P : Request → Prop} : (pathOf item).Asks P := by
  unfold pathOf
  split
  · trivial
  · exact asks_textMember

theorem fetchListed_asks (items : List Object) :
    (fetchListed api items).Asks (Request.On api readOperations) := by
  induction items with
  | nil => trivial
  | cons item items ih =>
      refine asks_bind asks_textMember fun id => ?_
      refine asks_bind (pathOf_asks item) fun path => ?_
      refine asks_bind (fetchMethods_asks id (verbsOf item)) fun methods => ?_
      exact asks_bind ih fun _ => trivial

theorem fetchResources_asks : (fetchResources api).Asks (Request.On api readOperations) :=
  asks_relabel (asks_bind (collect_asks rfl rfl) fetchListed_asks)

/-! ## Authorizers -/

theorem managed_asks (items : List Object) {P : Request → Prop} : (managed items).Asks P := by
  induction items with
  | nil => trivial
  | cons item items ih =>
      unfold managed
      split
      · exact ih
      · exact asks_bind asks_textMember fun _ => asks_bind ih fun _ => trivial

theorem existingAuthorizers_asks :
    (existingAuthorizers api).Asks (Request.On api authorizerOperations) :=
  asks_bind (asks_relabel (collect_asks rfl rfl)) fun items => managed_asks items

theorem createAuthorizer_asks (region : String) (key : AuthorizerKey) :
    (createAuthorizer api region key).Asks (Request.On api authorizerOperations) :=
  asks_bind (asks_relabel (perform_asks rfl rfl)) fun _ => asks_textMember

theorem createMissing_asks (region : String) (keys : List AuthorizerKey) (b : Bindings) :
    (createMissing api region keys b).Asks (Request.On api authorizerOperations) := by
  induction keys generalizing b with
  | nil => trivial
  | cons key keys ih =>
      unfold createMissing
      split
      · exact ih b
      · exact asks_bind (createAuthorizer_asks region key) fun _ => ih _

theorem deleteAuthorizer_asks (id : String) :
    (deleteAuthorizer api id).Asks (Request.On api authorizerOperations) :=
  asks_bind (asks_relabel (perform_asks rfl rfl)) fun _ => trivial

theorem deleteSuperfluous_asks (required : List AuthorizerKey) (as : List Existing) (b : Bindings) :
    (deleteSuperfluous api required as b).Asks (Request.On api authorizerOperations) := by
  induction as generalizing b with
  | nil => trivial
  | cons a rest ih =>
      unfold deleteSuperfluous
      split
      · exact ih b
      · exact asks_bind (deleteAuthorizer_asks a.2) fun _ => ih _

theorem synchronize_asks (region : String) (d : Definition) (existing : List Existing) (prune : Bool) :
    (synchronize api region d existing prune).Asks (Request.On api authorizerOperations) := by
  rw [synchronize_eq]
  refine asks_bind asks_ofExcept fun scopes => ?_
  refine asks_bind (createMissing_asks region _ _) fun b => ?_
  refine asks_bind ?_ fun _ => asks_note.mpr asks_done
  cases prune with
  | true => exact deleteSuperfluous_asks _ _ b
  | false => trivial

theorem synchronizeImported_asks (t : Target) (i : Imported) (d : Definition) :
    (synchronizeImported t i d).Asks (Request.On i.api authorizerOperations) := by
  unfold synchronizeImported
  split
  · exact synchronize_asks t.region d [] false
  · exact asks_bind existingAuthorizers_asks fun existing => synchronize_asks t.region d existing true

/-! ## Binding -/

theorem declareResponse_asks {m : MethodRef} (parameters : List (String × Bool)) (hm : m.api = api) :
    (declareResponse m parameters).Asks (Request.On api responseOperations) := by
  subst hm
  refine asks_rescueCall (asks_bind (perform_asks rfl rfl) fun _ => trivial) fun f => ?_
  split
  · exact asks_bind (perform_asks rfl rfl) fun _ => trivial
  · trivial

theorem configurePreflight_asks (r : Resource) :
    (configurePreflight api r).Asks (Request.On api preflightOperations) := by
  simp only [configurePreflight]
  split
  · trivial
  · refine asks_bind (perform_asks rfl rfl) fun _ => ?_
    refine asks_bind (perform_asks rfl rfl) fun _ => ?_
    refine asks_bind ((declareResponse_asks _ rfl).mono fun _ h => h.mono (by decide)) fun _ => ?_
    exact asks_bind (perform_asks rfl rfl) fun _ => trivial

theorem attachAuthorizer_asks {m : MethodRef} (path : String) (b : Bindings) (hm : m.api = api) :
    (attachAuthorizer m path b).Asks (Request.On api bindOperations) := by
  subst hm
  unfold attachAuthorizer
  split
  · trivial
  · exact asks_bind (perform_asks rfl rfl) fun _ => trivial

theorem bindMethod_asks (r : Resource) (method : Method) (baseUrl : String) (b : Bindings) :
    (bindMethod api r method baseUrl b).Asks (Request.On api bindOperations) := by
  refine asks_bind asks_ofExcept fun mappings => ?_
  refine asks_bind (perform_asks rfl rfl) fun _ => ?_
  refine asks_bind (perform_asks rfl rfl) fun _ => ?_
  refine asks_bind (attachAuthorizer_asks r.path b rfl) fun _ => ?_
  refine asks_bind ((declareResponse_asks _ rfl).mono fun _ h => h.mono (by decide)) fun _ => ?_
  exact asks_bind (perform_asks rfl rfl) fun _ => trivial

section

variable {P : Request → Prop} {baseUrl : String} {b : Bindings}

theorem bindMethods_asks {r : Resource} {methods : List Method}
    (h : ∀ method ∈ methods, (bindMethod api r method baseUrl b).Asks P) :
    (bindMethods api r baseUrl b methods).Asks P := by
  induction methods with
  | nil => trivial
  | cons method methods ih =>
      obtain ⟨hmethod, hmethods⟩ := List.forall_mem_cons.mp h
      exact asks_bind hmethod fun _ => ih hmethods

theorem bindEach_asks {rs : List Resource} (hpreflight : ∀ r ∈ rs, (configurePreflight api r).Asks P)
    (h : ∀ r ∈ rs, ∀ method ∈ r.methods, (bindMethod api r method baseUrl b).Asks P) :
    (bindEach api baseUrl b rs).Asks P := by
  induction rs with
  | nil => trivial
  | cons r rs ih =>
      obtain ⟨hfirst, hothers⟩ := List.forall_mem_cons.mp hpreflight
      obtain ⟨hmethods, hrest⟩ := List.forall_mem_cons.mp h
      exact asks_bind (asks_relabel (asks_bind hfirst fun _ => bindMethods_asks hmethods))
        fun _ => ih hothers hrest

/-- **Binding asks what its preflights and its methods ask.** -/
theorem bindAll_asks_of {rs : List Resource} (hpreflight : ∀ r ∈ rs, (configurePreflight api r).Asks P)
    (h : ∀ r ∈ rs, ∀ method ∈ r.methods, (bindMethod api r method baseUrl b).Asks P) :
    (bindAll api rs baseUrl b).Asks P := by
  have hkept : ∀ r ∈ withMethods rs, r ∈ rs := fun r hr => List.mem_of_mem_filter hr
  exact asks_bind (bindEach_asks (fun r hr => hpreflight r (hkept r hr)) fun r hr => h r (hkept r hr))
    fun _ => asks_note.mpr asks_done

end

theorem bindAll_asks (rs : List Resource) (baseUrl : String) (b : Bindings) :
    (bindAll api rs baseUrl b).Asks (Request.On api bindOperations) :=
  bindAll_asks_of (fun r _ => (configurePreflight_asks r).mono fun _ h => h.mono (by decide))
    fun r _ method _ => bindMethod_asks r method baseUrl b

/-! ## Deploying and removing -/

theorem deleteOthers_asks (keep : String) (items : List Object) :
    (deleteOthers api keep items).Asks (Request.On api pruneOperations) := by
  induction items with
  | nil => trivial
  | cons item items ih =>
      refine asks_bind asks_textMember fun id => ?_
      split
      · exact ih
      · refine asks_bind (asks_rescueCall ?_ fun _ => trivial) fun isLeft => asks_bind ih fun _ => trivial
        exact asks_bind (perform_asks rfl rfl) fun _ => trivial

theorem pruneDeployments_asks (keep : String) :
    (pruneDeployments api keep).Asks (Request.On api pruneOperations) := by
  refine asks_bind (asks_rescueCall ?_ fun _ => trivial) fun listed => ?_
  · exact asks_bind (collect_asks rfl rfl) fun _ => trivial
  · cases listed with
    | none => trivial
    | some items => exact deleteOthers_asks keep items

theorem deploy_asks (stage : String) : (deploy api stage).Asks (Request.On api deployOperations) := by
  rw [deploy_eq]
  refine asks_bind (asks_relabel (perform_asks rfl rfl)) fun reply => ?_
  refine asks_bind asks_textMember fun deployment => asks_note.mpr ?_
  have hprune : (pruneDeployments api deployment).Asks (Request.On api deployOperations) :=
    (pruneDeployments_asks deployment).mono fun _ h => h.mono (by decide)
  refine asks_bind hprune fun left => asks_bind ?_ fun _ => asks_done
  unfold noteSuperseded
  split <;> trivial

theorem readReference_asks : (readReference api).Asks (Request.On api [.getApi]) :=
  asks_bind (asks_relabel (perform_asks rfl rfl)) fun _ => asks_bind asks_textMember fun _ => trivial

theorem deleteApi_asks : (deleteApi api).Asks (Request.On api removalOperations) := by
  rw [deleteApi_eq]
  refine asks_bind (asks_rescueCall ?_ fun f => ?_) fun isDeleted => asks_bind ?_ fun _ => asks_done
  · exact asks_bind (perform_asks rfl rfl) fun _ => asks_bind (perform_asks rfl rfl) fun _ => asks_done
  · split <;> trivial
  · unfold noteDeleted
    split <;> trivial

/-! ## Taking down -/

theorem removing_asks {α : Type} {p : Program α} {P : Request → Prop} (hp : p.Asks P)
    (step : DeploymentStep) (missing : α) : (removing p step api missing).Asks P := by
  refine asks_rescueCall hp fun f => ?_
  split <;> trivial

theorem removeStage_asks (stage : String) (stages : Value) :
    (removeStage api stage stages).Asks (Request.On api teardownOperations) := by
  unfold removeStage
  split
  · exact removing_asks (asks_bind (perform_asks rfl rfl) fun _ => asks_log) _ _
  · trivial

theorem deleteDeployments_asks (items : List Object) :
    (deleteDeployments api items).Asks (Request.On api teardownOperations) := by
  induction items with
  | nil => trivial
  | cons item items ih =>
      refine asks_bind asks_textMember fun id => ?_
      exact asks_bind (removing_asks (asks_bind (perform_asks rfl rfl) fun _ => asks_done) _ _) fun _ => ih

theorem takeDown_asks (stage : String) :
    (takeDown api stage).Asks (Request.On api teardownOperations) := by
  rw [takeDown_eq]
  have hstages : (Program.stages api).Asks (Request.On api teardownOperations) :=
    asks_bind (perform_asks rfl rfl) fun _ => trivial
  refine asks_bind (removing_asks (asks_bind hstages fun _ => asks_done) _ _) fun stages => ?_
  cases stages with
  | none => trivial
  | some stages =>
      refine asks_bind (removeStage_asks stage stages) fun _ => ?_
      have hlisted : (collect (.deployments api)).Asks (Request.On api teardownOperations) :=
        collect_asks rfl rfl
      refine asks_bind (removing_asks (asks_bind hlisted fun _ => asks_done) _ _) fun listed => ?_
      cases listed with
      | none => trivial
      | some items => exact asks_bind (deleteDeployments_asks items) fun _ => asks_log

/-- Taking an API down is about this API only. -/
theorem tearDown_asks (t : Target) (r : Reference) (delete : Bool) :
    (tearDown t r delete).Asks (Request.On r.api teardownOperations) := by
  rw [tearDown_eq]
  refine asks_bind (takeDown_asks t.stage) fun _ => ?_
  cases delete with
  -- with the API itself, its deletion follows; without it, taking down was all
  | true =>
      have hdelete : (deleteApi r.api).Asks (Request.On r.api teardownOperations) :=
        deleteApi_asks.mono fun _ h => h.mono (by decide)
      exact asks_bind (asks_relabel hdelete) fun _ => trivial
  | false => trivial

/-! ## The pipeline -/

/-- **After an import, the pipeline stays on the imported API and never deletes an API or a stage.** -/
theorem complete_asks (t : Target) (i : Imported) (d : Definition) (baseUrl : String) :
    (complete t i d baseUrl).Asks (Request.On i.api completionOperations) := by
  refine asks_bind (fetchResources_asks.mono fun _ h => h.mono (by decide)) fun resources => ?_
  refine asks_bind ((synchronizeImported_asks t i d).mono fun _ h => h.mono (by decide)) fun b => ?_
  refine asks_bind ((bindAll_asks resources baseUrl b).mono fun _ h => h.mono (by decide)) fun _ => ?_
  refine asks_bind ((deploy_asks t.stage).mono fun _ h => h.mono (by decide)) fun _ => ?_
  exact readReference_asks.mono fun _ h => h.mono (by decide)

theorem rollBack_asks (trigger : Option Failure) :
    (rollBack api trigger).Asks (Request.On api removalOperations) :=
  asks_bind asks_log fun _ => asks_bind (asks_rescueCall deleteApi_asks fun _ => trivial) fun _ => asks_done

theorem abandon_asks {α : Type} (failure : Failure) :
    (abandon api failure : Program α).Asks (Request.On api removalOperations) :=
  asks_bind asks_log fun _ => asks_bind (rollBack_asks _) fun _ => trivial

end ApiReconciler
