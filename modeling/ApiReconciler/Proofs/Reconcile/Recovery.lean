import ApiReconciler.Proofs.Reconcile.Hosted
import ApiReconciler.Proofs.Reconcile.Protection

/-!
# `ApiReconciler.Proofs.Reconcile.Recovery` — a reconciliation recovers from failed ones

A reconciliation of an API that was there before is not rolled back when it fails, so the next one starts
from whatever the failed one left. It succeeds all the same. What it needs of the API is little: that
authorizers have identifiers of their own, and that there is no stage but the configured one
(`Ready`). Neither is lost by a request of a reconciliation, whether it succeeds, fails, or fails after it
was done (`ready_attempted`).

The state it ends in is described by the definition alone (`Settled`); of the state before, only the
authorizers without keys are in it.

## Contents
- `Ready`, `Attempted`: where a reconciliation starts from, and what a previous one left.
- `Settled`: where it ends.
- `reimport_recovers`: from the one to the other.
-/

namespace ApiReconciler

open Program

/-! ## Where a reconciliation starts from -/

/-- Authorizers can be told apart, and no stage exists but the configured one. -/
structure Ready (stage : String) (v : HostedApi) : Prop where
  authorizers : DistinctIds v.authorizers
  stages : (v.stages.map Prod.fst).Sublist [stage]

/-- A reconciliation with some definition leads from one state to the other, whatever its end and whichever
of its requests failed. -/
def Attempted {σ : Type} (declared : String → Declaration) (view : σ → HostedApi) (t : Target) (r : Reference)
    (s s' : σ) : Prop :=
  ∃ b d, Falters b r.api declared view ∧ ((reimportApi t r d).run b s).state = s'

section

variable {stage api : String} {declared : String → Declaration} {v v' : HostedApi}

theorem Ready.congr (h : Ready stage v) (ha : v'.authorizers = v.authorizers) (hs : v'.stages = v.stages) :
    Ready stage v' := by
  constructor
  · rw [ha]
    exact h.authorizers
  · rw [hs]
    exact h.stages

theorem Ready.onMethod {m : MethodRef} {change : HostedMethod → HostedMethod → Prop} {a : Answer}
    (h : Ready stage v) (hm : OnMethod m change v a v') : Ready stage v' := by
  unfold OnMethod at hm
  split at hm
  · obtain ⟨methods, rfl⟩ := hm
    exact h.congr rfl rfl
  · obtain ⟨-, new, -, rfl⟩ := hm
    exact h.congr rfl rfl

/-- A request that deploys to no other stage. -/
def DeploysTo (stage : String) (q : Request) : Prop :=
  ∀ api other, q = .call (.createDeployment api other) → other = stage

theorem deploysTo_of_ne {q : Request} (h : q.operation ≠ .createDeployment) : DeploysTo stage q := by
  rintro api other rfl
  exact absurd rfl h

/-- What a reconciliation asks of the gateway. -/
def Reconciles (stage api : String) (q : Request) : Prop :=
  q.On api (.overwriteApi :: completionOperations) ∧ DeploysTo stage q

/-- The operations of calls that a reconciliation of an API that was there before does not make. -/
def unaskedOperations : List Operation :=
  [.openSession, .openClient, .importApi, .deleteApi, .exportApi, .getIntegration, .getStages, .deleteStage]

theorem unasked_not_mem : ∀ op ∈ unaskedOperations, op ∉ Operation.overwriteApi :: completionOperations := by
  decide

/-- **A call that is done leaves the API ready.** -/
theorem Ready.answered {c : Call} {a : Answer} (h : Ready stage v) (hc : Reconciles stage api (.call c))
    (hanswer : Answered declared c v a v') : Ready stage v' := by
  -- only four kinds of calls change the authorizers, the deployments or the stages
  cases c with
  | overwriteApi api' body =>
      obtain ⟨reply, -, -, rfl⟩ := hanswer
      exact h.congr rfl rfl
  | getApi api' =>
      obtain ⟨reply, -, -, rfl⟩ := hanswer
      exact h
  | getMethod m =>
      rw [hanswer.1]
      exact h
  | putMethod m authorization =>
      simp only [Answered] at hanswer
      split at hanswer
      · rw [hanswer.2]
        exact h.congr rfl rfl
      · rw [hanswer.2]
        exact h
  | putMethodResponse m status parameters =>
      simp only [Answered] at hanswer
      split at hanswer
      · rw [hanswer.2]
        exact h
      · exact h.onMethod hanswer
  | updateMethod m ps => exact h.onMethod hanswer
  | updateMethodResponse m status ps => exact h.onMethod hanswer
  | putIntegration m i => exact h.onMethod hanswer
  | putIntegrationResponse m status templates parameters => exact h.onMethod hanswer
  | updateIntegrationResponse m status ps => exact h.onMethod hanswer
  | createAuthorizer api' spec =>
      obtain ⟨reply, item, id, -, -, hid, hnew, -, -, rfl⟩ := hanswer
      exact ⟨h.authorizers.append hid hnew, h.stages⟩
  | deleteAuthorizer api' id =>
      rw [hanswer.2]
      exact ⟨h.authorizers.filter _, h.stages⟩
  | createDeployment api' stage' =>
      obtain ⟨reply, id, -, -, -, rfl⟩ := hanswer
      obtain rfl : stage' = stage := hc.2 api' stage' rfl
      refine ⟨h.authorizers, ?_⟩
      show ((v.stages.set stage' id).map Prod.fst).Sublist [stage']
      rw [ArrivalMap.set_of_sublist_singleton h.stages]
      exact List.Sublist.refl _
  | deleteDeployment api' id =>
      simp only [Answered] at hanswer
      split at hanswer
      · rw [hanswer.2]
        exact h
      · rw [hanswer.2]
        exact h.congr rfl rfl
  | _ => exact absurd hc.1.2 (unasked_not_mem _ (List.contains_iff_mem.mp rfl))

end

/-! ## What a reconciliation leaves -/

section

variable {σ : Type} {b : Backend σ} {t : Target} {r : Reference} {d : Definition}
  {declared : String → Declaration} {view : σ → HostedApi} {s s' : σ}

/-- **Every request leaves the API ready**, done or not. -/
theorem Falters.preserves (hb : Falters b r.api declared view) {stage : String} {α : Type} {p : Program α}
    (hp : p.Asks (Reconciles stage r.api)) (hs : Ready stage (view s)) :
    Ready stage (view (p.run b s).state) := by
  have hcall : ∀ c s, Reconciles stage r.api (.call c) → Ready stage (view s) →
      Ready stage (view (b.answer c s).2) := by
    intro c s hc hs
    obtain ⟨a, s', ha, hanswer⟩ := hb.answers c s hc.1.1
    rw [ha]
    rcases hanswer with hanswer | ⟨-, hsame | ⟨a', hanswer⟩⟩
    · exact hs.answered hc hanswer
    · exact hs.congr (congrArg _ hsame) (congrArg _ hsame)
    · exact hs.answered hc hanswer
  have hlist : ∀ l s, Reconciles stage r.api (.list l) → Ready stage (view s) →
      Ready stage (view (b.list l s).2.2) := by
    intro l s hl hs
    obtain ⟨result, pages, s', hr, hlisted⟩ := hb.lists l s hl.1.1
    rw [hr]
    have hsame : view s' = view s := by
      rcases hlisted with hlisted | ⟨-, hsame⟩
      · cases l with
        | apis => cases hl.1.1
        | _ => exact hlisted.1
      · exact hsame
    exact hs.congr (congrArg _ hsame) (congrArg _ hsame)
  exact hp.preserves (I := fun s => Ready stage (view s)) hcall hlist hs

theorem complete_asks_deploysTo (i : Imported) (baseUrl : String) :
    (complete t i d baseUrl).Asks (DeploysTo t.stage) := by
  refine asks_bind (fetchResources_asks.mono fun q hq => deploysTo_of_ne (hq.ne (by decide))) fun rs => ?_
  refine asks_bind ((synchronizeImported_asks t i d).mono fun q hq => deploysTo_of_ne (hq.ne (by decide)))
    fun bindings => ?_
  refine asks_bind ((bindAll_asks rs baseUrl bindings).mono fun q hq => deploysTo_of_ne (hq.ne (by decide)))
    fun _ => ?_
  refine asks_bind ?_ fun _ => readReference_asks.mono fun q hq => deploysTo_of_ne (hq.ne (by decide))
  have hcreate : DeploysTo t.stage (.call (.createDeployment i.api t.stage)) := by
    rintro api other ⟨⟩
    rfl
  rw [deploy_eq]
  refine asks_bind (asks_relabel (asks_perform.mpr hcreate)) fun reply => ?_
  refine asks_bind asks_textMember fun deployment => asks_note.mpr ?_
  refine asks_bind ((pruneDeployments_asks deployment).mono fun q hq => deploysTo_of_ne (hq.ne (by decide)))
    fun left => asks_bind ?_ fun _ => asks_done
  unfold noteSuperseded
  split <;> trivial

theorem complete_asks_reconciles (i : Imported) (baseUrl : String) :
    (complete t i d baseUrl).Asks (Reconciles t.stage i.api) :=
  ((complete_asks t i d baseUrl).mono fun _ h => h.mono (List.subset_cons_self _ _)).and
    (complete_asks_deploysTo i baseUrl)

theorem overwriteDefinition_asks_reconciles {stage api : String} :
    (overwriteDefinition api d).Asks (Reconciles stage api) :=
  (overwriteDefinition_asks d).mono fun _ h =>
    ⟨h.mono (by decide), deploysTo_of_ne (h.ne (by decide))⟩

/-- A definition that was taken was taken by the API that was addressed. -/
theorem Falters.overwritten_api (hb : Falters b r.api declared view) {i : Imported}
    (h : ((overwriteDefinition r.api d).run b s).result = .ok i) : i.api = r.api := by
  -- the answer is one that the gateway gave, and it only gives replies that are about the API
  have ht := trace_run b (overwriteDefinition r.api d) s
  rw [h] at ht
  obtain ⟨reply, hxs, hapi⟩ := trace_overwriteDefinition ht
  have hcall : Exchange.call (.overwriteApi r.api d.document) (.ok reply) ∈
      (overwriteDefinition r.api d).exchanges b s := by
    rw [hxs]
    exact List.mem_singleton_self _
  obtain ⟨s₁, hreply⟩ := answer_of_mem_exchanges hcall
  obtain ⟨a, s₂, ha, hanswer⟩ := hb.answers (.overwriteApi r.api d.document) s₁ rfl
  rw [ha] at hreply
  obtain rfl : a = .ok reply := hreply
  have hid : reply.get? "id" = none ∨ reply.get? "id" = some (.text r.api) := by
    rcases hanswer with ⟨reply', he, hid, -⟩ | ⟨⟨fault, he⟩, -⟩
    · rwa [Except.ok.inj he]
    · cases he
  exact hapi hid

/-- **A reconciliation leaves the API ready**, whatever becomes of it. -/
theorem ready_attempted (hs : Ready t.stage (view s)) (h : Attempted declared view t r s s') :
    Ready t.stage (view s') := by
  obtain ⟨b, d, hb, rfl⟩ := h
  cases hurl : d.baseUrl with
  | error fault =>
      rw [reimportApi, requireBaseUrl_error hurl]
      exact hs
  | ok baseUrl =>
      have htaken : Ready t.stage (view ((overwriteDefinition r.api d).run b s).state) :=
        hb.preserves overwriteDefinition_asks_reconciles hs
      rw [reimportApi_eq t r hurl, bind_eq_onEnd, run_onEnd, state_after]
      cases hi : ((overwriteDefinition r.api d).run b s).result with
      | error e => exact htaken
      | ok i =>
          have hasks : (complete t i d baseUrl).Asks (Reconciles t.stage r.api) := by
            rw [← hb.overwritten_api hi]
            exact complete_asks_reconciles i baseUrl
          exact hb.preserves hasks htaken

theorem ready_attempts (hs : Ready t.stage (view s))
    (h : Relation.ReflTransGen (Attempted declared view t r) s s') : Ready t.stage (view s') := by
  induction h with
  | refl => exact hs
  | tail _ hlast ih => exact ready_attempted ih hlast

end

/-! ## Where a reconciliation ends -/

/-- The authorizer of an operation is one that is held for its key, and there is none for an operation
without a key. -/
def Guarded (authorizers : List Object) (scopes : ArrivalMap Scope AuthorizerKey) (path verb : String)
    (authorizer : Option String) : Prop :=
  Option.Rel (fun key id => ∃ item ∈ authorizers, AuthorizerKey.ofAuthorizer? item = some key ∧
    textId? item = some id) (operationKey? scopes path verb) authorizer

/-- What is held when a definition is live: its declaration, bound to the backend and guarded by its
authorizers, and one deployment. Of what was held before, the authorizers without keys are left. -/
structure Settled (stage baseUrl : String) (scopes : ArrivalMap Scope AuthorizerKey) (declaration : Declaration)
    (before v : HostedApi) : Prop where
  resources : v.resources = declaration.resources
  bound : ∃ authorizer, declaration.BoundIn baseUrl authorizer v.methods ∧
    ∀ path verb, Guarded v.authorizers scopes path verb (authorizer path verb)
  authorizers : ∀ key, (v.authorizers.filterMap AuthorizerKey.ofAuthorizer?).count key =
    if key ∈ scopes.values then 1 else 0
  unmanaged : v.authorizers.filter (fun item => !isManaged item) =
    before.authorizers.filter fun item => !isManaged item
  deployed : ∃ id, v.deployments = [id] ∧ v.stages = [(stage, id)]

section

variable {σ : Type} {b : Backend σ} {t : Target} {r : Reference} {d : Definition}
  {declared : String → Declaration} {view : σ → HostedApi} {s₀ s : σ}
  {scopes : ArrivalMap Scope AuthorizerKey} {baseUrl : String}

/-- What an operation is resolved to is left by the synchronization, and is of its key. -/
theorem Inventory.guarded {found new : List Object} {made : List Existing} {bindings : Bindings}
    (h : Inventory (requiredKeys scopes) found new made) (hscopes : bindings.scopes = scopes)
    (hids : ∀ key ∈ requiredKeys scopes,
      bindings.ids.get? key = ArrivalMap.get? key (firstOf found ++ made)) (path verb : String) :
    Guarded (Inventory.left (requiredKeys scopes) found new made) scopes path verb
      (bindings.resolve path verb) := by
  subst hscopes
  have hbound : ∀ key ∈ requiredKeys bindings.scopes, ∃ id, bindings.ids.get? key = some id := by
    intro key hkey
    obtain ⟨id, item, hid, -⟩ := h.bound_left hkey
    exact ⟨id, (hids key hkey).trans hid⟩
  rw [Guarded, resolve_eq hbound]
  cases hk : operationKey? bindings.scopes path verb with
  | none => exact .none
  | some key =>
      have hkey := mem_requiredKeys_of_operationKey? hk
      obtain ⟨id, item, hid, hitem, hkeyed⟩ := h.bound_left hkey
      rw [Option.bind_some, hids key hkey, hid]
      exact .some ⟨item, hitem, keyed?_eq_some_iff.mp hkeyed⟩

/-- **A reconciliation of a ready API succeeds**, and what it leaves is settled. -/
theorem Hosts.reimport_settles (hb : Hosts b r.api declared view) (hs : Ready t.stage (view s))
    (hurl : d.baseUrl = .ok baseUrl) (hscopes : d.requiredAuthorizers = .ok scopes)
    (hkeys : ∀ key ∈ requiredKeys scopes, Recognized t.region key)
    (hmappable : (declared d.document).Mappable) :
    ∃ metadata s', Completes b (reimportApi t r d) s ⟨r.api, metadata⟩ s' ∧
      Settled t.stage baseUrl scopes (declared d.document) (view s) (view s') := by
  -- each stage starts from the state that the one before it left
  obtain ⟨warnings, s₁, hrun₁, hv₁⟩ := hb.completes_overwriteDefinition (s := s) d
  obtain ⟨rs, s₂, hrun₂, hv₂, hperm, hread⟩ := hb.completes_fetchResources (s := s₁)
  rw [hv₁] at hperm hread hv₂
  have hs₂ : DistinctIds (view s₂).authorizers := by
    rw [hv₂]
    exact hs.authorizers
  obtain ⟨bindings, new, made, s₃, hrun₃, hinventory, hv₃, hsame, hids⟩ :=
    hb.completes_synchronizeImported warnings hs₂ hscopes hkeys
  rw [hv₂] at hinventory hv₃ hids
  have hdeclared₃ : (view s₃).methods = (declared d.document).methods := by rw [hv₃]
  have hread₃ : ∀ r ∈ rs, r.ReadFrom (view s₃) :=
    fun r' hr => (hread r' hr).of_eq fun verb => by rw [hv₃]
  obtain ⟨n, s₄, hrun₄, hv₄, hbound⟩ :=
    hb.completes_bindDeclaration baseUrl bindings hdeclared₃ hperm hread₃ hmappable
  rw [hv₃] at hv₄
  have hs₄ : ((view s₄).stages.map Prod.fst).Sublist [t.stage] := by
    rw [hv₄]
    exact hs.stages
  obtain ⟨id, s₅, hrun₅, hv₅⟩ := hb.completes_deploy hs₄
  obtain ⟨metadata, s₆, hrun₆, hv₆⟩ := hb.completes_readReference (s := s₅)
  rw [hv₅] at hv₆
  refine ⟨metadata, s₆, ?_, ?_⟩
  · rw [reimportApi_eq t r hurl]
    exact hrun₁.bind (hrun₂.bind (hrun₃.bind (hrun₄.bind (hrun₅.bind hrun₆))))
  have hauthorizers : (view s₆).authorizers =
      Inventory.left (requiredKeys scopes) (view s).authorizers new made := by
    rw [hv₆, hv₄]
  constructor
  · rw [hv₆, hv₄]
  · refine ⟨bindings.resolve, ?_, ?_⟩
    · rw [hv₆]
      exact hbound
    · rw [hauthorizers]
      exact hinventory.guarded hsame hids
  · intro key
    rw [hauthorizers, hinventory.count_left]
    simp only [requiredKeys, List.mem_eraseDups]
  · rw [hauthorizers]
    exact hinventory.unmanaged_left
  · exact ⟨id, by rw [hv₆], by rw [hv₆]⟩

/-- **Reconciling again recovers from any failure.** From any ready API, let there be any number of attempts,
possibly none, during which any request may have failed. Whatever they left, a reconciliation that the
gateway does not fail succeeds, and what it leaves is settled. -/
theorem reimport_recovers {url : String} (hb : Hosts b r.api declared view) (hready : Ready t.stage (view s₀))
    (hattempts : Relation.ReflTransGen (Attempted declared view t r) s₀ s) (hurl : d.productionEndpoint = some url)
    (hscopes : d.requiredAuthorizers = .ok scopes) (hregion : t.region ≠ "") (hcolon : ':' ∉ t.region.toList)
    (hslash : ∀ key ∈ scopes.values, '/' ∉ key.target.toList)
    (hmappable : (declared d.document).Mappable) :
    ∃ metadata s', Completes b (reimportApi t r d) s ⟨r.api, metadata⟩ s' ∧
      Settled t.stage (dropTrailingSlash url) scopes (declared d.document) (view s) (view s') :=
  hb.reimport_settles (ready_attempts hready hattempts) (baseUrl_of_productionEndpoint hurl) hscopes
    (recognized hregion hcolon hscopes hslash) hmappable

end

/-- A method that declares a request parameter and a response. -/
def listPets : HostedMethod where
  parameters := [(.text "method.request.querystring.limit", .scalar (.bool false))]
  authorization := "NONE"
  authorizer := none
  integration := none
  responses := [(statusOk, [])]
  answers := []

/-- What the document of the guarded pets declares. -/
def petsDeclaration : Declaration where
  resources := [("r", "/pets")]
  methods := [(("r", "GET"), listPets)]
  distinct := List.nodup_singleton _

/-- The gateway in memory at a time when it sets up no responses. -/
def falteringGateway (declared : String → Declaration) : Backend HostedApi where
  answer c v :=
    match c with
    | .putIntegrationResponse .. => (Memory.refusal "TooManyRequestsException", v)
    | c => Memory.answer declared c v
  list := (memoryGateway declared).list

theorem falteringGateway_falters (declared : String → Declaration) (api : String) :
    Falters (falteringGateway declared) api declared id := by
  constructor
  · intro c v _
    cases c with
    | putIntegrationResponse m status templates parameters =>
        exact ⟨_, _, rfl, .inr ⟨⟨_, rfl⟩, .inl rfl⟩⟩
    | _ => exact ⟨_, _, rfl, .inl (Memory.answered declared _ v)⟩
  · intro l v _
    exact ⟨_, _, _, rfl, .inl (Memory.listed l v)⟩

theorem pets_recover :
    ∃ v e metadata v', (reimportApi ⟨"eu", "live"⟩ ⟨"a", []⟩ guardedPets).run
        (falteringGateway fun _ => petsDeclaration) crowdedApi = v ∧ v.result = .error e ∧
      Completes (memoryGateway fun _ => petsDeclaration) (reimportApi ⟨"eu", "live"⟩ ⟨"a", []⟩ guardedPets) v.state
        ⟨"a", metadata⟩ v' ∧
      Settled "live" "https://backend" [(.api, ⟨"check", "caller"⟩)] petsDeclaration v.state v' := by
  have hready : Ready "live" crowdedApi := ⟨distinctIds_crowdedApi, List.nil_sublist _⟩
  have hscopes : guardedPets.requiredAuthorizers = .ok [(.api, ⟨"check", "caller"⟩)] := rfl
  have hmappable : petsDeclaration.Mappable := by
    intro r hr verb m hm
    obtain rfl : r = ("r", "/pets") := List.mem_singleton.mp hr
    obtain rfl : m = listPets := (Prod.mk.inj (List.mem_singleton.mp (ArrivalMap.mem_of_get? hm))).2
    exact ⟨[("integration.request.querystring.limit", "method.request.querystring.limit")], rfl⟩
  have hattempted : Attempted (fun _ => petsDeclaration) id ⟨"eu", "live"⟩ ⟨"a", []⟩ crowdedApi _ :=
    ⟨_, guardedPets, falteringGateway_falters (fun _ => petsDeclaration) "a", rfl⟩
  have hurl : guardedPets.productionEndpoint = some "https://backend/" := rfl
  obtain ⟨metadata, v', hrun, hsettled⟩ :=
    reimport_recovers (memoryGateway_hosts (fun _ => petsDeclaration) "a") hready (.single hattempted) hurl
      hscopes (by decide) (by decide) (by decide) hmappable
  exact ⟨_, _, metadata, v', rfl, rfl, hrun, hsettled⟩

end ApiReconciler
