import ApiReconciler.Proofs.Binding.Bound
import ApiReconciler.Proofs.Gateway.Hosting

/-!
# `ApiReconciler.Proofs.Binding.Hosted` — what binding leaves on a gateway

On a gateway that hosts the API, binding succeeds, and what it leaves does not depend on what responses and
integrations were there. Binding is a list of goals: a method that is to be bound, or a preflight method
that is to be made. Each is met by a few calls about one method, which no other call touches, so the goals
of a resource and then of all resources are met one after the other (`Meets.append`).

## Contents
- `Goal`, `Meets`: what is to become of methods, and that nothing else changes.
- `Backed`, `AnswersPreflight`: what becomes of a method that is bound, and of a preflight method.
- `Resource.ReadFrom`, `completes_bindAll`: the run, from resources as they were read.
- `Declaration.BoundIn`, `completes_bindDeclaration`: what it comes to for a declaration.
-/

namespace ApiReconciler

open Program

/-! ## Goals -/

/-- What is to become of the method with a key, in terms of what was there before. -/
abbrev Goal : Type := (String × String) × (Option HostedMethod → HostedMethod → Prop)

/-- Each of the goals is met, and no other method and nothing else is changed. -/
structure Meets (goals : List Goal) (v v' : HostedApi) : Prop where
  rest : v' = { v with methods := v'.methods }
  met : ∀ g ∈ goals, ∃ new, v'.methods.get? g.1 = some new ∧ g.2 (v.methods.get? g.1) new
  others : ∀ key, key ∉ goals.map Prod.fst → v'.methods.get? key = v.methods.get? key

theorem Meets.nil (v : HostedApi) : Meets [] v v :=
  ⟨rfl, List.forall_mem_nil _, fun _ _ => rfl⟩

theorem Meets.single {g : Goal} {m : MethodRef} {v : HostedApi} {new : HostedMethod}
    (hm : g.1 = (m.resource, m.verb)) (h : g.2 (v.method? m) new) : Meets [g] v (v.setMethod m new) := by
  refine ⟨rfl, ?_, ?_⟩
  · intro g' hg
    rw [List.mem_singleton.mp hg, hm]
    exact ⟨new, HostedApi.method?_setMethod v m new, h⟩
  · intro key hkey
    have hne : key ≠ (m.resource, m.verb) := fun he => hkey (List.mem_singleton.mpr (he.trans hm.symm))
    exact ArrivalMap.get?_set_of_ne new v.methods hne

/-- Goals about different methods are met one after the other. -/
theorem Meets.append {first second : List Goal} {v v₁ v₂ : HostedApi} (h₁ : Meets first v v₁)
    (h₂ : Meets second v₁ v₂) (hd : (first.map Prod.fst).Disjoint (second.map Prod.fst)) :
    Meets (first ++ second) v v₂ := by
  refine ⟨?_, ?_, ?_⟩
  · rw [h₂.rest, h₁.rest]
  · intro g hg
    rcases List.mem_append.mp hg with hg | hg
    · obtain ⟨new, hnew, hmet⟩ := h₁.met g hg
      exact ⟨new, (h₂.others g.1 (hd (List.mem_map_of_mem hg))).trans hnew, hmet⟩
    · obtain ⟨new, hnew, hmet⟩ := h₂.met g hg
      rw [h₁.others g.1 fun hf => hd hf (List.mem_map_of_mem hg)] at hmet
      exact ⟨new, hnew, hmet⟩
  · intro key hkey
    rw [List.map_append, List.mem_append, not_or] at hkey
    rw [h₂.others key hkey.2, h₁.others key hkey.1]

/-! ## Calls about a method -/

section

variable {σ : Type} {b : Backend σ} {m : MethodRef} {declared : String → Declaration} {view : σ → HostedApi}
  {s : σ} {old : HostedMethod}

/-- A call that changes a method that is there succeeds. -/
theorem Hosts.completes_change (hb : Hosts b m.api declared view) (c : Call)
    {change : HostedMethod → HostedMethod → Prop} (hc : c.api? = some m.api)
    (hanswered : ∀ v a v', Answered declared c v a v' → OnMethod m change v a v')
    (hold : (view s).method? m = some old) :
    ∃ reply s' new, Completes b (perform c) s reply s' ∧ change old new ∧
      view s' = (view s).setMethod m new ∧ (view s').method? m = some new := by
  obtain ⟨a, s', ha, hanswer⟩ := hb.answers c s hc
  have hmethod := hanswered _ _ _ hanswer
  simp only [OnMethod, hold] at hmethod
  obtain ⟨⟨reply, rfl⟩, new, hchange, hv⟩ := hmethod
  exact ⟨reply, s', new, completes_perform ha, hchange, hv, by rw [hv, HostedApi.method?_setMethod]⟩

theorem CallFailure.kind_of_conflict (operation : String) {e : ServiceError} {code : String}
    (he : e.code = some code) (hcode : code ∈ conflictCodes) :
    (⟨operation, .refused e⟩ : CallFailure).kind = .conflict := by
  obtain rfl : code = "ConflictException" := List.mem_singleton.mp hcode
  have hc : (⟨operation, .refused e⟩ : CallFailure).code = "ConflictException" := by
    show e.code.getD "" = "ConflictException"
    rw [he, Option.getD_some]
  simp only [kind, hc]
  decide

theorem decide_truthText (value : Bool) : decide (truthText value = "true") = value := by
  cases value <;> decide

/-- A response is declared whether or not it was there. -/
theorem Hosts.completes_declareResponse (hb : Hosts b m.api declared view) (parameters : List (String × Bool))
    (hdistinct : (parameters.map Prod.fst).Nodup) (hold : (view s).method? m = some old) :
    ∃ s' ps, Completes b (declareResponse m parameters) s () s' ∧
      (∀ p ∈ parameters, ArrivalMap.get? p.1 ps = some p.2) ∧
      view s' = (view s).setMethod m { old with responses := old.responses.set statusOk ps } ∧
      (view s').method? m = some { old with responses := old.responses.set statusOk ps } := by
  obtain ⟨a, s₁, ha, hanswer⟩ := hb.answers (.putMethodResponse m statusOk parameters) s rfl
  cases hr : old.responses.get? statusOk with
  | none =>
      simp only [Answered, hold, Option.bind_some, hr, OnMethod] at hanswer
      obtain ⟨⟨reply, rfl⟩, new, rfl, hv⟩ := hanswer
      refine ⟨s₁, parameters, ((completes_perform ha).bind (completes_done ())).rescue, ?_, hv, ?_⟩
      · intro p hp
        exact (ArrivalMap.get?_eq_some_iff hdistinct).mpr hp
      · rw [hv, HostedApi.method?_setMethod]
  | some ps =>
      -- the response is there: the refusal says so, and the parameters are patched in
      simp only [Answered, hold, Option.bind_some, hr] at hanswer
      obtain ⟨⟨e, code, rfl, he, hcode⟩, hsame⟩ := hanswer
      rw [← hsame] at hold
      obtain ⟨reply, s₂, new, ⟨ys, hupdate⟩, rfl, hv, -⟩ := hb.completes_change (.updateMethodResponse m statusOk
        (parameters.map fun p => addResponseParameter p.1 (truthText p.2))) rfl (fun _ _ _ h => h) hold
      have hput : Runs b ((perform (.putMethodResponse m statusOk parameters)).bind fun _ => .done ()) s _
          (.error (.call ⟨"put_method_response", .refused e⟩)) s₁ := (runs_perform_error ha).bind_error
      have hhandler : Runs b (if (⟨"put_method_response", .refused e⟩ : CallFailure).kind = .conflict then
          (perform (.updateMethodResponse m statusOk
            (parameters.map fun p => addResponseParameter p.1 (truthText p.2)))).bind fun _ => .done ()
          else .fail (.call ⟨"put_method_response", .refused e⟩)) s₁ (ys ++ []) (.ok ()) s₂ := by
        rw [if_pos (CallFailure.kind_of_conflict "put_method_response" he hcode)]
        exact hupdate.bind (runs_done ())
      rw [hr, hsame, HostedMethod.foldl_patchParameter_add decide_truthText] at hv
      refine ⟨s₂, _, ⟨_, hput.rescue_error hhandler⟩, ?_, hv, ?_⟩
      · intro p hp
        exact ArrivalMap.get?_foldl_set hdistinct hp
      · rw [hv, HostedApi.method?_setMethod]

/-! ## A method -/

/-- What a method's authorization becomes when it gets an authorizer, or none. -/
def Authorized (authorizer : Option String) (old new : HostedMethod) : Prop :=
  match authorizer with
  | some id => new.authorization = "CUSTOM" ∧ new.authorizer = some id
  | none => new.authorization = old.authorization ∧ new.authorizer = old.authorizer

theorem Hosts.completes_attachAuthorizer (hb : Hosts b m.api declared view) (path : String)
    (bindings : Bindings) (hold : (view s).method? m = some old) :
    ∃ s' authorization authorizer, Completes b (attachAuthorizer m path bindings) s () s' ∧
      Authorized (bindings.resolve path m.verb) old
        { old with authorization := authorization, authorizer := authorizer } ∧
      (view s').method? m = some { old with authorization := authorization, authorizer := authorizer } ∧
      ∀ new, (view s').setMethod m new = (view s).setMethod m new := by
  unfold attachAuthorizer
  cases bindings.resolve path m.verb with
  | none =>
      exact ⟨s, old.authorization, old.authorizer, (completes_done ()).note, ⟨rfl, rfl⟩, hold, fun _ => rfl⟩
  | some id =>
      obtain ⟨reply, s', new, hrun, hnew, hv, hnow⟩ :=
        hb.completes_change (.updateMethod m (authorizationPatches id)) rfl (fun _ _ _ h => h) hold
      rw [HostedMethod.foldl_authorizationPatches] at hnew
      refine ⟨s', "CUSTOM", some id, hrun.bind (completes_done ()), ⟨rfl, rfl⟩, hnew ▸ hnow, fun new' => ?_⟩
      rw [hv, HostedApi.setMethod_setMethod]

/-- A method that is bound to a backend: from what it was to what it is. -/
structure Backed (baseUrl path verb : String) (authorizer : Option String) (old new : HostedMethod) :
    Prop where
  parameters : new.parameters = old.parameters
  integration : ∃ mappings, (⟨verb, old.parameters⟩ : Method).mappings = .ok mappings ∧
    new.integration = some (backendIntegration baseUrl path verb mappings)
  answer : ∃ ps, new.answers.get? statusOk = some ps ∧ ArrivalMap.get? allowOrigin ps = some (literal "*")
  response : ∃ ps, new.responses.get? statusOk = some ps ∧ ArrivalMap.get? allowOrigin ps = some false
  authorized : Authorized authorizer old new

/-- The goal of binding a method. -/
def backedGoal (baseUrl : String) (bindings : Bindings) (r : Resource) (verb : String) : Goal :=
  ((r.id, verb), fun old? new =>
    ∃ old, old? = some old ∧ Backed baseUrl r.path verb (bindings.resolve r.path verb) old new)

theorem meets_backedGoal {api baseUrl verb : String} {bindings : Bindings} {r : Resource} {v : HostedApi}
    {new : HostedMethod} (hold : v.methods.get? (r.id, verb) = some old)
    (h : Backed baseUrl r.path verb (bindings.resolve r.path verb) old new) :
    Meets [backedGoal baseUrl bindings r verb] v (v.setMethod ⟨api, r.id, verb⟩ new) :=
  Meets.single rfl ⟨old, hold, h⟩

/-- **A method that is there is bound**, whatever it was bound to. -/
theorem Hosts.completes_bindMethod {api : String} (hb : Hosts b api declared view) {r : Resource}
    {method : Method} {mappings : TextMap} (baseUrl : String) (bindings : Bindings)
    (hold : (view s).methods.get? (r.id, method.verb) = some old)
    (hparameters : method.parameters = old.parameters) (hmappings : method.mappings = .ok mappings) :
    ∃ s', Completes b (bindMethod api r method baseUrl bindings) s () s' ∧
      Meets [backedGoal baseUrl bindings r method.verb] (view s) (view s') := by
  let m : MethodRef := ⟨api, r.id, method.verb⟩
  obtain ⟨reply₁, s₁, new₁, hrun₁, hnew₁, hv₁, hold₁⟩ := hb.completes_change
    (.putIntegration m (backendIntegration baseUrl r.path method.verb mappings)) rfl (fun _ _ _ h => h) hold
  -- whether the answers of an older integration are kept is up to the gateway
  obtain ⟨answers, rfl⟩ : ∃ answers, new₁ = { old with
      integration := some (backendIntegration baseUrl r.path method.verb mappings), answers := answers } := by
    rcases hnew₁ with rfl | rfl
    · exact ⟨old.answers, rfl⟩
    · exact ⟨[], rfl⟩
  obtain ⟨reply₂, s₂, new₂, hrun₂, rfl, hv₂, hold₂⟩ := hb.completes_change
    (.putIntegrationResponse m statusOk (some [(jsonType, "")]) none) rfl (fun _ _ _ h => h) hold₁
  obtain ⟨s₃, authorization, authorizer, hrun₃, hauthorized, hold₃, hset₃⟩ :=
    hb.completes_attachAuthorizer r.path bindings hold₂
  obtain ⟨s₄, ps, hrun₄, hps, hv₄, hold₄⟩ :=
    hb.completes_declareResponse [(allowOrigin, false)] (List.nodup_singleton _) hold₃
  obtain ⟨reply₅, s₅, new₅, hrun₅, rfl, hv₅, -⟩ := hb.completes_change
    (.updateIntegrationResponse m statusOk [addResponseParameter allowOrigin (literal "*")]) rfl
    (fun _ _ _ h => h) hold₄
  refine ⟨s₅, ?_, ?_⟩
  · unfold bindMethod
    rw [hmappings]
    exact (completes_done mappings).bind
      (hrun₁.bind (hrun₂.bind (hrun₃.bind (hrun₄.bind (hrun₅.bind (completes_done ()))))))
  · rw [hv₅, hv₄, HostedApi.setMethod_setMethod, hset₃, hv₂, HostedApi.setMethod_setMethod, hv₁,
      HostedApi.setMethod_setMethod]
    refine meets_backedGoal hold ?_
    constructor
    · rfl
    · exact ⟨mappings, by rw [← hparameters]; exact hmappings, rfl⟩
    · refine ⟨_, ArrivalMap.get?_set_self _ _ _, ?_⟩
      rw [List.foldl_cons, List.foldl_nil, HostedMethod.patchParameter_add]
      exact ArrivalMap.get?_set_self _ _ _
    · exact ⟨ps, ArrivalMap.get?_set_self _ _ _, hps (allowOrigin, false) List.mem_cons_self⟩
    · unfold Authorized at hauthorized ⊢
      exact hauthorized

/-! ## A preflight method -/

/-- A method that answers the preflight requests for some verbs. -/
structure AnswersPreflight (verbs : List String) (m : HostedMethod) : Prop where
  authorization : m.authorization = "NONE" ∧ m.authorizer = none
  integration : m.integration = some preflightIntegration
  answer : m.answers.get? statusOk = some [(allowHeaders, literal admittedHeaders),
    (allowMethods, literal (",".intercalate (admittedVerbs verbs))), (allowOrigin, literal "*")]
  response : ∃ ps, m.responses.get? statusOk = some ps ∧
    ∀ name ∈ [allowHeaders, allowMethods, allowOrigin], ArrivalMap.get? name ps = some false

/-- The goals about the preflight method of a resource: there is one unless the resource declares it. -/
def preflightGoals (r : Resource) : List Goal :=
  if preflightVerb ∈ r.methods.map Method.verb then []
  else [((r.id, preflightVerb), fun old? new => old? = none ∧ AnswersPreflight (r.methods.map Method.verb) new)]

/-- **A preflight method is made** where none is declared. -/
theorem Hosts.completes_configurePreflight {api : String} (hb : Hosts b api declared view) {r : Resource}
    (hnone : preflightVerb ∉ r.methods.map Method.verb →
      (view s).methods.get? (r.id, preflightVerb) = none) :
    ∃ s', Completes b (configurePreflight api r) s () s' ∧ Meets (preflightGoals r) (view s) (view s') := by
  simp only [configurePreflight, preflightGoals]
  by_cases hdeclared : preflightVerb ∈ r.methods.map Method.verb
  · rw [if_pos hdeclared, if_pos hdeclared]
    exact ⟨s, completes_done (), Meets.nil _⟩
  · rw [if_neg hdeclared, if_neg hdeclared]
    let m : MethodRef := ⟨api, r.id, preflightVerb⟩
    have hnew : (view s).method? m = none := hnone hdeclared
    obtain ⟨a, s₁, ha, hanswer⟩ := hb.answers (.putMethod m "NONE") s rfl
    simp only [Answered, hnew] at hanswer
    obtain ⟨⟨reply, rfl⟩, hv₁⟩ := hanswer
    have hold₁ : (view s₁).method? m = some (.new "NONE") := by
      rw [hv₁, HostedApi.method?_setMethod]
    obtain ⟨reply₂, s₂, new₂, hrun₂, hnew₂, hv₂, hold₂⟩ :=
      hb.completes_change (.putIntegration m preflightIntegration) rfl (fun _ _ _ h => h) hold₁
    -- a new method has no answers that the integration could keep
    obtain rfl : new₂ = { HostedMethod.new "NONE" with integration := some preflightIntegration } := by
      rcases hnew₂ with rfl | rfl <;> rfl
    obtain ⟨s₃, ps, hrun₃, hps, hv₃, hold₃⟩ := hb.completes_declareResponse
      [(allowHeaders, false), (allowMethods, false), (allowOrigin, false)] (by decide) hold₂
    obtain ⟨reply₄, s₄, new₄, hrun₄, rfl, hv₄, -⟩ := hb.completes_change
      (.putIntegrationResponse m statusOk (some [(jsonType, "")])
        (some [(allowHeaders, literal admittedHeaders),
          (allowMethods, literal (",".intercalate (admittedVerbs (r.methods.map Method.verb)))),
          (allowOrigin, literal "*")])) rfl (fun _ _ _ h => h) hold₃
    refine ⟨s₄, ?_, ?_⟩
    · exact (completes_perform ha).bind (hrun₂.bind (hrun₃.bind (hrun₄.bind (completes_done ()))))
    · rw [hv₄, hv₃, HostedApi.setMethod_setMethod, hv₂, HostedApi.setMethod_setMethod, hv₁,
        HostedApi.setMethod_setMethod]
      refine Meets.single rfl ⟨hnew, ?_⟩
      refine ⟨⟨rfl, rfl⟩, rfl, rfl, ps, ArrivalMap.get?_set_self _ _ _, ?_⟩
      intro name hname
      exact hps (name, false) (List.mem_map_of_mem (f := fun n => (n, false)) hname)

/-! ## Resources -/

/-- A resource as it is read from what the gateway holds. -/
structure Resource.ReadFrom (v : HostedApi) (r : Resource) : Prop where
  distinct : (r.methods.map Method.verb).Nodup
  found : ∀ method ∈ r.methods, ∃ old, v.methods.get? (r.id, method.verb) = some old ∧
    method.parameters = old.parameters
  complete : ∀ verb, (v.methods.get? (r.id, verb)).isSome → verb ∈ r.methods.map Method.verb

/-- The goals of binding a resource. -/
def resourceGoals (baseUrl : String) (bindings : Bindings) (r : Resource) : List Goal :=
  preflightGoals r ++ r.methods.map fun method => backedGoal baseUrl bindings r method.verb

theorem Hosts.completes_bindMethods {api : String} (hb : Hosts b api declared view) {r : Resource}
    {methods : List Method} (baseUrl : String) (bindings : Bindings)
    (hdistinct : (methods.map Method.verb).Nodup)
    (hfound : ∀ method ∈ methods, ∃ old, (view s).methods.get? (r.id, method.verb) = some old ∧
      method.parameters = old.parameters)
    (hmappable : ∀ method ∈ methods, ∃ mappings, method.mappings = .ok mappings) :
    ∃ s', Completes b (bindMethods api r baseUrl bindings methods) s () s' ∧
      Meets (methods.map fun method => backedGoal baseUrl bindings r method.verb) (view s) (view s') := by
  induction methods generalizing s with
  | nil => exact ⟨s, completes_done (), Meets.nil _⟩
  | cons method methods ih =>
      obtain ⟨hnew, hdistinct⟩ := List.nodup_cons.mp hdistinct
      obtain ⟨⟨old, hold, hparameters⟩, hfound⟩ := List.forall_mem_cons.mp hfound
      obtain ⟨⟨mappings, hmappings⟩, hmappable⟩ := List.forall_mem_cons.mp hmappable
      obtain ⟨s₁, hrun₁, hmeets₁⟩ := hb.completes_bindMethod baseUrl bindings hold hparameters hmappings
      -- the methods that follow are not touched by binding this one
      have hother : ∀ other ∈ methods, (r.id, other.verb) ∉ [(r.id, method.verb)] := by
        intro other hm he
        have hverb : other.verb = method.verb := (Prod.mk.inj (List.mem_singleton.mp he)).2
        exact hnew (hverb ▸ List.mem_map_of_mem hm)
      obtain ⟨s₂, hrun₂, hmeets₂⟩ := ih hdistinct
        (fun other hm => by rw [hmeets₁.others _ (hother other hm)]; exact hfound other hm) hmappable
      refine ⟨s₂, hrun₁.bind hrun₂, hmeets₁.append hmeets₂ ?_⟩
      intro key hkey hlater
      rw [List.map_map] at hlater
      obtain ⟨other, hm, rfl⟩ := List.mem_map.mp hlater
      exact hother other hm hkey

theorem preflightGoals_keys (r : Resource) :
    ∀ g ∈ preflightGoals r, g.1 = (r.id, preflightVerb) ∧ preflightVerb ∉ r.methods.map Method.verb := by
  unfold preflightGoals
  split
  · exact List.forall_mem_nil _
  · next h =>
      intro g hg
      rw [List.mem_singleton.mp hg]
      exact ⟨rfl, h⟩

/-- The goals of a resource are about methods of the resource. -/
theorem resourceGoals_keys (baseUrl : String) (bindings : Bindings) (r : Resource) :
    ∀ g ∈ resourceGoals baseUrl bindings r, g.1.1 = r.id := by
  intro g hg
  rcases List.mem_append.mp hg with hg | hg
  · rw [(preflightGoals_keys r g hg).1]
  · obtain ⟨method, -, rfl⟩ := List.mem_map.mp hg
    rfl

/-- **A resource is bound**: its methods, and its preflight method. -/
theorem Hosts.completes_bindResource {api : String} (hb : Hosts b api declared view) {r : Resource}
    (baseUrl : String) (bindings : Bindings) (hr : r.ReadFrom (view s))
    (hmappable : ∀ method ∈ r.methods, ∃ mappings, method.mappings = .ok mappings) :
    ∃ s', Completes b (bindResource api baseUrl bindings r) s () s' ∧
      Meets (resourceGoals baseUrl bindings r) (view s) (view s') := by
  have hnone : preflightVerb ∉ r.methods.map Method.verb →
      (view s).methods.get? (r.id, preflightVerb) = none := by
    intro hdeclared
    by_contra hsome
    exact hdeclared (hr.complete preflightVerb (Option.isSome_iff_ne_none.mpr hsome))
  obtain ⟨s₁, hrun₁, hmeets₁⟩ := hb.completes_configurePreflight hnone
  -- a preflight method is only made where none is declared, so it is none of the methods to be bound
  have hother : ∀ method ∈ r.methods, (r.id, method.verb) ∉ (preflightGoals r).map Prod.fst := by
    intro method hm hkey
    obtain ⟨g, hg, he⟩ := List.mem_map.mp hkey
    obtain ⟨hpreflight, hdeclared⟩ := preflightGoals_keys r g hg
    have hverb : preflightVerb = method.verb := (Prod.mk.inj (hpreflight.symm.trans he)).2
    exact hdeclared (hverb ▸ List.mem_map_of_mem hm)
  obtain ⟨s₂, hrun₂, hmeets₂⟩ := hb.completes_bindMethods baseUrl bindings hr.distinct
    (fun method hm => by rw [hmeets₁.others _ (hother method hm)]; exact hr.found method hm) hmappable
  refine ⟨s₂, (hrun₁.bind hrun₂).relabel, hmeets₁.append hmeets₂ ?_⟩
  intro key hkey hlater
  rw [List.map_map] at hlater
  obtain ⟨method, hm, rfl⟩ := List.mem_map.mp hlater
  exact hother method hm hkey

/-- A resource that is not touched can still be read. -/
theorem Resource.ReadFrom.of_eq {v v' : HostedApi} {r : Resource} (h : r.ReadFrom v)
    (hsame : ∀ verb, v'.methods.get? (r.id, verb) = v.methods.get? (r.id, verb)) : r.ReadFrom v' := by
  refine ⟨h.distinct, ?_, ?_⟩
  · intro method hm
    rw [hsame]
    exact h.found method hm
  · intro verb hverb
    rw [hsame] at hverb
    exact h.complete verb hverb

theorem Hosts.completes_bindEach {api : String} (hb : Hosts b api declared view) {rs : List Resource}
    (baseUrl : String) (bindings : Bindings) (hdistinct : (rs.map Resource.id).Nodup)
    (hread : ∀ r ∈ rs, r.ReadFrom (view s))
    (hmappable : ∀ r ∈ rs, ∀ method ∈ r.methods, ∃ mappings, method.mappings = .ok mappings) :
    ∃ s', Completes b (bindEach api baseUrl bindings rs) s () s' ∧
      Meets (rs.flatMap (resourceGoals baseUrl bindings)) (view s) (view s') := by
  induction rs generalizing s with
  | nil => exact ⟨s, completes_done (), Meets.nil _⟩
  | cons r rs ih =>
      obtain ⟨hnew, hdistinct⟩ := List.nodup_cons.mp hdistinct
      obtain ⟨hr, hread⟩ := List.forall_mem_cons.mp hread
      obtain ⟨hmr, hmappable⟩ := List.forall_mem_cons.mp hmappable
      obtain ⟨s₁, hrun₁, hmeets₁⟩ := hb.completes_bindResource baseUrl bindings hr hmr
      -- goals of this resource are about no method of another one
      have hother : ∀ other ∈ rs, ∀ verb,
          (other.id, verb) ∉ (resourceGoals baseUrl bindings r).map Prod.fst := by
        intro other ho verb hkey
        obtain ⟨g, hg, he⟩ := List.mem_map.mp hkey
        have hid : other.id = r.id := by
          rw [← resourceGoals_keys baseUrl bindings r g hg, he]
        exact hnew (hid ▸ List.mem_map_of_mem ho)
      obtain ⟨s₂, hrun₂, hmeets₂⟩ := ih hdistinct
        (fun other ho => (hread other ho).of_eq fun verb => hmeets₁.others _ (hother other ho verb)) hmappable
      refine ⟨s₂, hrun₁.bind hrun₂, ?_⟩
      rw [List.flatMap_cons]
      refine hmeets₁.append hmeets₂ ?_
      intro key hkey hlater
      obtain ⟨g, hg, rfl⟩ := List.mem_map.mp hlater
      obtain ⟨other, ho, hg⟩ := List.mem_flatMap.mp hg
      refine hother other ho g.1.2 ?_
      rw [← resourceGoals_keys baseUrl bindings other g hg]
      exact hkey

/-- **All resources are bound.** -/
theorem Hosts.completes_bindAll {api : String} (hb : Hosts b api declared view) {rs : List Resource}
    (baseUrl : String) (bindings : Bindings) (hdistinct : (rs.map Resource.id).Nodup)
    (hread : ∀ r ∈ rs, r.ReadFrom (view s))
    (hmappable : ∀ r ∈ rs, ∀ method ∈ r.methods, ∃ mappings, method.mappings = .ok mappings) :
    ∃ n s', Completes b (bindAll api rs baseUrl bindings) s n s' ∧
      Meets ((withMethods rs).flatMap (resourceGoals baseUrl bindings)) (view s) (view s') := by
  have hsub : (withMethods rs).Sublist rs := List.filter_sublist
  obtain ⟨s', hrun, hmeets⟩ :=
    hb.completes_bindEach baseUrl bindings (hdistinct.sublist (hsub.map Resource.id))
      (fun r hr => hread r (hsub.subset hr)) (fun r hr => hmappable r (hsub.subset hr))
  exact ⟨methodCount rs, s', hrun.bind (completes_done _).note, hmeets⟩

end

/-! ## What the goals come to -/

section

variable {rs : List Resource} {r : Resource} {baseUrl : String} {bindings : Bindings} {v v' : HostedApi}

theorem Resource.ReadFrom.mem_verbs (h : r.ReadFrom v) {verb : String} :
    verb ∈ r.methods.map Method.verb ↔ (v.methods.get? (r.id, verb)).isSome := by
  constructor
  · intro hverb
    obtain ⟨method, hm, rfl⟩ := List.mem_map.mp hverb
    obtain ⟨old, hold, -⟩ := h.found method hm
    rw [hold]
    rfl
  · exact h.complete verb

/-- A method that was there is bound. -/
theorem Meets.backed (h : Meets ((withMethods rs).flatMap (resourceGoals baseUrl bindings)) v v') (hr : r ∈ rs)
    (hread : r.ReadFrom v) {verb : String} {old : HostedMethod} (hold : v.methods.get? (r.id, verb) = some old) :
    ∃ new, v'.methods.get? (r.id, verb) = some new ∧
      Backed baseUrl r.path verb (bindings.resolve r.path verb) old new := by
  have hverb : verb ∈ r.methods.map Method.verb := hread.mem_verbs.mpr (by rw [hold]; rfl)
  obtain ⟨method, hm, he⟩ := List.mem_map.mp hverb
  have hgoal : backedGoal baseUrl bindings r verb ∈
      (withMethods rs).flatMap (resourceGoals baseUrl bindings) := by
    refine List.mem_flatMap.mpr ⟨r, mem_withMethods hr hm, List.mem_append_right _ ?_⟩
    exact List.mem_map.mpr ⟨method, hm, by rw [he]⟩
  obtain ⟨new, hnew, old', hold', hbacked⟩ := h.met _ hgoal
  obtain rfl : old = old' := Option.some.inj (hold.symm.trans hold')
  exact ⟨new, hnew, hbacked⟩

/-- A resource that exposes methods but not the preflight verb gets a preflight method. -/
theorem Meets.preflight (h : Meets ((withMethods rs).flatMap (resourceGoals baseUrl bindings)) v v')
    (hr : r ∈ rs) (hread : r.ReadFrom v) (hexposed : ∃ verb, (v.methods.get? (r.id, verb)).isSome)
    (hnone : v.methods.get? (r.id, preflightVerb) = none) :
    ∃ new, v'.methods.get? (r.id, preflightVerb) = some new ∧
      AnswersPreflight (r.methods.map Method.verb) new := by
  obtain ⟨verb, hverb⟩ := hexposed
  obtain ⟨method, hm, -⟩ := List.mem_map.mp (hread.mem_verbs.mpr hverb)
  have hdeclared : preflightVerb ∉ r.methods.map Method.verb := by
    intro hmem
    have hsome := hread.mem_verbs.mp hmem
    rw [hnone] at hsome
    cases hsome
  have hgoal : ((r.id, preflightVerb), fun old? new =>
      old? = none ∧ AnswersPreflight (r.methods.map Method.verb) new) ∈
      (withMethods rs).flatMap (resourceGoals baseUrl bindings) := by
    refine List.mem_flatMap.mpr ⟨r, mem_withMethods hr hm, List.mem_append_left _ ?_⟩
    rw [preflightGoals, if_neg hdeclared]
    exact List.mem_cons_self
  obtain ⟨new, hnew, -, hanswers⟩ := h.met _ hgoal
  exact ⟨new, hnew, hanswers⟩

/-- No other method is made. -/
theorem Meets.undeclared (h : Meets ((withMethods rs).flatMap (resourceGoals baseUrl bindings)) v v')
    (hread : ∀ r ∈ rs, r.ReadFrom v) {id verb : String} (hnone : v.methods.get? (id, verb) = none)
    (hverb : verb = preflightVerb → ∀ other, v.methods.get? (id, other) = none) :
    v'.methods.get? (id, verb) = none := by
  have hother : (id, verb) ∉ ((withMethods rs).flatMap (resourceGoals baseUrl bindings)).map Prod.fst := by
    intro hkey
    obtain ⟨g, hg, he⟩ := List.mem_map.mp hkey
    obtain ⟨r, hr, hg⟩ := List.mem_flatMap.mp hg
    obtain ⟨hr, hmethods⟩ := List.mem_filter.mp hr
    rcases List.mem_append.mp hg with hg | hg
    · -- there is a preflight goal for the sake of some method, and that one was there
      obtain ⟨hid, hpreflight⟩ := Prod.mk.inj (he.symm.trans (preflightGoals_keys r g hg).1)
      rw [Resource.hasMethods, Bool.not_eq_true', List.isEmpty_eq_false_iff] at hmethods
      obtain ⟨method, hm⟩ := List.exists_mem_of_ne_nil r.methods hmethods
      obtain ⟨old, hold, -⟩ := (hread r hr).found method hm
      rw [← hid, hverb hpreflight method.verb] at hold
      cases hold
    · obtain ⟨method, hm, rfl⟩ := List.mem_map.mp hg
      obtain ⟨old, hold, -⟩ := (hread r hr).found method hm
      have hkey' : (r.id, method.verb) = (id, verb) := he
      rw [hkey', hnone] at hold
      cases hold
  rw [h.others _ hother]
  exact hnone

end

/-! ## Declarations -/

/-- The request parameters of all declared methods can be passed on to a backend. -/
def Declaration.Mappable (declaration : Declaration) : Prop :=
  ∀ r ∈ declaration.resources, ∀ verb m, declaration.methods.get? (r.1, verb) = some m →
    ∃ mappings, (⟨verb, m.parameters⟩ : Method).mappings = .ok mappings

/-- A declaration that is bound to a backend: its methods are, each with the authorizer of its operation, and
its resources answer preflight requests. It has no other methods. -/
structure Declaration.BoundIn (declaration : Declaration) (baseUrl : String)
    (authorizer : String → String → Option String) (held : ArrivalMap (String × String) HostedMethod) : Prop where
  methods : ∀ r ∈ declaration.resources, ∀ verb old, declaration.methods.get? (r.1, verb) = some old →
    ∃ new, held.get? (r.1, verb) = some new ∧ Backed baseUrl r.2 verb (authorizer r.2 verb) old new
  preflight : ∀ r ∈ declaration.resources, (∃ verb, (declaration.methods.get? (r.1, verb)).isSome) →
    declaration.methods.get? (r.1, preflightVerb) = none →
    ∃ new verbs, held.get? (r.1, preflightVerb) = some new ∧ AnswersPreflight verbs new ∧
      ∀ verb, verb ∈ verbs ↔ (declaration.methods.get? (r.1, verb)).isSome
  undeclared : ∀ r ∈ declaration.resources, ∀ verb, declaration.methods.get? (r.1, verb) = none →
    (verb = preflightVerb → ∀ other, declaration.methods.get? (r.1, other) = none) →
    held.get? (r.1, verb) = none

/-- **A declaration is bound** when the resources were read from what it declares. -/
theorem Hosts.completes_bindDeclaration {σ : Type} {b : Backend σ} {api : String}
    {declared : String → Declaration} {view : σ → HostedApi} {s : σ} {declaration : Declaration}
    {rs : List Resource} (hb : Hosts b api declared view) (baseUrl : String) (bindings : Bindings)
    (hdeclared : (view s).methods = declaration.methods)
    (hperm : (rs.map fun r => (r.id, r.path)).Perm declaration.resources)
    (hread : ∀ r ∈ rs, r.ReadFrom (view s)) (hmappable : declaration.Mappable) :
    ∃ n s', Completes b (bindAll api rs baseUrl bindings) s n s' ∧
      view s' = { view s with methods := (view s').methods } ∧
      declaration.BoundIn baseUrl bindings.resolve (view s').methods := by
  have hdistinct : (rs.map Resource.id).Nodup := by
    have hids := (hperm.map Prod.fst).nodup_iff.mpr declaration.distinct
    rwa [List.map_map] at hids
  have hmaps : ∀ r ∈ rs, ∀ method ∈ r.methods, ∃ mappings, method.mappings = .ok mappings := by
    intro r hr method hm
    obtain ⟨old, hold, hparameters⟩ := (hread r hr).found method hm
    rw [hdeclared] at hold
    have hlisted : (r.id, r.path) ∈ declaration.resources :=
      hperm.subset (List.mem_map_of_mem (f := fun r => (r.id, r.path)) hr)
    have hmapped := hmappable _ hlisted method.verb old hold
    rwa [← hparameters] at hmapped
  obtain ⟨n, s', hrun, hmeets⟩ := hb.completes_bindAll baseUrl bindings hdistinct hread hmaps
  have hresource : ∀ x ∈ declaration.resources, ∃ r ∈ rs, (r.id, r.path) = x := by
    intro x hx
    exact List.mem_map.mp (hperm.symm.subset hx)
  refine ⟨n, s', hrun, hmeets.rest, ?_⟩
  constructor
  · intro x hx verb old hold
    obtain ⟨r, hr, rfl⟩ := hresource x hx
    rw [← hdeclared] at hold
    exact hmeets.backed hr (hread r hr) hold
  · intro x hx hexposed hnone
    obtain ⟨r, hr, rfl⟩ := hresource x hx
    rw [← hdeclared] at hexposed hnone ⊢
    obtain ⟨new, hnew, hanswers⟩ := hmeets.preflight hr (hread r hr) hexposed hnone
    exact ⟨new, _, hnew, hanswers, fun verb => (hread r hr).mem_verbs⟩
  · intro x hx verb hnone hverb
    rw [← hdeclared] at hnone hverb
    exact hmeets.undeclared hread hnone hverb

end ApiReconciler
