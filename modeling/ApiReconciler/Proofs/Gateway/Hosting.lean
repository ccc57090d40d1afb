import ApiReconciler.Binding.Bind
import ApiReconciler.Import
import ApiReconciler.Proofs.ArrivalMap
import ApiReconciler.Proofs.Authorizer.Key
import ApiReconciler.Proofs.Gateway.Exchange

/-!
# `ApiReconciler.Proofs.Gateway.Hosting` — gateways that host an API

What a reconciliation achieves depends on what the gateway does with its calls. `HostedApi` is what a
gateway holds for an API, and `Answered` and `Listed` say for each request which answers are possible and
what they leave. Identifiers of new objects, the members of replies and the pages of listings are left
open, and so is what the body of a definition declares.

A gateway overwrites an API by replacing its resources and methods, and keeps everything else. Objects
that exist already are not put a second time, and deployments that a stage points to are not deleted.
Anything else is done. What happens to a call about an object that does not exist is left open, save that
it is of no consequence for other objects.

## Contents
- `HostedMethod`, `HostedApi`: what is held.
- `Answered`, `Listed`: the behaviour; `Hosts`: a backend of this behaviour.
- `Falters`: a backend on which any request may fail besides, before it is done or after it.
-/

namespace ApiReconciler

/-! ## Methods -/

/-- What a gateway holds for a method. The parameters of its responses and those of the responses of its
integration are held by status. -/
structure HostedMethod where
  parameters : Object
  authorization : String
  authorizer : Option String
  integration : Option Integration
  responses : ArrivalMap String (ArrivalMap String Bool)
  answers : ArrivalMap String (ArrivalMap String String)

namespace HostedMethod

/-- A method that was just put. -/
def new (authorization : String) : HostedMethod := ⟨[], authorization, none, none, [], []⟩

/-- The name of the parameter that a patch is about. -/
def parameterOfPath? (path : String) : Option String :=
  (AuthorizerKey.dropFront? "/responseParameters/".toList path.toList).map String.ofList

/-- Parameters after a patch. -/
def patchParameter {α : Type} (read : String → α) (parameters : ArrivalMap String α) (p : Patch) :
    ArrivalMap String α :=
  match p.path.bind parameterOfPath?, p.value with
  | some name, some value => if p.op = "add" then parameters.set name (read value) else parameters
  | _, _ => parameters

/-- A patch that adds a parameter sets it. -/
theorem patchParameter_add {α : Type} (read : String → α) (parameters : ArrivalMap String α)
    (name value : String) :
    patchParameter read parameters (addResponseParameter name value) = parameters.set name (read value) := by
  have hname : parameterOfPath? ("/responseParameters/" ++ name) = some name := by
    rw [parameterOfPath?, String.toList_append, AuthorizerKey.dropFront?_append, Option.map_some,
      String.ofList_toList]
  simp only [patchParameter, addResponseParameter, Option.bind_some, hname, if_true]

/-- Patches that add parameters set them one after the other. -/
theorem foldl_patchParameter_add {α : Type} {read : String → α} {write : α → String}
    (h : ∀ value, read (write value) = value) (added : List (String × α)) (parameters : ArrivalMap String α) :
    (added.map fun p => addResponseParameter p.1 (write p.2)).foldl (patchParameter read) parameters =
      added.foldl (fun acc p => ArrivalMap.set p.1 p.2 acc) parameters := by
  rw [List.foldl_map]
  simp only [patchParameter_add, h]

/-- A method after a patch. -/
def patch (m : HostedMethod) (p : Patch) : HostedMethod :=
  if p.op = "replace" ∧ p.path = some "/authorizationType" then
    { m with authorization := p.value.getD "" }
  else if p.op = "replace" ∧ p.path = some "/authorizerId" then { m with authorizer := p.value }
  else m

theorem foldl_authorizationPatches (m : HostedMethod) (id : String) :
    (authorizationPatches id).foldl patch m = { m with authorization := "CUSTOM", authorizer := some id } := by
  simp [authorizationPatches, patch]

end HostedMethod

/-! ## APIs -/

/-- What the body of a definition declares: resources by identifier and path, and methods by resource and
verb. -/
structure Declaration where
  resources : List (String × String)
  methods : ArrivalMap (String × String) HostedMethod
  distinct : (resources.map Prod.fst).Nodup

/-- What a gateway holds for an API. Stages are held with the deployments they point to. -/
structure HostedApi where
  resources : List (String × String)
  methods : ArrivalMap (String × String) HostedMethod
  authorizers : List Object
  deployments : List String
  stages : ArrivalMap String String

namespace HostedApi

/-- The method of a reference. -/
def method? (v : HostedApi) (m : MethodRef) : Option HostedMethod := v.methods.get? (m.resource, m.verb)

/-- The API with a method. -/
def setMethod (v : HostedApi) (m : MethodRef) (method : HostedMethod) : HostedApi :=
  { v with methods := v.methods.set (m.resource, m.verb) method }

@[simp] theorem method?_setMethod (v : HostedApi) (m : MethodRef) (method : HostedMethod) :
    (v.setMethod m method).method? m = some method :=
  ArrivalMap.get?_set_self _ _ _

@[simp] theorem setMethod_setMethod (v : HostedApi) (m : MethodRef) (old new : HostedMethod) :
    (v.setMethod m old).setMethod m new = v.setMethod m new := by
  unfold setMethod
  rw [ArrivalMap.set_set]

end HostedApi

/-! ## Behaviour -/

/-- The call succeeds. -/
def Accepted (a : Answer) : Prop := ∃ reply, a = .ok reply

/-- The call fails and changes nothing. -/
def Refused (a : Answer) (v v' : HostedApi) : Prop := (∃ fault, a = .error fault) ∧ v' = v

/-- The call fails because the object exists already, and changes nothing. -/
def Conflicting (a : Answer) (v v' : HostedApi) : Prop :=
  (∃ e code, a = .error (.refused e) ∧ e.code = some code ∧ code ∈ CallFailure.conflictCodes) ∧ v' = v

/-- A call about a method: done as `change` says, if there is one. -/
def OnMethod (m : MethodRef) (change : HostedMethod → HostedMethod → Prop) (v : HostedApi) (a : Answer)
    (v' : HostedApi) : Prop :=
  match v.method? m with
  | none => ∃ methods, v' = { v with methods := methods }
  | some method => Accepted a ∧ ∃ method', change method method' ∧ v' = v.setMethod m method'

/-- An object as the listing of resources shows a resource. -/
structure Shows (v : HostedApi) (item : Object) (r : String × String) : Prop where
  id : item.get? "id" = some (.text r.1)
  path : item.get? "path" = some (.text r.2) ∨ item.get? "path" = none ∧ r.2 = "/"
  verbs : ∀ verb, verb ∈ verbsOf item ↔ (v.methods.get? (r.1, verb)).isSome
  distinct : (verbsOf item).Nodup

/-- The answers to a call on an API and what they leave. -/
def Answered (declared : String → Declaration) : Call → HostedApi → Answer → HostedApi → Prop
  | .overwriteApi api body, v, a, v' =>
    ∃ reply, a = .ok reply ∧ (reply.get? "id" = none ∨ reply.get? "id" = some (.text api)) ∧
      v' = { v with resources := (declared body).resources, methods := (declared body).methods }
  | .getApi api, v, a, v' => ∃ reply, a = .ok reply ∧ reply.get? "id" = some (.text api) ∧ v' = v
  | .getMethod m, v, a, v' =>
    v' = v ∧ ∀ method, v.method? m = some method →
      ∃ reply, a = .ok reply ∧ ((reply.get? "requestParameters").getD .null).members = method.parameters
  | .putMethod m authorization, v, a, v' =>
    match v.method? m with
    | none => Accepted a ∧ v' = v.setMethod m (.new authorization)
    | some _ => Conflicting a v v'
  | .updateMethod m ps, v, a, v' =>
    OnMethod m (fun old new => new = ps.foldl HostedMethod.patch old) v a v'
  | .putMethodResponse m status parameters, v, a, v' =>
    match (v.method? m).bind fun method => method.responses.get? status with
    | some _ => Conflicting a v v'
    | none => OnMethod m
        (fun old new => new = { old with responses := old.responses.set status parameters }) v a v'
  | .updateMethodResponse m status ps, v, a, v' =>
    OnMethod m (fun old new => new = { old with
      responses := old.responses.set status (ps.foldl (HostedMethod.patchParameter (· = "true"))
        ((old.responses.get? status).getD [])) }) v a v'
  | .putIntegration m i, v, a, v' =>
    OnMethod m (fun old new => new = { old with integration := some i } ∨
      new = { old with integration := some i, answers := [] }) v a v'
  | .putIntegrationResponse m status _ parameters, v, a, v' =>
    OnMethod m (fun old new => new = { old with
      answers := old.answers.set status (parameters.getD []) }) v a v'
  | .updateIntegrationResponse m status ps, v, a, v' =>
    OnMethod m (fun old new => new = { old with
      answers := old.answers.set status (ps.foldl (HostedMethod.patchParameter id)
        ((old.answers.get? status).getD [])) }) v a v'
  | .createAuthorizer _ spec, v, a, v' =>
    ∃ reply item id, a = .ok reply ∧ reply.get? "id" = some (.text id) ∧
      item.get? "id" = some (.text id) ∧ id ∉ v.authorizers.filterMap textId? ∧
      item.get? "authorizerUri" = some (.text spec.uri) ∧
      item.get? "authorizerCredentials" = some (.text spec.credentials) ∧
      v' = { v with authorizers := v.authorizers ++ [item] }
  | .deleteAuthorizer _ id, v, a, v' =>
    (id ∈ v.authorizers.filterMap textId? → Accepted a) ∧
      v' = { v with authorizers := v.authorizers.filter fun item => textId? item ≠ some id }
  | .createDeployment _ stage, v, a, v' =>
    ∃ reply id, a = .ok reply ∧ reply.get? "id" = some (.text id) ∧ id ∉ v.deployments ∧
      v' = { v with deployments := v.deployments ++ [id], stages := v.stages.set stage id }
  | .deleteDeployment _ id, v, a, v' =>
    if id ∈ v.stages.values then Refused a v v'
    else (id ∈ v.deployments → Accepted a) ∧
      v' = { v with deployments := v.deployments.filter fun other => other ≠ id }
  | _, _, _, _ => True

/-- The results of a listing on an API; it changes nothing. -/
def Listed : Listing → HostedApi → Except CallFault (List Object) → HostedApi → Prop
  | .resources _, v, r, v' =>
    v' = v ∧ ∃ items shown, r = .ok items ∧ shown.Perm v.resources ∧ List.Forall₂ (Shows v) items shown
  | .authorizers _, v, r, v' => v' = v ∧ r = .ok v.authorizers
  | .deployments _, v, r, v' =>
    v' = v ∧ ∃ items shown, r = .ok items ∧ shown.Perm v.deployments ∧
      List.Forall₂ (fun item id => item.get? "id" = some (.text id)) items shown
  | .apis, _, _, _ => True

/-- A backend that hosts an API: `view` gives what it holds in each of its states. -/
structure Hosts {σ : Type} (b : Backend σ) (api : String) (declared : String → Declaration)
    (view : σ → HostedApi) : Prop where
  answers : ∀ c s, c.api? = some api → ∃ a s', b.answer c s = (a, s') ∧ Answered declared c (view s) a (view s')
  lists : ∀ l s, l.api? = some api →
    ∃ r pages s', b.list l s = (r, pages, s') ∧ Listed l (view s) r (view s')

/-- A backend that hosts an API but not reliably: any request may fail. Of a call that failed it is not
known whether it was done. -/
structure Falters {σ : Type} (b : Backend σ) (api : String) (declared : String → Declaration)
    (view : σ → HostedApi) : Prop where
  answers : ∀ c s, c.api? = some api → ∃ a s', b.answer c s = (a, s') ∧
    (Answered declared c (view s) a (view s') ∨
      (∃ fault, a = .error fault) ∧ (view s' = view s ∨ ∃ a', Answered declared c (view s) a' (view s')))
  lists : ∀ l s, l.api? = some api → ∃ r pages s', b.list l s = (r, pages, s') ∧
    (Listed l (view s) r (view s') ∨ (∃ fault, r = .error fault) ∧ view s' = view s)

end ApiReconciler
