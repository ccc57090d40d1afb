import ApiReconciler.ArrivalMap
import ApiReconciler.Authorizer.Key
import ApiReconciler.Definition.Basic
import ApiReconciler.Text.CaseMap
import ApiReconciler.Value.Display

/-!
# `ApiReconciler.Authorizer.Scope` — where authorizers apply

## Contents
- `Scope`: the whole API, or one operation by its path and verb in lower case.
- `authorizerPolicy?`, `Policy.authorizerKey`: the policy that asks for an authorizer, and its key;
  `PolicyFault`: why it has none.
- `Definition.requiredAuthorizers`: the key that each scope of a definition asks for.
- `Bindings.resolve`: the authorizer of an operation, its own before the API's.
-/

namespace ApiReconciler

/-- Where an authorizer applies. -/
inductive Scope
  | api
  | operation (path verb : String)
deriving DecidableEq, Repr

/-- The scope of an operation; case does not matter. -/
def Scope.of (path verb : String) : Scope := .operation (Text.lower path) (Text.lower verb)

/-! ## Policies -/

/-- The name of the policy that asks for an authorizer. -/
def authorizerPolicyName : String := "awsLambdaAuthorizer"

/-- The first policy that asks for an authorizer. -/
def authorizerPolicy? (policies : List Policy) : Option Policy :=
  policies.find? fun p => p.name = authorizerPolicyName

/-- Why a policy that asks for an authorizer has no key: it lacks a parameter, or an integer in one
has too many digits to be written. -/
inductive PolicyFault
  | incomplete (policy : String)
  | longInteger
deriving DecidableEq, Repr

/-- A parameter; null counts as missing. -/
def Policy.parameter? (p : Policy) (name : String) : Option Value :=
  match p.parameters.get? name with
  | some .null => none
  | given => given

/-- A parameter as text; the empty text counts as missing. -/
def Policy.textOf (p : Policy) (parameter : Value) : Except PolicyFault String :=
  match parameter.display? with
  | none => .error .longInteger
  | some text => if text = "" then .error (.incomplete p.name) else .ok text

/-- The key that a policy asks for. That a parameter is missing is found before any is written. -/
def Policy.authorizerKey (p : Policy) : Except PolicyFault AuthorizerKey :=
  match p.parameter? "lambdaARN", p.parameter? "invokeRoleARN" with
  | some target, some credential => do
    let target ← p.textOf target
    let credential ← p.textOf credential
    return ⟨target, credential⟩
  | _, _ => .error (.incomplete p.name)

/-- The scopes with the keys that the given policies ask for added. -/
def addRequired (scope : Scope) (policies : List Policy)
    (scopes : ArrivalMap Scope AuthorizerKey) :
    Except PolicyFault (ArrivalMap Scope AuthorizerKey) :=
  match authorizerPolicy? policies with
  | none => .ok scopes
  | some p => p.authorizerKey.map fun key => scopes.set scope key

/-- The scopes with the keys that the routes ask for added. -/
def addRoutes : List Route → ArrivalMap Scope AuthorizerKey →
    Except PolicyFault (ArrivalMap Scope AuthorizerKey)
  | [], scopes => .ok scopes
  | r :: rs, scopes =>
    match addRequired (Scope.of r.path r.verb) r.policies scopes with
    | .error e => .error e
    | .ok scopes => addRoutes rs scopes

/-- The key that each scope of a definition asks for. -/
def Definition.requiredAuthorizers (d : Definition) :
    Except PolicyFault (ArrivalMap Scope AuthorizerKey) :=
  match addRequired .api d.policies [] with
  | .error e => .error e
  | .ok scopes => addRoutes d.routes scopes

/-! ## Bindings -/

/-- The outcome of a synchronization: which key applies where, the external identifier of each key,
and the keys whose authorizers were created and deleted. -/
structure Bindings where
  scopes : ArrivalMap Scope AuthorizerKey
  ids : ArrivalMap AuthorizerKey String
  created : List AuthorizerKey
  deleted : List AuthorizerKey
deriving DecidableEq, Repr

/-- The identifier of the authorizer of a scope. -/
def Bindings.idOf (b : Bindings) (s : Scope) : Option String :=
  match b.scopes.get? s with
  | none => none
  | some key => b.ids.get? key

/-- The authorizer of an operation: its own if it has one, the API's otherwise. -/
def Bindings.resolve (b : Bindings) (path verb : String) : Option String :=
  match b.idOf (Scope.of path verb) with
  | some id => some id
  | none => b.idOf .api

end ApiReconciler
