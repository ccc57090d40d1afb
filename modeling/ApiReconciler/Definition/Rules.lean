import ApiReconciler.Definition.Endpoint
import ApiReconciler.Url

/-!
# `ApiReconciler.Definition.Rules` — what the gateway can host

The gateway needs an absolute HTTP endpoint and knows no wildcard resources, save that a trailing
`/*` is accepted and cut to `/` before a definition is deployed.

## Contents
- `endpointFault`, `wildcardFault`: the two rules; `Definition.validate`: both.
- `Definition.normalize`: trailing wildcards cut to a slash.
-/

namespace ApiReconciler

/-- Why a definition cannot be deployed. -/
inductive Fault
  | noEndpoint
  | relativeEndpoint (url : String)
  | wildcards (operations : List String)
deriving DecidableEq, Repr

/-- The reason in words. -/
def Fault.message : Fault → String
  | .noEndpoint => "Production endpoint URL is required for AWS API Gateway"
  | .relativeEndpoint url => "Production endpoint must be an absolute http(s) URL: " ++ url
  | .wildcards operations =>
    "Wildcard resources are not supported by AWS API Gateway: " ++ ", ".intercalate operations

/-! ## Endpoints -/

/-- Why a URL cannot back an integration, if so; a malformed authority is an error. -/
def endpointFault (url : Option String) : Except Url.Error (Option Fault) :=
  match url with
  | none => .ok (some .noEndpoint)
  | some url =>
    if url = "" then .ok (some .noEndpoint)
    else match Url.split url with
      | .error e => .error e
      | .ok parts =>
        if (parts.scheme = "http" ∨ parts.scheme = "https") ∧ parts.authority ≠ "" then .ok none
        else .ok (some (.relativeEndpoint url))

/-! ## Wildcards -/

/-- The path before a trailing `/*`, if it has one. -/
def beforeWildcard? (path : List Char) : Option (List Char) :=
  match path.reverse with
  | '*' :: '/' :: front => some front.reverse
  | _ => none

/-- A path with a wildcard that is not the trailing one. -/
def hasInnerWildcard (path : String) : Bool :=
  ((beforeWildcard? path.toList).getD path.toList).contains '*'

/-- An operation as it is named in messages. -/
def Route.label (r : Route) : String := Text.upper r.verb ++ " " ++ r.path

/-- The operations with wildcards that are not supported, if there are any. -/
def wildcardFault (routes : List Route) : Option Fault :=
  match routes.filter fun r => hasInnerWildcard r.path with
  | [] => none
  | rs => some (.wildcards (rs.map Route.label))

/-- A trailing `/*` becomes `/`. -/
def stripWildcard (path : String) : String :=
  match beforeWildcard? path.toList with
  | some front => String.ofList (front ++ ['/'])
  | none => path

/-! ## Definitions -/

/-- Everything that keeps a definition from being deployed. -/
def Definition.validate (d : Definition) : Except Url.Error (List Fault) :=
  (endpointFault d.productionEndpoint).map fun fault =>
    fault.toList ++ (wildcardFault d.routes).toList

/-- The route with a trailing wildcard cut to a slash. -/
def Route.normalize (r : Route) : Route := { r with path := stripWildcard r.path }

/-- The definition with the trailing wildcards of its routes cut to slashes. -/
def Definition.normalize (d : Definition) : Definition :=
  { d with routes := d.routes.map Route.normalize }

end ApiReconciler
