import ApiReconciler.Definition.Basic
import ApiReconciler.Json.Reader

/-!
# `ApiReconciler.Definition.Endpoint` — the backend of an API

## Contents
- `EndpointConfig.members`: the configuration as a mapping, or why it is none.
- `Definition.productionEndpoint`: the production URL, if there is a usable one.
- `productionBaseUrl`: the URL that integrations are built on, one trailing slash removed.
-/

namespace ApiReconciler

/-- Why an endpoint configuration is no mapping. -/
inductive EndpointConfigError
  | json (error : Json.Error)
  | notObject
deriving DecidableEq, Repr

/-- The configuration as a mapping; an absent one is empty. -/
def EndpointConfig.members : EndpointConfig → Except EndpointConfigError Object
  | .absent => .ok []
  | .mapping ms => .ok ms
  | .json text =>
    match Json.parse text with
    | .error e => .error (.json e)
    | .ok (.object ms) => .ok ms
    | .ok _ => .error .notObject

/-- The production URL of a configuration: a text that is not empty. -/
def productionUrl (ms : Object) : Option String := do
  let production ← ms.get? "production_endpoints"
  let url ← production.members.get? "url"
  let text ← url.text?
  if text = "" then none else some text

/-- The production URL of a definition; a configuration that is no mapping has none. -/
def Definition.productionEndpoint (d : Definition) : Option String :=
  match d.endpoint.members with
  | .error _ => none
  | .ok ms => productionUrl ms

/-- Without one slash at the end. -/
def dropTrailingSlash (url : String) : String :=
  match url.toList.getLast? with
  | some '/' => String.ofList url.toList.dropLast
  | _ => url

/-- The URL that integrations are built on, read from a configuration. -/
def productionBaseUrl (ms : Object) : Option String :=
  match ms.get? "production_endpoints" with
  | some (.object production) =>
    match Object.get? "url" production with
    | some (.text url) => if url = "" then none else some (dropTrailingSlash url)
    | _ => none
  | _ => none

end ApiReconciler
