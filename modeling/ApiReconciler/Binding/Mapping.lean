import ApiReconciler.Text.Quoted

/-!
# `ApiReconciler.Binding.Mapping` — request parameters of integrations

A method's request parameter `method.request.<location>.<name>` is passed on to the integration as
`integration.request.<location>.<name>`.

## Contents
- `mapRequestParameter`: the mapping of one key, or its `MappingFault`.
- `mapRequestParameters`: the mappings of all keys, up to the first fault.
-/

namespace ApiReconciler

/-- Why a request parameter cannot be mapped. -/
inductive MappingFault
  | foreignKey (key : String)
  | unknownLocation (key location : String)
  | noName (key : String)
deriving DecidableEq, Repr

/-- The beginning of a method's request parameters. -/
def methodRequest : List Char := "method.request.".toList

/-- The beginning of an integration's request parameters. -/
def integrationRequest : List Char := "integration.request.".toList

/-- The places of a request that parameters come from. -/
def parameterLocations : List String := ["path", "querystring", "header"]

/-- The fault in words. -/
def MappingFault.message : MappingFault → String
  | .foreignKey key =>
    "Request parameter " ++ Text.quoted key ++ " does not start with " ++
      Text.quoted (String.ofList methodRequest)
  | .unknownLocation key location =>
    "Request parameter " ++ Text.quoted key ++ " has unknown location " ++ Text.quoted location
  | .noName key => "Request parameter " ++ Text.quoted key ++ " has no name"

/-- The integration's parameter and the method's parameter it takes its value from. -/
def mapRequestParameter (key : String) : Except MappingFault (String × String) :=
  let cs := key.toList
  if methodRequest.isPrefixOf cs then
    let rest := cs.drop methodRequest.length
    let location := rest.takeWhile (· ≠ '.')
    let name := (rest.dropWhile (· ≠ '.')).drop 1
    if String.ofList location ∉ parameterLocations then
      .error (.unknownLocation key (String.ofList location))
    else if name = [] then .error (.noName key)
    else
      let suffix := location ++ '.' :: name
      .ok (String.ofList (integrationRequest ++ suffix), String.ofList (methodRequest ++ suffix))
  else .error (.foreignKey key)

/-- The mappings of all keys in order. -/
def mapRequestParameters : List String → Except MappingFault (List (String × String))
  | [] => .ok []
  | key :: keys =>
    match mapRequestParameter key with
    | .error e => .error e
    | .ok m => (mapRequestParameters keys).map (m :: ·)

end ApiReconciler
