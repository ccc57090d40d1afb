import ApiReconciler.Gateway.Reading
import ApiReconciler.Json.Writer
import ApiReconciler.Text.CaseMap

/-!
# `ApiReconciler.Discovery` — definitions found on the gateway

APIs that live on the gateway are turned into definitions: their document is exported, and their
backend is that of the first method of the first resource that has one.

## Contents
- `stageName`, `endpointUrl`, `exportDocument`: what is asked of the gateway.
- `discoveredDefinition`: the definition of an API; `discover`: those of every deployed API.
-/

namespace ApiReconciler

/-- An API of the gateway as the control plane sees it. -/
structure Discovered where
  definition : Definition
  reference : String
  stage : String
deriving Repr

/-! ## Questions to the gateway -/

/-- The name of the first of some stages. -/
def firstStage (stages : List Value) : Program (Option String) :=
  match stages with
  | [] => .done none
  | stage :: _ => some <$> Program.textMember stage.members "stageName"

/-- The first stage of an API; none when it has never been deployed. -/
def stageName (api : String) : Program (Option String) := do
  let stages ← Program.stages api
  firstStage stages.elements

/-- The format of exported documents. -/
def documentFormat : String := "oas30"

/-- The document of a stage of an API. -/
def exportDocument (api stage : String) : Program Value :=
  Program.exported api stage documentFormat "application/json"

/-- The first verb of the methods of a resource on the gateway. -/
def firstVerb? (item : Object) : Option String :=
  match ((item.get? "resourceMethods").getD .null).members with
  | (.text verb, _) :: _ => some verb
  | _ => none

/-- The first resource with methods, with its first verb. -/
def firstMethod? : List Object → Option (Object × String)
  | [] => none
  | item :: items =>
    match firstVerb? item with
    | some verb => some (item, verb)
    | none => firstMethod? items

/-- The URL of the backend of an API, if its integration names one. -/
def endpointUrl (api : String) : Program (Option Value) := do
  let items ← Program.collect (.resources api)
  match firstMethod? items with
  | none => return none
  | some (item, verb) =>
    let resource ← Program.textMember item "id"
    let reply ← Program.tolerateMissing
      (some <$> Program.perform (.getIntegration ⟨api, resource, verb⟩)) none
    return reply.bind fun ms => ms.get? "uri"

/-! ## Definitions -/

/-- A member that counts as given. -/
def givenMember? (ms : Object) (name : String) : Option Value :=
  match ms.get? name with
  | none => none
  | some v => if v.isTruthy then some v else none

/-- The name of an API: its own, or its identifier. -/
def apiName (api : Object) : Program String :=
  match givenMember? api "name" with
  | some (.text name) => .done name
  | some _ => .fail (.malformedMember "name")
  | none => Program.textMember api "id"

/-- The context of an API: its name in lower case with dashes for spaces. -/
def contextOf (name : String) : String :=
  String.ofList ((Text.lowerChars name.toList).map fun c => if c = ' ' then '-' else c)

/-- A moment as text; other values stay. -/
def isoOfMoment : Value → Value
  | .scalar (.moment m) => .text m.iso
  | v => v

/-- The definition of an API without its backend. -/
def readDiscovered (api : Object) (name : String) (document : Value) (organization : Option String) :
    Checked Definition :=
  let member (key : String) : Value := (api.get? key).getD .null
  Definition.read
    [(.text "id", member "id"), (.text "name", .text name),
      (.text "version", (givenMember? api "version").getD (.text Definition.defaultVersion)),
      (.text "context", .text (contextOf name)), (.text "swagger_definition", document),
      (.text "description", member "description"),
      (.text "organization", Value.optionalText organization),
      (.text "created_time", isoOfMoment (member "createdDate")),
      (.text "initiated_from_gateway", .bool true)]

/-- The endpoint configuration of a backend. -/
def endpointOf (url : Value) : EndpointConfig :=
  let endpoint := Value.record [("url", url)]
  .mapping
    [(.text "endpoint_type", .text "http"), (.text "production_endpoints", endpoint),
      (.text "sandbox_endpoints", endpoint)]

/-- The definition of an API on the gateway. -/
def discoveredDefinition (api : Object) (document : Value) (organization : Option String) :
    Program Definition := do
  let name ← apiName api
  let id ← Program.textMember api "id"
  let d ← Program.ofExcept
    ((readDiscovered api name document organization).toExcept.mapError .invalid)
  match ← endpointUrl id with
  | none =>
    Program.log (.noEndpoint name)
    return d
  | some url =>
    if url.isTruthy then return { d with endpoint := endpointOf url }
    else
      Program.log (.noEndpoint name)
      return d

/-! ## Discovery -/

/-- Whether a failure concerns one API alone, so that the others can still be discovered. -/
def Failure.isConfined : Failure → Bool
  | .call _ | .invalid _ | .undecodable | .document _ => true
  | _ => false

/-- The API of a listed object, if it is deployed to a stage. -/
def discoverOne (item : Object) (api : String) (organization : Option String) :
    Program (Option Discovered) := do
  match ← stageName api with
  | none =>
    Program.log (.skipped api)
    return none
  | some stage =>
    let document ← exportDocument api stage
    let d ← discoveredDefinition item document organization
    let artifact ← Program.ofExcept ((artifactText item d.document).mapError .document)
    return some ⟨d, artifact, stage⟩

/-- Goes over listed objects; a failure that concerns one API is noted. -/
def discoverEach (organization : Option String) : List Object → Program (List Discovered)
  | [] => .done []
  | item :: items => do
    let api ← Program.textMember item "id"
    let found ← (discoverOne item api organization).rescue fun f =>
      if f.isConfined then do
        Program.log (.notDiscovered api f)
        return none
      else .fail f
    let rest ← discoverEach organization items
    return found.toList ++ rest

/-- Discovers every deployed API. -/
def discover (organization : Option String) : Program (List Discovered) := do
  discoverEach organization (← Program.collect .apis)

end ApiReconciler
