import ApiReconciler.Gateway.Program
import ApiReconciler.Resource

/-!
# `ApiReconciler.Import` — definitions pushed to the gateway

The gateway takes a definition and makes an API of it, or overwrites one. Its reply carries no
resources, so they are read afterwards.

## Contents
- `Imported`: the API that took the definition, and whether it is new.
- `importDefinition`, `overwriteDefinition`, `fetchResources`.
-/

namespace ApiReconciler

/-- How an API came to hold a definition. -/
inductive Origin
  | created
  | reused
deriving DecidableEq, Repr

/-- The API that holds a definition now, with the warnings of the gateway. -/
structure Imported where
  origin : Origin
  api : String
  warnings : List String
deriving DecidableEq, Repr

/-- The warnings of a reply; none when the member is absent or null. -/
def warningsOf (reply : Object) : List String :=
  ((reply.get? "warnings").getD .null).elements.map Value.display

/-- Notes one after the other. -/
def logAll : List Note → Program Unit
  | [] => .done ()
  | n :: ns => .note n (logAll ns)

/-- Makes a new API from a definition. -/
def importDefinition (d : Definition) : Program Imported := do
  let reply ← (Program.perform (.importApi d.document)).relabel fun cause =>
    .importing (.rejected d.name cause)
  let api ← Program.textMember reply "id"
  let warnings := warningsOf reply
  logAll (warnings.map (Note.importWarning d.name api))
  Program.log (.imported d.name api)
  return ⟨.created, api, warnings⟩

/-- What a failed overwriting of an API means. -/
def overwriteFailure (api : String) (cause : CallFailure) : Failure :=
  .reimporting (if cause.kind = .notFound then .gone api cause else .failed api cause)

/-- The API that a reply names; a reply without a name is about the API that was addressed. -/
def addressedApi (api : String) (reply : Object) : Program String :=
  match reply.get? "id" with
  | none => .done api
  | some _ => Program.textMember reply "id"

/-- Overwrites an API with a definition. -/
def overwriteDefinition (api : String) (d : Definition) : Program Imported := do
  let reply ← (Program.perform (.overwriteApi api d.document)).relabel (overwriteFailure api)
  let warnings := warningsOf reply
  logAll (warnings.map (Note.reimportWarning api))
  Program.log (.reimported d.name api)
  let named ← addressedApi api reply
  return ⟨.reused, named, warnings⟩

/-! ## Resources -/

/-- The verbs of a resource on the gateway. -/
def verbsOf (item : Object) : List String :=
  ((item.get? "resourceMethods").getD .null).members.filterMap fun m => (Value.scalar m.1).text?

/-- The path of a resource on the gateway; the root when it has none. -/
def pathOf (item : Object) : Program String :=
  match item.get? "path" with
  | none => .done "/"
  | some _ => Program.textMember item "path"

/-- Reads the methods of a resource, one call for each verb. -/
def fetchMethods (api resource : String) : List String → Program (List Method)
  | [] => .done []
  | verb :: verbs => do
    let reply ← Program.perform (.getMethod ⟨api, resource, verb⟩)
    let methods ← fetchMethods api resource verbs
    return ⟨verb, ((reply.get? "requestParameters").getD .null).members⟩ :: methods

/-- Reads the methods of listed resources. -/
def fetchListed (api : String) : List Object → Program (List Resource)
  | [] => .done []
  | item :: items => do
    let id ← Program.textMember item "id"
    let path ← pathOf item
    let methods ← fetchMethods api id (verbsOf item)
    let resources ← fetchListed api items
    return ⟨id, path, methods⟩ :: resources

/-- Reads the resources of an API with their methods. -/
def fetchResources (api : String) : Program (List Resource) :=
  Program.relabel (do fetchListed api (← Program.collect (.resources api))) fun cause =>
    .importing (.unreadable api cause)

end ApiReconciler
