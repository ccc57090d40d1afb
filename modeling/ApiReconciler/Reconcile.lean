import ApiReconciler.Authorizer.Sync
import ApiReconciler.Binding.Bind
import ApiReconciler.Deployment
import ApiReconciler.Import

/-!
# `ApiReconciler.Reconcile` — the gateway made to match a definition

A definition is imported or written over an API, the authorizers are synchronized, the methods are
bound to the backend and the API is deployed. A new API is removed again when a later stage fails.
An API that was there before is never removed: the failure is reported, and the API stays as the
failed pass left it.

## Contents
- `rollBack`: the removal of a new API.
- `importApi`, `reimportApi`, `sync`: a definition made live.
- `tearDown`: an API taken down and, on request, deleted.
-/

namespace ApiReconciler

/-- Where a reconciliation takes place: a region, and the stage that deployments are bound to. -/
structure Target where
  region : String
  stage : String
deriving DecidableEq, Repr

/-! ## Removal of a new API -/

/-- A failed removal of an API, with the failure that prompted it. -/
def rollbackFailure (api : String) (trigger : Option Failure) (cause : CallFailure) : Failure :=
  match trigger with
  | none => .cleanup api cause
  | some failure => .rollback api cause failure

/-- Deletes an API that was made in this pass. -/
def rollBack (api : String) (trigger : Option Failure) : Program Unit := do
  Program.log (.rollingBack api)
  let _ ← (deleteApi api).rescueCall fun cause => do
    Program.log (.rollbackFailed api cause)
    .fail (rollbackFailure api trigger cause)

/-- Removes the API of a failed first import and reports the failure. -/
def abandon {α : Type} (api : String) (failure : Failure) : Program α := do
  Program.log (.importFailed api failure)
  rollBack api (some failure)
  .fail failure

/-! ## Stages -/

/-- The URL that the integrations of a definition are built on. -/
def Definition.baseUrl (d : Definition) : Except DefinitionFault String :=
  match d.endpoint.members with
  | .error e => .error (.endpoint d.name e)
  | .ok ms =>
    match productionBaseUrl ms with
    | none => .error (.noEndpoint d.name)
    | some url => .ok url

/-- What a failure to read a deployed API means. -/
def readBackFailure (api : String) (cause : CallFailure) : Failure :=
  deploymentFailure (if cause.kind = .notFound then .vanished else .readApi) api cause

/-- The reference to an API, read back from the gateway. -/
def readReference (api : String) : Program Reference := do
  let reply ← (Program.perform (.getApi api)).relabel (readBackFailure api)
  let id ← Program.textMember reply "id"
  return ⟨id, apiMembers reply⟩

/-- The authorizers of an API made to match a definition. A new API has none yet, and nothing is
deleted from it. -/
def synchronizeImported (t : Target) (i : Imported) (d : Definition) : Program Bindings :=
  match i.origin with
  | .created => synchronize i.api t.region d [] false
  | .reused => do synchronize i.api t.region d (← existingAuthorizers i.api) true

/-- Everything after a definition has been taken by an API. -/
def complete (t : Target) (i : Imported) (d : Definition) (baseUrl : String) :
    Program Reference := do
  let resources ← fetchResources i.api
  let bindings ← synchronizeImported t i d
  let _ ← bindAll i.api resources baseUrl bindings
  let _ ← deploy i.api t.stage
  readReference i.api

/-! ## Reconciliation -/

/-- The base URL of a definition, or the failure that it has none. -/
def requireBaseUrl (d : Definition) : Program String :=
  Program.ofExcept (d.baseUrl.mapError .definition)

/-- Makes a new API from a definition and deploys it; the API is removed when a stage fails. -/
def importApi (t : Target) (d : Definition) : Program Reference := do
  let baseUrl ← requireBaseUrl d
  let imported ← importDefinition d
  (complete t imported d baseUrl).rescue (abandon imported.api)

/-- Writes a definition over an API and deploys it again. -/
def reimportApi (t : Target) (r : Reference) (d : Definition) : Program Reference := do
  let baseUrl ← requireBaseUrl d
  let imported ← overwriteDefinition r.api d
  complete t imported d baseUrl

/-- Makes a definition live: on the referenced API, or on a new one without a reference. -/
def sync (t : Target) (d : Definition) (r : Option Reference) : Program Reference :=
  match r with
  | none => importApi t d
  | some r => reimportApi t r d

/-- Takes an API down, and deletes it on request. -/
def tearDown (t : Target) (r : Reference) (delete : Bool) : Program Unit := do
  takeDown r.api t.stage
  if delete then
    let _ ← (deleteApi r.api).relabel (deploymentFailure .deleteApi r.api)

end ApiReconciler
