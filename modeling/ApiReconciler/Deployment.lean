import ApiReconciler.Gateway.Reading

/-!
# `ApiReconciler.Deployment` — one live deployment of an API

An API is deployed to a stage, and the deployments that this one supersedes are deleted as far as
possible. Taking an API down deletes the stage and every deployment; what is already gone counts as
deleted.

## Contents
- `deploy`, `pruneDeployments`: deploying.
- `takeDown`: removing the stage and the deployments; `deleteApi`: removing the API itself.
-/

namespace ApiReconciler

open Program (perform)

/-- A failed step as a failure. -/
def deploymentFailure (step : DeploymentStep) (api : String) (cause : CallFailure) : Failure :=
  .deploying ⟨step, api, cause⟩

/-! ## Deploying -/

/-- Tries to delete the deployments other than `keep`; the result lists those that are left. -/
def deleteOthers (api keep : String) : List Object → Program (List String)
  | [] => .done []
  | item :: items => do
    let id ← Program.textMember item "id"
    if id = keep then deleteOthers api keep items
    else
      let isLeft ← Program.rescueCall
        (do
          let _ ← perform (.deleteDeployment api id)
          return false)
        fun cause => do
          Program.log (.deploymentUndeleted id api cause)
          return true
      let left ← deleteOthers api keep items
      return if isLeft then id :: left else left

/-- Tries to delete every deployment of an API other than `keep`; the result lists those that are
left. When the deployments cannot be listed none is deleted. -/
def pruneDeployments (api keep : String) : Program (List String) := do
  let listed ← Program.rescueCall
    (do return some (← Program.collect (.deployments api)))
    fun cause => do
      Program.log (.deploymentsUnlisted api cause)
      return none
  match listed with
  | none => return []
  | some items => deleteOthers api keep items

/-- Deploys an API to a stage and deletes its older deployments; the result is the new one. -/
def deploy (api stage : String) : Program String := do
  let reply ← (perform (.createDeployment api stage)).relabel (deploymentFailure (.deploy stage) api)
  let deployment ← Program.textMember reply "id"
  Program.log (.deployed api stage deployment)
  let left ← pruneDeployments api deployment
  if left ≠ [] then Program.log (.superseded api left)
  return deployment

/-! ## Taking down -/

/-- A program whose failed calls are failures of a step, save that a missing object gives a
value. -/
def removing {α : Type} (p : Program α) (step : DeploymentStep) (api : String) (missing : α) :
    Program α :=
  p.rescueCall fun cause =>
    if cause.kind = .notFound then .done missing else .fail (deploymentFailure step api cause)

/-- Deletes a stage. -/
def deleteStage (api stage : String) : Program Unit :=
  removing
    (do
      let _ ← perform (.deleteStage api stage)
      Program.log (.stageDeleted stage api))
    (.deleteStage stage) api ()

/-- Deletes listed deployments. -/
def deleteDeployments (api : String) : List Object → Program Unit
  | [] => .done ()
  | item :: items => do
    let id ← Program.textMember item "id"
    removing (do let _ ← perform (.deleteDeployment api id)) (.deleteDeployment id) api ()
    deleteDeployments api items

/-- Deletes the stage of an API, if the API has stages, and then every deployment. -/
def takeDown (api stage : String) : Program Unit := do
  let stages ← removing (some <$> Program.stages api) .listStages api none
  match stages with
  | none => return ()
  | some stages =>
    if stages.isTruthy then deleteStage api stage
    let listed ← removing (some <$> Program.collect (.deployments api)) .listDeployments api none
    match listed with
    | none => return ()
    | some items =>
      deleteDeployments api items
      Program.log (.undeployed api)

/-! ## APIs -/

/-- Deletes an API if it is there; the result says whether it was. -/
def deleteApi (api : String) : Program Bool := do
  let isDeleted ← Program.tolerateMissing
    (do
      let _ ← perform (.getApi api)
      let _ ← perform (.deleteApi api)
      return true)
    false
  if isDeleted then Program.log (.apiDeleted api)
  return isDeleted

end ApiReconciler
