import ApiReconciler.Proofs.Gateway.Exchange
import ApiReconciler.Reconcile

/-!
# `ApiReconciler.Proofs.Reconcile.Stages` — the stages as sequences of steps

Each equation writes a stage out as the binds it consists of, with the branches inside the steps. Proofs
about a stage start by rewriting with its equation and then go through the steps from left to right.
-/

namespace ApiReconciler

open Program

/-- The deletions of a synchronization, if any are asked for. -/
def pruneAuthorizers (api : String) (required : List AuthorizerKey) (duplicates : List Existing)
    (prune : Bool) (b : Bindings) : Program Bindings :=
  if prune then
    deleteSuperfluous api required (duplicates ++ b.ids.filter fun a => a.1 ∉ required) b
  else .done b

theorem synchronize_eq (api region : String) (d : Definition) (existing : List Existing)
    (prune : Bool) :
    synchronize api region d existing prune =
      (ofExcept (d.requiredAuthorizers.mapError PolicyFault.failure)).bind
        fun scopes =>
          (createMissing api region (requiredKeys scopes)
              ⟨scopes, (partitionExisting existing [] []).1, [], []⟩).bind fun b =>
            (pruneAuthorizers api (requiredKeys scopes) (partitionExisting existing [] []).2 prune
                b).bind fun b =>
              .note (.authorizersSynchronized api (requiredKeys scopes).length b.created.length
                b.deleted.length) (.done b) := by
  cases prune <;> rfl

/-- An attempt to delete a deployment; the result says whether it is left. -/
def tryDelete (api id : String) : Program Bool :=
  ((perform (.deleteDeployment api id)).bind fun _ => .done false).rescueCall fun cause =>
    .note (.deploymentUndeleted id api cause) (.done true)

/-- A deployment that is listed with its identifier is passed over if it is the one to keep. Otherwise a
deletion is attempted, and the loop goes on whatever comes of it. -/
theorem deleteOthers_cons (api keep : String) {item : Object} {id : String}
    (hid : item.get? "id" = some (.text id)) (items : List Object) :
    deleteOthers api keep (item :: items) =
      if id = keep then deleteOthers api keep items
      else (tryDelete api id).bind fun isLeft => (deleteOthers api keep items).bind fun left =>
        .done (if isLeft then id :: left else left) := by
  rw [deleteOthers, textMember_eq_done hid]
  rfl

/-- The note on the deployments that are left, if there are any. -/
def noteSuperseded (api : String) (left : List String) : Program Unit :=
  if left ≠ [] then Program.log (.superseded api left) else .done ()

theorem deploy_eq (api stage : String) :
    deploy api stage =
      ((perform (.createDeployment api stage)).relabel (deploymentFailure (.deploy stage) api)).bind
        fun reply =>
          (textMember reply "id").bind fun deployment =>
            .note (.deployed api stage deployment)
              ((pruneDeployments api deployment).bind fun left =>
                (noteSuperseded api left).bind fun _ => .done deployment) := by
  refine congrArg (Program.bind _) (funext fun reply => congrArg (Program.bind _) (funext fun id => ?_))
  refine congrArg (Program.note _) ?_
  rw [done_bind]
  refine congrArg (Program.bind _) (funext fun left => ?_)
  by_cases h : left = [] <;> simp [noteSuperseded, h]

/-- The note on a deleted API, if it was there. -/
def noteDeleted (api : String) (isDeleted : Bool) : Program Unit :=
  if isDeleted then Program.log (.apiDeleted api) else .done ()

theorem deleteApi_eq (api : String) :
    deleteApi api =
      (tolerateMissing
        ((perform (.getApi api)).bind fun _ => (perform (.deleteApi api)).bind fun _ => .done true)
        false).bind fun isDeleted =>
          (noteDeleted api isDeleted).bind fun _ => .done isDeleted := by
  refine congrArg (Program.bind _) (funext fun isDeleted => ?_)
  cases isDeleted <;> rfl

theorem abandon_eq {α : Type} (api : String) (e : Failure) :
    (abandon api e : Program α) =
      .note (.importFailed api e) (.note (.rollingBack api)
        (((deleteApi api).rescueCall fun cause =>
            .note (.rollbackFailed api cause) (.fail (.rollback api cause e))).bind fun _ =>
          .fail e)) := by
  refine congrArg (Program.note _) (congrArg (Program.note _) ?_)
  rw [done_bind, bind_eq, Program.bind_assoc]
  rfl

/-- The deletion of the stage, if the API has stages. -/
def removeStage (api stage : String) (stages : Value) : Program Unit :=
  if stages.isTruthy then deleteStage api stage else .done ()

/-- The deletion of deployments that could be listed. -/
def removeDeployments (api : String) : Option (List Object) → Program Unit
  | none => .done ()
  | some items => (deleteDeployments api items).bind fun _ => Program.log (.undeployed api)

/-- What follows the listing of the stages. -/
def removeListed (api stage : String) : Option Value → Program Unit
  | none => .done ()
  | some stages =>
    (removeStage api stage stages).bind fun _ =>
      (removing ((Program.collect (.deployments api)).bind fun items => .done (some items))
        .listDeployments api none).bind (removeDeployments api)

theorem takeDown_eq (api stage : String) :
    takeDown api stage =
      (removing ((Program.stages api).bind fun stages => .done (some stages)) .listStages api none).bind
        (removeListed api stage) := by
  refine congrArg (Program.bind _) (funext fun stages => ?_)
  cases stages with
  | none => rfl
  | some stages =>
      have hlisted : ∀ listed, (match listed with
          | none => return ()
          | some items => do
            deleteDeployments api items
            Program.log (.undeployed api)) = removeDeployments api listed := by
        intro listed
        cases listed <;> rfl
      simp only [← funext hlisted, removeListed, removeStage]
      by_cases h : stages.isTruthy = true
      · simp only [h, if_true]
        rfl
      · simp only [h]
        rfl

theorem tearDown_eq (t : Target) (r : Reference) (delete : Bool) :
    tearDown t r delete = (takeDown r.api t.stage).bind fun _ =>
      if delete then
        ((deleteApi r.api).relabel (deploymentFailure .deleteApi r.api)).bind fun _ => .done ()
      else .done () := by
  cases delete <;> rfl

/-! ## Notes -/

/-- Notes exchange nothing. -/
theorem runs_logAll {σ : Type} {b : Backend σ} {s : σ} (ns : List Note) :
    Runs b (logAll ns) s [] (.ok ()) s := by
  induction ns with
  | nil => exact runs_done ()
  | cons n ns ih => exact ih.note

/-! ## Reconciliations of definitions with a base URL -/

variable {d : Definition} {baseUrl : String}

/-- Both readings of a configuration take the same URL: the one that binding uses tells mappings and texts from
other values by their form, and the other one looks for members in all values and takes the texts. -/
theorem productionBaseUrl_eq (ms : Object) :
    productionBaseUrl ms = (productionUrl ms).map dropTrailingSlash := by
  unfold productionBaseUrl productionUrl
  cases ms.get? "production_endpoints" with
  | none => rfl
  | some production =>
      cases production with
      | scalar k => rfl
      | list xs => rfl
      | object members =>
          simp only [Value.members, Option.bind_eq_bind, Option.bind_some]
          cases Object.get? "url" members with
          | none => rfl
          | some url =>
              cases url with
              | list xs => rfl
              | object ms => rfl
              | scalar k =>
                  cases k with
                  | text text =>
                      by_cases hempty : text = ""
                      · simp [Value.text?, hempty]
                      · simp [Value.text?, hempty]
                  | _ => rfl

theorem baseUrl_of_productionEndpoint {url : String} (h : d.productionEndpoint = some url) :
    d.baseUrl = .ok (dropTrailingSlash url) := by
  unfold Definition.productionEndpoint at h
  unfold Definition.baseUrl
  cases hm : d.endpoint.members with
  | error e =>
      rw [hm] at h
      cases h
  | ok ms =>
      rw [hm] at h
      have hbase : productionBaseUrl ms = some (dropTrailingSlash url) := by
        rw [productionBaseUrl_eq, show productionUrl ms = some url from h, Option.map_some]
      simp only [hbase]

theorem requireBaseUrl_ok (h : d.baseUrl = .ok baseUrl) : requireBaseUrl d = .done baseUrl := by
  rw [requireBaseUrl, h]; rfl

theorem requireBaseUrl_error {fault : DefinitionFault} (h : d.baseUrl = .error fault) :
    requireBaseUrl d = .fail (.definition fault) := by
  rw [requireBaseUrl, h]; rfl

theorem importApi_eq (t : Target) (h : d.baseUrl = .ok baseUrl) :
    importApi t d = (importDefinition d).bind fun imported =>
      (complete t imported d baseUrl).rescue (abandon imported.api) := by
  rw [importApi, requireBaseUrl_ok h]; rfl

theorem reimportApi_eq (t : Target) (r : Reference) (h : d.baseUrl = .ok baseUrl) :
    reimportApi t r d = (overwriteDefinition r.api d).bind fun imported =>
      complete t imported d baseUrl := by
  rw [reimportApi, requireBaseUrl_ok h]; rfl

end ApiReconciler
