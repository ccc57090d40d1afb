import ApiReconciler.Gateway.Script
import ApiReconciler.Proofs.Gateway.Staging
import ApiReconciler.Proofs.Reconcile.Failures
import ApiReconciler.Proofs.Reconcile.Stages

/-!
# `ApiReconciler.Proofs.Reconcile.Teardown` — taking down is complete and can be repeated

The stage goes first and the deployments after it, because a gateway does not delete a deployment that a
stage points to. What can still be in the way is another stage, and nothing else is: this is `Removable`.
Each step is described by the view of the gateway before and after it, in which the API is the only one
that changes. A step that finds nothing to delete leaves what it would have left anyway, so the steps need
no case of their own for it, and neither does a second run.

Apart from what a gateway holds, taking down ends normally as soon as all that goes wrong is that objects
are missing. That is a matter of the failed calls alone (`Discipline.TearsDown`), once the deployments that
are listed can be named.

## Contents
- `StagedApi.Removable`, `StagedApi.takenDown`: when taking down succeeds, and what it leaves.
- `completes_removeStage`, `completes_deleteDeployments`, `completes_deleteApi`: the steps.
- `tearDown_completes`, `tearDown_fails`: the whole.
- `teardown_complete_and_repeatable`: **the result, what it leaves, and a second run**.
- `unnamedDeployment_fails`: a listed deployment without an identifier.
-/

namespace ApiReconciler

open Program

namespace StagedApi

variable {v : StagedApi} {stage id : String}

/-- No stage but the given one points to a deployment that is there. -/
def Removable (v : StagedApi) (stage : String) : Prop :=
  ∀ other id, other ≠ stage → v.stages other = some id → id ∉ v.deployments

/-- The API without a stage and without deployments. -/
def takenDown (v : StagedApi) (stage : String) : StagedApi :=
  ⟨Function.update v.stages stage none, ∅⟩

/-- Once the stage is gone, nothing points to the deployments. -/
theorem removable_iff : v.Removable stage ↔ ∀ id ∈ v.deployments, ¬(v.dropStage stage).Points id := by
  constructor
  · rintro h id hid ⟨other, hother⟩
    change Function.update v.stages stage none other = some id at hother
    by_cases hstage : other = stage
    · subst hstage
      rw [Function.update_self] at hother
      cases hother
    · rw [Function.update_of_ne hstage] at hother
      exact h other id hstage hother hid
  · intro h other id hother hpoints hid
    exact h id hid ⟨other, (Function.update_of_ne hother ..).trans hpoints⟩

theorem removable_takenDown (v : StagedApi) (stage : String) : (v.takenDown stage).Removable stage :=
  fun _ id _ _ => Set.notMem_empty id

@[simp] theorem takenDown_takenDown (v : StagedApi) (stage : String) :
    (v.takenDown stage).takenDown stage = v.takenDown stage :=
  StagedApi.ext (Function.update_idem ..) rfl

theorem dropStage_eq_self (h : v.stages stage = none) : v.dropStage stage = v :=
  StagedApi.ext (by rw [dropStage, ← h, Function.update_eq_self]) rfl

theorem dropDeployments_eq_self (h : id ∉ v.deployments) : v.dropDeployments {id} = v :=
  StagedApi.ext rfl (Set.sdiff_singleton_eq_self h)

end StagedApi

section

variable {σ : Type} {b : Backend σ} {view : σ → String → Option StagedApi} {s s₁ : σ} {api stage : String}
  {v : StagedApi}

/-! ## Steps that find nothing -/

section

variable {α : Type} {p : Program α} {xs : List Exchange} {f : CallFailure} {step : DeploymentStep} {value : α}

theorem completes_removing_missing (hp : Runs b p s xs (.error (.call f)) s₁) (hf : f.kind = .notFound) :
    Completes b (removing p step api value) s value s₁ := by
  have hhandler : Runs b (if f.kind = .notFound then .done value
      else .fail (deploymentFailure step api f) : Program α) s₁ [] (.ok value) s₁ := by
    rw [if_pos hf]
    exact runs_done value
  exact ⟨_, hp.rescue_error hhandler⟩

theorem runs_removing_other (hp : Runs b p s xs (.error (.call f)) s₁) (hf : f.kind ≠ .notFound) :
    ∃ ys, Runs b (removing p step api value) s ys (.error (deploymentFailure step api f)) s₁ := by
  have hhandler : Runs b (if f.kind = .notFound then .done value
      else .fail (deploymentFailure step api f) : Program α) s₁ []
      (.error (deploymentFailure step api f)) s₁ := by
    rw [if_neg hf]
    exact runs_fail _
  exact ⟨_, hp.rescue_error hhandler⟩

theorem completes_tolerateMissing (hp : Runs b p s xs (.error (.call f)) s₁) (hf : f.kind = .notFound) :
    Completes b (tolerateMissing p value) s value s₁ := by
  have hhandler : Runs b (if f.kind = .notFound then .done value else .fail (.call f) : Program α) s₁ []
      (.ok value) s₁ := by
    rw [if_pos hf]
    exact runs_done value
  exact ⟨_, hp.rescue_error hhandler⟩

end

variable (h : Stages b view)

include h

/-! ## The stage -/

/-- The stage is gone afterwards, whether it was there or not. -/
theorem completes_deleteStage (hv : view s api = some v) (stage : String) :
    ∃ s', Completes b (deleteStage api stage) s () s' ∧
      view s' = Function.update (view s) api (some (v.dropStage stage)) := by
  obtain ⟨a, s', v', hanswer, ⟨hno, hyes⟩, hview⟩ := h.answers (.deleteStage api stage) s api v rfl hv
  by_cases hstage : v.stages stage = none
  · obtain ⟨⟨fault, rfl, hmissing⟩, rfl⟩ := hno hstage
    rw [StagedApi.dropStage_eq_self hstage]
    exact ⟨s', completes_removing_missing (runs_perform_error hanswer).bind_error (hmissing _), hview⟩
  · obtain ⟨⟨reply, rfl⟩, rfl⟩ := hyes hstage
    refine ⟨s', Completes.rescue ?_, hview⟩
    exact (completes_perform hanswer).bind (Completes.note (completes_done ()))

/-- Without any stages nothing is asked, and there is nothing to delete. -/
theorem completes_removeStage (hv : view s api = some v) (stage : String) {items : List Value}
    {names : List String} (hshown : List.Forall₂ ShowsStage items names)
    (hnames : ∀ stage, stage ∈ names ↔ (v.stages stage).isSome = true) :
    ∃ s', Completes b (removeStage api stage (.list items)) s () s' ∧
      view s' = Function.update (view s) api (some (v.dropStage stage)) := by
  unfold removeStage
  cases hshown with
  | nil =>
      have hnone : v.stages stage = none := by
        rw [← Option.not_isSome_iff_eq_none, ← hnames]
        exact List.not_mem_nil
      rw [StagedApi.dropStage_eq_self hnone, ← hv, Function.update_eq_self]
      exact ⟨s, completes_done (), rfl⟩
  | cons _ _ => exact completes_deleteStage h hv stage

/-! ## The deployments -/

/-- The deletion of one deployment. -/
def removeDeployment (api id : String) : Program Unit :=
  removing ((perform (.deleteDeployment api id)).bind fun _ => .done ()) (.deleteDeployment id) api ()

/-- A deployment that nothing points to is gone afterwards, whether it was there or not. -/
theorem completes_removeDeployment (hv : view s api = some v) {id : String}
    (hfree : id ∈ v.deployments → ¬v.Points id) :
    ∃ s', Completes b (removeDeployment api id) s () s' ∧
      view s' = Function.update (view s) api (some (v.dropDeployments {id})) := by
  obtain ⟨a, s', v', hanswer, ⟨hno, -, hyes⟩, hview⟩ := h.answers (.deleteDeployment api id) s api v rfl hv
  by_cases hid : id ∈ v.deployments
  · obtain ⟨⟨reply, rfl⟩, rfl⟩ := hyes hid (hfree hid)
    refine ⟨s', Completes.rescue ?_, hview⟩
    exact (completes_perform hanswer).bind (completes_done ())
  · obtain ⟨⟨fault, rfl, hmissing⟩, rfl⟩ := hno hid
    rw [StagedApi.dropDeployments_eq_self hid]
    exact ⟨s', completes_removing_missing (runs_perform_error hanswer).bind_error (hmissing _), hview⟩

theorem fails_removeDeployment (hv : view s api = some v) {id : String} (hid : id ∈ v.deployments)
    (hpoints : v.Points id) : ∃ xs e s', Runs b (removeDeployment api id) s xs (.error e) s' := by
  obtain ⟨a, s', v', hanswer, ⟨-, hdeclined, -⟩, -⟩ := h.answers (.deleteDeployment api id) s api v rfl hv
  obtain ⟨⟨fault, rfl, hother⟩, -⟩ := hdeclined hid hpoints
  have hfails : ∃ ys, Runs b (removeDeployment api id) s ys _ s' :=
    runs_removing_other (runs_perform_error hanswer).bind_error (hother _)
  obtain ⟨ys, hfails⟩ := hfails
  exact ⟨ys, _, s', hfails⟩

omit h in
theorem deleteDeployments_cons (item : Object) (items : List Object) :
    deleteDeployments api (item :: items) =
      (textMember item "id").bind fun id =>
        (removeDeployment api id).bind fun _ => deleteDeployments api items := rfl

/-- All listed deployments are gone afterwards, if nothing points to them. -/
theorem completes_deleteDeployments {items : List Object} {ids : List String}
    (hshown : List.Forall₂ ShowsDeployment items ids) (hv : view s api = some v)
    (hfree : ∀ id ∈ ids, id ∈ v.deployments → ¬v.Points id) :
    ∃ s', Completes b (deleteDeployments api items) s () s' ∧
      view s' = Function.update (view s) api (some (v.dropDeployments {id | id ∈ ids})) := by
  induction hshown generalizing s v with
  | nil =>
      have hsame : v.dropDeployments {id | id ∈ []} = v :=
        StagedApi.ext rfl (by simp [StagedApi.dropDeployments])
      rw [hsame, ← hv, Function.update_eq_self]
      exact ⟨s, completes_done (), rfl⟩
  | @cons item id items ids hitem _ ih =>
      obtain ⟨hid, hids⟩ := List.forall_mem_cons.mp hfree
      obtain ⟨s₁, hfirst, hview₁⟩ := completes_removeDeployment h hv hid
      have hv₁ : view s₁ api = some (v.dropDeployments {id}) := by rw [hview₁, Function.update_self]
      -- the stages are as they were, so what is left is still free
      obtain ⟨s₂, hrest, hview₂⟩ := ih hv₁ fun id hmem hin => hids id hmem hin.1
      have hboth : (v.dropDeployments {id}).dropDeployments {id | id ∈ ids} =
          v.dropDeployments {other | other ∈ id :: ids} := by
        refine StagedApi.ext rfl ?_
        change (v.deployments \ {id}) \ {id | id ∈ ids} = v.deployments \ {other | other ∈ id :: ids}
        rw [Set.sdiff_sdiff]
        congr 1
        ext other
        simp
      rw [hview₁, Function.update_idem, hboth] at hview₂
      exact ⟨s₂, (completes_textMember hitem).bind (hfirst.bind hrest), hview₂⟩

/-- A listed deployment that a stage points to is in the way. -/
theorem fails_deleteDeployments {items : List Object} {ids : List String}
    (hshown : List.Forall₂ ShowsDeployment items ids) (hv : view s api = some v)
    (hblocked : ∃ id ∈ ids, id ∈ v.deployments ∧ v.Points id) :
    ∃ xs e s', Runs b (deleteDeployments api items) s xs (.error e) s' := by
  induction hshown generalizing s v with
  | nil =>
      obtain ⟨id, hid, -⟩ := hblocked
      cases hid
  | @cons item id items ids hitem _ ih =>
      rw [deleteDeployments_cons]
      by_cases hfirst : id ∈ v.deployments ∧ v.Points id
      · obtain ⟨xs, e, s', hfails⟩ := fails_removeDeployment h hv hfirst.1 hfirst.2
        exact ⟨_, e, s', (runs_textMember hitem).bind hfails.bind_error⟩
      -- the first one is not in the way, so another one is, and it is still there
      · obtain ⟨other, hother, hin, hpoints⟩ := hblocked
        have hne : other ≠ id := by
          rintro rfl
          exact hfirst ⟨hin, hpoints⟩
        have hlater := (List.mem_cons.mp hother).resolve_left hne
        obtain ⟨s₁, ⟨ys, hgone⟩, hview₁⟩ :=
          completes_removeDeployment h hv fun hid hpointed => hfirst ⟨hid, hpointed⟩
        have hv₁ : view s₁ api = some (v.dropDeployments {id}) := by rw [hview₁, Function.update_self]
        obtain ⟨zs, e, s', hfails⟩ := ih hv₁ ⟨other, hlater, ⟨hin, hne⟩, hpoints⟩
        exact ⟨_, e, s', (runs_textMember hitem).bind (hgone.bind hfails)⟩

/-! ## Taking down -/

/-- An API that does not exist is taken down already. -/
theorem completes_takeDown_absent (hnone : view s api = none) (stage : String) :
    ∃ s', Completes b (takeDown api stage) s () s' ∧ view s' = view s := by
  obtain ⟨a, s', hanswer, ⟨fault, rfl, hmissing⟩, hview⟩ := h.missing (.getStages api) s api rfl hnone
  refine ⟨s', ?_, hview⟩
  rw [takeDown_eq]
  have hstages : Runs b ((Program.stages api).bind fun stages => .done (some stages)) s _
      (.error (.call ⟨Operation.getStages.name, fault⟩)) s' :=
    (runs_perform_error hanswer).bind_error.bind_error
  exact (completes_removing_missing hstages (hmissing _)).bind (completes_done ())

/-- Up to the listing of the deployments all goes well: the stages are listed, and the stage is gone. -/
theorem takeDown_begins (hv : view s api = some v) (stage : String) :
    ∃ s₁ stages, Completes b
        (removing ((Program.stages api).bind fun stages => .done (some stages)) .listStages api none) s
        (some stages) s₁ ∧
      ∃ s₂ items ids s₃, Completes b (removeStage api stage stages) s₁ () s₂ ∧
        Completes b (removing ((Program.collect (.deployments api)).bind fun items => .done (some items))
          .listDeployments api none) s₂ (some items) s₃ ∧
        List.Forall₂ ShowsDeployment items ids ∧ (∀ id, id ∈ ids ↔ id ∈ v.deployments) ∧
        view s₃ = Function.update (view s) api (some (v.dropStage stage)) := by
  obtain ⟨a, s₁, v', hanswer, ⟨rfl, reply, items, names, rfl, hitems, hshown, hnames⟩, hview₁⟩ :=
    h.answers (.getStages api) s api v rfl hv
  have hstages : Completes b
      (removing ((Program.stages api).bind fun stages => .done (some stages)) .listStages api none) s
      (some ((reply.get? "item").getD (.list []))) s₁ := by
    have hread : Completes b (Program.stages api) s ((reply.get? "item").getD (.list [])) s₁ :=
      (completes_perform hanswer).bind (completes_done ((reply.get? "item").getD (.list [])))
    exact Completes.rescue (hread.bind (completes_done (some ((reply.get? "item").getD (.list [])))))
  rw [hitems] at hstages
  have hv₁ : view s₁ api = some v := by rw [hview₁, Function.update_self]
  obtain ⟨s₂, hremoved, hview₂⟩ := completes_removeStage h hv₁ stage hshown hnames
  have hv₂ : view s₂ api = some (v.dropStage stage) := by rw [hview₂, Function.update_self]
  obtain ⟨listed, ids, pages, s₃, hlist, hids, hsame, hview₃⟩ := h.lists api s₂ _ hv₂
  refine ⟨s₁, _, hstages, s₂, listed, ids, s₃, hremoved, ?_, hids, hsame, ?_⟩
  · exact Completes.rescue ((completes_collect hlist).bind (completes_done _))
  · rw [hview₃, hview₂, hview₁, Function.update_idem]

/-- The stage and the deployments are gone afterwards, unless another stage is in the way. -/
theorem completes_takeDown (hv : view s api = some v) (hremovable : v.Removable stage) :
    ∃ s', Completes b (takeDown api stage) s () s' ∧
      view s' = Function.update (view s) api (some (v.takenDown stage)) := by
  obtain ⟨s₁, stages, hstages, s₂, items, ids, s₃, hremoved, hlisted, hshown, hids, hview₃⟩ :=
    takeDown_begins h hv stage
  have hv₃ : view s₃ api = some (v.dropStage stage) := by rw [hview₃, Function.update_self]
  obtain ⟨s₄, hdeleted, hview₄⟩ := completes_deleteDeployments h hshown hv₃
    fun id _ hid => StagedApi.removable_iff.mp hremovable id hid
  refine ⟨s₄, ?_, ?_⟩
  · rw [takeDown_eq]
    refine hstages.bind (hremoved.bind (hlisted.bind ?_))
    exact hdeleted.bind (Completes.note (completes_done ()))
  · have hall : (v.dropStage stage).dropDeployments {id | id ∈ ids} = v.takenDown stage := by
      refine StagedApi.ext rfl (Set.sdiff_eq_empty.mpr fun id hid => (hids id).mpr hid)
    rw [hview₄, hview₃, Function.update_idem, hall]

/-- Another stage that points to a deployment is in the way. -/
theorem fails_takeDown (hv : view s api = some v) (hblocked : ¬v.Removable stage) :
    ∃ xs e s', Runs b (takeDown api stage) s xs (.error e) s' := by
  obtain ⟨s₁, stages, ⟨_, hstages⟩, s₂, items, ids, s₃, ⟨_, hremoved⟩, ⟨_, hlisted⟩, hshown, hids, hview₃⟩ :=
    takeDown_begins h hv stage
  have hv₃ : view s₃ api = some (v.dropStage stage) := by rw [hview₃, Function.update_self]
  rw [StagedApi.removable_iff] at hblocked
  push Not at hblocked
  obtain ⟨id, hid, hpoints⟩ := hblocked
  obtain ⟨xs, e, s', hfails⟩ := fails_deleteDeployments h hshown hv₃ ⟨id, (hids id).mpr hid, hid, hpoints⟩
  rw [takeDown_eq]
  exact ⟨_, e, s', hstages.bind (hremoved.bind (hlisted.bind hfails.bind_error))⟩

/-! ## The API -/

/-- The API is gone afterwards, whether it was there or not. -/
theorem completes_deleteApi (s : σ) (api : String) :
    ∃ isDeleted s', Completes b (deleteApi api) s isDeleted s' ∧
      view s' = Function.update (view s) api none := by
  have hnoted : ∀ isDeleted s', Completes b ((noteDeleted api isDeleted).bind fun _ => .done isDeleted) s'
      isDeleted s' := by
    intro isDeleted s'
    cases isDeleted with
    | true => exact Completes.note (completes_done true)
    | false => exact completes_done false
  rw [deleteApi_eq]
  cases hv : view s api with
  | none =>
      obtain ⟨a, s', hanswer, ⟨fault, rfl, hmissing⟩, hview⟩ := h.missing (.getApi api) s api rfl hv
      refine ⟨false, s', ?_, ?_⟩
      · exact (completes_tolerateMissing (runs_perform_error hanswer).bind_error (hmissing _)).bind
          (hnoted false s')
      · rw [hview, ← hv, Function.update_eq_self]
  | some v =>
      obtain ⟨a, s₁, v₁, hshown, ⟨⟨shown, rfl⟩, rfl⟩, hview₁⟩ := h.answers (.getApi api) s api v rfl hv
      have hv₁ : view s₁ api = some v := by rw [hview₁, Function.update_self]
      obtain ⟨a, s₂, v₂, hgone, ⟨⟨gone, rfl⟩, rfl⟩, hview₂⟩ := h.answers (.deleteApi api) s₁ api v rfl hv₁
      refine ⟨true, s₂, Completes.bind (Completes.rescue ?_) (hnoted true s₂), ?_⟩
      · exact (completes_perform hshown).bind ((completes_perform hgone).bind (completes_done true))
      · rw [hview₂, hview₁, Function.update_idem]

/-! ## The whole -/

omit h in
/-- What is left of an API that was taken down. -/
def leftOf (stage : String) (delete : Bool) (v : Option StagedApi) : Option StagedApi :=
  if delete then none else v.map fun v => v.takenDown stage

/-- **Taking down succeeds** when no other stage is in the way, and it changes nothing but the API. -/
theorem tearDown_completes (t : Target) (r : Reference) (delete : Bool)
    (hremovable : ∀ v, view s r.api = some v → v.Removable t.stage) :
    ∃ s', Completes b (tearDown t r delete) s () s' ∧
      view s' = Function.update (view s) r.api (leftOf t.stage delete (view s r.api)) := by
  have htaken : ∃ s₁, Completes b (takeDown r.api t.stage) s () s₁ ∧
      view s₁ = Function.update (view s) r.api ((view s r.api).map fun v => v.takenDown t.stage) := by
    cases hv : view s r.api with
    | none =>
        obtain ⟨s₁, hdone, hview⟩ := completes_takeDown_absent h hv t.stage
        refine ⟨s₁, hdone, ?_⟩
        rw [hview, Option.map_none, ← hv, Function.update_eq_self]
    | some v => exact completes_takeDown h hv (hremovable v hv)
  obtain ⟨s₁, htaken, hview₁⟩ := htaken
  rw [tearDown_eq]
  cases delete with
  | false => exact ⟨s₁, htaken.bind (completes_done ()), hview₁⟩
  | true =>
      obtain ⟨isDeleted, s₂, hdeleted, hview₂⟩ := completes_deleteApi h s₁ r.api
      refine ⟨s₂, htaken.bind (hdeleted.relabel.bind (completes_done ())), ?_⟩
      rw [hview₂, hview₁, Function.update_idem]
      rfl

theorem tearDown_fails (t : Target) (r : Reference) (delete : Bool) (hv : view s r.api = some v)
    (hblocked : ¬v.Removable t.stage) : ∃ xs e s', Runs b (tearDown t r delete) s xs (.error e) s' := by
  obtain ⟨xs, e, s', hfails⟩ := fails_takeDown h hv hblocked
  rw [tearDown_eq]
  exact ⟨xs, e, s', hfails.bind_error⟩

omit h in
/-- What was taken down is left as it is by a second run. -/
theorem leftOf_leftOf (stage : String) (delete : Bool) (v : Option StagedApi) :
    leftOf stage delete (leftOf stage delete v) = leftOf stage delete v := by
  cases delete with
  | true => rfl
  | false => cases v <;> simp [leftOf]

end

/-! ## Replies -/

/-- Listed deployments have identifiers. -/
def Exchange.ListsIdentified : Exchange → Prop
  | .list (.deployments _) (.ok items) => ∀ item ∈ items, Identified item
  | _ => True

/-- The discipline of a teardown in which nothing goes wrong but that objects are missing. -/
def goingOn : Discipline where
  admits := Exchange.ListsIdentified
  tolerates _ f := f.kind = .notFound
  reports _ _ _ := True
  allows _ := False

theorem goingOn_tearsDown : goingOn.TearsDown True where
  tolerates _ _ := Iff.rfl
  reports _ _ _ _ _ _ := trivial
  listed _ _ h _ := h
  allows _ h := absurd trivial h

/-- A teardown in which objects are missing and nothing else goes wrong ends normally. -/
theorem tearDown_goes_on {t : Target} {r : Reference} {delete : Bool} {xs : List Exchange}
    {result : Except Failure Unit} (htrace : (tearDown t r delete).Trace xs result)
    (hmissing : ∀ x ∈ xs, ∀ f, x.failure? = some f → f.kind = .notFound)
    (hlisted : ∀ x ∈ xs, x.ListsIdentified) : result = .ok () := by
  have haccounts := (tearDown_obeys_of goingOn_tearsDown t r delete).accounts hlisted htrace
  cases result with
  | ok u => rfl
  | error e =>
      rcases haccounts.accounted e rfl with hnever | ⟨pre, x, f, rfl, hx, hfatal, -⟩
      · exact hnever.elim
      · exact absurd (hmissing x (List.mem_append_right _ List.mem_cons_self) f hx) hfatal

/-! ## Teardown -/

/-- **Taking down is complete and can be repeated.** On a gateway that keeps stages and deployments it
succeeds exactly when the API is absent or no other stage points to a deployment of it. It then leaves the
API without the stage and without deployments, or not at all if it is to be deleted, and everything else as
it was; a second run succeeds and changes nothing. Whatever the gateway, it succeeds when nothing goes wrong
but that objects are missing, as long as the listed deployments have identifiers. -/
theorem teardown_complete_and_repeatable {σ : Type} {b : Backend σ} {view : σ → String → Option StagedApi}
    (h : Stages b view) (s : σ) (t : Target) (r : Reference) (delete : Bool) :
    (((tearDown t r delete).run b s).result = .ok () ↔
      view s r.api = none ∨ ∃ v, view s r.api = some v ∧
        ∀ other id, other ≠ t.stage → v.stages other = some id → id ∉ v.deployments) ∧
    (((tearDown t r delete).run b s).result = .ok () →
      view ((tearDown t r delete).run b s).state =
          Function.update (view s) r.api
            (if delete then none
              else (view s r.api).map fun v => ⟨Function.update v.stages t.stage none, ∅⟩) ∧
        ((tearDown t r delete).run b ((tearDown t r delete).run b s).state).result = .ok () ∧
        view ((tearDown t r delete).run b ((tearDown t r delete).run b s).state).state =
          view ((tearDown t r delete).run b s).state) ∧
    ∀ xs result, (tearDown t r delete).Trace xs result →
      (∀ x ∈ xs, ∀ f, x.failure? = some f → f.kind = .notFound) → (∀ x ∈ xs, x.ListsIdentified) →
      result = .ok () := by
  have hcompletes : ∀ s, (∀ v, view s r.api = some v → v.Removable t.stage) →
      ((tearDown t r delete).run b s).result = .ok () ∧
        view ((tearDown t r delete).run b s).state =
          Function.update (view s) r.api (leftOf t.stage delete (view s r.api)) := by
    intro s hremovable
    obtain ⟨s', ⟨xs, hruns⟩, hview⟩ := tearDown_completes h t r delete hremovable
    exact ⟨hruns.result, by rw [hruns.state, hview]⟩
  have hremovable : ((tearDown t r delete).run b s).result = .ok () →
      ∀ v, view s r.api = some v → v.Removable t.stage := by
    intro hok v hv
    by_contra hblocked
    obtain ⟨xs, e, s', hfails⟩ := tearDown_fails h t r delete hv hblocked
    rw [hfails.result] at hok
    cases hok
  refine ⟨⟨fun hok => ?_, fun hstate => (hcompletes s fun v hv => ?_).1⟩, fun hok => ?_,
    fun xs result htrace hmissing hlisted => tearDown_goes_on htrace hmissing hlisted⟩
  · cases hv : view s r.api with
    | none => exact .inl rfl
    | some v => exact .inr ⟨v, rfl, hremovable hok v hv⟩
  · rcases hstate with hnone | ⟨w, hw, hfree⟩
    · rw [hnone] at hv
      cases hv
    · obtain rfl := Option.some.inj (hw.symm.trans hv)
      exact hfree
  · have hfirst := (hcompletes s (hremovable hok)).2
    have hleft : view ((tearDown t r delete).run b s).state r.api = leftOf t.stage delete (view s r.api) := by
      rw [hfirst, Function.update_self]
    -- what is left has no deployments, so nothing is in the way of a second run
    obtain ⟨hagain, hsecond⟩ := hcompletes ((tearDown t r delete).run b s).state fun w hw => by
      rw [hleft] at hw
      unfold leftOf at hw
      split at hw
      · cases hw
      · obtain ⟨v, -, rfl⟩ := Option.map_eq_some_iff.mp hw
        exact v.removable_takenDown t.stage
    refine ⟨hfirst, hagain, ?_⟩
    rw [hsecond, hleft, leftOf_leftOf, ← hleft, Function.update_eq_self]

/-! ### Two gateways -/

/-- An API with a stage to take down and another one whose deployment is gone, and a second API. -/
def twoApis : Staging := fun api =>
  if api = "a" then some ⟨[("live", "1"), ("old", "9")], ["1", "2"]⟩
  else if api = "b" then some ⟨[("live", "1")], ["1"]⟩
  else none

/-- Replies of a gateway on which stage, deployment and API are gone by the time they are deleted. -/
def vanishingReplies : Script
  | .getStages => [.ok [(.text "item", .list [.object [(.text "stageName", .text "live")]])]]
  | .deleteStage | .getApi => [Memory.refusal "NotFoundException"]
  | .getDeployments => [.ok [(.text "items", .list [.object (identified "1")])]]
  | .deleteDeployment => [Memory.refusal "ResourceNotFoundException"]
  | _ => []

/-- The exchanges of a teardown with these replies. -/
def vanishingExchanges : List Exchange :=
  (tearDown ⟨"eu", "live"⟩ ⟨"a", []⟩ true).exchanges (Script.backend true) vanishingReplies

theorem twoApis_taken_down :
    Stages stagingGateway Staging.view ∧
      ((tearDown ⟨"eu", "live"⟩ ⟨"a", []⟩ false).run stagingGateway twoApis).result = .ok () ∧
      Staging.view ((tearDown ⟨"eu", "live"⟩ ⟨"a", []⟩ false).run stagingGateway twoApis).state =
        Function.update twoApis.view "a"
          ((twoApis.view "a").map fun v => ⟨Function.update v.stages "live" none, ∅⟩) ∧
      (∀ x ∈ vanishingExchanges, ∀ f, x.failure? = some f → f.kind = .notFound) ∧
      (∀ x ∈ vanishingExchanges, x.ListsIdentified) ∧
      ((tearDown ⟨"eu", "live"⟩ ⟨"a", []⟩ true).run (Script.backend true) vanishingReplies).result = .ok () := by
  have hfree : ∀ other id, other ≠ "live" →
      ArrivalMap.get? other [("live", "1"), ("old", "9")] = some id →
        id ∉ ({id | id ∈ ["1", "2"]} : Set String) := by
    intro other id hother hpoints
    rw [ArrivalMap.get?_cons, if_neg hother.symm, ArrivalMap.get?_cons] at hpoints
    split_ifs at hpoints
    · rw [← Option.some.inj hpoints]
      decide
    · cases hpoints
  obtain ⟨hiff, hleft, -⟩ := teardown_complete_and_repeatable stagingGateway_stages twoApis ⟨"eu", "live"⟩
    ⟨"a", []⟩ false
  have hok := hiff.mpr (.inr ⟨_, rfl, hfree⟩)
  have hnone : ∀ x : Exchange, x.failure? = none → ∀ f, x.failure? = some f → f.kind = .notFound :=
    fun x hx f hf => by rw [hx] at hf; cases hf
  have hsome : ∀ (x : Exchange) (g : CallFailure), x.failure? = some g → g.kind = .notFound →
      ∀ f, x.failure? = some f → f.kind = .notFound :=
    fun x g hg hkind f hf => by rw [hg] at hf; rwa [← Option.some.inj hf]
  have hmissing : ∀ x ∈ vanishingExchanges, ∀ f, x.failure? = some f → f.kind = .notFound :=
    List.forall_mem_cons.mpr ⟨hnone _ rfl, List.forall_mem_cons.mpr ⟨hsome _ _ rfl rfl,
      List.forall_mem_cons.mpr ⟨hnone _ rfl, List.forall_mem_cons.mpr ⟨hsome _ _ rfl rfl,
        List.forall_mem_singleton.mpr (hsome _ _ rfl rfl)⟩⟩⟩⟩
  have hlisted : ∀ x ∈ vanishingExchanges, x.ListsIdentified :=
    List.forall_mem_cons.mpr ⟨trivial, List.forall_mem_cons.mpr ⟨trivial,
      List.forall_mem_cons.mpr ⟨List.forall_mem_singleton.mpr ⟨"1", rfl⟩,
        List.forall_mem_cons.mpr ⟨trivial, List.forall_mem_singleton.mpr trivial⟩⟩⟩⟩
  obtain ⟨-, -, hscript⟩ := teardown_complete_and_repeatable stagingGateway_stages twoApis ⟨"eu", "live"⟩
    ⟨"a", []⟩ true
  exact ⟨stagingGateway_stages, hok, (hleft hok).1, hmissing, hlisted,
    hscript vanishingExchanges _ (trace_run (Script.backend true) _ vanishingReplies) hmissing hlisted⟩

/-- Replies of a gateway that lists a deployment without an identifier. -/
def unnamedReplies : Script
  | .getDeployments => [.ok [(.text "items", .list [.object []])]]
  | _ => []

/-- **A deployment without an identifier cannot be deleted**: no reply is an error, let alone one that is not
about a missing object, but the teardown fails. -/
theorem unnamedDeployment_fails :
    (∀ op, ∀ a ∈ unnamedReplies op, ∀ fault, a = .error fault → fault.IsMissing) ∧
      ((tearDown ⟨"us-east-1", "prod"⟩ ⟨"a", []⟩ false).run (Script.backend true) unnamedReplies).result =
        .error (.missingMember "id") := by
  refine ⟨fun op a ha fault hfault => ?_, rfl⟩
  cases op with
  | getDeployments =>
      rw [List.mem_singleton.mp ha] at hfault
      cases hfault
  | _ => cases ha

end ApiReconciler
