import ApiReconciler.Proofs.ArrivalMap
import ApiReconciler.Proofs.Gateway.Memory

/-!
# `ApiReconciler.Proofs.Gateway.Staging` — gateways that deploy APIs to stages

Taking an API down undoes what deployments left: the stage, the deployments, and the API itself. What a
gateway does with that is told apart from the rest of its behaviour here, because it is about all of its
APIs at once: an API can be absent, and what is done to one leaves the others alone.

`StagedApi` is what is held for an API, as a map of stages and a set of deployments without any order.
Requests about what is not there fail because it is not there, and a deployment that a stage points to is
not deleted, which is another failure. Everything else is done as asked.

## Contents
- `StagedApi`: stages with the deployments they point to, and deployments.
- `StagedApi.Answered`, `Stages`: the behaviour, and a backend of this behaviour.
- `stagingGateway`, `stagingGateway_stages`: a backend in memory that behaves so.
-/

namespace ApiReconciler

/-! ## Stages and deployments -/

/-- What a gateway holds for an API as far as its deployments are concerned: the deployment that each stage
points to, and the deployments. -/
@[ext] structure StagedApi where
  stages : String → Option String
  deployments : Set String

namespace StagedApi

/-- Some stage points to a deployment. -/
def Points (v : StagedApi) (id : String) : Prop := ∃ stage, v.stages stage = some id

/-- The API without a stage. -/
def dropStage (v : StagedApi) (stage : String) : StagedApi :=
  { v with stages := Function.update v.stages stage none }

/-- The API without some deployments. -/
def dropDeployments (v : StagedApi) (ids : Set String) : StagedApi :=
  { v with deployments := v.deployments \ ids }

end StagedApi

/-! ## Behaviour -/

/-- A fault by which a call fails because what it addresses does not exist. -/
def CallFault.IsMissing (fault : CallFault) : Prop :=
  ∀ operation, CallFailure.kind ⟨operation, fault⟩ = .notFound

/-- A fault by which a call fails for another reason. -/
def CallFault.IsOther (fault : CallFault) : Prop :=
  ∀ operation, CallFailure.kind ⟨operation, fault⟩ ≠ .notFound

/-- The call fails because what it addresses does not exist. -/
def Missing (a : Answer) : Prop := ∃ fault, a = .error fault ∧ fault.IsMissing

/-- The call fails although what it addresses exists. -/
def Declined (a : Answer) : Prop := ∃ fault, a = .error fault ∧ fault.IsOther

/-- An object that shows a stage of a name. -/
def ShowsStage (item : Value) (stage : String) : Prop :=
  ∃ ms : Object, item = .object ms ∧ ms.get? "stageName" = some (.text stage)

/-- An object that shows a deployment. -/
def ShowsDeployment (item : Object) (id : String) : Prop := item.get? "id" = some (.text id)

/-- The answers to a call on an API that is there, and what they leave of it. -/
def StagedApi.Answered : Call → StagedApi → Answer → Option StagedApi → Prop
  | .getApi _, v, a, v' => Accepted a ∧ v' = some v
  | .deleteApi _, _, a, v' => Accepted a ∧ v' = none
  | .getStages _, v, a, v' =>
    v' = some v ∧ ∃ reply items names, a = .ok reply ∧ (reply.get? "item").getD (.list []) = .list items ∧
      List.Forall₂ ShowsStage items names ∧ ∀ stage, stage ∈ names ↔ (v.stages stage).isSome = true
  | .deleteStage _ stage, v, a, v' =>
    (v.stages stage = none → Missing a ∧ v' = some v) ∧
      (v.stages stage ≠ none → Accepted a ∧ v' = some (v.dropStage stage))
  | .deleteDeployment _ id, v, a, v' =>
    (id ∉ v.deployments → Missing a ∧ v' = some v) ∧
      (id ∈ v.deployments → v.Points id → Declined a ∧ v' = some v) ∧
      (id ∈ v.deployments → ¬v.Points id → Accepted a ∧ v' = some (v.dropDeployments {id}))
  | _, _, _, _ => True

/-- A backend that keeps stages and deployments of APIs: `view` gives what it holds in each of its states,
nothing for an API that does not exist. Whatever is done to an API, the others stay as they are. -/
structure Stages {σ : Type} (b : Backend σ) (view : σ → String → Option StagedApi) : Prop where
  missing : ∀ c s api, c.api? = some api → view s api = none →
    ∃ a s', b.answer c s = (a, s') ∧ Missing a ∧ view s' = view s
  answers : ∀ c s api v, c.api? = some api → view s api = some v →
    ∃ a s' v', b.answer c s = (a, s') ∧ v.Answered c a v' ∧ view s' = Function.update (view s) api v'
  unlisted : ∀ api s, view s api = none →
    ∃ fault pages s', b.list (.deployments api) s = (.error fault, pages, s') ∧ fault.IsMissing ∧
      view s' = view s
  lists : ∀ api s v, view s api = some v →
    ∃ items ids pages s', b.list (.deployments api) s = (.ok items, pages, s') ∧
      List.Forall₂ ShowsDeployment items ids ∧ (∀ id, id ∈ ids ↔ id ∈ v.deployments) ∧ view s' = view s

/-! ## A gateway in memory -/

/-- The stages of an API with the deployments they point to, and its deployments. -/
structure HeldStages where
  stages : ArrivalMap String String
  deployments : List String

namespace HeldStages

/-- What is held, without the order. -/
def shape (v : HeldStages) : StagedApi := ⟨fun stage => v.stages.get? stage, {id | id ∈ v.deployments}⟩

/-- Whether some stage points to a deployment. -/
def isPointed (v : HeldStages) (id : String) : Bool :=
  v.stages.any fun p => decide (v.stages.get? p.1 = some id)

/-- The answer to a call on an API that is there, and what it leaves of it. -/
def answer (v : HeldStages) : Call → Answer × Option HeldStages
  | .getApi api => (.ok (identified api), some v)
  | .deleteApi _ => (.ok [], none)
  | .getStages _ =>
    (.ok [(.text "item", .list (v.stages.map fun p => .object [(.text "stageName", .text p.1)]))], some v)
  | .deleteStage _ stage =>
    if v.stages.has stage then (.ok [], some { v with stages := v.stages.erase stage })
    else (Memory.refusal "NotFoundException", some v)
  | .deleteDeployment _ id =>
    if id ∉ v.deployments then (Memory.refusal "NotFoundException", some v)
    else if v.isPointed id then (Memory.refusal "BadRequestException", some v)
    else (.ok [], some { v with deployments := v.deployments.filter fun other => other ≠ id })
  | _ => (.ok [], some v)

end HeldStages

/-- What is held for each API. -/
abbrev Staging := String → Option HeldStages

/-- What is held for each API, without the order. -/
def Staging.view (s : Staging) (api : String) : Option StagedApi := (s api).map HeldStages.shape

/-- The gateway that keeps stages and deployments in memory. -/
def stagingGateway : Backend Staging where
  answer c s :=
    match c.api? with
    | none => (.ok [], s)
    | some api =>
      match s api with
      | none => (Memory.refusal "NotFoundException", s)
      | some v => ((v.answer c).1, Function.update s api (v.answer c).2)
  list l s :=
    match l.api? with
    | none => (.ok [], [], s)
    | some api =>
      match s api with
      | none => (.error (.refused ⟨some "NotFoundException", none, none⟩), [], s)
      | some v => (.ok (v.deployments.map identified), [], s)

theorem isMissing_notFound : CallFault.IsMissing (.refused ⟨some "NotFoundException", none, none⟩) :=
  fun _ => rfl

theorem missing_notFound : Missing (Memory.refusal "NotFoundException") := ⟨_, rfl, isMissing_notFound⟩

theorem declined_badRequest : Declined (Memory.refusal "BadRequestException") := by
  refine ⟨_, rfl, fun _ h => ?_⟩
  cases h

namespace HeldStages

theorem isPointed_iff {v : HeldStages} {id : String} : v.isPointed id = true ↔ v.shape.Points id := by
  rw [isPointed, List.any_eq_true]
  constructor
  · rintro ⟨p, -, hp⟩
    exact ⟨p.1, of_decide_eq_true hp⟩
  · rintro ⟨stage, hstage⟩
    exact ⟨(stage, id), ArrivalMap.mem_of_get? hstage, decide_eq_true hstage⟩

theorem shape_eraseStage (v : HeldStages) (stage : String) :
    shape { v with stages := v.stages.erase stage } = v.shape.dropStage stage := by
  refine StagedApi.ext (funext fun other => ?_) rfl
  change (v.stages.erase stage).get? other = Function.update v.shape.stages stage none other
  by_cases h : other = stage
  · subst h
    rw [ArrivalMap.get?_erase_self, Function.update_self]
  · rw [ArrivalMap.get?_erase_of_ne h, Function.update_of_ne h]
    rfl

theorem shape_filterDeployments (v : HeldStages) (id : String) :
    shape { v with deployments := v.deployments.filter fun other => other ≠ id } =
      v.shape.dropDeployments {id} := by
  refine StagedApi.ext rfl (Set.ext fun other => ?_)
  change other ∈ v.deployments.filter (fun other => other ≠ id) ↔
    other ∈ v.deployments ∧ other ∉ ({id} : Set String)
  rw [List.mem_filter, Set.mem_singleton_iff, decide_eq_true_iff]

theorem answered (v : HeldStages) (c : Call) :
    v.shape.Answered c (v.answer c).1 ((v.answer c).2.map shape) := by
  cases c with
  | getApi api => exact ⟨⟨_, rfl⟩, rfl⟩
  | deleteApi api => exact ⟨⟨_, rfl⟩, rfl⟩
  | getStages api =>
      refine ⟨rfl, _, _, v.stages.map Prod.fst, rfl, rfl, ?_, fun stage => ?_⟩
      · rw [List.forall₂_map_left_iff, List.forall₂_map_right_iff]
        exact List.forall₂_same.mpr fun p _ => ⟨_, rfl, rfl⟩
      · exact ArrivalMap.has_iff.symm
  | deleteStage api stage =>
      have hsome : v.stages.has stage = true ↔ v.shape.stages stage ≠ none := Option.isSome_iff_ne_none
      simp only [StagedApi.Answered, answer]
      split
      · next h => exact ⟨fun hnone => absurd hnone (hsome.mp h),
          fun _ => ⟨⟨_, rfl⟩, congrArg some (shape_eraseStage v stage)⟩⟩
      · next h => exact ⟨fun _ => ⟨missing_notFound, rfl⟩, fun hne => absurd (hsome.mpr hne) h⟩
  | deleteDeployment api id =>
      simp only [StagedApi.Answered, answer]
      split
      · next h => exact ⟨fun _ => ⟨missing_notFound, rfl⟩, fun hid => absurd hid h, fun hid => absurd hid h⟩
      · next h =>
        have hid : id ∈ v.shape.deployments := not_not.mp h
        split
        · next hp => exact ⟨fun hno => absurd hid hno, fun _ _ => ⟨declined_badRequest, rfl⟩,
            fun _ hno => absurd (isPointed_iff.mp hp) hno⟩
        · next hp => exact ⟨fun hno => absurd hid hno, fun _ hpoints => absurd (isPointed_iff.mpr hpoints) hp,
            fun _ _ => ⟨⟨_, rfl⟩, congrArg some (shape_filterDeployments v id)⟩⟩
  | _ => trivial

end HeldStages

/-- Changing an API changes the view of this API alone. -/
theorem Staging.view_update (s : Staging) (api : String) (v : Option HeldStages) :
    Staging.view (Function.update s api v) = Function.update s.view api (v.map HeldStages.shape) := by
  funext other
  by_cases h : other = api
  · subst h
    rw [view, Function.update_self, Function.update_self]
  · rw [view, Function.update_of_ne h, Function.update_of_ne h, view]

/-- A gateway that behaves as described exists. -/
theorem stagingGateway_stages : Stages stagingGateway Staging.view where
  missing c s api hc hnone := by
    have hs : s api = none := Option.map_eq_none_iff.mp hnone
    refine ⟨_, s, ?_, missing_notFound, rfl⟩
    simp only [stagingGateway, hc, hs]
  answers c s api v hc hv := by
    obtain ⟨held, hs, rfl⟩ := Option.map_eq_some_iff.mp hv
    refine ⟨_, _, _, ?_, held.answered c, Staging.view_update s api (held.answer c).2⟩
    simp only [stagingGateway, hc, hs]
  unlisted api s hnone := by
    have hs : s api = none := Option.map_eq_none_iff.mp hnone
    refine ⟨_, [], s, ?_, isMissing_notFound, rfl⟩
    simp only [stagingGateway, Listing.api?, hs]
  lists api s v hv := by
    obtain ⟨held, hs, rfl⟩ := Option.map_eq_some_iff.mp hv
    refine ⟨held.deployments.map identified, held.deployments, [], s, ?_, ?_, fun id => Iff.rfl, rfl⟩
    · simp only [stagingGateway, Listing.api?, hs]
    · rw [List.forall₂_map_left_iff]
      exact List.forall₂_same.mpr fun id _ => rfl

end ApiReconciler
