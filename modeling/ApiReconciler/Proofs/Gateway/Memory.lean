import ApiReconciler.Proofs.Gateway.Hosting
import ApiReconciler.Proofs.Lists

/-!
# `ApiReconciler.Proofs.Gateway.Memory` — a gateway in memory

A backend that keeps a `HostedApi` as its state and does with it what `Hosts` asks for. It shows that the
behaviour is possible, and runs against it can be evaluated.
-/

namespace ApiReconciler

/-- A text longer than each of the given ones, and so none of them. -/
def freshId (ids : List String) : String := ids.foldr (· ++ ·) "x"

theorem freshId_cons (id : String) (ids : List String) : freshId (id :: ids) = id ++ freshId ids := rfl

theorem length_freshId_pos (ids : List String) : 0 < (freshId ids).length := by
  induction ids with
  | nil => decide
  | cons id ids ih =>
      rw [freshId_cons, String.length_append]
      exact Nat.add_pos_right id.length ih

theorem length_lt_freshId {ids : List String} {id : String} (h : id ∈ ids) :
    id.length < (freshId ids).length := by
  induction ids with
  | nil => cases h
  | cons first ids ih =>
      rw [freshId_cons, String.length_append]
      rcases List.mem_cons.mp h with rfl | h
      · exact Nat.lt_add_of_pos_right (length_freshId_pos ids)
      · exact Nat.lt_add_left first.length (ih h)

theorem freshId_not_mem (ids : List String) : freshId ids ∉ ids :=
  fun h => absurd (length_lt_freshId h) (Nat.lt_irrefl _)

/-- The object with an identifier. -/
def identified (id : String) : Object := [(.text "id", .text id)]

namespace Memory

/-- A refusal with a code. -/
def refusal (code : String) : Answer := .error (.refused ⟨some code, none, none⟩)

/-- A change of a method that has to be there. -/
def change (m : MethodRef) (f : HostedMethod → HostedMethod) (v : HostedApi) : Answer × HostedApi :=
  match v.method? m with
  | none => (refusal "NotFoundException", v)
  | some method => (.ok [], v.setMethod m (f method))

/-- The answer to a call, and what is held afterwards. -/
def answer (declared : String → Declaration) : Call → HostedApi → Answer × HostedApi
  | .overwriteApi _ body, v =>
    (.ok [], { v with resources := (declared body).resources, methods := (declared body).methods })
  | .getApi api, v => (.ok (identified api), v)
  | .getMethod m, v =>
    (match v.method? m with
      | none => refusal "NotFoundException"
      | some method => .ok [(.text "requestParameters", .object method.parameters)], v)
  | .putMethod m authorization, v =>
    match v.method? m with
    | none => (.ok [], v.setMethod m (.new authorization))
    | some _ => (refusal "ConflictException", v)
  | .updateMethod m ps, v => change m (fun old => ps.foldl HostedMethod.patch old) v
  | .putMethodResponse m status parameters, v =>
    match (v.method? m).bind fun method => method.responses.get? status with
    | some _ => (refusal "ConflictException", v)
    | none => change m (fun old => { old with responses := old.responses.set status parameters }) v
  | .updateMethodResponse m status ps, v =>
    change m (fun old => { old with
      responses := old.responses.set status (ps.foldl (HostedMethod.patchParameter (· = "true"))
        ((old.responses.get? status).getD [])) }) v
  | .putIntegration m i, v => change m (fun old => { old with integration := some i, answers := [] }) v
  | .putIntegrationResponse m status _ parameters, v =>
    change m (fun old => { old with answers := old.answers.set status (parameters.getD []) }) v
  | .updateIntegrationResponse m status ps, v =>
    change m (fun old => { old with
      answers := old.answers.set status (ps.foldl (HostedMethod.patchParameter id)
        ((old.answers.get? status).getD [])) }) v
  | .createAuthorizer _ spec, v =>
    let id := freshId (v.authorizers.filterMap textId?)
    (.ok (identified id),
      { v with authorizers := v.authorizers ++
          [identified id ++ [(.text "authorizerUri", .text spec.uri),
            (.text "authorizerCredentials", .text spec.credentials)]] })
  | .deleteAuthorizer _ id, v =>
    (if id ∈ v.authorizers.filterMap textId? then .ok [] else refusal "NotFoundException",
      { v with authorizers := v.authorizers.filter fun item => textId? item ≠ some id })
  | .createDeployment _ stage, v =>
    let id := freshId v.deployments
    (.ok (identified id),
      { v with deployments := v.deployments ++ [id], stages := v.stages.set stage id })
  | .deleteDeployment _ id, v =>
    if id ∈ v.stages.values then (refusal "BadRequestException", v)
    else (if id ∈ v.deployments then .ok [] else refusal "NotFoundException",
      { v with deployments := v.deployments.filter fun other => other ≠ id })
  | _, v => (.ok [], v)

/-- The verbs of a resource. -/
def verbs (v : HostedApi) (resource : String) : List String :=
  (v.methods.filterMap fun m => if m.1.1 = resource then some m.1.2 else none).eraseDups

/-- A resource as the listing shows it. -/
def shown (v : HostedApi) (r : String × String) : Object :=
  [(.text "id", .text r.1), (.text "path", .text r.2),
    (.text "resourceMethods", .object ((verbs v r.1).map fun verb => (.text verb, .null)))]

/-- The result of a listing. -/
def listing : Listing → HostedApi → List Object
  | .resources _, v => v.resources.map (shown v)
  | .authorizers _, v => v.authorizers
  | .deployments _, v => v.deployments.map identified
  | .apis, _ => []

end Memory

/-- The gateway that keeps an API in memory. -/
def memoryGateway (declared : String → Declaration) : Backend HostedApi where
  answer := Memory.answer declared
  list l v := (.ok (Memory.listing l v), [], v)

namespace Memory

theorem change_onMethod {m : MethodRef} {f : HostedMethod → HostedMethod}
    {step : HostedMethod → HostedMethod → Prop} {v : HostedApi} (hf : ∀ old, step old (f old)) :
    OnMethod m step v (change m f v).1 (change m f v).2 := by
  unfold OnMethod change
  cases v.method? m with
  | none => exact ⟨v.methods, rfl⟩
  | some old => exact ⟨⟨_, rfl⟩, f old, hf old, rfl⟩

theorem conflicting (v : HostedApi) : Conflicting (refusal "ConflictException") v v :=
  ⟨⟨_, "ConflictException", rfl, rfl, by decide⟩, rfl⟩

theorem answered (declared : String → Declaration) (c : Call) (v : HostedApi) :
    Answered declared c v (answer declared c v).1 (answer declared c v).2 := by
  cases c with
  | overwriteApi api body => exact ⟨[], rfl, .inl rfl, rfl⟩
  | getApi api => exact ⟨_, rfl, rfl, rfl⟩
  | getMethod m =>
      refine ⟨rfl, fun method hm => ⟨[(.text "requestParameters", .object method.parameters)], ?_, rfl⟩⟩
      simp only [answer, hm]
  | putMethod m authorization =>
      simp only [Answered, answer]
      cases v.method? m with
      | none => exact ⟨⟨_, rfl⟩, rfl⟩
      | some _ => exact conflicting v
  | putMethodResponse m status parameters =>
      simp only [Answered, answer]
      cases (v.method? m).bind fun method => method.responses.get? status with
      | none => exact change_onMethod fun _ => rfl
      | some _ => exact conflicting v
  | putIntegration m i =>
      exact change_onMethod fun _ => .inr rfl
  | updateMethod m ps =>
      exact change_onMethod fun _ => rfl
  | updateMethodResponse m status ps =>
      exact change_onMethod fun _ => rfl
  | putIntegrationResponse m status templates parameters =>
      exact change_onMethod fun _ => rfl
  | updateIntegrationResponse m status ps =>
      exact change_onMethod fun _ => rfl
  | createAuthorizer api spec => exact ⟨_, _, _, rfl, rfl, rfl, freshId_not_mem _, rfl, rfl, rfl⟩
  | deleteAuthorizer api id => exact ⟨fun hid => ⟨[], if_pos hid⟩, rfl⟩
  | createDeployment api stage => exact ⟨_, _, rfl, rfl, freshId_not_mem _, rfl⟩
  | deleteDeployment api id =>
      simp only [Answered, answer]
      split
      · exact ⟨⟨_, rfl⟩, rfl⟩
      · exact ⟨fun hid => ⟨[], if_pos hid⟩, rfl⟩
  | _ => trivial

theorem verbsOf_shown (v : HostedApi) (r : String × String) : verbsOf (shown v r) = verbs v r.1 := by
  show ((verbs v r.1).map fun verb => (Scalar.text verb, Value.null)).filterMap
    (fun m => (Value.scalar m.1).text?) = verbs v r.1
  rw [List.filterMap_map]
  exact List.filterMap_some

theorem mem_verbs {v : HostedApi} {resource verb : String} :
    verb ∈ verbs v resource ↔ (v.methods.get? (resource, verb)).isSome := by
  rw [verbs, List.mem_eraseDups, ← ArrivalMap.has, ArrivalMap.has_iff, List.mem_filterMap, List.mem_map]
  refine exists_congr fun m => and_congr_right fun _ => ?_
  split
  · next hm => simp [Prod.ext_iff, hm]
  · next hm => simp [Prod.ext_iff, hm]

theorem listed (l : Listing) (v : HostedApi) : Listed l v (.ok (listing l v)) v := by
  cases l with
  | apis => trivial
  | resources api =>
      refine ⟨rfl, _, v.resources, rfl, List.Perm.refl _, ?_⟩
      rw [listing, List.forall₂_map_left_iff]
      refine List.forall₂_same.mpr fun r _ => ⟨rfl, .inl rfl, fun verb => ?_, ?_⟩
      · rw [verbsOf_shown]
        exact mem_verbs
      · rw [verbsOf_shown]
        exact nodup_eraseDups _
  | authorizers api => exact ⟨rfl, rfl⟩
  | deployments api =>
      refine ⟨rfl, _, v.deployments, rfl, List.Perm.refl _, ?_⟩
      rw [listing, List.forall₂_map_left_iff]
      exact List.forall₂_same.mpr fun id _ => rfl

end Memory

/-- A gateway that behaves as described exists. -/
theorem memoryGateway_hosts (declared : String → Declaration) (api : String) :
    Hosts (memoryGateway declared) api declared id :=
  ⟨fun c v _ => ⟨_, _, rfl, Memory.answered declared c v⟩,
    fun l v _ => ⟨_, _, _, rfl, Memory.listed l v⟩⟩

end ApiReconciler
