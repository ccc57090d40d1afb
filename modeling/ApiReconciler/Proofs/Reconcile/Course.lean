import ApiReconciler.Proofs.Reconcile.Requests

/-!
# `ApiReconciler.Proofs.Reconcile.Course` — the course of a run

A run of `sync` hands the definition to an API, reads the resources, synchronizes the authorizers, binds
the methods and deploys, in this order and each at most once. `trace_sync` says so of every run: either it
stops before it binds methods, or it has a `Course`, which names what each stage exchanged and left behind.
Since each stage keeps to its own operations, an exchange of the run belongs to the stage that its
operation tells (`Course.stage_of_mem`).

## Contents
- `Course`: the stages of a run that got as far as binding.
- `trace_sync`: every run has a course or never binds.
- `Course.stage_of_mem` and its cases.
-/

namespace ApiReconciler

open Program

variable {t : Target} {d : Definition} {xs : List Exchange}

/-- Handing a definition to an API. -/
def importOperations : List Operation := [.importApi, .overwriteApi]

/-- What can follow the binding of methods. -/
def closingOperations : List Operation := deployOperations ++ removalOperations

/-- What a run that never binds methods consists of. -/
def openingOperations : List Operation :=
  importOperations ++ readOperations ++ authorizerOperations ++ removalOperations

theorem importOperations_subset : importOperations ⊆ openingOperations := by decide

/-- The course of a run that got as far as binding methods, after the import: what each stage exchanged
and left behind, and the end that binding came to. -/
structure Course (t : Target) (d : Definition) (i : Imported) (baseUrl : String) (xs : List Exchange) where
  resources : List Resource
  bindings : Bindings
  count : Except Failure Nat
  (fetched synced bound rest : List Exchange)
  exchanges : xs = fetched ++ (synced ++ (bound ++ rest))
  reading : (fetchResources i.api).Trace fetched (.ok resources)
  synchronizing : (synchronizeImported t i d).Trace synced (.ok bindings)
  binding : (bindAll i.api resources baseUrl bindings).Trace bound count
  closing : ∀ x ∈ rest, x.request.On i.api closingOperations
  stopped : ∀ e, count = .error e → ∀ x ∈ rest, x.request.On i.api removalOperations

section

variable {i : Imported} {baseUrl : String} {before more : List Exchange}

/-- A course goes on with the removal of the API. -/
def Course.append (c : Course t d i baseUrl xs) (hmore : ∀ x ∈ more, x.request.On i.api removalOperations) :
    Course t d i baseUrl (xs ++ more) where
  resources := c.resources
  bindings := c.bindings
  count := c.count
  fetched := c.fetched
  synced := c.synced
  bound := c.bound
  rest := c.rest ++ more
  exchanges := (congrArg (· ++ more) c.exchanges).trans (by simp only [List.append_assoc])
  reading := c.reading
  synchronizing := c.synchronizing
  binding := c.binding
  closing := fun x hx => (List.mem_append.mp hx).elim (c.closing x) fun hx => (hmore x hx).mono (by decide)
  stopped := fun e he x hx => (List.mem_append.mp hx).elim (c.stopped e he x) (hmore x)

/-- What follows the binding of methods, when that succeeds. -/
theorem deployAndRead_asks (api stage : String) :
    ((deploy api stage).bind fun _ => readReference api).Asks (Request.On api closingOperations) :=
  asks_bind ((deploy_asks stage).mono fun _ h => h.mono (by decide)) fun _ =>
    readReference_asks.mono fun _ h => h.mono (by decide)

theorem trace_complete {r : Except Failure Reference} (h : (complete t i d baseUrl).Trace xs r) :
    (∀ x ∈ xs, x.request.On i.api (readOperations ++ authorizerOperations)) ∨
      Nonempty (Course t d i baseUrl xs) := by
  rcases trace_bind.mp h with ⟨rs, fetched, xs₁, rfl, hf, h₁⟩ | ⟨e, -, hf⟩
  · have hread := fetchResources_asks.trace hf
    rcases trace_bind.mp h₁ with ⟨b, synced, xs₂, rfl, hs, h₂⟩ | ⟨e, -, hs⟩
    · right
      rcases trace_bind.mp h₂ with ⟨n, bound, rest, rfl, hb, h₃⟩ | ⟨e, -, hb⟩
      · refine ⟨⟨rs, b, .ok n, fetched, synced, bound, rest, rfl, hf, hs, hb,
          (deployAndRead_asks i.api t.stage).trace h₃, ?_⟩⟩
        rintro e ⟨⟩
      · refine ⟨⟨rs, b, .error e, fetched, synced, xs₂, [], ?_, hf, hs, hb, List.forall_mem_nil _,
          fun _ _ => List.forall_mem_nil _⟩⟩
        rw [List.append_nil]
    · left
      intro x hx
      rcases List.mem_append.mp hx with hx | hx
      · exact (hread x hx).mono (by decide)
      · exact ((synchronizeImported_asks t i d).trace hs x hx).mono (by decide)
  · left
    exact fun x hx => (fetchResources_asks.trace hf x hx).mono (by decide)

/-- A run that succeeds has a course, and binds all methods in it. -/
theorem trace_complete_ok {ref : Reference} (h : (complete t i d baseUrl).Trace xs (.ok ref)) :
    ∃ (c : Course t d i baseUrl xs) (n : Nat), c.count = .ok n := by
  obtain ⟨rs, fetched, xs₁, rfl, hf, h₁⟩ := trace_bind_ok.mp h
  obtain ⟨b, synced, xs₂, rfl, hs, h₂⟩ := trace_bind_ok.mp h₁
  obtain ⟨n, bound, rest, rfl, hb, h₃⟩ := trace_bind_ok.mp h₂
  exact ⟨⟨rs, b, .ok n, fetched, synced, bound, rest, rfl, hf, hs, hb,
    (deployAndRead_asks i.api t.stage).trace h₃, nofun⟩, n, rfl⟩

/-- The run got to the binding of methods. -/
def ReachesBinding (t : Target) (d : Definition) (xs : List Exchange) : Prop :=
  ∃ i baseUrl before ys, xs = before ++ ys ∧ d.baseUrl = .ok baseUrl ∧
    (∀ x ∈ before, x.request.operation ∈ importOperations) ∧ Nonempty (Course t d i baseUrl ys)

theorem reachesBinding_of_complete {r : Except Failure Reference} (hb : d.baseUrl = .ok baseUrl)
    (hbefore : ∀ x ∈ before, x.request.operation ∈ importOperations)
    (h : (complete t i d baseUrl).Trace xs r) (hmore : ∀ x ∈ more, x.request.On i.api removalOperations) :
    (∀ x ∈ before ++ (xs ++ more), x.request.operation ∈ openingOperations) ∨
      ReachesBinding t d (before ++ (xs ++ more)) := by
  rcases trace_complete h with hx | ⟨⟨c⟩⟩
  · left
    intro x hx'
    rcases List.mem_append.mp hx' with hx' | hx'
    · exact importOperations_subset (hbefore x hx')
    · rcases List.mem_append.mp hx' with hx' | hx'
      · exact ((hx x hx').mono (by decide : _ ⊆ openingOperations)).2
      · exact ((hmore x hx').mono (by decide : _ ⊆ openingOperations)).2
  · exact .inr ⟨i, baseUrl, before, _, rfl, hb, hbefore, ⟨c.append hmore⟩⟩

end

/-! ## Taking a definition -/

theorem trace_logAll {ns : List Note} {r : Except Failure Unit} (h : (logAll ns).Trace xs r) :
    xs = [] ∧ r = .ok () := by
  induction ns with
  | nil => exact h
  | cons n ns ih => exact ih h

/-- The API that took a definition first is the one that the reply names. -/
theorem trace_importDefinition {i : Imported} (h : (importDefinition d).Trace xs (.ok i)) :
    ∃ reply, xs = [.call (.importApi d.document) (.ok reply)] ∧ reply.get? "id" = some (.text i.api) := by
  obtain ⟨reply, _, _, rfl, himport, h₁⟩ := trace_bind_ok.mp h
  obtain rfl := trace_perform_ok.mp (trace_relabel_ok.mp himport)
  obtain ⟨api, _, _, rfl, hmember, h₂⟩ := trace_bind_ok.mp h₁
  obtain ⟨rfl, hid⟩ := trace_textMember_ok.mp hmember
  obtain ⟨_, _, _, rfl, hwarnings, h₃⟩ := trace_bind_ok.mp h₂
  obtain ⟨rfl, -⟩ := trace_logAll hwarnings
  obtain ⟨rfl, hi⟩ := h₃
  rw [Except.ok.inj hi]
  exact ⟨reply, rfl, hid⟩

/-- A reply that names no other API is about the one that was addressed. -/
theorem trace_addressedApi {api named : String} {reply : Object}
    (h : (addressedApi api reply).Trace xs (.ok named)) :
    xs = [] ∧ (reply.get? "id" = none ∨ reply.get? "id" = some (.text api) → named = api) := by
  unfold addressedApi at h
  split at h
  · obtain ⟨rfl, hnamed⟩ := h
    exact ⟨rfl, fun _ => Except.ok.inj hnamed⟩
  · obtain ⟨rfl, hmember⟩ := trace_textMember_ok.mp h
    refine ⟨rfl, fun hid => ?_⟩
    rw [hmember] at hid
    simpa using hid

/-- A definition that was written over an API was taken by it, if the reply names no other one. -/
theorem trace_overwriteDefinition {api : String} {i : Imported}
    (h : (overwriteDefinition api d).Trace xs (.ok i)) :
    ∃ reply, xs = [.call (.overwriteApi api d.document) (.ok reply)] ∧
      (reply.get? "id" = none ∨ reply.get? "id" = some (.text api) → i.api = api) := by
  obtain ⟨reply, _, _, rfl, hput, h₁⟩ := trace_bind_ok.mp h
  obtain rfl := trace_perform_ok.mp (trace_relabel_ok.mp hput)
  obtain ⟨_, _, _, rfl, hwarnings, h₂⟩ := trace_bind_ok.mp h₁
  obtain ⟨rfl, -⟩ := trace_logAll hwarnings
  obtain ⟨_, _, _, rfl, hnote, h₃⟩ := trace_bind_ok.mp h₂
  obtain ⟨rfl, -⟩ := trace_log.mp hnote
  obtain ⟨named, _, _, rfl, hnamed, rfl, hi⟩ := trace_bind_ok.mp h₃
  obtain ⟨rfl, hapi⟩ := trace_addressedApi hnamed
  rw [Except.ok.inj hi]
  exact ⟨reply, rfl, hapi⟩

theorem importDefinition_asks :
    (importDefinition d).Asks fun q => q.operation ∈ importOperations := by
  refine asks_bind (asks_relabel (asks_perform.mpr List.mem_cons_self)) fun reply => ?_
  refine asks_bind asks_textMember fun api => asks_bind (logAll_asks _) fun _ => ?_
  exact asks_bind asks_log fun _ => asks_done

/-- **Every run of `sync` either stops before it binds methods or goes through the stages.** -/
theorem trace_sync {r : Option Reference} {v : Except Failure Reference} (h : (sync t d r).Trace xs v) :
    (∀ x ∈ xs, x.request.operation ∈ openingOperations) ∨ ReachesBinding t d xs := by
  cases hb : d.baseUrl with
  | error fault =>
      -- without a base URL the run is over before any request
      have hnothing : sync t d r = .fail (.definition fault) := by
        cases r with
        | none => rw [sync, importApi, requireBaseUrl_error hb]; rfl
        | some r => rw [sync, reimportApi, requireBaseUrl_error hb]; rfl
      rw [hnothing] at h
      rw [h.1]
      exact .inl (List.forall_mem_nil _)
  | ok baseUrl =>
      have hopening : ∀ {α : Type} {p : Program α} {r : Except Failure α},
          (p.Asks fun q => q.operation ∈ importOperations) → p.Trace xs r →
          ∀ x ∈ xs, x.request.operation ∈ openingOperations :=
        fun hp ht x hx => importOperations_subset (hp.trace ht x hx)
      cases r with
      | none =>
          rw [sync, importApi_eq t hb] at h
          rcases trace_bind.mp h with ⟨i, before, ys, rfl, hi, hrest⟩ | ⟨e, -, hi⟩
          · have hbefore := importDefinition_asks.trace hi
            rcases trace_rescue.mp hrest with ⟨a, -, hc⟩ | ⟨e, us, more, rfl, hc, ha⟩
            · rw [← List.append_nil ys]
              exact reachesBinding_of_complete hb hbefore hc (List.forall_mem_nil _)
            · exact reachesBinding_of_complete hb hbefore hc ((abandon_asks e).trace ha)
          · exact .inl (hopening importDefinition_asks hi)
      | some r =>
          rw [sync, reimportApi_eq t r hb] at h
          have himport : (overwriteDefinition r.api d).Asks fun q => q.operation ∈ importOperations :=
            (overwriteDefinition_asks d).mono
              fun _ hq => (by decide : [.overwriteApi] ⊆ importOperations) hq.2
          rcases trace_bind.mp h with ⟨i, before, ys, rfl, hi, hrest⟩ | ⟨e, -, hi⟩
          · rw [← List.append_nil ys]
            exact reachesBinding_of_complete hb (himport.trace hi) hrest (List.forall_mem_nil _)
          · exact .inl (hopening himport hi)

/-! ## What is known of a course -/

namespace Course

variable {i : Imported} {baseUrl : String} (c : Course t d i baseUrl xs)

include c

/-- An exchange belongs to the stage that makes requests of its kind. -/
theorem stage_of_mem {x : Exchange} (hx : x ∈ xs) :
    (x ∈ c.fetched ∧ x.request.On i.api readOperations) ∨
      (x ∈ c.synced ∧ x.request.On i.api authorizerOperations) ∨
      (x ∈ c.bound ∧ x.request.On i.api bindOperations) ∨
      (x ∈ c.rest ∧ x.request.On i.api closingOperations) := by
  rw [c.exchanges, List.mem_append, List.mem_append, List.mem_append] at hx
  rcases hx with hx | hx | hx | hx
  · exact .inl ⟨hx, fetchResources_asks.trace c.reading x hx⟩
  · exact .inr (.inl ⟨hx, (synchronizeImported_asks t i d).trace c.synchronizing x hx⟩)
  · exact .inr (.inr (.inl ⟨hx, (bindAll_asks _ _ _).trace c.binding x hx⟩))
  · exact .inr (.inr (.inr ⟨hx, c.closing x hx⟩))

theorem bound_subset : c.bound ⊆ xs := by
  have h : c.bound ⊆ c.fetched ++ (c.synced ++ (c.bound ++ c.rest)) := fun x hx => by simp [hx]
  rwa [← c.exchanges] at h

theorem mem_fetched {x : Exchange} (hx : x ∈ xs) (ho : x.request.operation = .getResources) :
    x ∈ c.fetched := by
  rcases c.stage_of_mem hx with h | h | h | h
  · exact h.1
  all_goals exact absurd ho (h.2.ne (by decide))

theorem mem_synced {x : Exchange} (hx : x ∈ xs) (ho : x.request.operation = .deleteAuthorizer) :
    x ∈ c.synced := by
  rcases c.stage_of_mem hx with h | h | h | h
  · exact absurd ho (h.2.ne (by decide))
  · exact h.1
  all_goals exact absurd ho (h.2.ne (by decide))

theorem mem_bound {x : Exchange} (hx : x ∈ xs) (ho : x.request.operation ∈ bindOperations) : x ∈ c.bound := by
  -- the operations that bind methods are of no other stage
  have hno : ∀ ops, (∀ op ∈ bindOperations, op ∉ ops) → ¬x.request.On i.api ops :=
    fun _ hops h => hops _ ho h.2
  rcases c.stage_of_mem hx with h | h | h | h
  · exact absurd h.2 (hno _ (by decide))
  · exact absurd h.2 (hno _ (by decide))
  · exact h.1
  · exact absurd h.2 (hno _ (by decide))

theorem mem_rest {x : Exchange} (hx : x ∈ xs) (ho : x.request.operation = .createDeployment) :
    x ∈ c.rest := by
  rcases c.stage_of_mem hx with h | h | h | h
  · exact absurd ho (h.2.ne (by decide))
  · exact absurd ho (h.2.ne (by decide))
  · exact absurd ho (h.2.ne (by decide))
  · exact h.1

end Course

end ApiReconciler
