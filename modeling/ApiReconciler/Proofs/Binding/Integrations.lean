import ApiReconciler.Proofs.Binding.Bound

/-!
# `ApiReconciler.Proofs.Binding.Integrations` — the integrations that binding writes

Binding writes integrations of two kinds. A method that a resource declares is sent to the backend at the
resource's path. A resource that declares no preflight method is given one, and the gateway answers it by
itself, so that its integration has no URI. The two kinds do not meet: where a preflight method is made, none
was declared. `bindAll_asks_planned` says which integration any request of binding writes, and
`trace_bindAll_preflights` that a binding which comes to its end has written all of those for preflights; for
the declared methods `trace_bindAll` says so.

## Contents
- `Serves`: the integrations that are planned for resources; `Request.Planned`: requests that keep to the plan.
- `bindAll_asks_planned`, `trace_bindAll_preflights`.
-/

namespace ApiReconciler

open Program

variable {api baseUrl : String} {b : Bindings} {rs : List Resource} {xs : List Exchange}

/-! ## The plan -/

/-- The resource declares the method that answers preflight requests. -/
def Resource.DeclaresPreflight (r : Resource) : Prop := preflightVerb ∈ r.methods.map Method.verb

/-- The integrations that binding has for a method: one with the backend at the path of its resource, if the
resource declares the method, and an answer of the gateway, if it is made for preflights. -/
inductive Serves (api baseUrl : String) (rs : List Resource) (m : MethodRef) (i : Integration) : Prop
  | backend {r : Resource} {method : Method} (resource : r ∈ rs) (declared : method ∈ r.methods)
    (ref : m = ⟨api, r.id, method.verb⟩) (uri : i.uri = some (baseUrl ++ r.path))
  | preflight {r : Resource} (resource : r ∈ rs) (undeclared : ¬r.DeclaresPreflight)
    (ref : m = ⟨api, r.id, preflightVerb⟩) (mock : i = preflightIntegration)

/-- A request keeps to the plan: integrations serve their methods, and only preflight methods are made. -/
structure Request.Planned (api baseUrl : String) (rs : List Resource) (q : Request) : Prop where
  integrations : ∀ m i, q = .call (.putIntegration m i) → Serves api baseUrl rs m i
  methods : ∀ m authorization, q = .call (.putMethod m authorization) →
    ∃ r ∈ rs, ¬r.DeclaresPreflight ∧ m = ⟨api, r.id, preflightVerb⟩

/-- Other requests are not planned for. -/
theorem Request.planned_of_ne {q : Request} (hi : q.operation ≠ .putIntegration)
    (hm : q.operation ≠ .putMethod) : q.Planned api baseUrl rs := by
  constructor
  · rintro m i rfl
    exact absurd rfl hi
  · rintro m authorization rfl
    exact absurd rfl hm

theorem perform_asks_planned {c : Call} (hi : c.operation ≠ .putIntegration) (hm : c.operation ≠ .putMethod) :
    (perform c).Asks (Request.Planned api baseUrl rs) :=
  asks_perform.mpr (Request.planned_of_ne hi hm)

theorem declareResponse_asks_planned (m : MethodRef) (parameters : List (String × Bool)) :
    (declareResponse m parameters).Asks (Request.Planned api baseUrl rs) :=
  (declareResponse_asks parameters rfl).mono fun q hq =>
    q.planned_of_ne (hq.ne (by decide)) (hq.ne (by decide))

/-- A preflight method is made where none is declared, and is answered by the gateway. -/
theorem configurePreflight_asks_planned {r : Resource} (hr : r ∈ rs) :
    (configurePreflight api r).Asks (Request.Planned api baseUrl rs) := by
  simp only [configurePreflight]
  split
  · exact asks_done
  · next hundeclared =>
      refine asks_bind (asks_perform.mpr ⟨fun m i he => ?_, fun m authorization he => ?_⟩) fun _ => ?_
      · cases he
      · cases he
        exact ⟨r, hr, hundeclared, rfl⟩
      refine asks_bind (asks_perform.mpr ⟨fun m i he => ?_, fun m authorization he => ?_⟩) fun _ => ?_
      · cases he
        exact .preflight hr hundeclared rfl rfl
      · cases he
      refine asks_bind (declareResponse_asks_planned _ _) fun _ => ?_
      exact asks_bind (perform_asks_planned (by simp [Call.operation]) (by simp [Call.operation]))
        fun _ => asks_done

/-- A declared method is sent to the backend. -/
theorem bindMethod_asks_planned {r : Resource} (hr : r ∈ rs) {method : Method} (hm : method ∈ r.methods) :
    (bindMethod api r method baseUrl b).Asks (Request.Planned api baseUrl rs) := by
  refine asks_bind asks_ofExcept fun mappings => ?_
  refine asks_bind (asks_perform.mpr ⟨fun m i he => ?_, fun m authorization he => ?_⟩) fun _ => ?_
  · cases he
    exact .backend hr hm rfl rfl
  · cases he
  refine asks_bind (perform_asks_planned (by simp [Call.operation]) (by simp [Call.operation])) fun _ => ?_
  refine asks_bind ?_ fun _ => asks_bind (declareResponse_asks_planned _ _) fun _ => ?_
  · unfold attachAuthorizer
    split
    · exact asks_log
    · exact asks_bind (perform_asks_planned (by simp [Call.operation]) (by simp [Call.operation]))
        fun _ => asks_done
  · exact asks_bind (perform_asks_planned (by simp [Call.operation]) (by simp [Call.operation]))
      fun _ => asks_done

/-- **Binding keeps to the plan.** -/
theorem bindAll_asks_planned (rs : List Resource) :
    (bindAll api rs baseUrl b).Asks (Request.Planned api baseUrl (withMethods rs)) :=
  asks_bind (bindEach_asks (fun _ hr => configurePreflight_asks_planned hr)
    fun _ hr _ hm => bindMethod_asks_planned hr hm) fun _ => asks_note.mpr asks_done

/-! ## Preflights that were configured -/

theorem trace_configurePreflight {r : Resource} (h : (configurePreflight api r).Trace xs (.ok ()))
    (hundeclared : ¬r.DeclaresPreflight) :
    ∃ reply, .call (.putIntegration ⟨api, r.id, preflightVerb⟩ preflightIntegration) (.ok reply) ∈ xs := by
  have hverb : preflightVerb ∉ r.methods.map Method.verb := hundeclared
  simp only [configurePreflight, if_neg hverb] at h
  obtain ⟨_, _, _, rfl, -, h₁⟩ := trace_bind_ok.mp h
  obtain ⟨reply, _, _, rfl, hput, -⟩ := trace_bind_ok.mp h₁
  obtain rfl := trace_perform_ok.mp hput
  exact ⟨reply, List.mem_append_right _ List.mem_cons_self⟩

theorem trace_bindEach_preflights (h : (bindEach api baseUrl b rs).Trace xs (.ok ())) :
    ∀ r ∈ rs, ¬r.DeclaresPreflight →
      ∃ reply, .call (.putIntegration ⟨api, r.id, preflightVerb⟩ preflightIntegration) (.ok reply) ∈ xs := by
  induction rs generalizing xs with
  | nil => exact List.forall_mem_nil _
  | cons r rs ih =>
      obtain ⟨_, us, ws, rfl, hresource, hrest⟩ := trace_bind_ok.mp h
      obtain ⟨_, vs, ts, rfl, hpreflight, -⟩ := trace_bind_ok.mp (trace_relabel_ok.mp hresource)
      intro r' hr hundeclared
      rcases List.mem_cons.mp hr with rfl | hr
      · obtain ⟨reply, hmem⟩ := trace_configurePreflight hpreflight hundeclared
        exact ⟨reply, List.mem_append_left _ (List.mem_append_left _ hmem)⟩
      · obtain ⟨reply, hmem⟩ := ih hrest r' hr hundeclared
        exact ⟨reply, List.mem_append_right _ hmem⟩

/-- **Binding that comes to its end has configured every preflight.** -/
theorem trace_bindAll_preflights {n : Nat} (h : (bindAll api rs baseUrl b).Trace xs (.ok n)) :
    ∀ r ∈ withMethods rs, ¬r.DeclaresPreflight →
      ∃ reply, .call (.putIntegration ⟨api, r.id, preflightVerb⟩ preflightIntegration) (.ok reply) ∈ xs := by
  obtain ⟨_, us, ws, rfl, hall, -⟩ := trace_bind_ok.mp h
  intro r hr hundeclared
  obtain ⟨reply, hmem⟩ := trace_bindEach_preflights hall r hr hundeclared
  exact ⟨reply, List.mem_append_left _ hmem⟩

end ApiReconciler
