import ApiReconciler.Proofs.Reconcile.Requests

/-!
# `ApiReconciler.Proofs.Binding.Bound` — what binding does to each method

Binding goes through all methods of all resources and stops at the first failure. When it comes to its
end, every method has its integration, its response and its authorizer (`trace_bindAll`), and whether it
does or not, it puts no method under anything but the authorizer that the bindings resolve for it
(`bindAll_asks_resolved`), and sends none to anything but the backend (`bindAll_asks_backed`).
-/

namespace ApiReconciler

open Program

variable {api baseUrl : String} {b : Bindings} {xs ys : List Exchange}

/-! ## Methods -/

/-- The exchanges that bind a method at a path: an HTTP integration with the backend, the response after
it, and the authorizer if there is one. -/
structure MethodBound (m : MethodRef) (uri : String) (authorizer : Option String) (xs : List Exchange) :
    Prop where
  integrated : ∃ i shown answered, i.kind = "HTTP" ∧ i.uri = some uri ∧
    [.call (.putIntegration m i) (.ok shown),
      .call (.putIntegrationResponse m statusOk (some [(jsonType, "")]) none) (.ok answered)].Sublist xs
  authorized : ∀ id, authorizer = some id →
    ∃ reply, .call (.updateMethod m (authorizationPatches id)) (.ok reply) ∈ xs

theorem MethodBound.mono {m : MethodRef} {uri : String} {authorizer : Option String}
    (h : MethodBound m uri authorizer xs) (hxs : xs.Sublist ys) : MethodBound m uri authorizer ys := by
  obtain ⟨⟨i, shown, answered, hkind, huri, hs⟩, ha⟩ := h
  refine ⟨⟨i, shown, answered, hkind, huri, hs.trans hxs⟩, fun id hid => ?_⟩
  exact (ha id hid).imp fun _ hm => hxs.subset hm

theorem trace_attachAuthorizer (m : MethodRef) {path id : String} (hid : b.resolve path m.verb = some id)
    (h : (attachAuthorizer m path b).Trace xs (.ok ())) :
    ∃ reply, .call (.updateMethod m (authorizationPatches id)) (.ok reply) ∈ xs := by
  unfold attachAuthorizer at h
  rw [hid] at h
  obtain ⟨reply, us, ws, rfl, hu, -⟩ := trace_bind_ok.mp h
  obtain rfl := trace_perform_ok.mp hu
  exact ⟨reply, List.mem_append_left _ List.mem_cons_self⟩

theorem trace_bindMethod {r : Resource} {method : Method}
    (h : (bindMethod api r method baseUrl b).Trace xs (.ok ())) :
    MethodBound ⟨api, r.id, method.verb⟩ (baseUrl ++ r.path) (b.resolve r.path method.verb) xs := by
  obtain ⟨mappings, us, xs₁, rfl, hm, h₁⟩ := trace_bind_ok.mp h
  obtain ⟨rfl, -⟩ := trace_ofExcept.mp hm
  obtain ⟨shown, us, xs₂, rfl, hi, h₂⟩ := trace_bind_ok.mp h₁
  obtain rfl := trace_perform_ok.mp hi
  obtain ⟨answered, us, xs₃, rfl, hr, h₃⟩ := trace_bind_ok.mp h₂
  obtain rfl := trace_perform_ok.mp hr
  obtain ⟨_, us, ws, rfl, ha, -⟩ := trace_bind_ok.mp h₃
  -- the header that admits other origins comes last and is of no concern here
  constructor
  · refine ⟨backendIntegration baseUrl r.path method.verb mappings, shown, answered, rfl, rfl, ?_⟩
    exact ((List.nil_sublist _).cons_cons _).cons_cons _
  · intro id hid
    obtain ⟨reply, hreply⟩ := trace_attachAuthorizer ⟨api, r.id, method.verb⟩ hid ha
    exact ⟨reply, by simp [hreply]⟩

theorem trace_bindMethods {r : Resource} {methods : List Method}
    (h : (bindMethods api r baseUrl b methods).Trace xs (.ok ())) :
    ∀ method ∈ methods,
      MethodBound ⟨api, r.id, method.verb⟩ (baseUrl ++ r.path) (b.resolve r.path method.verb) xs := by
  induction methods generalizing xs with
  | nil => exact List.forall_mem_nil _
  | cons method methods ih =>
      obtain ⟨_, us, ws, rfl, hmethod, hrest⟩ := trace_bind_ok.mp h
      intro m hm
      rcases List.mem_cons.mp hm with rfl | hm
      · exact (trace_bindMethod hmethod).mono (List.sublist_append_left us ws)
      · exact (ih hrest m hm).mono (List.sublist_append_right us ws)

/-! ## Resources -/

theorem trace_bindEach {rs : List Resource} (h : (bindEach api baseUrl b rs).Trace xs (.ok ())) :
    ∀ r ∈ rs, ∀ method ∈ r.methods,
      MethodBound ⟨api, r.id, method.verb⟩ (baseUrl ++ r.path) (b.resolve r.path method.verb) xs := by
  induction rs generalizing xs with
  | nil => exact List.forall_mem_nil _
  | cons r rs ih =>
      obtain ⟨_, us, ws, rfl, hresource, hrest⟩ := trace_bind_ok.mp h
      obtain ⟨_, vs, ts, rfl, -, hmethods⟩ := trace_bind_ok.mp (trace_relabel_ok.mp hresource)
      intro r' hr method hm
      rcases List.mem_cons.mp hr with rfl | hr
      · refine (trace_bindMethods hmethods method hm).mono ?_
        exact (List.sublist_append_right vs ts).trans (List.sublist_append_left _ ws)
      · exact (ih hrest r' hr method hm).mono (List.sublist_append_right _ ws)

theorem mem_withMethods {rs : List Resource} {r : Resource} {method : Method} (hr : r ∈ rs)
    (hm : method ∈ r.methods) : r ∈ withMethods rs := by
  refine List.mem_filter.mpr ⟨hr, ?_⟩
  rw [Resource.hasMethods, Bool.not_eq_true', List.isEmpty_eq_false_iff]
  exact List.ne_nil_of_mem hm

/-- **Binding that comes to its end has bound every method**: a resource without methods is left out, and
no other is. -/
theorem trace_bindAll {rs : List Resource} {n : Nat} (h : (bindAll api rs baseUrl b).Trace xs (.ok n)) :
    ∀ r ∈ rs, ∀ method ∈ r.methods,
      MethodBound ⟨api, r.id, method.verb⟩ (baseUrl ++ r.path) (b.resolve r.path method.verb) xs := by
  obtain ⟨_, us, ws, rfl, hall, -⟩ := trace_bind_ok.mp h
  intro r hr method hm
  exact (trace_bindEach hall r (mem_withMethods hr hm) method hm).mono (List.sublist_append_left us ws)

/-! ## Authorizers -/

/-- If a request changes how a method is authorized, it puts it under the authorizer that is resolved for
it. -/
def Resolved (api : String) (b : Bindings) (rs : List Resource) (q : Request) : Prop :=
  ∀ m patches, q = .call (.updateMethod m patches) →
    ∃ r ∈ rs, ∃ method ∈ r.methods, ∃ id, m = ⟨api, r.id, method.verb⟩ ∧
      b.resolve r.path method.verb = some id ∧ patches = authorizationPatches id

theorem resolved_of_ne {rs : List Resource} {q : Request} (h : q.operation ≠ .updateMethod) :
    Resolved api b rs q := by
  rintro m patches rfl
  exact absurd rfl h

theorem perform_asks_resolved {rs : List Resource} {c : Call} (h : c.operation ≠ .updateMethod) :
    (perform c).Asks (Resolved api b rs) :=
  asks_perform.mpr (resolved_of_ne h)

theorem bindMethod_asks_resolved {rs : List Resource} {r : Resource} (hr : r ∈ rs) {method : Method}
    (hm : method ∈ r.methods) : (bindMethod api r method baseUrl b).Asks (Resolved api b rs) := by
  refine asks_bind asks_ofExcept fun mappings => ?_
  refine asks_bind (perform_asks_resolved (by simp [Call.operation])) fun _ => ?_
  refine asks_bind (perform_asks_resolved (by simp [Call.operation])) fun _ => ?_
  refine asks_bind ?_ fun _ => asks_bind ?_ fun _ => ?_
  · unfold attachAuthorizer
    split
    · exact asks_log
    · next id hid =>
        refine asks_bind (asks_perform.mpr fun m patches he => ?_) fun _ => asks_done
        injection he with he
        injection he with hm' hp
        exact ⟨r, hr, method, hm, id, hm'.symm, hid, hp.symm⟩
  · exact (declareResponse_asks _ rfl).mono fun q hq => resolved_of_ne (hq.ne (by decide))
  · exact asks_bind (perform_asks_resolved (by simp [Call.operation])) fun _ => asks_done

/-- **Binding puts methods under the authorizers resolved for them**, and under no other. -/
theorem bindAll_asks_resolved (rs : List Resource) :
    (bindAll api rs baseUrl b).Asks (Resolved api b rs) :=
  bindAll_asks_of (fun r _ => (configurePreflight_asks r).mono fun _ hq => resolved_of_ne (hq.ne (by decide)))
    fun _ hr _ hm => bindMethod_asks_resolved hr hm

/-! ## Backends -/

/-- A request that integrates a method over HTTP sends it to a URL that starts with the base URL. -/
def Request.Backed (baseUrl : String) (q : Request) : Prop :=
  ∀ m i, q = .call (.putIntegration m i) → i.kind = "HTTP" → ∃ path, i.uri = some (baseUrl ++ path)

theorem Request.backed_of_ne {q : Request} (h : q.operation ≠ .putIntegration) : q.Backed baseUrl := by
  rintro m i rfl
  exact absurd rfl h

theorem perform_asks_backed {c : Call} (h : c.operation ≠ .putIntegration) :
    (perform c).Asks (Request.Backed baseUrl) :=
  asks_perform.mpr (Request.backed_of_ne h)

/-- The answer to preflight requests is no integration over HTTP. -/
theorem configurePreflight_asks_backed (r : Resource) :
    (configurePreflight api r).Asks (Request.Backed baseUrl) := by
  simp only [configurePreflight]
  split
  · exact asks_done
  · refine asks_bind (perform_asks_backed (by simp [Call.operation])) fun _ => ?_
    refine asks_bind (asks_perform.mpr fun m i he hkind => ?_) fun _ => ?_
    · injection he with he
      injection he with _ hi
      rw [← hi] at hkind
      exact absurd hkind (by decide)
    refine asks_bind ?_ fun _ => asks_bind (perform_asks_backed (by simp [Call.operation])) fun _ => asks_done
    exact (declareResponse_asks _ rfl).mono fun q hq => q.backed_of_ne (hq.ne (by decide))

theorem bindMethod_asks_backed (r : Resource) (method : Method) :
    (bindMethod api r method baseUrl b).Asks (Request.Backed baseUrl) := by
  refine asks_bind asks_ofExcept fun mappings => asks_bind (asks_perform.mpr fun m i he _ => ?_) fun _ => ?_
  · injection he with he
    injection he with _ hi
    exact ⟨r.path, by rw [← hi]; rfl⟩
  refine asks_bind (perform_asks_backed (by simp [Call.operation])) fun _ => asks_bind ?_ fun _ => ?_
  · unfold attachAuthorizer
    split
    · exact asks_log
    · exact asks_bind (perform_asks_backed (by simp [Call.operation])) fun _ => asks_done
  · refine asks_bind ?_ fun _ => asks_bind (perform_asks_backed (by simp [Call.operation])) fun _ => asks_done
    exact (declareResponse_asks _ rfl).mono fun q hq => q.backed_of_ne (hq.ne (by decide))

/-- **Binding sends methods to the backend at the base URL**, and nowhere else. -/
theorem bindAll_asks_backed (rs : List Resource) :
    (bindAll api rs baseUrl b).Asks (Request.Backed baseUrl) :=
  bindAll_asks_of (fun r _ => configurePreflight_asks_backed r) fun r _ method _ =>
    bindMethod_asks_backed r method

end ApiReconciler
