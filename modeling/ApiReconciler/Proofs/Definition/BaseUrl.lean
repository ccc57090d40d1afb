import ApiReconciler.Proofs.Definition.Normalize
import ApiReconciler.Proofs.Reconcile.Course

/-!
# `ApiReconciler.Proofs.Definition.BaseUrl` — the production URL and the URL that is deployed to

A definition's endpoint configuration is read twice. Validation and discovery ask for the production URL, and
take a configuration that cannot be read for one without a URL. A reconciliation asks for the base URL of the
integrations, and fails where there is none. Both readings refuse the same configurations
(`productionEndpoint_eq_none_iff`), since they look at the same member and both want a text that is not empty.

The base URL is required before anything else, so a refused definition leaves no trace on the gateway. With a
base URL, no later stage fails for the definition, and the methods are bound to that URL.

## Contents
- `WithoutSlash`: a URL and what is left of it without a slash at its end.
- `productionEndpoint_eq_none_iff`: when there is no base URL.
- `ReadsEndpoint`: what a run makes of the production URL; `reconciliation_readsEndpoint`: all runs do so.
-/

namespace ApiReconciler

open Program

/-! ## Slashes -/

/-- What is left of a URL without the slash at its end. Only one slash is taken away, and nothing where there is
none. -/
inductive WithoutSlash : String → String → Prop
  | cut (base : String) : WithoutSlash (base ++ "/") base
  | same {url : String} (h : url.toList.getLast? ≠ some '/') : WithoutSlash url url

theorem dropTrailingSlash_slash (base : String) : dropTrailingSlash (base ++ "/") = base := by
  have htext : (base ++ "/").toList = base.toList ++ ['/'] := String.toList_append
  have hlast : (base ++ "/").toList.getLast? = some '/' := by rw [htext, List.getLast?_concat]
  simp only [dropTrailingSlash, hlast]
  rw [htext, List.dropLast_concat, String.ofList_toList]

theorem dropTrailingSlash_of_ne {url : String} (h : url.toList.getLast? ≠ some '/') :
    dropTrailingSlash url = url := by
  unfold dropTrailingSlash
  split
  · next hlast => exact absurd hlast h
  · rfl

theorem withoutSlash_iff {url base : String} : WithoutSlash url base ↔ base = dropTrailingSlash url := by
  constructor
  · intro h
    cases h with
    | cut base => exact (dropTrailingSlash_slash base).symm
    | same h => exact (dropTrailingSlash_of_ne h).symm
  · rintro rfl
    by_cases hlast : url.toList.getLast? = some '/'
    · obtain ⟨base, rfl⟩ : ∃ base, url = base ++ "/" := by
        refine ⟨String.ofList url.toList.dropLast, ?_⟩
        rw [← String.toList_inj, String.toList_append, String.toList_ofList]
        exact (List.dropLast_append_getLast? _ hlast).symm
      rw [dropTrailingSlash_slash]
      exact .cut base
    · rw [dropTrailingSlash_of_ne hlast]
      exact .same hlast

/-! ## Both readings -/

section

variable {d : Definition}

/-- **Both readings refuse the same configurations.** -/
theorem productionEndpoint_eq_none_iff : d.productionEndpoint = none ↔ ∃ fault, d.baseUrl = .error fault := by
  constructor
  · intro h
    unfold Definition.productionEndpoint at h
    unfold Definition.baseUrl
    cases hm : d.endpoint.members with
    | error e => exact ⟨_, rfl⟩
    | ok ms =>
        rw [hm] at h
        have hbase : productionBaseUrl ms = none := by
          rw [productionBaseUrl_eq, show productionUrl ms = none from h, Option.map_none]
        simp only [hbase]
        exact ⟨_, rfl⟩
  · rintro ⟨fault, hfault⟩
    cases hurl : d.productionEndpoint with
    | none => rfl
    | some url =>
        rw [baseUrl_of_productionEndpoint hurl] at hfault
        cases hfault

end

/-! ## Reconciliations -/

section

variable {t : Target} {d : Definition} {base : String} {xs : List Exchange}

/-- After a run has handed its definition to an API it goes through the stages, with the URL for binding. -/
def GoesThrough (t : Target) (d : Definition) (base : String) (xs : List Exchange) : Prop :=
  ∃ i before ys, xs = before ++ ys ∧ (∀ x ∈ before, x.request.operation ∈ importOperations) ∧
    Nonempty (Course t d i base ys)

/-- A first import that succeeds has gone through the stages. -/
theorem goesThrough_of_importApi {ref : Reference} (hbase : d.baseUrl = .ok base)
    (h : (importApi t d).Trace xs (.ok ref)) : GoesThrough t d base xs := by
  obtain ⟨base', i, reply, ys, hbase', rfl, -, hcomplete⟩ := trace_importApi_success h
  obtain rfl := Except.ok.inj (hbase.symm.trans hbase')
  obtain ⟨c, -⟩ := trace_complete_ok hcomplete
  refine ⟨i, [.call (.importApi d.document) (.ok reply)], ys, rfl, ?_, ⟨c⟩⟩
  intro x hx
  rw [List.mem_singleton.mp hx]
  exact List.mem_cons_self

/-- So has a reimport. -/
theorem goesThrough_of_reimportApi {r ref : Reference} (hbase : d.baseUrl = .ok base)
    (h : (reimportApi t r d).Trace xs (.ok ref)) : GoesThrough t d base xs := by
  rw [reimportApi_eq t r hbase] at h
  obtain ⟨i, before, ys, rfl, hover, hcomplete⟩ := trace_bind_ok.mp h
  obtain ⟨c, -⟩ := trace_complete_ok hcomplete
  refine ⟨i, before, ys, rfl, ?_, ⟨c⟩⟩
  intro x hx
  have hop := ((overwriteDefinition_asks d).trace hover x hx).2
  rw [List.mem_singleton.mp hop]
  decide

/-- What a run makes of the production URL of its definition. It fails for the definition exactly if there is
none, before any exchange. Otherwise it binds methods to the URL without the slash at its end, if it gets as far
as that, and it does if it succeeds. -/
structure ReadsEndpoint (t : Target) (d : Definition) (xs : List Exchange) (v : Except Failure Reference) :
    Prop where
  refused_iff : (∃ fault, v = .error (.definition fault)) ↔ d.productionEndpoint = none
  untouched : d.productionEndpoint = none → xs = []
  bound : ∀ url, d.productionEndpoint = some url → ∃ base, WithoutSlash url base ∧
    ((∀ x ∈ xs, x.request.operation ∈ openingOperations) ∨ GoesThrough t d base xs) ∧
    ∀ reference, v = .ok reference → GoesThrough t d base xs

/-- Without a production URL, nothing is done. -/
theorem readsEndpoint_of_fail {p : Program Reference} {v : Except Failure Reference} {fault : DefinitionFault}
    (hnone : d.productionEndpoint = none) (hp : p = .fail (.definition fault)) (h : p.Trace xs v) :
    ReadsEndpoint t d xs v := by
  rw [hp] at h
  obtain ⟨rfl, rfl⟩ := h
  refine ⟨iff_of_true ⟨fault, rfl⟩ hnone, fun _ => rfl, fun url hurl => ?_⟩
  rw [hnone] at hurl
  cases hurl

/-- With one, a run that does not fail for the definition goes through the stages. -/
theorem readsEndpoint_of_sync {r : Option Reference} {v : Except Failure Reference} {url : String}
    (hurl : d.productionEndpoint = some url) (h : (sync t d r).Trace xs v)
    (hblameless : ∀ fault, v ≠ .error (.definition fault))
    (hcomplete : ∀ reference, v = .ok reference → GoesThrough t d (dropTrailingSlash url) xs) :
    ReadsEndpoint t d xs v := by
  have hsome : d.productionEndpoint ≠ none := by
    rw [hurl]
    exact Option.some_ne_none url
  refine ⟨iff_of_false ?_ hsome, fun hnone => absurd hnone hsome, fun url' hurl' => ?_⟩
  · rintro ⟨fault, hfault⟩
    exact hblameless fault hfault
  · obtain rfl := Option.some.inj (hurl.symm.trans hurl')
    refine ⟨dropTrailingSlash url, withoutSlash_iff.mpr rfl, ?_, hcomplete⟩
    rcases trace_sync h with hopening | ⟨i, base, before, ys, hxs, hbase, hbefore, hcourse⟩
    · exact .inl hopening
    · obtain rfl := Except.ok.inj ((baseUrl_of_productionEndpoint hurl).symm.trans hbase)
      exact .inr ⟨i, before, ys, hxs, hbefore, hcourse⟩

end

/-- **Both readings of the endpoint configuration agree, in every reconciliation.** Whatever the configuration is
and whatever the gateway answers, a first import and a reimport fail for the definition exactly if it has no
production URL, and then without an exchange. Otherwise the methods are bound to the production URL without the
slash at its end. -/
theorem reconciliation_readsEndpoint {σ : Type} (b : Backend σ) (s : σ) (t : Target) (d : Definition) :
    ReadsEndpoint t d ((importApi t d).exchanges b s) ((importApi t d).run b s).result ∧
      ∀ r, ReadsEndpoint t d ((reimportApi t r d).exchanges b s) ((reimportApi t r d).run b s).result := by
  have hnew := trace_run b (importApi t d) s
  cases hurl : d.productionEndpoint with
  | none =>
      obtain ⟨fault, hfault⟩ := productionEndpoint_eq_none_iff.mp hurl
      have hrequired := requireBaseUrl_error hfault
      have himport : importApi t d = .fail (.definition fault) := by
        rw [importApi, hrequired]
        rfl
      have hreimport : ∀ r, reimportApi t r d = .fail (.definition fault) := by
        intro r
        rw [reimportApi, hrequired]
        rfl
      exact ⟨readsEndpoint_of_fail hurl himport hnew, fun r =>
        readsEndpoint_of_fail hurl (hreimport r) (trace_run b (reimportApi t r d) s)⟩
  | some url =>
      have hbase := baseUrl_of_productionEndpoint hurl
      constructor
      · refine readsEndpoint_of_sync (r := none) hurl hnew (importApi_backed hbase hnew).1 fun ref href => ?_
        rw [href] at hnew
        exact goesThrough_of_importApi hbase hnew
      · intro r
        have hagain := trace_run b (reimportApi t r d) s
        refine readsEndpoint_of_sync (r := some r) hurl hagain (reimportApi_backed r hbase hagain).1
          fun ref href => ?_
        rw [href] at hagain
        exact goesThrough_of_reimportApi hbase hagain

end ApiReconciler
