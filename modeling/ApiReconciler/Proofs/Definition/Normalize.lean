import ApiReconciler.Deployer
import ApiReconciler.Proofs.Binding.Bound
import ApiReconciler.Proofs.Definition.Endpoint
import ApiReconciler.Proofs.Reconcile.Accounting

/-!
# `ApiReconciler.Proofs.Definition.Normalize` — validation, normalization and deployment fit together

Three functions have a reading of a definition of their own: the verdict reads the production URL and all
paths, normalization cuts trailing wildcards, and a deployment reads the base URL from the endpoint
configuration. That they agree rests on two facts. A path that was cut has no trailing wildcard any more,
so what the verdict looks at before and after is the same front (`hasInnerWildcard_stripWildcard`), and all
that it says of a normal path is whether there is a wildcard in it. And a production URL that has a scheme is
not a slash alone, so something is left of it without the slash at its end (`dropTrailingSlash_ne_empty`).

With a base URL, no failure is one of the definition. This is a discipline that the stages keep to
(`blameless`), and the removal of an imported API adds no such failure.

## Contents
- `beforeWildcard?_eq_some`, `stripWildcard_cases`: paths and their trailing wildcards.
- `Definition.verdict_eq_ok`, `Definition.verdict_eq_error`, `Definition.isValid_iff`: what a verdict says.
- `blameless`: the discipline of definitions with a base URL; `importApi_backed`, `reimportApi_backed`: where
  the methods of such a definition are sent.
- `Route.Cut`, `normalize_fits`: how the three fit together.
-/

namespace ApiReconciler

open Program

/-! ## Paths -/

section

variable {path : String} {cs front : List Char}

theorem beforeWildcard?_eq_some : beforeWildcard? cs = some front ↔ cs = front ++ ['/', '*'] := by
  unfold beforeWildcard?
  split
  · next rest h =>
      have hcs : cs = rest.reverse ++ ['/', '*'] := by simpa using congrArg List.reverse h
      rw [hcs, Option.some.injEq, List.append_left_inj]
  · next hno =>
      refine iff_of_false nofun ?_
      rintro rfl
      exact hno front.reverse (by simp)

/-- A path with a slash at its end has no wildcard there. -/
theorem beforeWildcard?_slash : beforeWildcard? (front ++ ['/']) = none := by
  rw [Option.eq_none_iff_forall_ne_some]
  intro rest h
  have hlast := congrArg List.getLast? (beforeWildcard?_eq_some.mp h)
  simp at hlast

/-- A path is cut at a trailing wildcard, or it is left as it is. -/
theorem stripWildcard_cases (path : String) :
    (∃ front, path.toList = front ++ ['/', '*'] ∧ (stripWildcard path).toList = front ++ ['/']) ∨
      beforeWildcard? path.toList = none ∧ stripWildcard path = path := by
  unfold stripWildcard
  split
  · next front h => exact .inl ⟨front, beforeWildcard?_eq_some.mp h, String.toList_ofList⟩
  · next h => exact .inr ⟨h, rfl⟩

/-- **A path that was cut has no trailing wildcard.** -/
theorem beforeWildcard?_stripWildcard (path : String) : beforeWildcard? (stripWildcard path).toList = none := by
  rcases stripWildcard_cases path with ⟨front, -, h⟩ | ⟨h, hsame⟩
  · rw [h]
    exact beforeWildcard?_slash
  · rw [hsame]
    exact h

theorem stripWildcard_of_none (h : beforeWildcard? path.toList = none) : stripWildcard path = path := by
  unfold stripWildcard
  rw [h]

@[simp] theorem stripWildcard_stripWildcard (path : String) :
    stripWildcard (stripWildcard path) = stripWildcard path :=
  stripWildcard_of_none (beforeWildcard?_stripWildcard path)

/-- In a path without a trailing wildcard, each wildcard is an inner one. -/
theorem hasInnerWildcard_of_none (h : beforeWildcard? path.toList = none) :
    hasInnerWildcard path = path.toList.contains '*' := by
  unfold hasInnerWildcard
  rw [h]
  rfl

/-- **Cutting a path leaves its inner wildcards.** -/
@[simp] theorem hasInnerWildcard_stripWildcard (path : String) :
    hasInnerWildcard (stripWildcard path) = hasInnerWildcard path := by
  rcases stripWildcard_cases path with ⟨front, hpath, hcut⟩ | ⟨-, hsame⟩
  · -- the slash that is left is no wildcard
    rw [hasInnerWildcard_of_none (beforeWildcard?_stripWildcard path), hcut]
    unfold hasInnerWildcard
    rw [beforeWildcard?_eq_some.mpr hpath]
    simp
  · rw [hsame]

/-- A path without inner wildcards has none at all when it is cut. -/
theorem wildcard_not_mem_stripWildcard (h : hasInnerWildcard path = false) :
    '*' ∉ (stripWildcard path).toList := by
  rw [← hasInnerWildcard_stripWildcard, hasInnerWildcard_of_none (beforeWildcard?_stripWildcard path)] at h
  simpa using h

end

/-! ## Verdicts -/

theorem wildcardFault_eq_none {routes : List Route} :
    wildcardFault routes = none ↔ ∀ r ∈ routes, hasInnerWildcard r.path = false := by
  unfold wildcardFault
  split
  · next h => simpa [List.filter_eq_nil_iff] using h
  · next h =>
      refine iff_of_false nofun fun hall => h ?_
      simpa [List.filter_eq_nil_iff] using hall

section

variable {d : Definition} {v : Validity}

theorem Definition.verdict_eq_ok :
    d.verdict = .ok v ↔ ∃ fault, endpointFault d.productionEndpoint = .ok fault ∧
      v = ⟨(fault.toList ++ (wildcardFault d.routes).toList).map Fault.message⟩ := by
  unfold Definition.verdict Definition.validate
  cases endpointFault d.productionEndpoint <;> simp [Except.map, eq_comm]

/-- Without a verdict, splitting the production URL has failed. -/
theorem Definition.verdict_eq_error {e : Failure} (h : d.verdict = .error e) :
    ∃ reason, e = .endpoint reason := by
  unfold Definition.verdict at h
  split at h
  · next reason _ => exact ⟨reason, (Except.error.inj h).symm⟩
  · cases h

/-- A definition is valid when neither rule has a fault. -/
theorem Definition.isValid_iff {fault : Option Fault}
    (hv : v = ⟨(fault.toList ++ (wildcardFault d.routes).toList).map Fault.message⟩) :
    v.isValid = true ↔ fault = none ∧ ∀ r ∈ d.routes, hasInnerWildcard r.path = false := by
  rw [hv, ← wildcardFault_eq_none]
  simp [Validity.isValid]

/-- **Normalization does not change a verdict**: a fault of the routes is one before and after it. -/
theorem Definition.verdict_normalize (h : d.verdict = .ok v) :
    ∃ v', d.normalize.verdict = .ok v' ∧ v'.isValid = v.isValid := by
  obtain ⟨fault, hfault, hv⟩ := verdict_eq_ok.mp h
  refine ⟨_, verdict_eq_ok.mpr ⟨fault, hfault, rfl⟩, ?_⟩
  rw [Bool.eq_iff_iff, isValid_iff (d := d.normalize) rfl, isValid_iff hv]
  refine and_congr Iff.rfl ?_
  simp only [normalize, List.forall_mem_map, Route.normalize, hasInnerWildcard_stripWildcard]

@[simp] theorem Definition.normalize_normalize : d.normalize.normalize = d.normalize := by
  simp [normalize, Route.normalize, Function.comp_def]

/-- Normalization leaves the policies as they are, and so what is wrong with them. -/
theorem Definition.hasLongKey_normalize : d.normalize.HasLongKey ↔ d.HasLongKey := by
  have hasking : d.normalize.askingPolicies = d.askingPolicies := by
    rw [askingPolicies, askingPolicies, normalize, List.flatMap_map]
    rfl
  rw [HasLongKey, HasLongKey, requiredAuthorizers_eq_error_iff, requiredAuthorizers_eq_error_iff, hasking]

/-! ## Base URLs -/

/-- A URL with a scheme is more than a slash. -/
theorem dropTrailingSlash_ne_empty {url : String} {parts : Url.Split} (h : Url.split url = .ok parts)
    (hscheme : parts.scheme ≠ "") : dropTrailingSlash url ≠ "" := by
  intro hempty
  obtain rfl | rfl : url = "" ∨ url = "/" := by
    rcases dropTrailingSlash_cases url with hslash | hsame
    · right
      rw [← String.toList_inj, hslash, hempty]
      rfl
    · exact .inl (hsame.symm.trans hempty)
  all_goals
    rw [← Except.ok.inj h] at hscheme
    exact hscheme rfl

/-- An endpoint without a fault has a base URL. -/
theorem Definition.baseUrl_of_endpointFault (h : endpointFault d.productionEndpoint = .ok none) :
    ∃ url, url ≠ "" ∧ d.baseUrl = .ok url := by
  cases hurl : d.productionEndpoint with
  | none =>
      rw [hurl] at h
      cases h
  | some url =>
      rw [hurl] at h
      obtain ⟨parts, hparts, hscheme, -⟩ := endpointFault_eq_none.mp h
      refine ⟨dropTrailingSlash url, ?_, baseUrl_of_productionEndpoint hurl⟩
      refine dropTrailingSlash_ne_empty hparts fun hempty => ?_
      rw [hempty] at hscheme
      exact absurd hscheme (by decide)

end

/-! ## Deploying -/

/-- The discipline of definitions with a base URL: whatever fails, it is not the definition. -/
def blameless : Discipline where
  admits _ := True
  tolerates := ToleratedInSync
  reports _ _ e := e.class? ≠ some .definition
  allows e := e.class? ≠ some .definition

theorem blameless_reconciles : blameless.Reconciles False where
  admits _ _ h := h.elim
  tolerated _ _ h := h
  reports op _ e hclass _ := by
    have hop : op.class? ≠ some .definition := by cases op <;> decide
    exact fun h => hop (hclass.symm.trans h)
  member _ _ hclass _ h := by cases hclass.symm.trans h
  tolerates _ _ h := h
  allows _ h _ _ := h

theorem class?_ne_of_obeys {α : Type} {p : Program α} {Q : α → Prop} {xs : List Exchange} {e : Failure}
    (hp : p.Obeys blameless Q) (h : p.Trace xs (.error e)) : e.class? ≠ some .definition :=
  hp.failure (fun _ _ => trivial) h (fun _ hallowed => hallowed) fun _ _ _ hreported => hreported

section

variable {t : Target} {d : Definition} {url : String} {xs : List Exchange}

theorem complete_asks_backed (i : Imported) :
    (complete t i d url).Asks (Request.Backed url) := by
  have hother : ∀ {api : String} {ops : List Operation} {q : Request}, .putIntegration ∉ ops →
      q.On api ops → q.Backed url := fun hops h => Request.backed_of_ne (h.ne hops)
  refine asks_bind (fetchResources_asks.mono fun _ => hother (by decide)) fun rs => ?_
  refine asks_bind ((synchronizeImported_asks t i d).mono fun _ => hother (by decide)) fun b => ?_
  refine asks_bind (bindAll_asks_backed rs) fun _ => ?_
  refine asks_bind ((deploy_asks t.stage).mono fun _ => hother (by decide)) fun _ => ?_
  exact readReference_asks.mono fun _ => hother (by decide)

/-- **A first import with a base URL sends methods there, and does not fail for the definition.** -/
theorem importApi_backed (hb : d.baseUrl = .ok url) {v : Except Failure Reference}
    (h : (importApi t d).Trace xs v) :
    (∀ fault, v ≠ .error (.definition fault)) ∧ ∀ x ∈ xs, x.request.Backed url := by
  constructor
  · rintro fault rfl
    obtain ⟨steps, removal, ended, -, hsteps, hend⟩ := trace_importApi hb h
    have hobeys : (importStages t d url).Obeys blameless anything :=
      importStages_obeys blameless_reconciles t False.elim url
    -- it is the failure of a stage, or what the removal leaves of one
    rcases hend with ⟨-, rfl⟩ | ⟨api, trigger, left, rfl, hremoval, hleft⟩
    · exact class?_ne_of_obeys hobeys hsteps rfl
    · have htrigger := class?_ne_of_obeys hobeys hsteps
      obtain rfl := Except.error.inj hleft
      rcases hremoval.left_eq with rfl | ⟨cause, hcause⟩
      · exact htrigger rfl
      · cases hcause
  · rw [importApi_eq t hb] at h
    refine (asks_bind ?_ fun i => asks_rescue (complete_asks_backed i) fun e => ?_).trace h
    · refine importDefinition_asks.mono fun q hq => Request.backed_of_ne fun he => ?_
      rw [he] at hq
      exact absurd hq (by decide)
    · exact (abandon_asks e).mono fun q hq => Request.backed_of_ne (hq.ne (by decide))

/-- **So does a reimport.** -/
theorem reimportApi_backed (r : Reference) (hb : d.baseUrl = .ok url) {v : Except Failure Reference}
    (h : (reimportApi t r d).Trace xs v) :
    (∀ fault, v ≠ .error (.definition fault)) ∧ ∀ x ∈ xs, x.request.Backed url := by
  rw [reimportApi_eq t r hb] at h
  constructor
  · rintro fault rfl
    have hoverwrite : (overwriteDefinition r.api d).Obeys blameless anything :=
      overwriteDefinition_obeys blameless_reconciles.toReads d
    have hobeys := hoverwrite.bind fun i _ => complete_obeys blameless_reconciles t i d False.elim url
    exact class?_ne_of_obeys hobeys h rfl
  · refine (asks_bind ?_ fun i => complete_asks_backed i).trace h
    exact (overwriteDefinition_asks d).mono fun q hq => Request.backed_of_ne (hq.ne (by decide))

end

/-! ## How they fit together -/

/-- One route is the other with its path left alone or cut from a trailing `/*` to `/`. -/
structure Route.Cut (r r' : Route) : Prop where
  verb : r'.verb = r.verb
  policies : r'.policies = r.policies
  path : r'.path = r.path ∨
    ∃ front, r.path.toList = front ++ ['/', '*'] ∧ r'.path.toList = front ++ ['/']

theorem Route.normalize_cut (r : Route) : r.Cut r.normalize where
  verb := rfl
  policies := rfl
  path := (stripWildcard_cases r.path).symm.imp_left And.right

/-- **Validation, normalization and deployment fit together.** For a definition with a verdict, normalization
leaves the verdict, is done once and for all, and changes nothing but paths, route by route. If the definition
is valid, there are no wildcards in its normalized paths, and there is a base URL that is not empty: whatever
the gateway answers, a deployment of the normalized definition does not fail for the definition, and every
method that it integrates over HTTP is sent to a URL that starts with the base URL. -/
theorem normalize_fits {σ : Type} (b : Backend σ) (s : σ) (t : Target) (r : Reference) (d : Definition)
    {v : Validity} (h : d.verdict = .ok v) :
    (∃ v', d.normalize.verdict = .ok v' ∧ v'.isValid = v.isValid) ∧
    d.normalize.normalize = d.normalize ∧
    d.normalize = { d with routes := d.normalize.routes } ∧
    List.Forall₂ Route.Cut d.routes d.normalize.routes ∧
    (v.isValid = true →
      (∀ route ∈ d.normalize.routes, '*' ∉ route.path.toList) ∧
      ∃ url, url ≠ "" ∧ d.normalize.baseUrl = .ok url ∧
        (∀ fault, ((importApi t d.normalize).run b s).result ≠ .error (.definition fault)) ∧
        (∀ x ∈ (importApi t d.normalize).exchanges b s, x.request.Backed url) ∧
        (∀ fault, ((reimportApi t r d.normalize).run b s).result ≠ .error (.definition fault)) ∧
        ∀ x ∈ (reimportApi t r d.normalize).exchanges b s, x.request.Backed url) := by
  refine ⟨Definition.verdict_normalize h, Definition.normalize_normalize, rfl, ?_, fun hvalid => ?_⟩
  · rw [Definition.normalize, List.forall₂_map_right_iff]
    exact List.forall₂_same.mpr fun route _ => route.normalize_cut
  obtain ⟨fault, hfault, hv⟩ := Definition.verdict_eq_ok.mp h
  obtain ⟨rfl, hroutes⟩ := (Definition.isValid_iff hv).mp hvalid
  obtain ⟨url, hurl, hbase⟩ := Definition.baseUrl_of_endpointFault (d := d.normalize) hfault
  obtain ⟨himport, hnew⟩ := importApi_backed hbase (trace_run b (importApi t d.normalize) s)
  obtain ⟨hreimport, hover⟩ := reimportApi_backed r hbase (trace_run b (reimportApi t r d.normalize) s)
  refine ⟨?_, url, hurl, hbase, himport, hnew, hreimport, hover⟩
  rw [Definition.normalize, List.forall_mem_map]
  exact fun route hroute => wildcard_not_mem_stripWildcard (hroutes route hroute)

/-- The pets with everything below them. -/
def starredPets : Definition := { guardedPets with routes := [⟨"/pets/*", "GET", []⟩] }

theorem starredPets_fit :
    starredPets.verdict = .ok ⟨[]⟩ ∧ (⟨[]⟩ : Validity).isValid = true ∧
      (∀ route ∈ starredPets.normalize.routes, '*' ∉ route.path.toList) ∧
      ∀ fault, ((importApi ⟨"eu", "live"⟩ starredPets.normalize).run (Script.backend true)
        petsReplies).result ≠ .error (.definition fault) := by
  have hverdict : starredPets.verdict = .ok ⟨[]⟩ := rfl
  obtain ⟨-, -, -, -, hdeployed⟩ := normalize_fits (Script.backend true) petsReplies ⟨"eu", "live"⟩ ⟨"a", []⟩
    starredPets hverdict
  obtain ⟨hpaths, -, -, -, himport, -⟩ := hdeployed rfl
  exact ⟨hverdict, rfl, hpaths, himport⟩

end ApiReconciler
