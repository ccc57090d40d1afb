import ApiReconciler.Proofs.Definition.Normalize
import ApiReconciler.Proofs.Url

/-!
# `ApiReconciler.Proofs.Definition.Verdict` — when there is a verdict, and what it says

Of the two rules that a verdict looks at, only the one about the production URL can fail to give an answer, and
it does so exactly when the URL cannot be split, that is, when it has an authority that is malformed. The
failure is none that a stage reports. All other definitions have a verdict, and what it says about wildcards is
said of all routes at once, in one message that lists those with an inner wildcard in their order.

## Contents
- `InnerWildcard`, `hasInnerWildcard_iff`: wildcards that are not supported.
- `endpointFault_answers_iff`: when the rule about the production URL gives an answer.
- `wildcardIntro`, `IsWildcardError`, `Definition.errors_eq`: the messages of a verdict.
- `verdict_answers_iff`: both together; `bracketedPets_no_verdict`: a definition that has no verdict.
-/

namespace ApiReconciler

/-! ## Wildcards -/

/-- There is a wildcard in the path, and it is not that of a `/*` at the end. -/
def InnerWildcard (path : String) : Prop :=
  ∃ front rest, path.toList = front ++ '*' :: rest ∧ ¬(rest = [] ∧ ∃ stem, front = stem ++ ['/'])

/-- **What is left without a trailing wildcard has a wildcard exactly if the path has an inner one.** -/
theorem hasInnerWildcard_iff {path : String} : hasInnerWildcard path = true ↔ InnerWildcard path := by
  cases h : beforeWildcard? path.toList with
  | none =>
      rw [hasInnerWildcard_of_none h, List.contains_iff_mem]
      constructor
      · intro hmem
        obtain ⟨front, rest, hpath⟩ := List.append_of_mem hmem
        refine ⟨front, rest, hpath, ?_⟩
        rintro ⟨rfl, stem, rfl⟩
        have htrailing : beforeWildcard? path.toList = some stem := by
          rw [beforeWildcard?_eq_some, hpath]
          simp
        rw [h] at htrailing
        cases htrailing
      · rintro ⟨front, rest, hpath, -⟩
        rw [hpath]
        simp
  | some stem =>
      have hpath := beforeWildcard?_eq_some.mp h
      have hstem : hasInnerWildcard path = stem.contains '*' := by
        unfold hasInnerWildcard
        rw [h]
        rfl
      rw [hstem, List.contains_iff_mem]
      constructor
      · intro hmem
        obtain ⟨front, rest, rfl⟩ := List.append_of_mem hmem
        refine ⟨front, rest ++ ['/', '*'], by simpa using hpath, ?_⟩
        simp
      · rintro ⟨front, rest, hsplit, hinner⟩
        rw [hpath] at hsplit
        rcases List.eq_nil_or_concat rest with rfl | ⟨rest, c, rfl⟩
        · -- a wildcard at the end is the trailing one
          have hfront : stem ++ ['/'] = front := by
            have h' : (stem ++ ['/']) ++ ['*'] = front ++ ['*'] := by simpa using hsplit
            exact List.append_cancel_right h'
          exact absurd ⟨rfl, stem, hfront.symm⟩ hinner
        · have h' : (stem ++ ['/']) ++ ['*'] = (front ++ '*' :: rest) ++ [c] := by simpa using hsplit
          have hbefore : stem ++ ['/'] = front ++ '*' :: rest := (List.append_inj' h' rfl).1
          have hmem : '*' ∈ stem ++ ['/'] := by
            rw [hbefore]
            simp
          simpa using hmem

instance (path : String) : Decidable (InnerWildcard path) := decidable_of_iff _ hasInnerWildcard_iff

/-- The routes with inner wildcards, in order. -/
def Definition.wildcardRoutes (d : Definition) : List Route := d.routes.filter fun r => InnerWildcard r.path

variable {d : Definition} {v : Validity}

/-- The fault of the wildcards lists the routes that have inner ones. -/
theorem Definition.wildcardFault_eq (d : Definition) :
    wildcardFault d.routes =
      if d.wildcardRoutes = [] then none else some (.wildcards (d.wildcardRoutes.map Route.label)) := by
  have hroutes : (d.routes.filter fun r => hasInnerWildcard r.path) = d.wildcardRoutes := by
    refine List.filter_congr fun r _ => ?_
    rw [Bool.eq_iff_iff, hasInnerWildcard_iff, decide_eq_true_iff]
  unfold wildcardFault
  rw [hroutes]
  cases d.wildcardRoutes with
  | nil => rfl
  | cons r rs => rfl

/-! ## Answers -/

/-- **The rule about production URLs gives an answer exactly for those that can be split.** -/
theorem endpointFault_answers_iff {endpoint : Option String} :
    (∃ fault, endpointFault endpoint = .ok fault) ↔
      ∀ url, endpoint = some url → ∃ parts, Url.split url = .ok parts := by
  cases endpoint with
  | none => exact iff_of_true ⟨_, rfl⟩ nofun
  | some url =>
      simp only [Option.some.injEq, forall_eq']
      by_cases hempty : url = ""
      · subst hempty
        exact iff_of_true ⟨_, rfl⟩ ⟨_, rfl⟩
      · simp only [endpointFault, if_neg hempty]
        cases Url.split url with
        | error e => simp
        | ok parts =>
            refine iff_of_true ?_ ⟨_, rfl⟩
            dsimp only
            split
            · exact ⟨_, rfl⟩
            · exact ⟨_, rfl⟩

/-- It says nothing about wildcards. -/
theorem endpointFault_ne_wildcards {endpoint : Option String} {operations : List String} :
    endpointFault endpoint ≠ .ok (some (.wildcards operations)) := by
  intro h
  unfold endpointFault at h
  repeat' split at h
  all_goals cases h

/-- A definition has a verdict if the rule about production URLs gives an answer. -/
theorem Definition.exists_verdict_iff :
    (∃ v, d.verdict = .ok v) ↔ ∃ fault, endpointFault d.productionEndpoint = .ok fault := by
  simp only [verdict_eq_ok]
  constructor
  · rintro ⟨v, fault, hfault, -⟩
    exact ⟨fault, hfault⟩
  · rintro ⟨fault, hfault⟩
    exact ⟨_, fault, hfault, rfl⟩

/-! ## Messages -/

/-- What messages about wildcards begin with. -/
def wildcardIntro : String := "Wildcard resources are not supported by AWS API Gateway: "

/-- A message about wildcards. -/
def IsWildcardError (message : String) : Prop := ∃ operations, message = wildcardIntro ++ operations

theorem IsWildcardError.head? {message : String} (h : IsWildcardError message) :
    message.toList.head? = some 'W' := by
  obtain ⟨operations, rfl⟩ := h
  have hintro : wildcardIntro.toList.head? = some 'W' := by decide +kernel
  rw [String.toList_append, List.head?_append, hintro, Option.some_or]

/-- Messages about wildcards are about nothing else. -/
theorem Fault.isWildcardError_iff {fault : Fault} :
    IsWildcardError fault.message ↔ ∃ operations, fault = .wildcards operations := by
  constructor
  · intro h
    have hhead := h.head?
    cases fault with
    | noEndpoint => exact absurd hhead (by decide +kernel)
    | relativeEndpoint url =>
        have hother : "Production endpoint must be an absolute http(s) URL: ".toList.head? = some 'P' := by
          decide +kernel
        change ("Production endpoint must be an absolute http(s) URL: " ++ url).toList.head? = some 'W' at hhead
        rw [String.toList_append, List.head?_append, hother, Option.some_or] at hhead
        exact absurd (Option.some.inj hhead) (by decide)
    | wildcards operations => exact ⟨operations, rfl⟩
  · rintro ⟨operations, rfl⟩
    exact ⟨", ".intercalate operations, rfl⟩

/-- **What a verdict says**: something about the production URL or nothing, and one message about wildcards if
there are routes with inner ones. -/
theorem Definition.errors_eq (h : d.verdict = .ok v) :
    ∃ before, (∀ message ∈ before, ¬IsWildcardError message) ∧
      v.errors = before ++
        if d.wildcardRoutes = [] then []
        else [wildcardIntro ++ ", ".intercalate (d.wildcardRoutes.map Route.label)] := by
  obtain ⟨fault, hfault, rfl⟩ := verdict_eq_ok.mp h
  refine ⟨fault.toList.map Fault.message, ?_, ?_⟩
  · rintro message hmessage hwildcards
    obtain ⟨f, hf, rfl⟩ := List.mem_map.mp hmessage
    obtain ⟨operations, rfl⟩ := Fault.isWildcardError_iff.mp hwildcards
    rw [Option.mem_toList.mp hf] at hfault
    exact endpointFault_ne_wildcards hfault
  · rw [wildcardFault_eq, List.map_append]
    split
    · rfl
    · rfl

/-! ## Verdicts -/

/-- **A definition has a verdict exactly if its production URL has no malformed authority.** Where there is no
verdict, a failure escapes that no stage reports. A verdict is good if it has no errors. There is an error about
wildcards exactly if some route has an inner one, and it names those routes, in their order and by verb and
path. -/
theorem verdict_answers_iff (d : Definition) :
    ((∃ v, d.verdict = .ok v) ↔
      ∀ url authority, d.productionEndpoint = some url → Url.HasAuthority authority (Url.clean url.toList) →
        ¬Url.Malformed authority) ∧
    (∀ e, d.verdict = .error e → e.isReported = false ∧ ∃ reason, e = .endpoint reason) ∧
    ∀ v, d.verdict = .ok v →
      (v.isValid = true ↔ v.errors = []) ∧
      ((∃ message ∈ v.errors, IsWildcardError message) ↔ ∃ r ∈ d.routes, InnerWildcard r.path) ∧
      ∀ message ∈ v.errors, IsWildcardError message →
        message = wildcardIntro ++ ", ".intercalate ((d.routes.filter fun r => InnerWildcard r.path).map
            fun r => Text.upper r.verb ++ " " ++ r.path) := by
  refine ⟨?_, fun e he => ?_, fun v hv => ⟨by simp [Validity.isValid], ?_⟩⟩
  · rw [Definition.exists_verdict_iff, endpointFault_answers_iff]
    simp only [Url.exists_split_iff]
    constructor
    · intro h url authority hurl hauthority
      exact h url hurl authority hauthority
    · intro h url hurl authority hauthority
      exact h url authority hurl hauthority
  · obtain ⟨reason, rfl⟩ := Definition.verdict_eq_error he
    exact ⟨rfl, reason, rfl⟩
  obtain ⟨before, hbefore, herrors⟩ := Definition.errors_eq hv
  have hnone : d.wildcardRoutes = [] ↔ ¬∃ r ∈ d.routes, InnerWildcard r.path := by
    simp [Definition.wildcardRoutes, List.filter_eq_nil_iff]
  by_cases hroutes : d.wildcardRoutes = []
  · rw [if_pos hroutes, List.append_nil] at herrors
    rw [herrors]
    constructor
    · refine iff_of_false ?_ (hnone.mp hroutes)
      rintro ⟨message, hmem, hwildcards⟩
      exact hbefore message hmem hwildcards
    · exact fun message hmem hwildcards => absurd hwildcards (hbefore message hmem)
  · rw [if_neg hroutes] at herrors
    rw [herrors]
    constructor
    · refine iff_of_true ⟨_, List.mem_append_right _ List.mem_cons_self, _, rfl⟩ ?_
      exact not_not.mp fun h => hroutes (hnone.mpr h)
    · intro message hmem hwildcards
      rcases List.mem_append.mp hmem with hmem | hmem
      · exact absurd hwildcards (hbefore message hmem)
      · exact List.mem_singleton.mp hmem

/-- Pets with one wildcard that is supported and two that are not. -/
def wildPets : Definition :=
  { guardedPets with routes := [⟨"/pets/*", "GET", []⟩, ⟨"/*/toys", "get", []⟩, ⟨"/pets*", "PUT", []⟩] }

/-- The verdict on them names the two. -/
theorem wildPets_refused :
    ∃ v, wildPets.verdict = .ok v ∧ v.isValid = false ∧
      ∀ message ∈ v.errors, IsWildcardError message →
        message = "Wildcard resources are not supported by AWS API Gateway: GET /*/toys, PUT /pets*" := by
  obtain ⟨-, -, hsays⟩ := verdict_answers_iff wildPets
  have hverdict : wildPets.verdict =
      .ok ⟨["Wildcard resources are not supported by AWS API Gateway: GET /*/toys, PUT /pets*"]⟩ := by
    decide +kernel
  obtain ⟨-, -, hnames⟩ := hsays _ hverdict
  exact ⟨_, hverdict, rfl, hnames⟩

/-- Pets with a backend whose address is not closed. -/
def bracketedPets : Definition :=
  { guardedPets with
    endpoint := .mapping [(.text "production_endpoints", .object [(.text "url", .text "http://[backend")])] }

/-- There is no verdict on them, neither a good one nor a bad one. -/
theorem bracketedPets_no_verdict :
    bracketedPets.productionEndpoint = some "http://[backend" ∧
      bracketedPets.verdict = .error (.endpoint .unbalancedBrackets) ∧
      ¬∃ v, bracketedPets.verdict = .ok v := by
  have hverdict : bracketedPets.verdict = .error (.endpoint .unbalancedBrackets) := rfl
  refine ⟨rfl, hverdict, ?_⟩
  rintro ⟨v, hv⟩
  rw [hverdict] at hv
  cases hv

end ApiReconciler
