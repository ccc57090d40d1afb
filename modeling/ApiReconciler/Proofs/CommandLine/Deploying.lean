import ApiReconciler.CommandLine.Run
import ApiReconciler.Proofs.Deployer
import ApiReconciler.Proofs.Document.Loading
import ApiReconciler.Proofs.Preparation

/-!
# `ApiReconciler.Proofs.CommandLine.Deploying` — the course of a deployment by command

The command opens a client, reads a definition, judges it, and finds out which reference the deployment is
over. Only then does a deployer go to work, and after it nothing more is asked of the gateway. A run of the
command therefore stops before the deployer is called, or it is the run of a deployer with a client opened in
front of it, and its end is made of the deployer's. `Readied` says what lets the command come to the deployer,
and `Deploying` lists the courses.

Which of the two deployments it is depends on the text that the deployer is given, and not on whether there
was a reference: an empty one counts as none.

## Contents
- `endedBy`, `ending_eq_onEnd`: programs whose failures are ends.
- `givenText`, `Readied`: what precedes the deployer.
- `Deploying`, `trace_run_deploy`: the courses; `runs_run_deploy`: the one that goes on to the deployer.
- `deploy_over_imports_nothing`: a deployment over a reference.
-/

namespace ApiReconciler

open Program

/-! ## Deployers over a reference -/

/-- A deployer that is given a text imports nothing. -/
theorem deploy_over_asks (d : Deployer) (definition : Definition) (given : String) :
    (d.deploy definition (some given)).Asks fun q => q.operation ≠ .importApi := by
  refine asks_bind asks_ofExcept fun c => ?_
  refine asks_bind asks_log fun _ => asks_bind asks_ofExcept fun r => ?_
  refine asks_bind ((reimportApi_asks c.target r definition).mono fun q hq he => ?_) fun ref => asks_ofExcept
  rw [he] at hq
  exact hq (by decide)

/-- A reimport that succeeds has written over the API. -/
theorem trace_reimportApi_overwrites {t : Target} {r ref : Reference} {d : Definition} {xs : List Exchange}
    (h : (reimportApi t r d).Trace xs (.ok ref)) :
    ∃ reply, .call (.overwriteApi r.api d.document) (.ok reply) ∈ xs := by
  obtain ⟨_, _, _, rfl, hurl, h₁⟩ := trace_bind_ok.mp h
  obtain ⟨i, _, _, rfl, hput, -⟩ := trace_bind_ok.mp h₁
  obtain ⟨reply, rfl, -⟩ := trace_overwriteDefinition hput
  exact ⟨reply, List.mem_append_right _ List.mem_cons_self⟩

end ApiReconciler

namespace ApiReconciler.CommandLine

open Program

variable {σ : Type} {b : Backend σ} {s s₁ s₂ : σ} {xs ys : List Exchange} {c : Context}
  {path : String} {reference output : Option String} {d : Deployer} {definition : Definition}

/-! ## Ends -/

/-- The end that a result or a failure comes to. -/
def endedBy (onFailure : Failure → Exit) : Except Failure Exit → Exit
  | .ok exit => exit
  | .error f => onFailure f

section

variable {p : Program Exit} {onFailure : Failure → Exit}

theorem ending_eq_onEnd (p : Program Exit) (onFailure : Failure → Exit) :
    ending p onFailure = p.onEnd fun m => .done (endedBy onFailure m) := by
  unfold ending
  rw [rescue_eq_onEnd]
  congr 1
  funext m
  cases m <;> rfl

theorem trace_ending {r : Except Failure Exit} :
    (ending p onFailure).Trace xs r ↔ ∃ m, p.Trace xs m ∧ r = .ok (endedBy onFailure m) := by
  rw [ending_eq_onEnd, trace_onEnd]
  constructor
  · rintro ⟨m, ys, zs, rfl, hp, rfl, rfl⟩
    rw [List.append_nil]
    exact ⟨m, hp, rfl⟩
  · rintro ⟨m, hp, rfl⟩
    exact ⟨m, xs, [], (List.append_nil xs).symm, hp, rfl, rfl⟩

theorem runs_ending {m : Except Failure Exit} (h : Runs b p s xs m s₁) :
    Runs b (ending p onFailure) s xs (.ok (endedBy onFailure m)) s₁ := by
  rw [ending_eq_onEnd, ← List.append_nil xs]
  exact h.onEnd (runs_done _)

end

theorem endOf_code (wording : Wording) (f : Failure) : (endOf wording f).code = 1 := by
  unfold endOf
  split <;> rfl

theorem endOfDeployment_code (wording : Wording) (f : Failure) : (endOfDeployment wording f).code ≠ 0 := by
  unfold endOfDeployment
  split
  · exact Nat.succ_ne_zero 1
  · rw [endOf_code]
    exact Nat.one_ne_zero

/-! ## Before the deployer -/

/-- The text of the reference that a deployment is over. An empty reference is none, and what stands behind an
at sign names a file. -/
def givenText (files : Files) (reference : Option String) : Except Failure (Option String) :=
  match reference.filter (· ≠ "") with
  | none => .ok none
  | some text => (referenceText files text).map some

theorem givenText_empty (files : Files) : givenText files (some "") = .ok none := rfl

theorem givenText_of_ne {files : Files} {text : String} (h : text ≠ "") :
    givenText files (some text) = (referenceText files text).map some := by
  have hfilter : (some text).filter (· ≠ "") = some text := by simp [h]
  unfold givenText
  rw [hfilter]

/-- The command comes to the deployer: the definition is read and valid, and so is the text to deploy over. -/
structure Readied (c : Context) (path : String) (reference : Option String) (definition : Definition)
    (text : Option String) : Prop where
  loaded : loadDefinition c.files path = .ok definition
  valid : ∃ validity, definition.verdict = .ok validity ∧ validity.isValid = true
  given : givenText c.files reference = .ok text

/-- The operations that open a client. -/
def openingOperations : List Operation := [.openSession, .openClient]

theorem connect_asks (c : Context) : (connect c).Asks fun q => q.operation ∈ openingOperations := by
  refine asks_bind asks_ofExcept fun gateway => asks_bind asks_ofExcept fun settings => ?_
  refine asks_bind asks_ofExcept fun st => ?_
  refine asks_bind ((openClient_asks st).mono fun q hq => ?_) fun _ => asks_done
  obtain rfl | rfl := hq
  · exact List.mem_cons_self
  · exact List.mem_cons_of_mem _ List.mem_cons_self

/-- What is deployed, once the definition is valid. -/
theorem deployValid_eq (c : Context) (d : Deployer) (definition : Definition)
    (reference output : Option String) :
    deployValid c d definition reference output =
      ending ((ofExcept (givenText c.files reference)).bind fun text =>
          (d.deploy definition.normalize text).bind fun new => .done (deployed c d output new))
        (endOfDeployment c.wording) := by
  unfold deployValid givenText
  cases reference.filter (· ≠ "") with
  | none => rfl
  | some text =>
      dsimp only
      cases referenceText c.files text <;> rfl

/-! ## The courses -/

/-- The courses of the command: what is exchanged and how it ends. -/
inductive Deploying (c : Context) (path : String) (reference output : Option String) :
    List Exchange → Exit → Prop
  | stopped {opening : List Exchange} {exit : Exit}
      (opens : ∀ x ∈ opening, x.request.operation ∈ openingOperations) (unsuccessful : exit.code ≠ 0) :
    Deploying c path reference output opening exit
  | failed {opening ys : List Exchange} {d : Deployer} {definition : Definition} {text : Option String}
      {f : Failure} (connected : (connect c).Trace opening (.ok d))
      (ready : Readied c path reference definition text)
      (deploys : (d.deploy definition.normalize text).Trace ys (.error f)) :
    Deploying c path reference output (opening ++ ys) (endOfDeployment c.wording f)
  | succeeded {opening ys : List Exchange} {d : Deployer} {definition : Definition} {text : Option String}
      {new : String} (connected : (connect c).Trace opening (.ok d))
      (ready : Readied c path reference definition text)
      (deploys : (d.deploy definition.normalize text).Trace ys (.ok new)) :
    Deploying c path reference output (opening ++ ys) (deployed c d output new)

theorem trace_deployValid {opening : List Exchange} {r : Except Failure Exit}
    (hconnected : (connect c).Trace opening (.ok d)) (hloaded : loadDefinition c.files path = .ok definition)
    (hvalid : ∃ validity, definition.verdict = .ok validity ∧ validity.isValid = true)
    (h : (deployValid c d definition reference output).Trace xs r) :
    ∃ exit, r = .ok exit ∧ Deploying c path reference output (opening ++ xs) exit := by
  rw [deployValid_eq, trace_ending] at h
  obtain ⟨m, hm, rfl⟩ := h
  refine ⟨_, rfl, ?_⟩
  obtain ⟨text, _, ys, rfl, hgiven, hdeploy⟩ | ⟨f, rfl, hgiven⟩ := trace_bind.mp hm
  · obtain ⟨rfl, htext⟩ := trace_ofExcept.mp hgiven
    have hready : Readied c path reference definition text := ⟨hloaded, hvalid, htext.symm⟩
    obtain ⟨new, ys, _, rfl, hnew, rfl, rfl⟩ | ⟨f, rfl, hfailed⟩ := trace_bind.mp hdeploy
    · rw [List.nil_append, List.append_nil]
      exact .succeeded hconnected hready hnew
    · rw [List.nil_append]
      exact .failed hconnected hready hfailed
  · -- there is no text to deploy over, so the deployer is not called
    obtain ⟨rfl, -⟩ := trace_ofExcept.mp hgiven
    rw [List.append_nil]
    exact .stopped ((connect_asks c).trace hconnected) (endOfDeployment_code c.wording f)

/-- The stages of the command before the deployer is called. -/
theorem runDeploy_eq (c : Context) (path : String) (reference output : Option String) :
    runDeploy c path reference output = (connect c).bind fun d =>
      (ofExcept (loadDefinition c.files path)).bind fun definition =>
        (ofExcept definition.verdict).bind fun validity =>
          if validity.isValid then deployValid c d definition reference output
          else .done (.failed 1
            (errorItems validity ++ errorLine "API definition is not valid for this gateway")) := rfl

theorem run_deploy_eq (c : Context) (path : String) (reference output : Option String) :
    run c (.deploy path reference output) = ending (runDeploy c path reference output) (endOf c.wording) :=
  rfl

/-- **A run of the command is one of the courses**, and it always comes to an end. -/
theorem trace_run_deploy {r : Except Failure Exit}
    (h : (run c (.deploy path reference output)).Trace xs r) :
    ∃ exit, r = .ok exit ∧ Deploying c path reference output xs exit := by
  rw [run_deploy_eq, trace_ending] at h
  obtain ⟨m, hm, rfl⟩ := h
  refine ⟨_, rfl, ?_⟩
  have hfailure : ∀ f : Failure, (endOf c.wording f).code ≠ 0 := fun f => by
    rw [endOf_code]
    exact Nat.one_ne_zero
  rw [runDeploy_eq, trace_bind] at hm
  obtain ⟨d, opening, _, rfl, hconnected, h₁⟩ | ⟨f, rfl, hconnect⟩ := hm
  · have hopens := (connect_asks c).trace hconnected
    obtain ⟨definition, _, _, rfl, hload, h₂⟩ | ⟨f, rfl, hload⟩ := trace_bind.mp h₁
    · obtain ⟨rfl, hloaded⟩ := trace_ofExcept.mp hload
      obtain ⟨validity, _, _, rfl, hverdict, h₃⟩ | ⟨f, rfl, hverdict⟩ := trace_bind.mp h₂
      · obtain ⟨rfl, hjudged⟩ := trace_ofExcept.mp hverdict
        by_cases hvalid : validity.isValid = true
        · rw [if_pos hvalid] at h₃
          obtain ⟨exit, rfl, hcourse⟩ := trace_deployValid hconnected hloaded.symm
            ⟨validity, hjudged.symm, hvalid⟩ h₃
          exact hcourse
        · rw [if_neg hvalid] at h₃
          obtain ⟨rfl, rfl⟩ := h₃
          rw [List.append_nil, List.append_nil, List.append_nil]
          exact .stopped hopens Nat.one_ne_zero
      · obtain ⟨rfl, -⟩ := trace_ofExcept.mp hverdict
        rw [List.append_nil, List.append_nil]
        exact .stopped hopens (hfailure f)
    · obtain ⟨rfl, -⟩ := trace_ofExcept.mp hload
      rw [List.append_nil]
      exact .stopped hopens (hfailure f)
  · exact .stopped ((connect_asks c).trace hconnect) (hfailure f)

/-- The end of the command after the deployer's. -/
def endOfDeployer (c : Context) (d : Deployer) (output : Option String) : Except Failure String → Exit
  | .ok new => deployed c d output new
  | .error f => endOfDeployment c.wording f

/-- **A command that comes to the deployer** runs as the deployer does once the client is opened. -/
theorem runs_run_deploy {text : Option String} {m : Except Failure String}
    (hconnected : Runs b (connect c) s xs (.ok d) s₁) (ready : Readied c path reference definition text)
    (hdeploys : Runs b (d.deploy definition.normalize text) s₁ ys m s₂) :
    Runs b (run c (.deploy path reference output)) s (xs ++ ys) (.ok (endOfDeployer c d output m)) s₂ := by
  obtain ⟨hloaded, ⟨validity, hjudged, hvalid⟩, hgiven⟩ := ready
  have hinner : Runs b (deployValid c d definition reference output) s₁ ys
      (.ok (endOfDeployer c d output m)) s₂ := by
    rw [deployValid_eq, hgiven, ofExcept_ok, done_bind]
    cases m with
    | ok new =>
        rw [← List.append_nil ys]
        exact runs_ending (hdeploys.bind (f := fun new => .done (deployed c d output new)) (runs_done _))
    | error f => exact runs_ending hdeploys.bind_error
  have hrun : Runs b (runDeploy c path reference output) s (xs ++ ys)
      (.ok (endOfDeployer c d output m)) s₂ := by
    rw [runDeploy_eq]
    simp only [hloaded, hjudged, ofExcept_ok, done_bind, if_pos hvalid]
    exact hconnected.bind hinner
  rw [run_deploy_eq]
  exact runs_ending hrun

/-! ## No second API -/

section

variable {given : String} {exit : Exit}

/-- The text to deploy over is the one that the reference comes to. -/
theorem Readied.text_of_ne {text : Option String} (h : Readied c path (some given) definition text)
    (hgiven : given ≠ "") : ∃ old, text = some old ∧ referenceText c.files given = .ok old := by
  have htext := h.given
  rw [givenText_of_ne hgiven] at htext
  cases hread : referenceText c.files given with
  | error f =>
      rw [hread] at htext
      cases htext
  | ok old =>
      rw [hread] at htext
      exact ⟨old, (Except.ok.inj htext).symm, rfl⟩

/-- Neither the opening of a client nor a deployment over a text imports an API. -/
theorem imports_nothing_of_ne {opening : List Exchange} {old : String} {m : Except Failure String}
    (hopening : ∀ x ∈ opening, x.request.operation ∈ openingOperations)
    (hdeploys : (d.deploy definition (some old)).Trace ys m) :
    ∀ x ∈ opening ++ ys, x.request.operation ≠ .importApi := by
  have hother : ∀ op ∈ openingOperations, op ≠ Operation.importApi := by decide
  intro x hx
  rcases List.mem_append.mp hx with hx | hx
  · exact hother _ (hopening x hx)
  · exact (deploy_over_asks d definition old).trace hdeploys x hx

/-- No course over a reference imports an API. -/
theorem Deploying.imports_nothing (h : Deploying c path (some given) output xs exit) (hgiven : given ≠ "") :
    ∀ x ∈ xs, x.request.operation ≠ .importApi := by
  cases h with
  | stopped opens _ =>
      have hother : ∀ op ∈ openingOperations, op ≠ Operation.importApi := by decide
      exact fun x hx => hother _ (opens x hx)
  | failed connected ready deploys =>
      obtain ⟨old, rfl, -⟩ := ready.text_of_ne hgiven
      exact imports_nothing_of_ne ((connect_asks c).trace connected) deploys
  | succeeded connected ready deploys =>
      obtain ⟨old, rfl, -⟩ := ready.text_of_ne hgiven
      exact imports_nothing_of_ne ((connect_asks c).trace connected) deploys

/-- A course over a reference that ends well has written over the API that the reference names. -/
theorem Deploying.overwrites (h : Deploying c path (some given) output xs exit) (hgiven : given ≠ "")
    (hexit : exit.code = 0) :
    ∃ text r document reply, referenceText c.files given = .ok text ∧ Reference.parse text = .ok r ∧
      .call (.overwriteApi r.api document) (.ok reply) ∈ xs := by
  cases h with
  | stopped _ unsuccessful => exact absurd hexit unsuccessful
  | failed _ _ _ => exact absurd hexit (endOfDeployment_code c.wording _)
  | succeeded connected ready deploys =>
      obtain ⟨old, rfl, hread⟩ := ready.text_of_ne hgiven
      obtain ⟨_, r, ref, -, hr, hreimport, -⟩ := trace_deploy_over deploys
      obtain ⟨reply, hmem⟩ := trace_reimportApi_overwrites hreimport
      exact ⟨old, r, _, reply, hread, hr, List.mem_append_right _ hmem⟩

/-- An empty reference is none. -/
theorem run_deploy_empty (c : Context) (path : String) (output : Option String) :
    run c (.deploy path (some "") output) = run c (.deploy path none output) := by
  have hrest : ∀ d definition, deployValid c d definition (some "") output =
      deployValid c d definition none output := fun d definition => by
    rw [deployValid_eq, deployValid_eq, givenText_empty]
    rfl
  have hrun : runDeploy c path (some "") output = runDeploy c path none output := by
    simp only [runDeploy_eq, hrest]
  rw [run_deploy_eq, run_deploy_eq, hrun]

end

/-- Arguments that are read are run. -/
theorem runArguments_eq {files : Files} {env : Variables} {args : List String} {i : Invocation}
    (hread : Invocation.read files env args = .ok i) (wording : Wording) :
    runArguments files env wording args = run ⟨files, env, i.config, i.gateway, wording⟩ i.command := by
  unfold runArguments
  rw [hread]

/-- **A deployment over a reference imports nothing**, as long as the reference is not empty: whatever the
gateway answers, no API is imported, and a run that ends well has written over the API that the reference
names. A deployment over the empty reference is the first deployment of the definition instead. -/
theorem deploy_over_imports_nothing (b : Backend σ) (s : σ) (wording : Wording) {files : Files}
    {env : Variables} {args : List String} {i : Invocation} {given : String}
    (hread : Invocation.read files env args = .ok i) (hcommand : i.command = .deploy path (some given) output) :
    let p := runArguments files env wording args
    (given ≠ "" → (∀ x ∈ p.exchanges b s, x.request.operation ≠ .importApi) ∧
      ∃ exit, (p.run b s).result = .ok exit ∧
        (exit.code = 0 → ∃ text r document reply, referenceText files given = .ok text ∧
          Reference.parse text = .ok r ∧
            .call (.overwriteApi r.api document) (.ok reply) ∈ p.exchanges b s)) ∧
    (given = "" → p = run ⟨files, env, i.config, i.gateway, wording⟩ (.deploy path none output)) := by
  intro p
  have hp : p = run ⟨files, env, i.config, i.gateway, wording⟩ (.deploy path (some given) output) := by
    rw [← hcommand]
    exact runArguments_eq hread wording
  constructor
  · intro hgiven
    rw [hp]
    obtain ⟨exit, hresult, hcourse⟩ := trace_run_deploy (trace_run b _ s)
    exact ⟨hcourse.imports_nothing hgiven, exit, hresult, hcourse.overwrites hgiven⟩
  · rintro rfl
    rw [hp]
    exact run_deploy_empty _ path output

/-! ### A definition in a file -/

/-- A definition with a backend and nothing to bind. -/
def plainPets : Definition := { guardedPets with policies := [], routes := [] }

/-- What stands in the file of this definition. -/
def plainPetsMembers : Object :=
  [(.text "id", .text "pets"), (.text "name", .text "Pets"), (.text "swagger_definition", .text ""),
    (.text "endpoint_config",
      .object [(.text "production_endpoints", .object [(.text "url", .text "https://backend/")])])]

/-- The file. -/
def petsFiles : Files := [(["pets.json"], Text.utf8 (Json.compact (.object plainPetsMembers)))]

/-- Environment variables for the settings. -/
def liveVariables : Variables := [("AWS_REGION", "eu"), ("AWS_API_STAGE", "live")]

/-- What commands that name no settings file and no gateway work with. -/
def petsContext : Context := ⟨petsFiles, liveVariables, none, "AWS", Detail.plain⟩

/-- The deployer that they prepare. -/
def petsDeployer : Deployer := ⟨.aws, some ⟨⟨"eu", "live", none, none, none, 10, 60, 3⟩, .opened⟩⟩

/-- What is exchanged to prepare it. -/
def petsOpening : List Exchange :=
  [.call (.openSession "eu" none) (.ok []), .call (.openClient ⟨10, 60, 3, none⟩) (.ok [])]

theorem petsContext_connects :
    Runs (Script.backend true) (connect petsContext) redeploymentReplies petsOpening (.ok petsDeployer)
      redeploymentReplies :=
  ⟨rfl, rfl, rfl⟩

theorem plainPetsMembers_plain : (Value.object plainPetsMembers).Plain := by
  have hurl : (Value.object [(.text "url", .text "https://backend/")]).Plain :=
    .object ⟨List.forall_mem_singleton.mpr ⟨_, rfl⟩, by decide⟩ (List.forall_mem_singleton.mpr (.text _))
  have hendpoint : (Value.object [(.text "production_endpoints",
      .object [(.text "url", .text "https://backend/")])]).Plain :=
    .object ⟨List.forall_mem_singleton.mpr ⟨_, rfl⟩, by decide⟩ (List.forall_mem_singleton.mpr hurl)
  refine .object ⟨?_, by decide⟩ ?_
  · exact List.forall_mem_cons.mpr ⟨⟨_, rfl⟩, List.forall_mem_cons.mpr ⟨⟨_, rfl⟩,
      List.forall_mem_cons.mpr ⟨⟨_, rfl⟩, List.forall_mem_singleton.mpr ⟨_, rfl⟩⟩⟩⟩
  · exact List.forall_mem_cons.mpr ⟨.text _, List.forall_mem_cons.mpr ⟨.text _,
      List.forall_mem_cons.mpr ⟨.text _, List.forall_mem_singleton.mpr hendpoint⟩⟩⟩

theorem plainPets_readied {reference text : Option String}
    (hgiven : givenText petsFiles reference = .ok text) :
    Readied petsContext "pets.json" reference plainPets text := by
  have hmapping : readMapping petsFiles (Path.ofText "pets.json") = .ok plainPetsMembers :=
    readMapping_written (by decide) rfl plainPetsMembers_plain (by decide) rfl
  have hloaded : loadDefinition petsFiles "pets.json" = .ok plainPets :=
    loadDefinition_ok hmapping rfl rfl rfl
  exact ⟨hloaded, ⟨⟨[]⟩, rfl, rfl⟩, hgiven⟩

/-- The first deployment of this definition. -/
def petsFirstDeployment : List Exchange :=
  (importApi ⟨"eu", "live"⟩ plainPets).exchanges (Script.backend true) redeploymentReplies

theorem petsDeployer_deploys : ∃ s, Runs (Script.backend true) (petsDeployer.deploy plainPets.normalize none)
    redeploymentReplies petsFirstDeployment (.ok petsText) s := by
  have himport : Runs (Script.backend true) (importApi ⟨"eu", "live"⟩ plainPets) redeploymentReplies
      petsFirstDeployment (.ok petsReference) _ := ⟨rfl, rfl, rfl⟩
  exact ⟨_, runs_deploy_new (d := petsDeployer) rfl himport petsReference_written⟩

/-- What is exchanged to deploy it over the reference. -/
def petsOverwritten : List Exchange :=
  (reimportApi ⟨"eu", "live"⟩ ⟨"a", Object.erase "id" petsReference.stored⟩ plainPets).exchanges
    (Script.backend true) redeploymentReplies

theorem petsDeployer_redeploys :
    ∃ s, Runs (Script.backend true) (petsDeployer.deploy plainPets.normalize (some petsText)) redeploymentReplies
      petsOverwritten (.ok petsText) s := by
  have hparse := Reference.parse_written petsReference_storable petsReference_written
  have hreimport : Runs (Script.backend true)
      (reimportApi ⟨"eu", "live"⟩ ⟨"a", Object.erase "id" petsReference.stored⟩ plainPets)
      redeploymentReplies petsOverwritten (.ok petsReference) _ := ⟨rfl, rfl, rfl⟩
  exact ⟨_, runs_deploy_over (d := petsDeployer) rfl hparse hreimport petsReference_written⟩

theorem petsDeployer_executionUrl :
    petsDeployer.executionUrl petsText = .ok "https://a.execute-api.eu.amazonaws.com/live" := by
  have hparse := Reference.parse_written petsReference_storable petsReference_written
  exact executionUrl_eq (d := petsDeployer) rfl hparse

theorem petsDeployed_success :
    (endOfDeployer petsContext petsDeployer none (.ok petsText)).code = 0 := by
  unfold endOfDeployer deployed
  simp only [Option.filter_none, Option.map_none, Option.bind_none, petsDeployer_executionUrl]
  rfl

theorem deployOverPets_writes_over_a :
    let p := runArguments petsFiles liveVariables Detail.plain ["deploy", "pets.json", "-r", petsText]
    (∀ x ∈ p.exchanges (Script.backend true) redeploymentReplies, x.request.operation ≠ .importApi) ∧
      ∃ document reply, .call (.overwriteApi "a" document) (.ok reply) ∈
        p.exchanges (Script.backend true) redeploymentReplies := by
  intro p
  have hread : Invocation.read petsFiles liveVariables ["deploy", "pets.json", "-r", petsText] =
      .ok ⟨none, "AWS", .deploy "pets.json" (some petsText) none⟩ := rfl
  have hp : p = run petsContext (.deploy "pets.json" (some petsText) none) := runArguments_eq hread _
  have hparse := Reference.parse_written petsReference_storable petsReference_written
  obtain ⟨_, hdeploys⟩ := petsDeployer_redeploys
  have hready : Readied petsContext "pets.json" (some petsText) plainPets (some petsText) :=
    plainPets_readied rfl
  have hrun : Runs (Script.backend true) (run petsContext (.deploy "pets.json" (some petsText) none))
      redeploymentReplies _ (.ok (endOfDeployer petsContext petsDeployer none (.ok petsText))) _ :=
    runs_run_deploy petsContext_connects hready hdeploys
  rw [← hp] at hrun
  obtain ⟨hnone, exit, hresult, hover⟩ :=
    (deploy_over_imports_nothing (Script.backend true) redeploymentReplies Detail.plain hread rfl).1
      (by decide)
  have hcode : exit.code = 0 := by
    rw [Except.ok.inj (hresult.symm.trans hrun.result)]
    exact petsDeployed_success
  obtain ⟨text, r, document, reply, htext, hr, hmem⟩ := hover hcode
  obtain rfl := Except.ok.inj htext
  rw [hparse] at hr
  obtain rfl := Except.ok.inj hr
  exact ⟨hnone, document, reply, hmem⟩

/-- With an empty reference the command imports an API. -/
theorem deployOverNothing_imports :
    let p := runArguments petsFiles liveVariables Detail.plain ["deploy", "pets.json", "-r", ""]
    (∃ exit, (p.run (Script.backend true) redeploymentReplies).result = .ok exit ∧ exit.code = 0) ∧
      ∃ x ∈ p.exchanges (Script.backend true) redeploymentReplies, x.request.operation = .importApi := by
  intro p
  have hread : Invocation.read petsFiles liveVariables ["deploy", "pets.json", "-r", ""] =
      .ok ⟨none, "AWS", .deploy "pets.json" (some "") none⟩ := rfl
  have hp : p = run petsContext (.deploy "pets.json" (some "") none) := runArguments_eq hread _
  obtain ⟨s, hdeploys⟩ := petsDeployer_deploys
  have hready : Readied petsContext "pets.json" (some "") plainPets none :=
    plainPets_readied (givenText_empty petsFiles)
  have hrun : Runs (Script.backend true) (run petsContext (.deploy "pets.json" (some "") none))
      redeploymentReplies (petsOpening ++ petsFirstDeployment)
      (.ok (endOfDeployer petsContext petsDeployer none (.ok petsText))) s :=
    runs_run_deploy petsContext_connects hready hdeploys
  rw [← hp] at hrun
  refine ⟨⟨_, hrun.result, petsDeployed_success⟩, ?_⟩
  rw [hrun.exchanges]
  exact ⟨.call (.importApi "") (.ok [(.text "id", .text "a")]),
    List.mem_append_right _ (List.mem_of_getElem? (i := 0) rfl), rfl⟩

end ApiReconciler.CommandLine
