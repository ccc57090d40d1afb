import ApiReconciler.Proofs.CommandLine.Deploying
import ApiReconciler.Proofs.Definition.Normalize

/-!
# `ApiReconciler.Proofs.CommandLine.Library` — the command deploys as the library does

There are two ways to deploy a definition with a deployer that is prepared for the purpose. The library does
everything in one go and gives a report. The command reads the settings, the definition and the reference
itself, and prints what becomes of them. Each has its own way with failures: the library puts those that a
stage reports into its report and raises the others, the command handles them where they come up and where it
ends.

When the command finds in its files what the library is given, it is the same program up to its end: it is the
library's deployment with the report printed (`run_deploy_eq_library`). Both are brought into one form, a
preparation that is gone on from, so that the ends of the preparation, of the verdict and of the deployment can
be compared one by one. There is one failure that the command ends with in two ways. A reference that is none
is reported when it was given, and is not handled when it was returned; the library reports the first and
raises the second, so the two can be told apart.

## Contents
- `preparation`, `deployDefinition_eq`: the library as a preparation that is gone on from.
- `OneGo`, `oneGo_iff`: the courses of the library.
- `printed`, `run_deploy_eq_library`: **the command prints what the library returns**.
- `read_deploy_over`: every text can be given to the command.
- `deploy_as_library`: **the two deploy the same way**.
-/

namespace ApiReconciler

open Program

/-! ## The library -/

/-- The preparation of a deployer for settings, with a client of its own. -/
def preparation (settings : Settings) : Program Deployer :=
  (Deployer.new .aws).prepare (.settings settings) .opened

/-- The deployer that is prepared. -/
def preparedFor (settings : Settings) : Deployer := ⟨.aws, some ⟨settings, .opened⟩⟩

/-- A preparation gives this deployer, or it fails, and never because of a reference. -/
theorem trace_preparation {settings : Settings} {xs : List Exchange} {m : Except Failure Deployer}
    (h : (preparation settings).Trace xs m) :
    m = .ok (preparedFor settings) ∨ ∃ f, m = .error f ∧ ∀ e, f ≠ .reference e := by
  obtain ⟨f, hread, -, -⟩ | ⟨st, r, hread, hopening, rfl⟩ := trace_prepare.mp h
  · cases hread
  · obtain rfl := Except.ok.inj hread
    have hfault : ∀ operation fault e, openingFailure operation fault ≠ .reference e := by
      intro operation fault e he
      cases fault <;> cases he
    cases hopening with
    | impossible _ => exact .inr ⟨_, rfl, fun e he => by cases he⟩
    | noSession _ fault => exact .inr ⟨_, rfl, hfault _ fault⟩
    | noClient _ _ fault => exact .inr ⟨_, rfl, hfault _ fault⟩
    | opened _ _ _ => exact .inl rfl

/-- What the library makes of the end of a deployment. -/
def reportOf (d : Deployer) : Except Failure String → Except Failure Report
  | .ok new => (d.executionUrl new).map fun url => .deployed new url
  | .error f => if f.isReported then .ok (.failed f) else .error f

/-- Keeping the failures that are reported, and then the URL of what was deployed, are one step. -/
theorem attempt_eq (d : Deployer) (p : Program String) :
    ((p.bind fun new => .done (Except.ok new)).rescue reportFailure).bind (fun result =>
      match result with
      | .error f => .done (.failed f)
      | .ok new => (ofExcept (d.executionUrl new)).bind fun url => .done (.deployed new url)) =
    p.onEnd fun m => ofExcept (reportOf d m) := by
  rw [bind_eq_onEnd, rescue_eq_onEnd, bind_eq_onEnd, onEnd_onEnd, onEnd_onEnd]
  congr 1
  funext m
  cases m with
  | ok new =>
      cases hurl : d.executionUrl new <;> simp [onResult, onEnd, onFailure, reportOf, hurl, Except.map]
  | error f =>
      by_cases hf : f.isReported = true
      · simp [onResult, onEnd, onFailure, reportFailure, reportOf, hf]
      · simp [onResult, onEnd, onFailure, reportFailure, reportOf, hf]

/-- The stages of the library. -/
theorem deployDefinition_eq (definition : Definition) (settings : Settings) (text : Option String) :
    deployDefinition definition settings text = (preparation settings).bind fun d =>
      (ofExcept definition.verdict).bind fun validity =>
        if validity.isValid then (d.deploy definition.normalize text).onEnd fun m => ofExcept (reportOf d m)
        else .done (.invalid validity) := by
  simp only [← attempt_eq]
  rfl

/-- The courses of a deployment in one go: what is exchanged, and what is returned or raised. -/
inductive OneGo {σ : Type} (b : Backend σ) (s : σ) (settings : Settings) (definition : Definition)
    (text : Option String) : List Exchange → Except Failure Report → Prop
  | unprepared {opening : List Exchange} {f : Failure} {s₁ : σ}
      (fails : Runs b (preparation settings) s opening (.error f) s₁) :
    OneGo b s settings definition text opening (.error f)
  | unjudged {opening : List Exchange} {d : Deployer} {f : Failure} {s₁ : σ}
      (prepared : Runs b (preparation settings) s opening (.ok d) s₁)
      (judged : definition.verdict = .error f) :
    OneGo b s settings definition text opening (.error f)
  | invalid {opening : List Exchange} {d : Deployer} {v : Validity} {s₁ : σ}
      (prepared : Runs b (preparation settings) s opening (.ok d) s₁)
      (judged : definition.verdict = .ok v) (errors : v.errors ≠ []) :
    OneGo b s settings definition text opening (.ok (.invalid v))
  | failed {opening xs : List Exchange} {d : Deployer} {f : Failure} {s₁ s₂ : σ}
      (prepared : Runs b (preparation settings) s opening (.ok d) s₁)
      (judged : definition.verdict = .ok ⟨[]⟩)
      (deploys : Runs b (d.deploy definition.normalize text) s₁ xs (.error f) s₂)
      (reported : f.isReported = true) :
    OneGo b s settings definition text (opening ++ xs) (.ok (.failed f))
  | escaped {opening xs : List Exchange} {d : Deployer} {f : Failure} {s₁ s₂ : σ}
      (prepared : Runs b (preparation settings) s opening (.ok d) s₁)
      (judged : definition.verdict = .ok ⟨[]⟩)
      (deploys : Runs b (d.deploy definition.normalize text) s₁ xs (.error f) s₂)
      (unreported : f.isReported = false) :
    OneGo b s settings definition text (opening ++ xs) (.error f)
  | nameless {opening xs : List Exchange} {d : Deployer} {new : String} {f : Failure} {s₁ s₂ : σ}
      (prepared : Runs b (preparation settings) s opening (.ok d) s₁)
      (judged : definition.verdict = .ok ⟨[]⟩)
      (deploys : Runs b (d.deploy definition.normalize text) s₁ xs (.ok new) s₂)
      (named : d.executionUrl new = .error f) :
    OneGo b s settings definition text (opening ++ xs) (.error f)
  | deployed {opening xs : List Exchange} {d : Deployer} {new url : String} {s₁ s₂ : σ}
      (prepared : Runs b (preparation settings) s opening (.ok d) s₁)
      (judged : definition.verdict = .ok ⟨[]⟩)
      (deploys : Runs b (d.deploy definition.normalize text) s₁ xs (.ok new) s₂)
      (named : d.executionUrl new = .ok url) :
    OneGo b s settings definition text (opening ++ xs) (.ok (.deployed new url))

section

variable {σ : Type} {b : Backend σ} {s s₁ s₂ : σ} {settings : Settings} {definition : Definition}
  {text : Option String} {opening xs : List Exchange} {d : Deployer}

theorem runs_ofExcept {α : Type} (x : Except Failure α) : Runs b (ofExcept x) s [] x s := by
  cases x with
  | ok a => exact runs_done a
  | error f => exact runs_fail f

theorem runs_unprepared {f : Failure} (hfails : Runs b (preparation settings) s opening (.error f) s₁) :
    Runs b (deployDefinition definition settings text) s opening (.error f) s₁ := by
  rw [deployDefinition_eq]
  exact hfails.bind_error

theorem runs_unjudged {f : Failure} (hprepared : Runs b (preparation settings) s opening (.ok d) s₁)
    (hjudged : definition.verdict = .error f) :
    Runs b (deployDefinition definition settings text) s opening (.error f) s₁ := by
  rw [deployDefinition_eq, hjudged, ← List.append_nil opening]
  exact hprepared.bind (runs_fail f)

theorem runs_invalid {v : Validity} (hprepared : Runs b (preparation settings) s opening (.ok d) s₁)
    (hjudged : definition.verdict = .ok v) (herrors : v.errors ≠ []) :
    Runs b (deployDefinition definition settings text) s opening (.ok (.invalid v)) s₁ := by
  have hno : ¬v.isValid = true := fun h => herrors (of_decide_eq_true h)
  rw [deployDefinition_eq, hjudged, ← List.append_nil opening]
  refine hprepared.bind ?_
  rw [ofExcept_ok, done_bind, if_neg hno]
  exact runs_done _

/-- A valid definition is deployed by the prepared deployer, and the library reports on how this ends. -/
theorem runs_deployDefinition {m : Except Failure String}
    (hprepared : Runs b (preparation settings) s opening (.ok d) s₁) (hjudged : definition.verdict = .ok ⟨[]⟩)
    (hdeploys : Runs b (d.deploy definition.normalize text) s₁ xs m s₂) :
    Runs b (deployDefinition definition settings text) s (opening ++ xs) (reportOf d m) s₂ := by
  have hvalid : (⟨[]⟩ : Validity).isValid = true := rfl
  rw [deployDefinition_eq]
  refine hprepared.bind ?_
  rw [hjudged, ofExcept_ok, done_bind, if_pos hvalid, ← List.append_nil xs]
  exact hdeploys.onEnd (runs_ofExcept _)

/-- A deployment by the prepared deployer is a course of the library, however it ends. -/
theorem oneGo_reportOf {m : Except Failure String}
    (hprepared : Runs b (preparation settings) s opening (.ok d) s₁) (hjudged : definition.verdict = .ok ⟨[]⟩)
    (hdeploys : Runs b (d.deploy definition.normalize text) s₁ xs m s₂) :
    OneGo b s settings definition text (opening ++ xs) (reportOf d m) := by
  cases m with
  | ok new =>
      cases hurl : d.executionUrl new with
      | ok url =>
          simp only [reportOf, hurl, Except.map]
          exact .deployed hprepared hjudged hdeploys hurl
      | error f =>
          simp only [reportOf, hurl, Except.map]
          exact .nameless hprepared hjudged hdeploys hurl
  | error f =>
      by_cases hf : f.isReported = true
      · simp only [reportOf, if_pos hf]
        exact .failed hprepared hjudged hdeploys hf
      · simp only [reportOf, if_neg hf]
        exact .escaped hprepared hjudged hdeploys (Bool.eq_false_iff.mpr hf)

/-- **A run of the library is one of the courses.** -/
theorem oneGo_run (b : Backend σ) (s : σ) (settings : Settings) (definition : Definition)
    (text : Option String) :
    let p := deployDefinition definition settings text
    OneGo b s settings definition text (p.exchanges b s) (p.run b s).result := by
  intro p
  have hprepared := runs_self b (preparation settings) s
  cases hprepare : ((preparation settings).run b s).result with
  | error f =>
      rw [hprepare] at hprepared
      have hrun : Runs b p s _ _ _ := runs_unprepared hprepared
      rw [hrun.exchanges, hrun.result]
      exact .unprepared hprepared
  | ok d =>
      rw [hprepare] at hprepared
      cases hjudged : definition.verdict with
      | error f =>
          have hrun : Runs b p s _ _ _ := runs_unjudged hprepared hjudged
          rw [hrun.exchanges, hrun.result]
          exact .unjudged hprepared hjudged
      | ok v =>
          obtain ⟨errors⟩ := v
          by_cases herrors : errors = []
          · subst herrors
            have hdeploys := runs_self b (d.deploy definition.normalize text)
              ((preparation settings).run b s).state
            have hrun : Runs b p s _ _ _ := runs_deployDefinition hprepared hjudged hdeploys
            rw [hrun.exchanges, hrun.result]
            exact oneGo_reportOf hprepared hjudged hdeploys
          · have hrun : Runs b p s _ _ _ := runs_invalid hprepared hjudged herrors
            rw [hrun.exchanges, hrun.result]
            exact .invalid hprepared hjudged herrors

/-- The exchanges and the result of a run make a course, and the only one. -/
theorem oneGo_iff {r : Except Failure Report} :
    OneGo b s settings definition text xs r ↔
      xs = (deployDefinition definition settings text).exchanges b s ∧
        r = ((deployDefinition definition settings text).run b s).result := by
  constructor
  · intro h
    have hrun : ∃ s', Runs b (deployDefinition definition settings text) s xs r s' := by
      cases h with
      | unprepared fails => exact ⟨_, runs_unprepared fails⟩
      | unjudged prepared judged => exact ⟨_, runs_unjudged prepared judged⟩
      | invalid prepared judged errors => exact ⟨_, runs_invalid prepared judged errors⟩
      | failed prepared judged deploys reported =>
          have hruns := runs_deployDefinition prepared judged deploys
          simp only [reportOf, if_pos reported] at hruns
          exact ⟨_, hruns⟩
      | escaped prepared judged deploys unreported =>
          have hruns := runs_deployDefinition prepared judged deploys
          simp only [reportOf, unreported, Bool.false_eq_true, if_false] at hruns
          exact ⟨_, hruns⟩
      | nameless prepared judged deploys named =>
          have hruns := runs_deployDefinition prepared judged deploys
          simp only [reportOf, named, Except.map] at hruns
          exact ⟨_, hruns⟩
      | deployed prepared judged deploys named =>
          have hruns := runs_deployDefinition prepared judged deploys
          simp only [reportOf, named, Except.map] at hruns
          exact ⟨_, hruns⟩
    obtain ⟨s', hruns⟩ := hrun
    exact ⟨hruns.exchanges.symm, hruns.result.symm⟩
  · rintro ⟨rfl, rfl⟩
    exact oneGo_run b s settings definition text

end

/-! ## The command -/

namespace CommandLine

/-- The end of the command for a failure that the library raises. A reference is never the reason, unless the
one that was returned by the deployer is none, and this is not handled. -/
def endOfRaised (wording : Wording) : Failure → Exit
  | .reference e => .escape (.failure (.reference e))
  | f => endOf wording f

/-- What the command prints when the library returns a report or raises a failure. -/
def printed (wording : Wording) : Except Failure Report → Exit
  | .ok (.deployed new url) => .success (markedLine .boldGreen "Deployed: " url ++ line new)
  | .ok (.invalid v) => .failed 1 (errorItems v ++ errorLine "API definition is not valid for this gateway")
  | .ok (.failed f) =>
    if isRollback f then .failed 2 (errorLine (f.message wording ++ cleanupHint))
    else .failed 1 (errorLine (f.message wording))
  | .error f => endOfRaised wording f

section

variable {wording : Wording} {f : Failure}

theorem endOfRaised_of_ne (h : ∀ e, f ≠ .reference e) : endOfRaised wording f = endOf wording f := by
  unfold endOfRaised
  split
  · exact absurd rfl (h _)
  · rfl

theorem endOfRaised_code (wording : Wording) (f : Failure) : (endOfRaised wording f).code = 1 := by
  unfold endOfRaised
  split
  · rfl
  · exact endOf_code wording _

theorem endOfDeployment_reported (h : f.isReported = true) :
    endOfDeployment wording f = printed wording (.ok (.failed f)) := by
  unfold endOfDeployment endOf printed
  rw [if_pos h]

theorem isReported_of_isRollback (h : isRollback f = true) : f.isReported = true := by
  unfold isRollback at h
  split at h
  · rfl
  · rfl
  · cases h

theorem endOfDeployment_unreported (h : f.isReported = false) :
    endOfDeployment wording f = printed wording (.error f) := by
  have hrollback : isRollback f = false := by
    refine Bool.eq_false_iff.mpr fun hf => ?_
    rw [isReported_of_isRollback hf] at h
    cases h
  have hne : ∀ e, f ≠ .reference e := by
    rintro e rfl
    cases h
  have hraised : endOfRaised wording f = endOf wording f := endOfRaised_of_ne hne
  show endOfDeployment wording f = endOfRaised wording f
  unfold endOfDeployment
  rw [hrollback, hraised]
  rfl

/-- **The command succeeds** just if the library has deployed the definition. -/
theorem printed_code_eq_zero_iff (wording : Wording) (r : Except Failure Report) :
    (printed wording r).code = 0 ↔ ∃ new url, r = .ok (.deployed new url) := by
  constructor
  · intro hcode
    cases r with
    | error f =>
        have hone : (printed wording (.error f)).code = 1 := endOfRaised_code wording f
        omega
    | ok report =>
        cases report with
        | deployed new url => exact ⟨new, url, rfl⟩
        | invalid v =>
            have hone : (printed wording (.ok (.invalid v))).code = 1 := rfl
            omega
        | failed f =>
            by_cases hf : isRollback f = true
            · simp [printed, hf, Exit.failed] at hcode
            · simp [printed, hf, Exit.failed] at hcode
  · rintro ⟨new, url, rfl⟩
    rfl

end

section

variable {c : Context} {path : String} {reference : Option String} {settings : Settings}
  {definition : Definition}

/-- After a deployment the command ends as the report of the library says. -/
theorem endOfDeployer_eq (c : Context) (settings : Settings) (m : Except Failure String) :
    endOfDeployer c (preparedFor settings) none m = printed c.wording (reportOf (preparedFor settings) m) := by
  cases m with
  | ok new =>
      show deployed c (preparedFor settings) none new = _
      cases hparse : Reference.parse new with
      | ok r =>
          have hurl := executionUrl_eq (d := preparedFor settings) rfl hparse
          simp only [deployed, reportOf, hurl, Except.map]
          rfl
      | error e =>
          have hurl : (preparedFor settings).executionUrl new = .error (.reference e) := by
            simp [Deployer.executionUrl, Deployer.require, preparedFor, Deployer.reference, hparse,
              Except.mapError, Except.map]
          simp only [deployed, reportOf, hurl, Except.map]
          rfl
  | error f =>
      show endOfDeployment c.wording f = printed c.wording (if f.isReported then .ok (.failed f) else .error f)
      by_cases hf : f.isReported = true
      · rw [if_pos hf]
        exact endOfDeployment_reported hf
      · rw [if_neg hf]
        exact endOfDeployment_unreported (Bool.eq_false_iff.mpr hf)

/-- **The command prints what the library returns.** When it finds the settings, the definition and the
reference that the library is given, it is the deployment of the library with what comes of it printed. -/
theorem run_deploy_eq_library (hconnect : connect c = preparation settings)
    (hload : loadDefinition c.files path = .ok definition)
    (hgiven : givenText c.files reference = .ok reference) :
    run c (.deploy path reference none) =
      (deployDefinition definition settings reference).onEnd fun r => .done (printed c.wording r) := by
  rw [run_deploy_eq, ending_eq_onEnd, runDeploy_eq, hconnect, deployDefinition_eq, bind_eq_onEnd, bind_eq_onEnd,
    onEnd_onEnd, onEnd_onEnd]
  refine onEnd_congr fun xs m hm => ?_
  obtain rfl | ⟨f, rfl, hf⟩ := trace_preparation hm
  · simp only [onResult, hload, ofExcept_ok, done_bind]
    cases hjudged : definition.verdict with
    | error f =>
        obtain ⟨e, rfl⟩ := Definition.verdict_eq_error hjudged
        rfl
    | ok v =>
        simp only [ofExcept_ok, done_bind]
        by_cases hvalid : v.isValid = true
        · -- the end of the deployment passes through two handlers of the command, and one of the library
          rw [if_pos hvalid, if_pos hvalid, deployValid_eq, hgiven, ofExcept_ok, done_bind, bind_eq_onEnd,
            ending_eq_onEnd, onEnd_onEnd, onEnd_onEnd, onEnd_onEnd]
          congr 1
          funext m
          rw [ofExcept_onEnd, ← endOfDeployer_eq]
          cases m <;> rfl
        · rw [if_neg hvalid, if_neg hvalid]
          rfl
  · show Program.done (endOf c.wording f) = .done (endOfRaised c.wording f)
    rw [endOfRaised_of_ne hf]

/-- The preparation of the command is that of the library. -/
theorem connect_eq_preparation (hgateway : GatewayType.ofName c.gateway = .ok .aws)
    (hsettings : loadSettings c.files c.config c.env = .ok settings) : connect c = preparation settings := by
  have hconnect : connect c = (ofExcept (GatewayType.ofName c.gateway)).bind fun gateway =>
      (ofExcept (loadSettings c.files c.config c.env)).bind fun st =>
        (Deployer.new gateway).prepare (.settings st) .opened := rfl
  rw [hconnect, hgateway, hsettings]
  rfl

/-- A reference that names no file is handed on as it is. -/
theorem givenText_self {files : Files}
    (h : ∀ text, reference = some text → text ≠ "" ∧ text.toList.head? ≠ some '@') :
    givenText files reference = .ok reference := by
  cases reference with
  | none => rfl
  | some text =>
      obtain ⟨hne, hplain⟩ := h text rfl
      have hread : referenceText files text = .ok text := by
        unfold referenceText
        split
        · next hat =>
            rw [hat] at hplain
            exact absurd rfl hplain
        · rfl
      rw [givenText_of_ne hne, hread]
      rfl

end

/-! ### Arguments -/

/-- An argument that does not start with a dash is no option. -/
theorem readArgument_other {specs : List OptionSpec} {arg : String} (h : arg.toList.head? ≠ some '-') :
    readArgument specs arg = .ok .other := by
  unfold readArgument
  split
  · next hd => rw [hd] at h; exact absurd rfl h
  · next hd => rw [hd] at h; exact absurd rfl h
  · rfl

/-- The options of the command. -/
def deployOptions : List OptionSpec :=
  [⟨"--reference", some 'r', true⟩, ⟨"--output", some 'o', true⟩, helpOption]

/-- **Every text can be given to the command** as the reference to deploy over, together with every path of a
file that does not look like an option. -/
theorem read_deploy_over {files : Files} {env : Variables} {path : String} (text : String)
    (hfile : requireFile files path = .ok ()) (hpath : path.toList.head? ≠ some '-')
    (henv : configPath env [] = none) :
    Invocation.read files env ["deploy", path, "--reference", text] =
      .ok ⟨none, "AWS", .deploy path (some text) none⟩ := by
  have hshared : splitOptions sharedOptions false ["deploy", path, "--reference", text] =
      .ok ([], ["deploy", path, "--reference", text]) := rfl
  have hsplit : splitOptions deployOptions true [path, "--reference", text] =
      .ok ([⟨"--reference", some text⟩], [path]) := by
    have hdash : path ≠ "--" := by
      rintro rfl
      exact hpath rfl
    rw [splitOptions, if_neg hdash, readArgument_other hpath]
    rfl
  have hcommand : readCommand files ["deploy", path, "--reference", text] =
      .ok (.deploy path (some text) none) := by
    have hspecs : commandOptions.lookup "deploy" = some deployOptions := rfl
    have htext : textRequest [⟨"--reference", some text⟩] = none := rfl
    have honly : onlyFile files [path] = .ok path := by simp [onlyFile, onlyArgument, hfile, Except.map]
    unfold readCommand
    simp only [hspecs, hsplit, htext]
    simp [Command.read, honly, valueOf?, requireOptional]
  unfold Invocation.read
  simp only [hshared, henv]
  rw [hcommand]
  rfl

/-! ## Both -/

section

variable {σ : Type}

/-- **The command deploys as the library does.** Take any arguments that ask for a deployment without an output
file, to a gateway of the library's kind, over no reference or one that names no file. If the files hold the
settings and the definition that the library is given, then whatever the gateway answers, the two exchange the
same and write the same notes, and leave the gateway in the same state. What is exchanged and what the library
returns are one of its courses, and the command prints what is returned; it ends with code 0 just if the library
has deployed the definition. -/
theorem deploy_as_library (b : Backend σ) (s : σ) (wording : Wording) {files : Files} {env : Variables}
    {args : List String} {i : Invocation} {path : String} {reference : Option String} {settings : Settings}
    {definition : Definition} (hread : Invocation.read files env args = .ok i)
    (hcommand : i.command = .deploy path reference none)
    (hgateway : GatewayType.ofName i.gateway = .ok .aws)
    (hreference : ∀ text, reference = some text → text ≠ "" ∧ text.toList.head? ≠ some '@')
    (hsettings : loadSettings files i.config env = .ok settings)
    (hdefinition : loadDefinition files path = .ok definition) :
    let p := deployDefinition definition settings reference
    let q := runArguments files env wording args
    q.exchanges b s = p.exchanges b s ∧
      q.run b s = ⟨.ok (printed wording (p.run b s).result), (p.run b s).events, (p.run b s).state⟩ ∧
      (∀ xs r, OneGo b s settings definition reference xs r ↔
        xs = p.exchanges b s ∧ r = (p.run b s).result) ∧
      ((printed wording (p.run b s).result).code = 0 ↔
        ∃ new url, (p.run b s).result = .ok (.deployed new url)) := by
  intro p q
  have hq : q = p.onEnd fun r => .done (printed wording r) := by
    have hrun : q = run ⟨files, env, i.config, i.gateway, wording⟩ (.deploy path reference none) := by
      rw [← hcommand]
      exact runArguments_eq hread wording
    rw [hrun]
    have hconnect := connect_eq_preparation (c := ⟨files, env, i.config, i.gateway, wording⟩) hgateway hsettings
    exact run_deploy_eq_library hconnect hdefinition (givenText_self hreference)
  refine ⟨?_, ?_, fun xs r => oneGo_iff, printed_code_eq_zero_iff wording _⟩
  · rw [hq, exchanges_onEnd, exchanges_done, List.append_nil]
  · rw [hq, run_onEnd, run_done]
    simp [Outcome.after]

end

/-- The settings that environment variables alone give. -/
def liveSettings : Settings := ⟨"eu", "live", none, none, none, 10, 60, 3⟩

/-- A redeployment that goes well: what the library reports is what the command prints. -/
theorem petsRedeployment_printed :
    let url := "https://a.execute-api.eu.amazonaws.com/live"
    ((deployDefinition plainPets liveSettings (some petsText)).run (Script.backend true)
        redeploymentReplies).result = .ok (.deployed petsText url) ∧
      ((runArguments petsFiles liveVariables Detail.plain ["deploy", "pets.json", "--reference", petsText]).run
        (Script.backend true) redeploymentReplies).result =
          .ok (.success (markedLine .boldGreen "Deployed: " url ++ line petsText)) := by
  intro url
  have hread : Invocation.read petsFiles liveVariables ["deploy", "pets.json", "--reference", petsText] =
      .ok ⟨none, "AWS", .deploy "pets.json" (some petsText) none⟩ :=
    read_deploy_over petsText rfl (by decide) rfl
  have hsettings : loadSettings petsFiles none liveVariables = .ok liveSettings := rfl
  have hready : Readied petsContext "pets.json" (some petsText) plainPets (some petsText) :=
    plainPets_readied rfl
  have hplain : ∀ text, some petsText = some text → text ≠ "" ∧ text.toList.head? ≠ some '@' := by
    intro text htext
    obtain rfl := Option.some.inj htext
    exact ⟨by decide, by decide⟩
  have hprepared : Runs (Script.backend true) (preparation liveSettings) redeploymentReplies petsOpening
      (.ok petsDeployer) redeploymentReplies := by
    rw [← connect_eq_preparation (c := petsContext) rfl hsettings]
    exact petsContext_connects
  obtain ⟨_, hdeploys⟩ := petsDeployer_redeploys
  have hlibrary := (runs_deployDefinition hprepared rfl hdeploys).result
  have hreport : reportOf petsDeployer (.ok petsText) = .ok (.deployed petsText url) := by
    simp only [reportOf, petsDeployer_executionUrl, Except.map]
    rfl
  rw [hreport] at hlibrary
  obtain ⟨-, hcommand, -, -⟩ := deploy_as_library (Script.backend true) redeploymentReplies Detail.plain
    hread rfl rfl hplain hsettings hready.loaded
  refine ⟨hlibrary, ?_⟩
  rw [hcommand, hlibrary]
  rfl

end CommandLine

end ApiReconciler
