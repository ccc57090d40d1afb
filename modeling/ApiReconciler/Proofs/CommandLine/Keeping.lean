import ApiReconciler.Proofs.CommandLine.Deploying

/-!
# `ApiReconciler.Proofs.CommandLine.Keeping` — what becomes of the reference of a deployment

When a deployer returns a reference, the gateway holds an API that nothing but this text leads to. The
command then writes the text to a file, if it is given one, finds out the URL of the deployment, and prints the
URL, and without a file the reference below it. Either of the first two steps can fail, and what comes after
it is not done. So with a file all depends on whether it can be written: the check of the option lets pass a
file in a directory that is not there. Without a file all depends on the URL, for which the reference is
parsed: it is a reference whenever the gateway shows the API as it should.

## Contents
- `Exit.Keeps`, `Keepable`, `deployed_keeps_iff`: when the end of a deployment keeps its reference.
- `Returns`: runs of the command in which the deployer returns a reference.
- `deploy_keeps_reference_iff`: all of them.
-/

namespace ApiReconciler.CommandLine

open Program

/-- A reference is kept at the end of a command: it stands in the file that was written, or it is a line of the
output. -/
def Exit.Keeps (exit : Exit) (output : Option String) (reference : String) : Prop :=
  (∃ target, output = some target ∧ exit.written = some (Path.ofText target, reference ++ "\n")) ∨
    plainPiece (reference ++ "\n") ∈ exit.output

/-- A reference can be kept: the file to write it to can be written, or there is none and the reference can be
parsed. -/
def Keepable (files : Files) (output : Option String) (reference : String) : Prop :=
  match output.filter (· ≠ "") with
  | some target => files.writeFault (Path.ofText target) = none
  | none => ∃ r, Reference.parse reference = .ok r

variable {σ : Type} {b : Backend σ} {s : σ} {c : Context} {path : String} {reference output : Option String}
  {d : Deployer} {new : String}

/-! ## The end of a deployment -/

theorem not_escape_keeps (e : Escape) : ¬(Exit.escape e).Keeps output new := by
  rintro (⟨target, -, hwritten⟩ | hline)
  · cases hwritten
  · cases hline

/-- A prepared deployer names a URL for every reference that can be parsed, and for nothing else. -/
theorem executionUrl_ok_iff {connection : Connection} (hc : d.connection = some connection) :
    (∃ url, d.executionUrl new = .ok url) ↔ ∃ r, Reference.parse new = .ok r := by
  cases hparse : Reference.parse new with
  | ok r => exact iff_of_true ⟨_, executionUrl_eq hc hparse⟩ ⟨r, rfl⟩
  | error e =>
      refine iff_of_false ?_ (fun ⟨_, hr⟩ => by cases hr)
      rintro ⟨url, hurl⟩
      unfold Deployer.executionUrl Deployer.reference at hurl
      rw [Deployer.require_eq_ok.mpr hc, hparse] at hurl
      cases hurl

/-- **The end of a deployment keeps its reference** just if it can be kept. If it is not kept, the command ends
with a failure that it does not handle, and without a word. -/
theorem deployed_keeps_iff {connection : Connection} (hc : d.connection = some connection) :
    ((deployed c d output new).Keeps output new ↔ Keepable c.files output new) ∧
      (¬Keepable c.files output new → ∃ f, deployed c d output new = .escape (.failure f)) := by
  unfold deployed Keepable
  cases htarget : output.filter (· ≠ "") with
  | some target =>
      have houtput : output = some target := (Option.filter_eq_some_iff.mp htarget).1
      cases hwrite : c.files.writeFault (Path.ofText target) with
      | some fault =>
          simp only [Option.map_some, Option.bind_some, hwrite]
          exact ⟨iff_of_false (not_escape_keeps _) (by simp), fun _ => ⟨_, rfl⟩⟩
      | none =>
          -- the file is written before the URL is looked for, so the reference is kept in any case
          simp only [Option.map_some, Option.bind_some, hwrite]
          refine ⟨iff_of_true (.inl ⟨target, houtput, ?_⟩) trivial, fun h => absurd trivial h⟩
          cases d.executionUrl new <;> rfl
  | none =>
      simp only [Option.map_none, Option.bind_none]
      rw [← executionUrl_ok_iff hc]
      cases hurl : d.executionUrl new with
      | error f => exact ⟨iff_of_false (not_escape_keeps _) (by simp), fun _ => ⟨f, rfl⟩⟩
      | ok url =>
          refine ⟨iff_of_true (.inr ?_) ⟨url, rfl⟩, fun h => absurd ⟨url, rfl⟩ h⟩
          exact List.mem_append_right _ List.mem_cons_self

/-! ## Runs that come to a reference -/

/-- A run of the command in which a deployer is prepared and returns a reference. -/
inductive Returns (b : Backend σ) (c : Context) (path : String) (reference : Option String) (s : σ) :
    Deployer → String → Prop
  | intro {xs ys : List Exchange} {d : Deployer} {definition : Definition} {text : Option String}
      {new : String} {s₁ s₂ : σ} (connected : Runs b (connect c) s xs (.ok d) s₁)
      (ready : Readied c path reference definition text)
      (returned : Runs b (d.deploy definition.normalize text) s₁ ys (.ok new) s₂) :
    Returns b c path reference s d new

section

variable {xs : List Exchange}

/-- A deployer that returns a text has a connection. -/
theorem connected_of_trace_deploy {definition : Definition} {text : Option String}
    (h : (d.deploy definition text).Trace xs (.ok new)) : ∃ connection, d.connection = some connection := by
  cases text with
  | none =>
      obtain ⟨connection, _, hc, -, -⟩ := trace_deploy_new h
      exact ⟨connection, hc⟩
  | some old =>
      obtain ⟨connection, _, _, hc, -, -, -⟩ := trace_deploy_over h
      exact ⟨connection, hc⟩

/-- The text that a deployer returns is parsed again when the gateway shows the API as it should. -/
theorem parses_of_trace_deploy {definition : Definition} {text : Option String}
    (h : (d.deploy definition text).Trace xs (.ok new)) (hreplies : ∀ x ∈ xs, x.Addressed ∧ x.Shows) :
    ∃ r, Reference.parse new = .ok r := by
  cases text with
  | none =>
      obtain ⟨_, ref, -, himport, hwritten⟩ := trace_deploy_new h
      obtain ⟨hstorable, -⟩ := trace_importApi_ok himport fun x hx => (hreplies x hx).2
      exact ⟨_, Reference.parse_written hstorable hwritten⟩
  | some old =>
      obtain ⟨_, _, ref, -, -, hreimport, hwritten⟩ := trace_deploy_over h
      obtain ⟨hstorable, -⟩ := trace_reimportApi_ok hreimport hreplies
      exact ⟨_, Reference.parse_written hstorable hwritten⟩

end

/-- **When a deployment keeps its reference.** If in a run of the command the deployer returns a reference, the
reference stands in the output file or on the output in the end just if it can be kept: if there is an output
file, it can be written, and if there is none, the reference can be parsed. A run that succeeds keeps it; one
that does not keep it ends with a failure that is not handled, and prints nothing. Without an output file the
reference is kept whenever replies that overwrite or show the API are about it and show it plainly. -/
theorem deploy_keeps_reference_iff (b : Backend σ) (s : σ) (wording : Wording) {files : Files}
    {env : Variables} {args : List String} {i : Invocation} (hread : Invocation.read files env args = .ok i)
    (hcommand : i.command = .deploy path reference output)
    (h : Returns b ⟨files, env, i.config, i.gateway, wording⟩ path reference s d new) :
    let p := runArguments files env wording args
    ∃ exit, (p.run b s).result = .ok exit ∧
      (exit.Keeps output new ↔ Keepable files output new) ∧
      (exit.code = 0 → exit.Keeps output new) ∧
      (¬exit.Keeps output new → exit.code = 1 ∧ exit.output = [] ∧ exit.written = none) ∧
      (output.filter (· ≠ "") = none → (∀ x ∈ p.exchanges b s, x.Addressed ∧ x.Shows) →
        exit.Keeps output new) := by
  intro p
  cases h with | @intro xs ys _ definition text _ s₁ s₂ connected ready returned => ?_
  have hrun : Runs b p s (xs ++ ys)
      (.ok (deployed ⟨files, env, i.config, i.gateway, wording⟩ d output new)) s₂ := by
    unfold p
    rw [runArguments_eq hread, hcommand]
    exact runs_run_deploy connected ready returned
  obtain ⟨connection, hc⟩ := connected_of_trace_deploy returned.trace
  obtain ⟨hkeeps, hescapes⟩ := deployed_keeps_iff (c := ⟨files, env, i.config, i.gateway, wording⟩) hc
  refine ⟨_, hrun.result, hkeeps, ?_, ?_, ?_⟩
  · intro hcode
    by_contra hlost
    obtain ⟨f, hf⟩ := hescapes (hkeeps.not.mp hlost)
    rw [hf] at hcode
    cases hcode
  · intro hlost
    obtain ⟨f, hf⟩ := hescapes (hkeeps.not.mp hlost)
    rw [hf]
    exact ⟨rfl, rfl, rfl⟩
  · intro hnone hreplies
    rw [hrun.exchanges] at hreplies
    have hparses := parses_of_trace_deploy returned.trace fun x hx =>
      hreplies x (List.mem_append_right _ hx)
    apply hkeeps.mpr
    unfold Keepable
    rw [hnone]
    exact hparses

theorem pets_returned : Returns (Script.backend true) petsContext "pets.json" none redeploymentReplies
    petsDeployer petsText := by
  obtain ⟨s, hdeploys⟩ := petsDeployer_deploys
  exact .intro petsContext_connects (plainPets_readied rfl) hdeploys

theorem petsReference_kept :
    ∃ exit, ((runArguments petsFiles liveVariables Detail.plain ["deploy", "pets.json", "-o", "pets.ref"]).run
        (Script.backend true) redeploymentReplies).result = .ok exit ∧
      exit.Keeps (some "pets.ref") petsText := by
  have hread : Invocation.read petsFiles liveVariables ["deploy", "pets.json", "-o", "pets.ref"] =
      .ok ⟨none, "AWS", .deploy "pets.json" none (some "pets.ref")⟩ := rfl
  obtain ⟨exit, hresult, hkeeps, -⟩ := deploy_keeps_reference_iff (Script.backend true)
    redeploymentReplies Detail.plain hread rfl pets_returned
  exact ⟨exit, hresult, hkeeps.mpr rfl⟩

/-- The option names a file in a directory that is not there, and the reference is lost. -/
theorem petsReference_lost :
    Invocation.read petsFiles liveVariables ["deploy", "pets.json", "-o", "refs/pets.ref"] =
        .ok ⟨none, "AWS", .deploy "pets.json" none (some "refs/pets.ref")⟩ ∧
      Returns (Script.backend true) petsContext "pets.json" none redeploymentReplies petsDeployer petsText ∧
      ∃ exit, ((runArguments petsFiles liveVariables Detail.plain
          ["deploy", "pets.json", "-o", "refs/pets.ref"]).run (Script.backend true)
            redeploymentReplies).result = .ok exit ∧
        ¬exit.Keeps (some "refs/pets.ref") petsText := by
  have hread : Invocation.read petsFiles liveVariables ["deploy", "pets.json", "-o", "refs/pets.ref"] =
      .ok ⟨none, "AWS", .deploy "pets.json" none (some "refs/pets.ref")⟩ := rfl
  have hfault : petsFiles.writeFault (Path.ofText "refs/pets.ref") = some .missing := rfl
  refine ⟨hread, pets_returned, ?_⟩
  have hlost : ¬Keepable petsContext.files (some "refs/pets.ref") petsText := by
    have htarget : (some "refs/pets.ref").filter (· ≠ "") = some "refs/pets.ref" := rfl
    unfold Keepable
    rw [htarget]
    simp [petsContext, hfault]
  obtain ⟨connected, ready, returned⟩ := pets_returned
  have hrun : Runs (Script.backend true) (run petsContext (.deploy "pets.json" none (some "refs/pets.ref")))
      redeploymentReplies _ (.ok (endOfDeployer petsContext petsDeployer (some "refs/pets.ref")
        (.ok petsText))) _ :=
    runs_run_deploy connected ready returned
  rw [runArguments_eq hread]
  exact ⟨_, hrun.result, (deployed_keeps_iff rfl).1.not.mpr hlost⟩

end ApiReconciler.CommandLine
