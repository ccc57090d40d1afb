import ApiReconciler.Proofs.CommandLine.Keeping
import ApiReconciler.Proofs.CommandLine.Library
import ApiReconciler.Proofs.NormalForm
import ApiReconciler.Proofs.Reconcile.Accounting

/-!
# `ApiReconciler.Proofs.CommandLine.Answering` — how commands over a reference end

Three commands take a reference: one deploys over it, one takes it down, one prints its URL. All three open a
client, find out the text of the reference, and leave the rest to a deployer. A command answers if it ends in a
result, or prints the line of a failure with the exit code that belongs to it; otherwise a failure escapes.

When the environment is valid and the replies are proper, the failures of the deployer are failures of stages,
and these are reported, and so is a text that is no reference. What is left are failures of no stage: settings
with a negative number of attempts, which no client is opened for, a key of the definition that cannot be written,
and the two files. A reference may not be read from the file that it names, and a new one may not be written to
its file. `Escapes` lists them. The run of a command is split where the client is opened and again where the
reference is read, and on each way the end is held against the list (`Exit.Settled`): the command answers and
nothing is on it, or its end is the only entry.

## Contents
- `reported_of_obeys`, `deploy_reported`, `undeploy_reported`: the failures of deployers.
- `Exchange.Proper`, `deploy_parses`: what a deployment returns is a reference.
- `Exit.Answers`, `Deploys`, `Escapes`: answers, and what escapes.
- `runs_run_unconnected`, `runs_run_unread`, `runs_run_undeploy`, `runs_run_url`: the courses.
- `run_settled`, `reference_answered_iff`: all commands over a reference.
-/

namespace ApiReconciler

open Program

/-! ## Failures of stages -/

/-- A failure of a stage is reported. -/
theorem Failure.isReported_of_class? {f : Failure} (h : f.class?.isSome = true) : f.isReported = true := by
  cases f <;> first | rfl | cases h

/-- No operation stands for a failed removal. -/
theorem Operation.class?_ne_rollback (op : Operation) : op.class? ≠ some .rollback := by
  cases op <;> decide

section

variable {α : Type} {tolerated : Operation → CallFailure → Prop} {xs : List Exchange} {f : Failure}

/-- A program that keeps to a discipline of stages fails with a failure that is reported, and never because an
API could not be removed. -/
theorem reported_of_obeys {p : Program α} {Q : α → Prop} (hp : p.Obeys (classified tolerated True Failure.Uncaused) Q)
    (h : p.Trace xs (.error f)) (hwell : ∀ x ∈ xs, x.WellFormed) :
    f.isReported = true ∧ CommandLine.isRollback f = false := by
  refine hp.failure (P := fun e => e.isReported = true ∧ CommandLine.isRollback e = false)
    (fun x hx _ => hwell x hx) h ?_ ?_
  · intro e hallowed
    obtain ⟨hclass, hcause⟩ := hallowed trivial
    refine ⟨Failure.isReported_of_class? hclass, ?_⟩
    -- a failed removal stems from a call
    cases e <;> first | rfl | cases hcause
  · rintro op cause e ⟨hclass, hcause⟩
    refine ⟨Failure.isReported_of_class? (Failure.class?_isSome_of_cause? hcause), ?_⟩
    cases e <;> first | rfl | exact absurd hclass.symm op.class?_ne_rollback

end

/-! ## Proper replies -/

/-- A reply that shows an API can be written: no integer in it is too long. -/
def Exchange.Writable : Exchange → Prop
  | .call (.getApi _) (.ok reply) => Value.isWritable (.object (apiMembers reply)) = true
  | _ => True

/-- The gateway answers as it should: what it makes and lists carries identifiers, and what it shows of an API can
be written and read. The calls that open a client are none of the gateway's, so it does not refuse them. -/
structure Exchange.Proper (x : Exchange) : Prop where
  wellFormed : x.WellFormed
  shows : x.Shows
  writable : x.Writable
  accepted : x.request.operation ∈ CommandLine.openingOperations → ¬x.Refused

section

variable {t : Target} {d : Definition} {xs : List Exchange} {ref : Reference}

/-- The reference that the stages end with has a written form. -/
theorem complete_written {i : Imported} {baseUrl : String} (h : (complete t i d baseUrl).Trace xs (.ok ref))
    (hproper : ∀ x ∈ xs, x.Proper) : ∃ text, ref.written = .ok text := by
  obtain ⟨reply, hmem, hid, hmetadata⟩ := trace_complete_reference h
  obtain ⟨-, hstorable⟩ := complete_storable h fun x hx => (hproper x hx).shows
  have hkept : ref.metadata.get? "id" = some (.text ref.api) := by
    rw [hmetadata]
    exact (Object.get?_erase_of_ne (by decide) reply).trans hid
  have hvalue : ref.toValue = .object ref.metadata := congrArg Value.object (Object.set_eq_self hkept)
  have hwritable : Value.isWritable (.object ref.metadata) = true := by
    rw [hmetadata]
    exact (hproper _ hmem).writable
  refine ⟨_, Reference.written_ok_iff.mpr ⟨?_, String.toList_ofList⟩⟩
  rw [hvalue]
  exact hstorable.plain.isWritable_sorted.mpr hwritable

theorem importApi_written (h : (importApi t d).Trace xs (.ok ref)) (hproper : ∀ x ∈ xs, x.Proper) :
    ref.Storable ∧ ∃ text, ref.written = .ok text := by
  obtain ⟨baseUrl, i, reply, ys, -, rfl, -, hcomplete⟩ := trace_importApi_success h
  have hys : ∀ y ∈ ys, y.Proper := fun y hy => hproper y (List.mem_cons_of_mem _ hy)
  exact ⟨(complete_storable hcomplete fun y hy => (hys y hy).shows).2, complete_written hcomplete hys⟩

theorem reimportApi_written {r : Reference} (h : (reimportApi t r d).Trace xs (.ok ref))
    (hproper : ∀ x ∈ xs, x.Proper) : ref.Storable ∧ ∃ text, ref.written = .ok text := by
  obtain ⟨baseUrl, _, _, rfl, -, h₁⟩ := trace_bind_ok.mp h
  obtain ⟨i, _, ys, rfl, -, hcomplete⟩ := trace_bind_ok.mp h₁
  have hys : ∀ y ∈ ys, y.Proper := fun y hy =>
    hproper y (List.mem_append_right _ (List.mem_append_right _ hy))
  exact ⟨(complete_storable hcomplete fun y hy => (hys y hy).shows).2, complete_written hcomplete hys⟩

end

/-! ## Failures of deployers -/

section

variable {d : Deployer} {connection : Connection} {definition : Definition} {xs : List Exchange}
  {f : Failure} {text new : String} {given : Option String}

/-- Keeping a reference that has a written form cannot fail. -/
theorem trace_keep_ok {ref : Reference} {r : Except Failure String} (hwritten : ∃ text, ref.written = .ok text)
    (h : (Deployer.keep ref).Trace xs r) : ∃ text, r = .ok text := by
  obtain ⟨text, hwritten⟩ := hwritten
  rw [Deployer.keep, hwritten] at h
  exact ⟨text, h.2⟩

/-- So a deployment that fails has failed before it keeps its reference. -/
theorem trace_keep_error {p : Program Reference} (h : (p.bind Deployer.keep).Trace xs (.error f))
    (hwritten : ∀ ref ys, p.Trace ys (.ok ref) → (∀ y ∈ ys, y.Proper) → ∃ text, ref.written = .ok text)
    (hproper : ∀ x ∈ xs, x.Proper) : p.Trace xs (.error f) := by
  obtain ⟨ref, ys, zs, rfl, hp, hkeep⟩ | ⟨f', hf, hp⟩ := trace_bind.mp h
  · obtain ⟨_, hkept⟩ := trace_keep_ok (hwritten ref ys hp fun y hy => hproper y (List.mem_append_left _ hy)) hkeep
    cases hkept
  · rwa [Except.error.inj hf]

/-- A text that denotes no reference is a fault of the reference. -/
theorem reference_eq_error (h : Deployer.reference text = .error f) : ∃ e, f = .reference e := by
  cases hparse : Reference.parse text with
  | ok r =>
      rw [Deployer.reference, hparse] at h
      cases h
  | error e =>
      rw [Deployer.reference, hparse] at h
      exact ⟨e, (Except.error.inj h).symm⟩

/-- The failures of a deployment are reported, save that of a key that cannot be written. -/
theorem deploy_reported (hc : d.connection = some connection) (h : (d.deploy definition given).Trace xs (.error f))
    (hproper : ∀ x ∈ xs, x.Proper) : f.isReported = true ∨ f = .longInteger ∧ definition.HasLongKey := by
  have hwell : ∀ x ∈ xs, x.WellFormed := fun x hx => (hproper x hx).wellFormed
  cases given with
  | none =>
      rw [deploy_new_eq hc] at h
      have himport := trace_keep_error h (fun _ _ h hproper => (importApi_written h hproper).2) hproper
      obtain ⟨_, _, _, -, -, -, hclass⟩ := importApi_accounted himport hwell
      exact (hclass f rfl).imp Failure.isReported_of_class? fun hstalled => ⟨hstalled.1, hstalled.2.1.2⟩
  | some text =>
      rw [deploy_over_eq hc] at h
      obtain ⟨r, _, zs, rfl, hparse, hrest⟩ | ⟨f', hf, hparse⟩ := trace_bind.mp h
      · obtain ⟨rfl, -⟩ := trace_ofExcept.mp hparse
        rw [List.nil_append] at hproper hwell
        have hreimport := trace_keep_error hrest (fun _ _ h hproper => (reimportApi_written h hproper).2) hproper
        exact ((reimportApi_accounted hreimport hwell).class?_or rfl).imp Failure.isReported_of_class?
          fun hstalled => ⟨hstalled.1, hstalled.2.1.2⟩
      · -- the text is no reference
        obtain rfl := Except.error.inj hf
        obtain ⟨-, hfailed⟩ := trace_ofExcept.mp hparse
        obtain ⟨e, rfl⟩ := reference_eq_error hfailed.symm
        exact .inl rfl

/-- A text that is no reference is not taken down. -/
theorem undeploy_refused {e : ReferenceError} (hc : d.connection = some connection)
    (h : Reference.parse text = .error e) (delete : Bool) : d.undeploy text delete = .fail (.reference e) := by
  unfold Deployer.undeploy Deployer.reference
  rw [Deployer.require_eq_ok.mpr hc, h]
  rfl

/-- The failures of taking a deployment down are reported. -/
theorem undeploy_reported {delete : Bool} (hc : d.connection = some connection)
    (h : (d.undeploy text delete).Trace xs (.error f)) (hwell : ∀ x ∈ xs, x.WellFormed) :
    f.isReported = true ∧ CommandLine.isRollback f = false := by
  cases hread : Reference.parse text with
  | ok r =>
      rw [undeploy_eq hc hread] at h
      exact reported_of_obeys (tearDown_obeys connection.target r delete) h hwell
  | error e =>
      rw [undeploy_refused hc hread] at h
      rw [Except.error.inj h.2]
      exact ⟨rfl, rfl⟩

/-- A prepared deployer fails to name a URL only for a text that is no reference. -/
theorem executionUrl_eq_error (hc : d.connection = some connection) (h : d.executionUrl text = .error f) :
    ∃ e, f = .reference e := by
  cases hread : Reference.parse text with
  | ok r =>
      rw [executionUrl_eq hc hread] at h
      cases h
  | error e =>
      unfold Deployer.executionUrl Deployer.reference at h
      rw [Deployer.require_eq_ok.mpr hc, hread] at h
      exact ⟨e, (Except.error.inj h).symm⟩

/-- The text that a deployment returns is a reference. -/
theorem deploy_parses (h : (d.deploy definition given).Trace xs (.ok new)) (hproper : ∀ x ∈ xs, x.Proper) :
    ∃ r, Reference.parse new = .ok r := by
  cases given with
  | none =>
      obtain ⟨_, ref, -, himport, hwritten⟩ := trace_deploy_new h
      exact ⟨_, Reference.parse_written (importApi_written himport hproper).1 hwritten⟩
  | some text =>
      obtain ⟨_, _, ref, -, -, hreimport, hwritten⟩ := trace_deploy_over h
      exact ⟨_, Reference.parse_written (reimportApi_written hreimport hproper).1 hwritten⟩

end

end ApiReconciler

namespace ApiReconciler.CommandLine

open Program

/-! ## Answers and escapes -/

/-- A command answers: it ends in a result, or it prints the line of a failure. The code tells a failed removal of
an API from the other failures. -/
inductive Exit.Answers (wording : Wording) : Exit → Prop
  | result {exit : Exit} (code : exit.code = 0) (handled : exit.escaped = none) : Exit.Answers wording exit
  | reported {f : Failure} (kind : isRollback f = false) :
    Exit.Answers wording (.failed 1 (errorLine (f.message wording)))
  | uncleaned {f : Failure} (kind : isRollback f = true) :
    Exit.Answers wording (.failed 2 (errorLine (f.message wording ++ cleanupHint)))

/-- The reference that a command is given. -/
def Command.reference? : Command → Option String
  | .deploy _ reference _ => reference
  | .undeploy reference _ => some reference
  | .url reference => some reference
  | _ => none

/-- The environment of a command is valid, and so is the definition that it deploys. -/
structure Sound (c : Context) (command : Command) : Prop where
  settings : ∃ st, loadSettings c.files c.config c.env = .ok st
  definition : ∀ path reference output, command = .deploy path reference output →
    ∃ definition, loadDefinition c.files path = .ok definition ∧
      ∃ validity, definition.verdict = .ok validity ∧ validity.isValid = true

/-- A reference can be used: its text can be read, and denotes a reference. -/
def Usable (files : Files) (reference : String) : Prop :=
  ∃ text r, referenceText files reference = .ok text ∧ Reference.parse text = .ok r

/-- A run of the command in which a deployer is prepared, with what its deployment ends with. -/
inductive Deploys {σ : Type} (b : Backend σ) (c : Context) (path : String) (reference : Option String) (s : σ) :
    Deployer → Except Failure String → Prop
  | intro {xs ys : List Exchange} {d : Deployer} {definition : Definition} {text : Option String}
      {m : Except Failure String} {s₁ s₂ : σ} (connected : Runs b (connect c) s xs (.ok d) s₁)
      (ready : Readied c path reference definition text)
      (deploys : Runs b (d.deploy definition.normalize text) s₁ ys m s₂) :
    Deploys b c path reference s d m

/-- The failures that escape from a command over a reference: the settings ask for a negative number of attempts;
a client is there, but the reference cannot be read from its file; the definition has a key that cannot be written,
and its deployment comes to it; the definition is deployed, but the new reference cannot be written to its file. -/
inductive Escapes {σ : Type} (b : Backend σ) (c : Context) (s : σ) (command : Command) : Failure → Prop
  | impatient {st : Settings} (known : GatewayType.ofName c.gateway = .ok .aws)
      (settings : loadSettings c.files c.config c.env = .ok st) (negative : st.maxAttempts < 0) :
    Escapes b c s command (.negativeAttempts st.maxAttempts)
  | unread {reference : String} {d : Deployer} {f : Failure}
      (connected : ((connect c).run b s).result = .ok d) (given : command.reference? = some reference)
      (unreadable : referenceText c.files reference = .error f) :
    Escapes b c s command f
  | stalled {path : String} {reference output : Option String} {d : Deployer} {definition : Definition}
      (deploys : command = .deploy path reference output) (loaded : loadDefinition c.files path = .ok definition)
      (long : definition.HasLongKey) (failed : Deploys b c path reference s d (.error .longInteger)) :
    Escapes b c s command .longInteger
  | unwritten {path target new : String} {reference output : Option String} {d : Deployer} {fault : FileFault}
      (deploys : command = .deploy path reference output) (returned : Returns b c path reference s d new)
      (named : output.filter (· ≠ "") = some target)
      (unwritable : c.files.writeFault (Path.ofText target) = some fault) :
    Escapes b c s command (.file fault)

section

variable {wording : Wording} {f : Failure} {files : Files} {reference text : String}

theorem not_escape_answers (e : Escape) : ¬(Exit.escape e).Answers wording := by
  rintro (⟨hcode, -⟩)
  exact absurd hcode Nat.one_ne_zero

theorem success_answers (output : List Piece) : (Exit.success output).Answers wording := .result rfl rfl

/-- A reported failure is answered. -/
theorem endOf_answers (hreported : f.isReported = true) (hkind : isRollback f = false) :
    (endOf wording f).Answers wording := by
  rw [endOf, if_pos hreported]
  exact .reported hkind

theorem endOfDeployment_answers (hreported : f.isReported = true) :
    (endOfDeployment wording f).Answers wording := by
  unfold endOfDeployment
  by_cases hkind : isRollback f = true
  · rw [if_pos hkind]
    exact .uncleaned hkind
  · rw [if_neg hkind]
    exact endOf_answers hreported (Bool.eq_false_iff.mpr hkind)

theorem endOf_escape (hreported : f.isReported = false) : endOf wording f = .escape (.failure f) := by
  rw [endOf, hreported]
  rfl

/-- A failure to read a reference from its file is none of the stages. -/
theorem referenceText_unreported (h : referenceText files reference = .error f) :
    f.isReported = false ∧ isRollback f = false := by
  unfold referenceText fileText at h
  split at h
  · next path _ =>
      cases hread : files.text (Path.ofText (String.ofList path)) with
      | ok text =>
          rw [hread] at h
          cases h
      | error e =>
          rw [hread] at h
          rw [← Except.error.inj h]
          cases e <;> exact ⟨rfl, rfl⟩
  · cases h

/-- There is nothing to read in an empty reference. -/
theorem ne_empty_of_unreadable (h : referenceText files reference = .error f) : reference ≠ "" := by
  rintro rfl
  cases h

end

section

variable {σ : Type} {b : Backend σ} {s s₁ s₂ : σ} {c : Context} {xs ys : List Exchange} {d : Deployer}
  {connection : Connection} {command : Command} {f : Failure} {reference given : String}

/-! ## Connecting -/

theorem connect_impatient {st : Settings} (hknown : GatewayType.ofName c.gateway = .ok .aws)
    (hsettings : loadSettings c.files c.config c.env = .ok st) (hnegative : st.maxAttempts < 0) :
    connect c = .fail (.negativeAttempts st.maxAttempts) := by
  have hprepare : preparation st =
      (openClient st).bind fun _ => .done { Deployer.new .aws with connection := some ⟨st, .opened⟩ } := rfl
  rw [connect_eq_preparation hknown hsettings, hprepare, openClient_of_negative hnegative]
  rfl

/-- A deployer is prepared for a known gateway; for any other the configuration is at fault. -/
theorem connect_gateway_cases (c : Context) :
    GatewayType.ofName c.gateway = .ok .aws ∨ connect c = .fail (.configuration (.unsupported c.gateway)) := by
  have hconnect : connect c = (ofExcept (GatewayType.ofName c.gateway)).bind fun gateway =>
      (ofExcept (loadSettings c.files c.config c.env)).bind fun st =>
        (Deployer.new gateway).prepare (.settings st) .opened := rfl
  rw [hconnect, GatewayType.ofName]
  split
  · exact .inl rfl
  · exact .inr rfl

/-- In a valid environment a deployer that is there is connected. -/
theorem connect_ok (hsound : Sound c command) (hconnect : (connect c).Trace xs (.ok d)) :
    ∃ connection, d.connection = some connection := by
  obtain ⟨st, hsettings⟩ := hsound.settings
  rcases connect_gateway_cases c with hknown | hunknown
  · rw [connect_eq_preparation hknown hsettings] at hconnect
    obtain h | ⟨_, h, -⟩ := trace_preparation hconnect
    · rw [Except.ok.inj h]
      exact ⟨_, rfl⟩
    · cases h
  · rw [hunknown] at hconnect
    cases hconnect.2

/-- If there is none, the configuration is at fault, or the settings ask for a negative number of attempts. -/
theorem connect_error (hsound : Sound c command) (hconnect : (connect c).Trace xs (.error f))
    (hproper : ∀ x ∈ xs, x.Proper) :
    (∃ fault, f = .configuration fault) ∨
      ∃ st, GatewayType.ofName c.gateway = .ok .aws ∧ loadSettings c.files c.config c.env = .ok st ∧
        st.maxAttempts < 0 ∧ f = .negativeAttempts st.maxAttempts := by
  by_cases hfault : ∃ fault, f = .configuration fault
  · exact .inl hfault
  · obtain ⟨st, hsettings⟩ := hsound.settings
    have hopening := (connect_asks c).trace hconnect
    rcases connect_gateway_cases c with hknown | hunknown
    · rw [connect_eq_preparation hknown hsettings] at hconnect
      rcases trace_prepare_undocumented hconnect (not_exists.mp hfault) with
        ⟨st', hst, hnegative, -, rfl⟩ | ⟨call, error, hmem, -⟩
      · obtain rfl := Except.ok.inj hst
        exact .inr ⟨st, hknown, hsettings, hnegative, rfl⟩
      · exact absurd trivial ((hproper _ hmem).accepted (hopening _ hmem))
    · rw [hunknown] at hconnect
      exact absurd ⟨_, Except.error.inj hconnect.2⟩ hfault

/-! ## The courses of commands over a reference -/

/-- A command over a reference ends where no client is opened. -/
theorem runs_run_unconnected (hreference : command.reference? = some reference)
    (h : Runs b (connect c) s xs (.error f) s₁) :
    Runs b (run c command) s xs (.ok (endOf c.wording f)) s₁ := by
  cases command with
  | deploy path reference output => exact runs_ending h.bind_error
  | undeploy reference delete => exact runs_ending h.bind_error
  | url reference => exact runs_ending h.bind_error
  | validate path => cases hreference
  | transform path => cases hreference
  | discover organization asJson => cases hreference

theorem run_undeploy_eq (c : Context) (reference : String) (delete : Bool) :
    run c (.undeploy reference delete) =
      ending ((connect c).bind fun d => (ofExcept (referenceText c.files reference)).bind fun text =>
        (d.undeploy text delete).bind fun _ =>
          .done (.success (markedLine .boldGreen "Undeployed" (if delete then " and deleted" else ""))))
        (endOf c.wording) := rfl

theorem run_url_eq (c : Context) (reference : String) :
    run c (.url reference) =
      ending ((connect c).bind fun d => (ofExcept (referenceText c.files reference)).bind fun text =>
        (ofExcept (d.executionUrl text)).bind fun url => .done (.success (line url)))
        (endOf c.wording) := rfl

theorem runs_run_undeploy {delete : Bool} {m : Except Failure Unit}
    (hconnected : Runs b (connect c) s xs (.ok d) s₁) (hread : referenceText c.files reference = .ok given)
    (hdown : Runs b (d.undeploy given delete) s₁ ys m s₂) :
    Runs b (run c (.undeploy reference delete)) s (xs ++ ys)
      (.ok (endedBy (endOf c.wording) (m.map fun _ =>
        .success (markedLine .boldGreen "Undeployed" (if delete then " and deleted" else ""))))) s₂ := by
  rw [run_undeploy_eq, hread]
  refine runs_ending (hconnected.bind ?_)
  cases m with
  | ok u =>
      rw [← List.append_nil ys]
      exact hdown.bind (runs_done _)
  | error f => exact hdown.bind_error

/-- The URL is found without the gateway. -/
theorem runs_run_url (hconnected : Runs b (connect c) s xs (.ok d) s₁)
    (hread : referenceText c.files reference = .ok given) :
    Runs b (run c (.url reference)) s xs
      (.ok (endedBy (endOf c.wording) ((d.executionUrl given).map fun url => .success (line url)))) s₁ := by
  rw [run_url_eq, hread, ← List.append_nil xs]
  refine runs_ending (hconnected.bind ?_)
  simp only [ofExcept_ok, done_bind]
  cases d.executionUrl given with
  | ok url => exact runs_done _
  | error f => exact runs_fail f

/-- A deployment over a reference that cannot be read ends before the deployer is called. -/
theorem runs_run_deploy_unread {path : String} {output : Option String} {definition : Definition}
    (hconnected : Runs b (connect c) s xs (.ok d) s₁) (hloaded : loadDefinition c.files path = .ok definition)
    (hvalid : ∃ validity, definition.verdict = .ok validity ∧ validity.isValid = true)
    (hread : referenceText c.files reference = .error f) :
    Runs b (run c (.deploy path (some reference) output)) s xs
      (.ok (endOfDeployment c.wording f)) s₁ := by
  obtain ⟨validity, hjudged, hvalid⟩ := hvalid
  have hgiven : givenText c.files (some reference) = .error f := by
    rw [givenText_of_ne (ne_empty_of_unreadable hread), hread]
    rfl
  have hinner : Runs b (deployValid c d definition (some reference) output) s₁ []
      (.ok (endOfDeployment c.wording f)) s₁ := by
    rw [deployValid_eq, hgiven]
    exact runs_ending (runs_fail f)
  have hrun : Runs b (runDeploy c path (some reference) output) s (xs ++ [])
      (.ok (endOfDeployment c.wording f)) s₁ := by
    rw [runDeploy_eq]
    simp only [hloaded, hjudged, ofExcept_ok, done_bind, if_pos hvalid]
    exact hconnected.bind hinner
  rw [run_deploy_eq, ← List.append_nil xs]
  exact runs_ending hrun

/-- A command over a reference that cannot be read from its file ends with what went wrong there. -/
theorem runs_run_unread (hsound : Sound c command) (hreference : command.reference? = some reference)
    (hconnected : Runs b (connect c) s xs (.ok d) s₁) (hread : referenceText c.files reference = .error f) :
    Runs b (run c command) s xs (.ok (.escape (.failure f))) s₁ := by
  obtain ⟨hunreported, hkind⟩ := referenceText_unreported hread
  have hescape : endedBy (endOf c.wording) (.error f) = .escape (.failure f) := endOf_escape hunreported
  cases command with
  | deploy path given output =>
      obtain rfl := hreference
      obtain ⟨definition, hloaded, hvalid⟩ := hsound.definition path (some reference) output rfl
      have hend : endOfDeployment c.wording f = .escape (.failure f) := by
        rw [endOfDeployment, hkind, ← hescape]
        rfl
      rw [← hend]
      exact runs_run_deploy_unread hconnected hloaded hvalid hread
  | undeploy given delete =>
      obtain rfl := Option.some.inj hreference
      rw [run_undeploy_eq, hread, ← hescape, ← List.append_nil xs]
      exact runs_ending (hconnected.bind (runs_fail f))
  | url given =>
      obtain rfl := Option.some.inj hreference
      rw [run_url_eq, hread, ← hescape, ← List.append_nil xs]
      exact runs_ending (hconnected.bind (runs_fail f))
  | validate path => cases hreference
  | transform path => cases hreference
  | discover organization asJson => cases hreference

/-! ## Ends and what escapes -/

/-- The end of a command goes with the failures that escape from it: it answers and there are none, or it is the
escape of the only one. -/
inductive Exit.Settled (wording : Wording) (escapes : Failure → Prop) : Exit → Prop
  | answered {exit : Exit} (answers : exit.Answers wording) (none : ∀ f, ¬escapes f) :
    Exit.Settled wording escapes exit
  | escaped {f : Failure} (only : ∀ g, escapes g ↔ g = f) :
    Exit.Settled wording escapes (.escape (.failure f))

theorem Exit.Settled.answers_iff {wording : Wording} {escapes : Failure → Prop} {exit : Exit}
    (h : exit.Settled wording escapes) :
    (exit.Answers wording ↔ ∀ f, ¬escapes f) ∧ ∀ f, exit = .escape (.failure f) ↔ escapes f := by
  cases h with
  | answered answers none =>
      refine ⟨iff_of_true answers none, fun f => iff_of_false ?_ (none f)⟩
      rintro rfl
      exact not_escape_answers _ answers
  | @escaped f only =>
      refine ⟨iff_of_false (not_escape_answers _) fun h => h f ((only f).mpr rfl), fun g => ?_⟩
      rw [only g]
      constructor
      · intro h
        injection h with _ _ _ h
        injection h with h
        injection h with h
        exact h.symm
      · rintro rfl
        rfl

/-- The deployer of a deployment is the one that is prepared. -/
theorem Deploys.connected {path : String} {given : Option String} {m : Except Failure String}
    (h : Deploys b c path given s d m) : ((connect c).run b s).result = .ok d := by
  obtain ⟨connected, _, _⟩ := h
  exact connected.result

/-- A deployment that returns a reference is one that ends with it. -/
theorem returns_iff_deploys {path new : String} {given : Option String} :
    Returns b c path given s d new ↔ Deploys b c path given s d (.ok new) := by
  constructor
  · rintro ⟨connected, ready, returned⟩
    exact .intro connected ready returned
  · rintro ⟨connected, ready, deploys⟩
    exact .intro connected ready deploys

/-- Without a client nothing can escape but the number of attempts. -/
theorem escapes_unconnected_iff {e : Failure} (hconnected : Runs b (connect c) s xs (.error e) s₁) :
    Escapes b c s command f ↔ ∃ st, GatewayType.ofName c.gateway = .ok .aws ∧
      loadSettings c.files c.config c.env = .ok st ∧ st.maxAttempts < 0 ∧
        f = .negativeAttempts st.maxAttempts := by
  constructor
  · intro h
    cases h with
    | impatient known settings negative => exact ⟨_, known, settings, negative, rfl⟩
    | unread connected _ _ =>
        rw [hconnected.result] at connected
        cases connected
    | stalled _ _ _ failed => cases hconnected.result.symm.trans failed.connected
    | unwritten _ returned _ _ => cases hconnected.result.symm.trans (returns_iff_deploys.mp returned).connected
  · rintro ⟨st, hknown, hsettings, hnegative, rfl⟩
    exact .impatient hknown hsettings hnegative

/-- With a client it is one of the two files, or a key that cannot be written. -/
theorem escapes_connected_iff (hconnected : Runs b (connect c) s xs (.ok d) s₁)
    (hreference : command.reference? = some reference) :
    Escapes b c s command f ↔ referenceText c.files reference = .error f ∨
      ∃ path output, command = .deploy path (some reference) output ∧
        ((∃ definition, loadDefinition c.files path = .ok definition ∧ definition.HasLongKey ∧
            Deploys b c path (some reference) s d (.error .longInteger) ∧ f = .longInteger) ∨
          ∃ target new fault, Deploys b c path (some reference) s d (.ok new) ∧
            output.filter (· ≠ "") = some target ∧ c.files.writeFault (Path.ofText target) = some fault ∧
            f = .file fault) := by
  constructor
  · intro h
    cases h with
    | impatient known settings negative =>
        rw [connect_impatient known settings negative] at hconnected
        cases hconnected.result
    | unread _ given unreadable =>
        obtain rfl := Option.some.inj (hreference.symm.trans given)
        exact .inl unreadable
    | @stalled path given output d' definition deploys loaded long failed =>
        obtain rfl := Except.ok.inj (failed.connected.symm.trans hconnected.result)
        subst deploys
        obtain rfl : given = some reference := hreference
        exact .inr ⟨path, output, rfl, .inl ⟨definition, loaded, long, failed, rfl⟩⟩
    | @unwritten path target new given output d' fault deploys returned named unwritable =>
        have hreturned := returns_iff_deploys.mp returned
        obtain rfl := Except.ok.inj (hreturned.connected.symm.trans hconnected.result)
        subst deploys
        obtain rfl : given = some reference := hreference
        exact .inr ⟨path, output, rfl, .inr ⟨target, new, fault, hreturned, named, unwritable, rfl⟩⟩
  · rintro (hunreadable | ⟨path, output, hdeploys, ⟨definition, hloaded, hlong, hfailed, rfl⟩ |
      ⟨target, new, fault, hreturned, hnamed, hunwritable, rfl⟩⟩)
    · exact .unread hconnected.result hreference hunreadable
    · exact .stalled hdeploys hloaded hlong hfailed
    · exact .unwritten hdeploys (returns_iff_deploys.mpr hreturned) hnamed hunwritable

/-- What a deployment over a reference that is read ends with is what its deployer ends with. -/
theorem deploys_iff {path : String} {given : Option String} {definition : Definition} {text : Option String}
    {m : Except Failure String} (hconnected : Runs b (connect c) s xs (.ok d) s₁)
    (ready : Readied c path given definition text) :
    Deploys b c path given s d m ↔ ((d.deploy definition.normalize text).run b s₁).result = m := by
  constructor
  · rintro ⟨connected, ready', deploys⟩
    obtain rfl := connected.state.symm.trans hconnected.state
    obtain rfl := Except.ok.inj (ready'.loaded.symm.trans ready.loaded)
    obtain rfl := Except.ok.inj (ready'.given.symm.trans ready.given)
    exact deploys.result
  · intro hresult
    have hself := runs_self b (d.deploy definition.normalize text) s₁
    rw [hresult] at hself
    exact .intro hconnected ready hself

/-! ## All commands over a reference -/

theorem settled_unconnected (hsound : Sound c command) (hconnected : Runs b (connect c) s xs (.error f) s₁)
    (hproper : ∀ x ∈ xs, x.Proper) :
    (endOf c.wording f).Settled c.wording (Escapes b c s command) := by
  rcases connect_error hsound hconnected.trace hproper with ⟨fault, rfl⟩ | ⟨st, hknown, hsettings, hnegative, rfl⟩
  · refine .answered (endOf_answers rfl rfl) fun g hescapes => ?_
    obtain ⟨st, hknown, hsettings, hnegative, -⟩ := (escapes_unconnected_iff hconnected).mp hescapes
    rw [connect_impatient hknown hsettings hnegative] at hconnected
    cases hconnected.result
  · refine .escaped fun g => ?_
    rw [escapes_unconnected_iff hconnected]
    constructor
    · rintro ⟨st', -, hst', -, rfl⟩
      obtain rfl := Except.ok.inj (hst'.symm.trans hsettings)
      rfl
    · rintro rfl
      exact ⟨st, hknown, hsettings, hnegative, rfl⟩

theorem settled_unread (hconnected : Runs b (connect c) s xs (.ok d) s₁)
    (hreference : command.reference? = some reference) (hread : referenceText c.files reference = .error f) :
    (Exit.escape (.failure f)).Settled c.wording (Escapes b c s command) := by
  refine .escaped fun g => ?_
  rw [escapes_connected_iff hconnected hreference]
  constructor
  · -- no deployment comes to its deployer with a reference that cannot be read
    have hnone : ∀ path m, ¬Deploys b c path (some reference) s d m := by
      rintro path m ⟨_, ready, -⟩
      obtain ⟨_, -, hgiven⟩ := ready.text_of_ne (ne_empty_of_unreadable hread)
      cases hgiven.symm.trans hread
    rintro (hg | ⟨path, output, -, ⟨_, -, -, hdeploys, -⟩ | ⟨_, _, _, hdeploys, -⟩⟩)
    · exact Except.error.inj (hg.symm.trans hread)
    · exact absurd hdeploys (hnone path _)
    · exact absurd hdeploys (hnone path _)
  · rintro rfl
    exact .inl hread

/-- Nothing escapes from a command that deploys nothing once its reference is read. -/
theorem settled_answered {exit : Exit} (hconnected : Runs b (connect c) s xs (.ok d) s₁)
    (hreference : command.reference? = some reference) (hread : referenceText c.files reference = .ok given)
    (hother : ∀ path reference output, command ≠ .deploy path reference output)
    (hanswers : exit.Answers c.wording) : exit.Settled c.wording (Escapes b c s command) := by
  refine .answered hanswers fun g hescapes => ?_
  rcases (escapes_connected_iff hconnected hreference).mp hescapes with
    hg | ⟨path, output, hdeploys, -⟩
  · cases hg.symm.trans hread
  · exact hother _ _ _ hdeploys

theorem undeploy_answers {delete : Bool} {m : Except Failure Unit} (hc : d.connection = some connection)
    (h : (d.undeploy given delete).Trace ys m) (hproper : ∀ y ∈ ys, y.Proper) (output : List Piece)
    (wording : Wording) :
    (endedBy (endOf wording) (m.map fun _ => .success output)).Answers wording := by
  cases m with
  | ok u => exact success_answers _
  | error f =>
      obtain ⟨hreported, hkind⟩ := undeploy_reported hc h fun y hy => (hproper y hy).wellFormed
      exact endOf_answers hreported hkind

theorem url_answers (hc : d.connection = some connection) (wording : Wording) :
    (endedBy (endOf wording) ((d.executionUrl given).map fun url => .success (line url))).Answers wording := by
  cases hurl : d.executionUrl given with
  | ok url => exact success_answers _
  | error f =>
      obtain ⟨e, rfl⟩ := executionUrl_eq_error hc hurl
      exact endOf_answers rfl rfl

section

variable {path : String} {output : Option String} {definition : Definition} {text : Option String}

/-- What escapes when the deployer was called depends on what it ended with. -/
theorem escapes_deployed_iff {m : Except Failure String} (hconnected : Runs b (connect c) s xs (.ok d) s₁)
    (hread : referenceText c.files reference = .ok given) (ready : Readied c path (some reference) definition text)
    (hdeploys : Runs b (d.deploy definition.normalize text) s₁ ys m s₂) :
    Escapes b c s (.deploy path (some reference) output) f ↔
      (definition.HasLongKey ∧ m = .error .longInteger ∧ f = .longInteger) ∨
        ∃ target new fault, m = .ok new ∧ output.filter (· ≠ "") = some target ∧
          c.files.writeFault (Path.ofText target) = some fault ∧ f = .file fault := by
  have hdeployed : ∀ m', Deploys b c path (some reference) s d m' ↔ m = m' := fun m' =>
    (deploys_iff hconnected ready).trans (by rw [hdeploys.result])
  rw [escapes_connected_iff hconnected (show Command.reference? _ = some reference from rfl)]
  -- the reference is read, so its file is out of the question
  simp only [hread, reduceCtorEq, false_or]
  constructor
  · rintro ⟨_, _, hcommand, ⟨definition', hloaded, hlong, hfailed, rfl⟩ | hunwritten⟩
    · cases hcommand
      obtain rfl := Except.ok.inj (hloaded.symm.trans ready.loaded)
      exact .inl ⟨hlong, (hdeployed _).mp hfailed, rfl⟩
    · cases hcommand
      simp only [hdeployed] at hunwritten
      exact .inr hunwritten
  · rintro (⟨hlong, hfailed, rfl⟩ | hunwritten)
    · exact ⟨path, output, rfl, .inl ⟨definition, ready.loaded, hlong, (hdeployed _).mpr hfailed, rfl⟩⟩
    · simp only [← hdeployed] at hunwritten
      exact ⟨path, output, rfl, .inr hunwritten⟩

/-- The end of a deployment that fails. -/
theorem settled_failed (hc : d.connection = some connection) (hconnected : Runs b (connect c) s xs (.ok d) s₁)
    (hread : referenceText c.files reference = .ok given) (ready : Readied c path (some reference) definition text)
    (hdeploys : Runs b (d.deploy definition.normalize text) s₁ ys (.error f) s₂) (hproper : ∀ y ∈ ys, y.Proper) :
    (endOfDeployment c.wording f).Settled c.wording (Escapes b c s (.deploy path (some reference) output)) := by
  have hescapes : ∀ g, Escapes b c s (.deploy path (some reference) output) g ↔
      definition.HasLongKey ∧ f = .longInteger ∧ g = .longInteger := by
    simp [escapes_deployed_iff hconnected hread ready hdeploys]
  obtain hreported | ⟨rfl, hlong⟩ := deploy_reported hc hdeploys.trace hproper
  · -- what escapes is not reported
    refine .answered (endOfDeployment_answers hreported) fun g hg => ?_
    obtain ⟨-, rfl, -⟩ := (hescapes g).mp hg
    cases hreported
  · refine .escaped fun g => (hescapes g).trans ?_
    exact ⟨fun h => h.2.2, fun hg => ⟨Definition.hasLongKey_normalize.mp hlong, rfl, hg⟩⟩

/-- The end of a deployment that returns a reference. The URL is found, so all depends on the file. -/
theorem settled_returned {new : String} (hc : d.connection = some connection)
    (hconnected : Runs b (connect c) s xs (.ok d) s₁) (hread : referenceText c.files reference = .ok given)
    (ready : Readied c path (some reference) definition text)
    (hdeploys : Runs b (d.deploy definition.normalize text) s₁ ys (.ok new) s₂) (hproper : ∀ y ∈ ys, y.Proper) :
    (deployed c d output new).Settled c.wording (Escapes b c s (.deploy path (some reference) output)) := by
  have hescapes : ∀ g, Escapes b c s (.deploy path (some reference) output) g ↔
      ∃ target fault, output.filter (· ≠ "") = some target ∧
        c.files.writeFault (Path.ofText target) = some fault ∧ g = .file fault := by
    simp [escapes_deployed_iff hconnected hread ready hdeploys]
  obtain ⟨r, hparse⟩ := deploy_parses hdeploys.trace hproper
  have hurl := executionUrl_eq hc hparse
  unfold deployed
  cases hnamed : output.filter (· ≠ "") with
  | none =>
      simp only [Option.map_none, Option.bind_none, hurl]
      refine .answered (.result rfl rfl) fun g hg => ?_
      obtain ⟨_, _, hn, -⟩ := (hescapes g).mp hg
      cases hnamed.symm.trans hn
  | some target =>
      cases hwrite : c.files.writeFault (Path.ofText target) with
      | none =>
          simp only [Option.map_some, Option.bind_some, hwrite, hurl]
          refine .answered (.result rfl rfl) fun g hg => ?_
          obtain ⟨_, _, hn, hw, -⟩ := (hescapes g).mp hg
          obtain rfl := Option.some.inj (hnamed.symm.trans hn)
          cases hwrite.symm.trans hw
      | some fault =>
          simp only [Option.map_some, Option.bind_some, hwrite]
          refine .escaped fun g => ?_
          rw [hescapes]
          constructor
          · rintro ⟨_, _, hn, hw, rfl⟩
            obtain rfl := Option.some.inj (hnamed.symm.trans hn)
            obtain rfl := Option.some.inj (hwrite.symm.trans hw)
            rfl
          · rintro rfl
            exact ⟨target, fault, hnamed, hwrite, rfl⟩

/-- The end of a deployment whose deployer was called. -/
theorem settled_deploy {m : Except Failure String} (hsound : Sound c (.deploy path (some reference) output))
    (hconnected : Runs b (connect c) s xs (.ok d) s₁) (hread : referenceText c.files reference = .ok given)
    (ready : Readied c path (some reference) definition text)
    (hdeploys : Runs b (d.deploy definition.normalize text) s₁ ys m s₂) (hproper : ∀ y ∈ ys, y.Proper) :
    (endOfDeployer c d output m).Settled c.wording (Escapes b c s (.deploy path (some reference) output)) := by
  obtain ⟨connection, hc⟩ := connect_ok hsound hconnected.trace
  cases m with
  | error f => exact settled_failed hc hconnected hread ready hdeploys hproper
  | ok new => exact settled_returned hc hconnected hread ready hdeploys hproper

end

/-- A reference that is read is a text to deploy over, or none. -/
theorem givenText_of_read (hread : referenceText c.files reference = .ok given) :
    ∃ text, givenText c.files (some reference) = .ok text := by
  by_cases hempty : reference = ""
  · rw [hempty]
    exact ⟨none, givenText_empty c.files⟩
  · rw [givenText_of_ne hempty, hread]
    exact ⟨some given, rfl⟩

/-- **The end of a command over a reference** goes with what escapes from it. -/
theorem run_settled (b : Backend σ) (s : σ) (hsound : Sound c command)
    (hreference : command.reference? = some reference)
    (hproper : ∀ x ∈ (run c command).exchanges b s, x.Proper) :
    ∃ exit, ((run c command).run b s).result = .ok exit ∧
      exit.Settled c.wording (Escapes b c s command) := by
  have hconnected := runs_self b (connect c) s
  cases hconnect : ((connect c).run b s).result with
  | error f =>
      rw [hconnect] at hconnected
      have hrun := runs_run_unconnected hreference hconnected
      rw [hrun.exchanges] at hproper
      exact ⟨_, hrun.result, settled_unconnected hsound hconnected hproper⟩
  | ok d =>
      rw [hconnect] at hconnected
      cases hread : referenceText c.files reference with
      | error f =>
          exact ⟨_, (runs_run_unread hsound hreference hconnected hread).result,
            settled_unread hconnected hreference hread⟩
      | ok given =>
          obtain ⟨connection, hc⟩ := connect_ok hsound hconnected.trace
          cases command with
          | deploy path reference' output =>
              obtain rfl : reference' = some reference := hreference
              obtain ⟨definition, hloaded, hvalid⟩ := hsound.definition path (some reference) output rfl
              obtain ⟨text, htext⟩ := givenText_of_read hread
              have ready : Readied c path (some reference) definition text := ⟨hloaded, hvalid, htext⟩
              have hdeploys := runs_self b (d.deploy definition.normalize text) ((connect c).run b s).state
              have hrun : Runs b (run c (.deploy path (some reference) output)) s _ _ _ :=
                runs_run_deploy hconnected ready hdeploys
              rw [hrun.exchanges] at hproper
              exact ⟨_, hrun.result, settled_deploy hsound hconnected hread ready hdeploys
                fun y hy => hproper y (List.mem_append_right _ hy)⟩
          | undeploy reference' delete =>
              obtain rfl := Option.some.inj hreference
              have hdown := runs_self b (d.undeploy given delete) ((connect c).run b s).state
              have hrun := runs_run_undeploy hconnected hread hdown
              rw [hrun.exchanges] at hproper
              exact ⟨_, hrun.result, settled_answered hconnected hreference hread
                (fun _ _ _ h => by cases h) (undeploy_answers hc hdown.trace
                  (fun y hy => hproper y (List.mem_append_right _ hy)) _ c.wording)⟩
          | url reference' =>
              obtain rfl := Option.some.inj hreference
              exact ⟨_, (runs_run_url hconnected hread).result, settled_answered hconnected
                hreference hread (fun _ _ _ h => by cases h) (url_answers hc c.wording)⟩
          | validate path => cases hreference
          | transform path => cases hreference
          | discover organization asJson => cases hreference

/-- **Over a reference that cannot be used** nothing is taken down and no URL is printed, and the gateway is asked
for nothing but a client. -/
theorem run_unusable_asks (b : Backend σ) (s : σ) (hsound : Sound c command)
    (hcommand : (∃ delete, command = .undeploy reference delete) ∨ command = .url reference)
    (hunusable : ¬Usable c.files reference) :
    ∀ x ∈ (run c command).exchanges b s, x.request.operation ∈ openingOperations := by
  have hreference : command.reference? = some reference := by
    rcases hcommand with ⟨delete, rfl⟩ | rfl <;> rfl
  have hconnected := runs_self b (connect c) s
  have hopening : ∀ x ∈ (connect c).exchanges b s, x.request.operation ∈ openingOperations :=
    (connect_asks c).trace hconnected.trace
  cases hconnect : ((connect c).run b s).result with
  | error f =>
      rw [hconnect] at hconnected
      rw [(runs_run_unconnected hreference hconnected).exchanges]
      exact hopening
  | ok d =>
      rw [hconnect] at hconnected
      cases hread : referenceText c.files reference with
      | error f =>
          rw [(runs_run_unread hsound hreference hconnected hread).exchanges]
          exact hopening
      | ok given =>
          rcases hcommand with ⟨delete, rfl⟩ | rfl
          · obtain ⟨connection, hc⟩ := connect_ok hsound hconnected.trace
            cases hparse : Reference.parse given with
            | ok r => exact absurd ⟨given, r, hread, hparse⟩ hunusable
            | error e =>
                have hdown : Runs b (d.undeploy given delete) ((connect c).run b s).state []
                    (.error (.reference e)) ((connect c).run b s).state := by
                  rw [undeploy_refused hc hparse]
                  exact runs_fail (.reference e)
                rw [(runs_run_undeploy hconnected hread hdown).exchanges, List.append_nil]
                exact hopening
          · rw [(runs_run_url hconnected hread).exchanges]
            exact hopening

end

/-- **When commands over a reference answer.** In a valid environment, with a valid definition if one is deployed,
and with proper replies, a command over a reference comes to an end, and it answers just if nothing escapes from
it: it ends in a result, or it prints the failure and ends with code 1, or with 2 if an API could not be removed.
What it does not handle is what escapes, and nothing else: a negative number of attempts, a reference that cannot
be read from its file, a key that cannot be written when the deployment comes to it, a new reference that cannot be
written to its file. Unless it deploys, nothing but a client is asked for when the reference cannot be used. -/
theorem reference_answered_iff {σ : Type} (b : Backend σ) (s : σ) (wording : Wording) {files : Files}
    {env : Variables} {args : List String} {i : Invocation} {reference : String}
    (hread : Invocation.read files env args = .ok i) (hreference : i.command.reference? = some reference)
    (hsound : Sound ⟨files, env, i.config, i.gateway, wording⟩ i.command)
    (hproper : ∀ x ∈ (runArguments files env wording args).exchanges b s, x.Proper) :
    let p := runArguments files env wording args
    let escapes := Escapes b ⟨files, env, i.config, i.gateway, wording⟩ s i.command
    ∃ exit, (p.run b s).result = .ok exit ∧
      (exit.Answers wording ↔ ∀ f, ¬escapes f) ∧
      (∀ f, exit = .escape (.failure f) ↔ escapes f) ∧
      (((∃ delete, i.command = .undeploy reference delete) ∨ i.command = .url reference) →
        ¬Usable files reference → ∀ x ∈ p.exchanges b s, x.request.operation ∈ openingOperations) := by
  intro p escapes
  have hp : p = run ⟨files, env, i.config, i.gateway, wording⟩ i.command := runArguments_eq hread wording
  rw [runArguments_eq hread wording] at hproper
  rw [hp]
  obtain ⟨exit, hresult, hsettled⟩ := run_settled b s hsound hreference hproper
  obtain ⟨hanswers, hescape⟩ := hsettled.answers_iff
  refine ⟨exit, hresult, hanswers, hescape, fun hcommand hunusable => ?_⟩
  exact run_unusable_asks b s hsound hcommand hunusable

theorem deployOverPets_runs : ∃ s', Runs (Script.backend true)
    (run petsContext (.deploy "pets.json" (some petsText) (some "pets.ref"))) redeploymentReplies
    (petsOpening ++ petsOverwritten)
    (.ok (endOfDeployer petsContext petsDeployer (some "pets.ref") (.ok petsText))) s' := by
  obtain ⟨_, hdeploys⟩ := petsDeployer_redeploys
  exact ⟨_, runs_run_deploy petsContext_connects (plainPets_readied rfl) hdeploys⟩

theorem petsExchanges_proper : ∀ x ∈ petsOpening ++ petsOverwritten, x.Proper := by
  have hopened : ∀ x ∈ petsOpening, x.Proper := by
    refine List.forall_mem_cons.mpr ⟨⟨trivial, trivial, trivial, fun _ h => h⟩, ?_⟩
    exact List.forall_mem_singleton.mpr ⟨trivial, trivial, trivial, fun _ h => h⟩
  have hshown : (Exchange.call (.getApi "a") (.ok petsShown)).Proper :=
    ⟨⟨"a", rfl⟩, ⟨petsReference_storable.named, rfl, petsReference_storable.plain⟩, rfl, fun _ h => h⟩
  have hidentified : ∀ item ∈ ([] : List Object), Identified item := List.forall_mem_nil _
  have hplaced : ∀ item ∈ ([] : List Object), Identified item ∧ TextIfAny "path" item := List.forall_mem_nil _
  refine List.forall_mem_append.mpr ⟨hopened, ?_⟩
  refine List.forall_mem_cons.mpr ⟨⟨.inr ⟨"a", rfl⟩, trivial, trivial, fun _ h => h⟩, ?_⟩
  refine List.forall_mem_cons.mpr ⟨⟨hplaced, trivial, trivial, fun _ h => h⟩, ?_⟩
  refine List.forall_mem_cons.mpr ⟨⟨hidentified, trivial, trivial, fun _ h => h⟩, ?_⟩
  refine List.forall_mem_cons.mpr ⟨⟨⟨"1", rfl⟩, trivial, trivial, fun _ h => h⟩, ?_⟩
  refine List.forall_mem_cons.mpr ⟨⟨hidentified, trivial, trivial, fun _ h => h⟩, ?_⟩
  exact List.forall_mem_singleton.mpr hshown

theorem deployOverPets_answers :
    ∃ exit, ((runArguments petsFiles liveVariables Detail.plain
        ["deploy", "pets.json", "-r", petsText, "-o", "pets.ref"]).run (Script.backend true)
          redeploymentReplies).result = .ok exit ∧ exit.Answers Detail.plain := by
  have hread : Invocation.read petsFiles liveVariables
      ["deploy", "pets.json", "-r", petsText, "-o", "pets.ref"] =
      .ok ⟨none, "AWS", .deploy "pets.json" (some petsText) (some "pets.ref")⟩ := rfl
  have hready : Readied petsContext "pets.json" (some petsText) plainPets (some petsText) :=
    plainPets_readied rfl
  have hsound : Sound petsContext (.deploy "pets.json" (some petsText) (some "pets.ref")) := by
    refine ⟨⟨liveSettings, rfl⟩, fun path reference output h => ?_⟩
    cases h
    exact ⟨plainPets, hready.loaded, hready.valid⟩
  obtain ⟨s', hrun⟩ := deployOverPets_runs
  have hproper : ∀ x ∈ (runArguments petsFiles liveVariables Detail.plain
      ["deploy", "pets.json", "-r", petsText, "-o", "pets.ref"]).exchanges (Script.backend true)
        redeploymentReplies, x.Proper := by
    rw [runArguments_eq hread]
    have hexchanges := hrun.exchanges
    intro x hx
    exact petsExchanges_proper x (hexchanges ▸ hx)
  obtain ⟨exit, hresult, hanswers, -, -⟩ := reference_answered_iff (Script.backend true) redeploymentReplies
    Detail.plain hread rfl hsound hproper
  refine ⟨exit, hresult, hanswers.mpr fun f hescapes => ?_⟩
  rcases (escapes_connected_iff petsContext_connects rfl).mp hescapes with
    hunread | ⟨_, _, hcommand, ⟨definition, hloaded, hlong, -⟩ | ⟨_, _, _, -, hnamed, hunwritable, -⟩⟩
  · cases hunread
  · -- the definition has no policies
    cases hcommand
    obtain rfl := Except.ok.inj (hloaded.symm.trans hready.loaded)
    exact absurd hlong nofun
  · -- the file stands in the working directory, where it can be written
    cases hcommand
    obtain rfl := Option.some.inj hnamed
    cases hunwritable

/-- A reference that names no file: the failure to read it escapes, and nothing is printed. -/
theorem urlOfMissing_escapes :
    let exit := Exit.escape (.failure (.file .missing))
    Invocation.read [] liveVariables ["url", "@missing.ref"] = .ok ⟨none, "AWS", .url "@missing.ref"⟩ ∧
      Sound ⟨[], liveVariables, none, "AWS", Detail.plain⟩ (.url "@missing.ref") ∧
      (∀ x ∈ (runArguments [] liveVariables Detail.plain ["url", "@missing.ref"]).exchanges
        (Script.backend true) redeploymentReplies, x.Proper) ∧
      ((runArguments [] liveVariables Detail.plain ["url", "@missing.ref"]).run (Script.backend true)
        redeploymentReplies).result = .ok exit ∧
      exit.output = [] ∧ ¬exit.Answers Detail.plain := by
  intro exit
  refine ⟨rfl, ⟨⟨liveSettings, rfl⟩, fun _ _ _ h => by cases h⟩, ?_, rfl, rfl, not_escape_answers _⟩
  refine List.forall_mem_cons.mpr ⟨⟨trivial, trivial, trivial, fun _ h => h⟩, ?_⟩
  exact List.forall_mem_singleton.mpr ⟨trivial, trivial, trivial, fun _ h => h⟩

end ApiReconciler.CommandLine
