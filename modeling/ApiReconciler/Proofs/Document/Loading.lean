import ApiReconciler.Document.Load
import ApiReconciler.Proofs.Json.Documents
import ApiReconciler.Proofs.Text

/-!
# `ApiReconciler.Proofs.Document.Loading` — how loading from files fails

Settings and definitions are read from files that anyone may have written. Loading settings is documented to
fail with faults of the configuration, and loading a definition with faults of the definition. Faults of the
file, of its text and of the fields are all of these kinds. What is left are two places where a value of the
file is used before anything has checked it. The names of members become names of fields, which only texts can
be, and a YAML file can have other names. And the member that names the file of the document becomes part of a
path, which again only a text can.

## Contents
- `readMapping_written`, `loadDefinition_ok`: files that are read.
- `FailsOnly`: results that fail with one kind of faults only, and how they are put together.
- `hasTextKeys_of_isJson`: a JSON file has only texts as names.
- `loadSettings_cases`, `loadDefinition_cases`: the ways in which loading goes.
- `loading_documented_iff`: **when loading fails as documented**.
-/

namespace ApiReconciler

variable {files : Files} {env : Variables}

/-! ## Files that are read -/

/-- A text without carriage returns is read as it was written. -/
theorem text_of_contents {p : Path} {s : String} (hfile : files.contents p = .ok (Text.utf8 s))
    (hreturn : '\r' ∉ s.toList) : files.text p = .ok s := by
  unfold Files.text
  rw [hfile]
  simp only [Text.ofUtf8?_utf8, Text.unifyLineEnds_eq_self hreturn]

/-- A mapping that a text stands for is read from its file. -/
theorem readMapping_of_text {p : Path} {s : String} {ms : Object} (htext : files.text p = .ok s)
    (hvalue : valueOfText p.isJson s = .ok (.object ms)) : readMapping files p = .ok ms := by
  unfold readMapping
  rw [htext]
  simp only [hvalue]

/-- A mapping that was written to a file is read from it. -/
theorem readMapping_written {p : Path} {v : Value} {ms : Object} (hjson : p.isJson = true)
    (hfile : files.contents p = .ok (Text.utf8 (Json.compact v))) (hv : v.Plain)
    (hwritable : v.isWritable = true) (hms : v.readBack = .object ms) : readMapping files p = .ok ms := by
  have hchars : (Json.compact v).toList = Json.compactChars v := String.toList_ofList
  have hreturn : '\r' ∉ (Json.compact v).toList := by
    rw [hchars]
    exact fun hmem => absurd (Json.printable_compactChars hv _ hmem).1 (by decide)
  have hparse : Json.parse (Json.compact v) = .ok (.object ms) := by
    unfold Json.parse
    rw [hchars, Json.parseChars_compactChars hv hwritable, hms]
  refine readMapping_of_text (text_of_contents hfile hreturn) ?_
  unfold valueOfText
  rw [if_pos hjson, hparse]
  rfl

/-- A definition is loaded when the stages of loading succeed. -/
theorem loadDefinition_ok {path : String} {ms resolved fields : Object}
    {definition : Definition} (hmapping : readMapping files (Path.ofText path) = .ok ms)
    (hdocument : withDocument files (Path.ofText path) path ms = .ok resolved)
    (hfields : fieldsOf resolved = .ok fields) (hread : Definition.read fields = .passed definition) :
    loadDefinition files path = .ok definition := by
  unfold loadDefinition
  simp only [hmapping, hdocument, hfields, hread, Checked.toExcept, Except.mapError]

/-! ## Kinds of failures -/

/-- A fault of the configuration. -/
def Failure.IsConfiguration (f : Failure) : Prop := ∃ fault, f = .configuration fault

/-- A fault of the definition. -/
def Failure.IsDefinition (f : Failure) : Prop := ∃ fault, f = .definition fault

/-- If there is a failure, it is one of a kind. -/
def FailsOnly {α : Type} (kind : Failure → Prop) (r : Except Failure α) : Prop := ∀ f, r = .error f → kind f

section

variable {α β ε : Type} {kind : Failure → Prop}

theorem failsOnly_ok (a : α) : FailsOnly kind (.ok a : Except Failure α) := fun _ h => by cases h

theorem failsOnly_error {f : Failure} : FailsOnly kind (.error f : Except Failure α) ↔ kind f := by
  constructor
  · intro h
    exact h f rfl
  · rintro hf _ he
    obtain rfl := Except.error.inj he
    exact hf

/-- A reader whose faults are all turned into failures of the kind. -/
theorem failsOnly_mapError {g : ε → Failure} (h : ∀ e, kind (g e)) (r : Except ε α) :
    FailsOnly kind (r.mapError g) := by
  cases r with
  | ok a => exact failsOnly_ok a
  | error e => exact failsOnly_error.mpr (h e)

theorem not_failsOnly_error {f : Failure} (h : ¬kind f) : ¬FailsOnly kind (.error f : Except Failure α) :=
  fun hkind => h (failsOnly_error.mp hkind)

end

theorem not_isConfiguration_malformedKeys : ¬Failure.malformedKeys.IsConfiguration := by
  rintro ⟨fault, h⟩
  cases h

theorem not_isDefinition_malformedKeys : ¬Failure.malformedKeys.IsDefinition := by
  rintro ⟨fault, h⟩
  cases h

theorem not_isDefinition_malformedMember (name : String) : ¬(Failure.malformedMember name).IsDefinition := by
  rintro ⟨fault, h⟩
  cases h

/-! ## Names of members -/

theorem hasTextKeys_iff {ms : Object} : hasTextKeys ms = true ↔ ∀ m ∈ ms, ∃ name, m.1 = .text name := by
  have htext : ∀ k : Scalar, (Value.scalar k).text?.isSome = true ↔ ∃ name, k = .text name := by
    intro k
    cases k <;> simp [Value.text?]
  unfold hasTextKeys
  simp only [List.all_eq_true, htext]

/-- A member that is set under a text leaves the names texts, or leaves one that is none. -/
theorem hasTextKeys_set (name : String) (v : Value) (ms : Object) :
    hasTextKeys (Object.set (.text name) v ms) = hasTextKeys ms := by
  induction ms with
  | nil => rfl
  | cons m ms ih =>
      obtain ⟨k, w⟩ := m
      unfold Object.set
      split
      · rfl
      · unfold hasTextKeys at ih ⊢
        rw [List.all_cons, List.all_cons, ih]

/-- Nor does it matter that a member with a text as its name is taken away. -/
theorem hasTextKeys_erase (name : String) (ms : Object) : hasTextKeys (ms.erase name) = hasTextKeys ms := by
  rw [Bool.eq_iff_iff, hasTextKeys_iff, hasTextKeys_iff]
  unfold Object.erase
  constructor
  · intro h m hm
    by_cases hname : m.1 = .text name
    · exact ⟨name, hname⟩
    · exact h m (List.mem_filter.mpr ⟨hm, by simpa using hname⟩)
  · intro h m hm
    exact h m (List.mem_of_mem_filter hm)

/-- Environment variables stand for members with texts as their names. -/
theorem hasTextKeys_withVariables (env : Variables) (ms : Object) :
    hasTextKeys (withVariables env ms) = hasTextKeys ms := by
  unfold withVariables
  generalize settingVariables = known
  induction known generalizing ms with
  | nil => rfl
  | cons v known ih =>
      rw [List.foldl_cons, ih]
      split
      · rfl
      · split
        · rfl
        · exact hasTextKeys_set _ _ _

/-- **Members are read as fields** with faults of the kind only, or there is a name that is no text. -/
theorem fields_cases {α : Type} (kind : Failure → Prop) {g : List Issue → Failure}
    (hg : ∀ issues, kind (g issues)) (read : Object → Checked α) (ms : Object) :
    let r := (fieldsOf ms).bind fun fields => (read fields).toExcept.mapError g
    (FailsOnly kind r ∧ hasTextKeys ms = true) ∨ (r = .error .malformedKeys ∧ hasTextKeys ms = false) := by
  intro r
  by_cases htext : hasTextKeys ms = true
  · left
    have hfields : fieldsOf ms = .ok ms := if_pos htext
    have hr : r = (read ms).toExcept.mapError g := by
      show (fieldsOf ms).bind _ = _
      rw [hfields]
      rfl
    rw [hr]
    exact ⟨failsOnly_mapError hg _, htext⟩
  · right
    have hfields : fieldsOf ms = .error .malformedKeys := if_neg htext
    have hr : r = .error .malformedKeys := by
      show (fieldsOf ms).bind _ = _
      rw [hfields]
      rfl
    exact ⟨hr, Bool.eq_false_iff.mpr htext⟩

/-- **A JSON file has only texts as names.** -/
theorem hasTextKeys_of_isJson {path : Path} (hjson : path.isJson = true) {ms : Object}
    (h : readMapping files path = .ok ms) : hasTextKeys ms = true := by
  unfold readMapping at h
  split at h
  · cases h
  next text htext =>
    unfold valueOfText at h
    rw [if_pos hjson] at h
    cases hparse : Json.parse text with
    | error e =>
        rw [hparse] at h
        cases h
    | ok v =>
        rw [hparse] at h
        have hportable := Json.parse_portable hparse
        cases v with
        | list vs => cases h
        | object members =>
            obtain rfl : members = ms := Except.ok.inj h
            cases hportable with
            | object hrecord _ => exact hasTextKeys_iff.mpr hrecord.texts
        | scalar k =>
            cases k with
            | null =>
                obtain rfl : [] = ms := Except.ok.inj h
                rfl
            | _ => cases h

/-! ## Settings -/

/-- The members of a settings file are there, or the file cannot be read. -/
theorem failsOnly_settingsMembers (files : Files) (path : Option String) :
    FailsOnly Failure.IsConfiguration (settingsMembers files path) := by
  unfold settingsMembers
  cases path with
  | none => exact failsOnly_ok _
  | some path =>
      by_cases hempty : path = ""
      · simp only [if_pos hempty]
        exact failsOnly_ok _
      · simp only [if_neg hempty]
        exact failsOnly_mapError (fun e => ⟨_, rfl⟩) _

theorem loadSettings_eq {path : Option String} {ms : Object} (hread : settingsMembers files path = .ok ms) :
    loadSettings files path env = (fieldsOf (withVariables env ms)).bind fun fields =>
      (Settings.read fields).toExcept.mapError fun issues => .configuration (.invalid issues) := by
  unfold loadSettings
  rw [hread]
  cases hfields : fieldsOf (withVariables env ms) <;> simp [hfields, Except.bind]

/-- **Loading settings** goes as documented, or there is a name in the file that is no text. -/
theorem loadSettings_cases (files : Files) (path : Option String) (env : Variables) :
    (FailsOnly Failure.IsConfiguration (loadSettings files path env) ∧
        ∀ ms, settingsMembers files path = .ok ms → hasTextKeys ms = true) ∨
      (loadSettings files path env = .error .malformedKeys ∧
        ∃ ms, settingsMembers files path = .ok ms ∧ hasTextKeys ms = false) := by
  cases hread : settingsMembers files path with
  | error f =>
      have hmembers := failsOnly_settingsMembers files path
      have hsettings : loadSettings files path env = .error f := by
        unfold loadSettings
        rw [hread]
      rw [hread] at hmembers
      rw [hsettings]
      exact .inl ⟨failsOnly_error.mpr (failsOnly_error.mp hmembers), fun ms h => by cases h⟩
  | ok ms =>
      have hinvalid : ∀ issues, (Failure.configuration (.invalid issues)).IsConfiguration := fun _ => ⟨_, rfl⟩
      have hcases := fields_cases Failure.IsConfiguration hinvalid Settings.read (withVariables env ms)
      rw [← loadSettings_eq hread, hasTextKeys_withVariables] at hcases
      refine hcases.imp (fun h => ⟨h.1, fun ms' hms => ?_⟩) fun h => ⟨h.1, ms, rfl, h.2⟩
      rw [← Except.ok.inj hms]
      exact h.2

/-! ## Definitions -/

/-- What names the file of the document, if the document is to be read from a file of its own. -/
def documentSource? (ms : Object) : Option Value :=
  match ms.get? documentFile with
  | none => none
  | some name => if name.isTruthy && !ms.has "swagger_definition" then some name else none

/-- The members of a definition file can be made into fields: their names are texts, unless the document is
missing, and what names the file of the document is a text as well. -/
inductive Usable (files : Files) (path : Path) (ms : Object) : Prop
  | inlined (source : documentSource? ms = none) (keys : hasTextKeys ms = true)
  | located {name : String} (source : documentSource? ms = some (.text name)) (keys : hasTextKeys ms = true)
  | missing {name : String} (source : documentSource? ms = some (.text name)) {fault : ReadFault}
      (unread : files.text (path.parent.join name) = .error fault)

section

variable {path : Path} {pathText : String} {ms : Object}

theorem has_erase_documentFile (ms : Object) :
    (ms.erase documentFile).has "swagger_definition" = ms.has "swagger_definition" := by
  have hne : "swagger_definition" ≠ documentFile := by decide
  unfold Object.has
  rw [Object.get?_erase_of_ne hne]

theorem withDocument_of_none (h : documentSource? ms = none) :
    withDocument files path pathText ms = .ok (ms.erase documentFile) := by
  unfold withDocument
  unfold documentSource? at h
  cases hname : ms.get? documentFile with
  | none => rfl
  | some name =>
      have hno : ¬(name.isTruthy && !ms.has "swagger_definition") = true := by
        intro hyes
        simp [hname, hyes] at h
      simp only [has_erase_documentFile, if_neg hno]

theorem withDocument_of_some {v : Value} (h : documentSource? ms = some v) :
    withDocument files path pathText ms = (readDocument files path pathText v).map fun text =>
      Object.set (.text "swagger_definition") (.text text) (ms.erase documentFile) := by
  unfold withDocument
  unfold documentSource? at h
  cases hname : ms.get? documentFile with
  | none => simp [hname] at h
  | some name =>
      simp only [hname, Option.ite_none_right_eq_some, Option.some.injEq] at h
      obtain ⟨hyes, rfl⟩ := h
      simp only [has_erase_documentFile, if_pos hyes]

/-- Members whose document is not missing are usable just if their names are texts. -/
theorem usable_iff_of_none (h : documentSource? ms = none) : Usable files path ms ↔ hasTextKeys ms = true := by
  constructor
  · intro husable
    cases husable with
    | inlined _ keys => exact keys
    | located _ keys => exact keys
    | missing source _ =>
        rw [h] at source
        cases source
  · exact .inlined h

theorem usable_iff_of_located {name text : String} (h : documentSource? ms = some (.text name))
    (hread : files.text (path.parent.join name) = .ok text) : Usable files path ms ↔ hasTextKeys ms = true := by
  constructor
  · intro husable
    cases husable with
    | inlined _ keys => exact keys
    | located _ keys => exact keys
    | missing source unread =>
        rw [h] at source
        cases source
        rw [hread] at unread
        cases unread
  · exact .located h

/-- What names the file of the document has to be a text. -/
theorem not_usable_of_other {v : Value} (h : documentSource? ms = some v) (hv : ∀ name, v ≠ .text name) :
    ¬Usable files path ms := by
  intro husable
  cases husable with
  | inlined source _ =>
      rw [h] at source
      cases source
  | located source _ =>
      rw [h] at source
      exact hv _ (Option.some.inj source)
  | missing source _ =>
      rw [h] at source
      exact hv _ (Option.some.inj source)

/-- **A document gets into its place**, which leaves the names texts or not, or its file cannot be read, or what
names the file is no text. -/
theorem withDocument_cases (files : Files) (path : Path) (pathText : String) (ms : Object) :
    (∃ resolved, withDocument files path pathText ms = .ok resolved ∧ hasTextKeys resolved = hasTextKeys ms ∧
        (Usable files path ms ↔ hasTextKeys ms = true)) ∨
      (∃ fault, withDocument files path pathText ms = .error (.definition fault) ∧ Usable files path ms) ∨
      (withDocument files path pathText ms = .error (.malformedMember documentFile) ∧
        ¬Usable files path ms) := by
  cases hsource : documentSource? ms with
  | none =>
      exact .inl ⟨_, withDocument_of_none hsource, hasTextKeys_erase _ _, usable_iff_of_none hsource⟩
  | some v =>
      rw [withDocument_of_some hsource]
      by_cases hv : ∃ name, v = .text name
      · obtain ⟨name, rfl⟩ := hv
        cases hread : files.text (path.parent.join name) with
        | ok text =>
            have hdocument : readDocument files path pathText (.text name) = .ok text := by
              simp only [readDocument, hread, Except.mapError]
            rw [hdocument]
            exact .inl ⟨_, rfl, (hasTextKeys_set _ _ _).trans (hasTextKeys_erase _ _),
              usable_iff_of_located hsource hread⟩
        | error fault =>
            have hdocument : readDocument files path pathText (.text name) =
                .error (.definition (.unreadable pathText fault)) := by
              simp only [readDocument, hread, Except.mapError]
            rw [hdocument]
            exact .inr (.inl ⟨_, rfl, .missing hsource hread⟩)
      · have hother : ∀ name, v ≠ .text name := fun name h => hv ⟨name, h⟩
        have hdocument : readDocument files path pathText v = .error (.malformedMember documentFile) := by
          unfold readDocument
          split
          · exact absurd rfl (hother _)
          · rfl
        rw [hdocument]
        exact .inr (.inr ⟨rfl, not_usable_of_other hsource hother⟩)

theorem loadDefinition_eq (hread : readMapping files (Path.ofText pathText) = .ok ms) :
    loadDefinition files pathText = (withDocument files (Path.ofText pathText) pathText ms).bind fun resolved =>
      (fieldsOf resolved).bind fun fields =>
        (Definition.read fields).toExcept.mapError fun issues => .definition (.invalid pathText issues) := by
  unfold loadDefinition
  simp only [hread]
  cases withDocument files (Path.ofText pathText) pathText ms with
  | error f => rfl
  | ok resolved => cases hfields : fieldsOf resolved <;> simp [hfields, Except.bind]

/-- **Loading a definition** goes as documented, or its members are not usable, and then the failure says in
which way. -/
theorem loadDefinition_cases (files : Files) (pathText : String) :
    (FailsOnly Failure.IsDefinition (loadDefinition files pathText) ∧
        ∀ ms, readMapping files (Path.ofText pathText) = .ok ms → Usable files (Path.ofText pathText) ms) ∨
      ∃ ms f, readMapping files (Path.ofText pathText) = .ok ms ∧
        ¬Usable files (Path.ofText pathText) ms ∧ loadDefinition files pathText = .error f ∧
          (f = .malformedKeys ∨ f = .malformedMember documentFile) := by
  cases hread : readMapping files (Path.ofText pathText) with
  | error e =>
      have hdefinition : loadDefinition files pathText = .error (.definition (.unreadable pathText e)) := by
        unfold loadDefinition
        simp only [hread]
      rw [hdefinition]
      exact .inl ⟨failsOnly_error.mpr ⟨_, rfl⟩, fun ms h => by cases h⟩
  | ok ms =>
      rw [loadDefinition_eq hread]
      have hthis : ∀ ms', Except.ok ms = (Except.ok ms' : Except ReadFault Object) → ms' = ms :=
        fun ms' h => (Except.ok.inj h).symm
      obtain ⟨resolved, hdocument, hkeys, husable⟩ | ⟨fault, hdocument, husable⟩ | ⟨hdocument, husable⟩ :=
        withDocument_cases files (Path.ofText pathText) pathText ms
      · rw [hdocument]
        have hinvalid : ∀ issues, (Failure.definition (.invalid pathText issues)).IsDefinition :=
          fun _ => ⟨_, rfl⟩
        have hcases := fields_cases Failure.IsDefinition hinvalid Definition.read resolved
        rw [hkeys] at hcases
        obtain ⟨hfails, htext⟩ | ⟨hfails, htext⟩ := hcases
        · exact .inl ⟨hfails, fun ms' h => hthis ms' h ▸ husable.mpr htext⟩
        · refine .inr ⟨ms, _, rfl, fun h => ?_, hfails, .inl rfl⟩
          rw [husable.mp h] at htext
          cases htext
      · rw [hdocument]
        exact .inl ⟨failsOnly_error.mpr ⟨fault, rfl⟩, fun ms' h => hthis ms' h ▸ husable⟩
      · rw [hdocument]
        exact .inr ⟨ms, _, rfl, husable, rfl, .inr rfl⟩

end

/-! ## Both -/

/-- **When loading fails as documented.** Settings are loaded, or loading them fails with a fault of the
configuration, exactly when all names in their file are texts. A definition is loaded, or loading it fails with
a fault of the definition, exactly when the members of its file are usable: their names are texts, or the
document is missing anyway, and what names the file of the document is a text. Any other failure is one of these
two. In a JSON file all names are texts. -/
theorem loading_documented_iff (files : Files) (env : Variables) :
    (∀ path, FailsOnly Failure.IsConfiguration (loadSettings files path env) ↔
      ∀ ms, settingsMembers files path = .ok ms → hasTextKeys ms = true) ∧
    (∀ path f, loadSettings files path env = .error f → f.IsConfiguration ∨ f = .malformedKeys) ∧
    (∀ path, FailsOnly Failure.IsDefinition (loadDefinition files path) ↔
      ∀ ms, readMapping files (Path.ofText path) = .ok ms → Usable files (Path.ofText path) ms) ∧
    (∀ path f, loadDefinition files path = .error f →
      f.IsDefinition ∨ f = .malformedKeys ∨ f = .malformedMember documentFile) ∧
    ∀ path ms, path.isJson = true → readMapping files path = .ok ms → hasTextKeys ms = true := by
  refine ⟨fun path => ?_, fun path f hf => ?_, fun path => ?_, fun path f hf => ?_,
    fun path ms hjson hread => hasTextKeys_of_isJson hjson hread⟩
  · obtain ⟨hfails, hkeys⟩ | ⟨hfails, ms, hread, hkeys⟩ := loadSettings_cases files path env
    · exact iff_of_true hfails hkeys
    · rw [hfails]
      refine iff_of_false (not_failsOnly_error not_isConfiguration_malformedKeys) fun h => ?_
      rw [h ms hread] at hkeys
      cases hkeys
  · obtain ⟨hfails, -⟩ | ⟨hfails, -⟩ := loadSettings_cases files path env
    · exact .inl (hfails f hf)
    · rw [hfails] at hf
      exact .inr (Except.error.inj hf).symm
  · obtain ⟨hfails, husable⟩ | ⟨ms, f, hread, husable, hfails, hf⟩ := loadDefinition_cases files path
    · exact iff_of_true hfails husable
    · rw [hfails]
      refine iff_of_false (not_failsOnly_error ?_) fun h => husable (h ms hread)
      rcases hf with rfl | rfl
      · exact not_isDefinition_malformedKeys
      · exact not_isDefinition_malformedMember documentFile
  · obtain ⟨hfails, -⟩ | ⟨ms, f', -, -, hfails, hf'⟩ := loadDefinition_cases files path
    · exact .inl (hfails f hf)
    · rw [hfails] at hf
      obtain rfl := Except.error.inj hf
      exact .inr hf'

/-- The members of a definition that names its document by a number. -/
def numberedMembers : Object :=
  [(.text "id", .text "orders"), (.text "name", .text "Orders"), (.text "definition_file", .int 1)]

/-- The file that they stand in. -/
def numberedFiles : Files := [(["orders.json"], Text.utf8 (Json.compact (.object numberedMembers)))]

/-- It is read, but loading the definition fails with no fault of the definition. -/
theorem numberedFiles_undocumented :
    readMapping numberedFiles (Path.ofText "orders.json") = .ok numberedMembers ∧
      loadDefinition numberedFiles "orders.json" = .error (.malformedMember "definition_file") ∧
        ¬FailsOnly Failure.IsDefinition (loadDefinition numberedFiles "orders.json") := by
  have hplain : (Value.object numberedMembers).Plain := by
    refine .object ⟨?_, by decide⟩ ?_
    · exact List.forall_mem_cons.mpr ⟨⟨_, rfl⟩, List.forall_mem_cons.mpr ⟨⟨_, rfl⟩,
        List.forall_mem_singleton.mpr ⟨_, rfl⟩⟩⟩
    · exact List.forall_mem_cons.mpr ⟨.text _, List.forall_mem_cons.mpr ⟨.text _,
        List.forall_mem_singleton.mpr (.int _)⟩⟩
  have hread : readMapping numberedFiles (Path.ofText "orders.json") = .ok numberedMembers :=
    readMapping_written (by decide) rfl hplain (by decide) rfl
  have hloaded : loadDefinition numberedFiles "orders.json" = .error (.malformedMember "definition_file") := by
    rw [loadDefinition_eq hread]
    rfl
  refine ⟨hread, hloaded, ?_⟩
  rw [hloaded]
  exact not_failsOnly_error (not_isDefinition_malformedMember _)

end ApiReconciler
