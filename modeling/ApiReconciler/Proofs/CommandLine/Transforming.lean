import ApiReconciler.Proofs.CommandLine.Deploying
import ApiReconciler.Proofs.Definition.Normalize
import ApiReconciler.Proofs.Definition.Reread
import ApiReconciler.Proofs.Yaml.BlankLine

/-!
# `ApiReconciler.Proofs.CommandLine.Transforming` — a printed definition is read as that definition

The command that prints a definition writes the members that are not null as a YAML document, and a line feed
behind it. What is printed is meant to be used as a definition file. So it has to be read as the definition that
was printed, and printing it once more has to give the same text. Of a definition with an integer that is too long
to be written nothing is printed.

Nothing is said here about what a YAML document stands for: that reading inverts writing is assumed of the one
mapping that is printed. The rest is shown. The definition has to be the one that was loaded, although members
are missing. The document has no character that is changed when a file is read as text. And the empty line behind
it is no part of it, since its last line is always the truth value of the last member.

## Contents
- `Value.decEq`: values are compared, so that what is read from a document can be checked.
- `run_transform_eq`: what the command does; it makes no calls.
- `loadDefinition_of_text`: a definition is loaded from a document that stands for its members.
- `lastLine_dumpPresent`, `parse_printed`: the line feed behind a printed document.
- `printed_definition_returns`: **a printed definition is read as that definition**.
-/

namespace ApiReconciler

/-! ## Comparing values -/

mutual

/-- Equality of values is decided part by part. -/
def Value.decEq : (v w : Value) → Decidable (v = w)
  | .scalar s, .scalar t => decidable_of_iff (s = t) ⟨congrArg _, Value.scalar.inj⟩
  | .list xs, .list ys =>
    match decEqItems xs ys with
    | .isTrue h => .isTrue (congrArg _ h)
    | .isFalse h => .isFalse fun heq => h (Value.list.inj heq)
  | .object ms, .object ns =>
    match decEqMembers ms ns with
    | .isTrue h => .isTrue (congrArg _ h)
    | .isFalse h => .isFalse fun heq => h (Value.object.inj heq)
  | .scalar _, .list _ => .isFalse nofun
  | .scalar _, .object _ => .isFalse nofun
  | .list _, .scalar _ => .isFalse nofun
  | .list _, .object _ => .isFalse nofun
  | .object _, .scalar _ => .isFalse nofun
  | .object _, .list _ => .isFalse nofun

/-- Equality of lists of values. -/
def decEqItems : (xs ys : List Value) → Decidable (xs = ys)
  | [], [] => .isTrue rfl
  | [], _ :: _ => .isFalse nofun
  | _ :: _, [] => .isFalse nofun
  | x :: xs, y :: ys =>
    match Value.decEq x y, decEqItems xs ys with
    | .isTrue h, .isTrue h' => .isTrue (congrArg₂ List.cons h h')
    | .isFalse h, _ => .isFalse fun heq => h (List.cons.inj heq).1
    | _, .isFalse h => .isFalse fun heq => h (List.cons.inj heq).2

/-- Equality of the members of objects, in order. -/
def decEqMembers : (ms ns : List (Scalar × Value)) → Decidable (ms = ns)
  | [], [] => .isTrue rfl
  | [], _ :: _ => .isFalse nofun
  | _ :: _, [] => .isFalse nofun
  | (k, v) :: ms, (l, w) :: ns =>
    match decEq k l, Value.decEq v w, decEqMembers ms ns with
    | .isTrue h, .isTrue h', .isTrue h'' => .isTrue (congrArg₂ List.cons (congrArg₂ Prod.mk h h') h'')
    | .isFalse h, _, _ => .isFalse fun heq => h (congrArg Prod.fst (List.cons.inj heq).1)
    | _, .isFalse h, _ => .isFalse fun heq => h (congrArg Prod.snd (List.cons.inj heq).1)
    | _, _, .isFalse h => .isFalse fun heq => h (List.cons.inj heq).2

end

instance : DecidableEq Value := Value.decEq

namespace CommandLine

open Program

/-! ## The command -/

/-- The end of a command that prints a definition. -/
def transformedEnd (c : Context) (path : String) : Except Failure Exit :=
  (requireGateway c).bind fun _ => (loadDefinition c.files path).bind fun definition =>
    match Yaml.written? definition.normalize.dumpPresent with
    | none => .error .longInteger
    | some text => .ok (.success (line text))

section

variable {c : Context} {path text : String} {d : Definition}

theorem runTransform_eq (c : Context) (path : String) : runTransform c path = ofExcept (transformedEnd c path) := by
  unfold runTransform transformedEnd
  cases requireGateway c with
  | error f =>
      rw [bind_eq, ofExcept_error, fail_bind]
      rfl
  | ok _ =>
      rw [bind_eq, ofExcept_ok, done_bind, bind_eq]
      cases loadDefinition c.files path with
      | error f =>
          rw [ofExcept_error, fail_bind]
          rfl
      | ok definition =>
          rw [ofExcept_ok, done_bind]
          simp only [Except.bind]
          cases Yaml.written? definition.normalize.dumpPresent <;> rfl

/-- A definition is printed without any call. -/
theorem run_transform_eq (c : Context) (path : String) :
    run c (.transform path) = .done (endedBy (endOf c.wording) (transformedEnd c path)) := by
  unfold run
  show ending (runTransform c path) (endOf c.wording) = _
  rw [runTransform_eq, ending_eq_onEnd, ofExcept_onEnd]

/-- A definition that can be written is printed. -/
theorem run_transform_of_loaded (hgateway : requireGateway c = .ok ())
    (hloaded : loadDefinition c.files path = .ok d) (hwritten : Yaml.written? d.normalize.dumpPresent = some text) :
    run c (.transform path) = .done (.success (line text)) := by
  rw [run_transform_eq, transformedEnd, hgateway, hloaded]
  simp only [Except.bind, hwritten]
  rfl

/-- Of a definition that cannot be written nothing is printed. -/
theorem run_transform_of_unwritten (hgateway : requireGateway c = .ok ())
    (hloaded : loadDefinition c.files path = .ok d) (hunwritten : Yaml.written? d.normalize.dumpPresent = none) :
    run c (.transform path) = .done (.escape (.failure .longInteger)) := by
  rw [run_transform_eq, transformedEnd, hgateway, hloaded]
  simp only [Except.bind, hunwritten]
  rfl

end

/-! ## Loading what was printed -/

/-- A mapping is read from a YAML document that stands for it. -/
theorem readMapping_of_parse {files : Files} {p : Path} {text : String} {ms : Object} (hyaml : p.isJson = false)
    (htext : files.text p = .ok text) (hparse : Yaml.parse text = .ok (.object ms)) :
    readMapping files p = .ok ms := by
  refine readMapping_of_text htext ?_
  unfold valueOfText
  rw [hyaml, if_neg Bool.false_ne_true, hparse]
  rfl

/-- A definition is loaded from its members that are not null. -/
theorem loadDefinition_of_dumpPresent {files : Files} {path : String} {d : Definition} (hregular : d.IsRegular)
    (hmapping : readMapping files (Path.ofText path) = .ok d.dumpPresent.members) :
    loadDefinition files path = .ok d := by
  have hnone : d.dumpPresent.members.get? documentFile = none := by
    rw [Definition.members_dumpPresent, Object.present, d.isRecord_dump.get?_filter]
    rfl
  have hdocument : withDocument files (Path.ofText path) path d.dumpPresent.members = .ok d.dumpPresent.members := by
    unfold withDocument
    rw [hnone]
    exact congrArg Except.ok (Object.erase_of_none hnone)
  have hfields : fieldsOf d.dumpPresent.members = .ok d.dumpPresent.members := by
    unfold fieldsOf
    rw [if_pos (hasTextKeys_iff.mpr d.isRecord_dumpPresent.texts)]
  exact loadDefinition_ok hmapping hdocument hfields (Definition.read_eq_passed_iff.mpr hregular.readFrom_dumpPresent)

/-- A definition is loaded from a text that stands for its members. -/
theorem loadDefinition_of_text {files : Files} {path text : String} {d : Definition} (hregular : d.IsRegular)
    (hyaml : (Path.ofText path).isJson = false) (hfile : files.contents (Path.ofText path) = .ok (Text.utf8 text))
    (hclear : Yaml.Clear text.toList) (hparse : Yaml.parse text = .ok d.dumpPresent) :
    loadDefinition files path = .ok d := by
  refine loadDefinition_of_dumpPresent hregular ?_
  exact readMapping_of_parse hyaml (text_of_contents hfile hclear.not_mem_return) hparse

/-- What is loaded was read from an object. -/
theorem exists_read_of_loadDefinition {files : Files} {path : String} {d : Definition}
    (h : loadDefinition files path = .ok d) : ∃ ms, Definition.read ms = .passed d := by
  cases hread : readMapping files (Path.ofText path) with
  | error e =>
      unfold loadDefinition at h
      simp only [hread] at h
      cases h
  | ok ms =>
      rw [loadDefinition_eq hread] at h
      obtain ⟨resolved, -, hrest⟩ := bind_eq_ok_iff.mp h
      obtain ⟨fields, -, hchecked⟩ := bind_eq_ok_iff.mp hrest
      cases hpassed : Definition.read fields with
      | failed issues =>
          rw [hpassed] at hchecked
          cases hchecked
      | passed e =>
          rw [hpassed] at hchecked
          exact ⟨fields, hpassed.trans (congrArg _ (Except.ok.inj hchecked))⟩

/-! ## The line feed behind a document -/

/-- The last line of a printed definition. -/
def lastLine (d : Definition) : List Char :=
  "initiated_from_gateway: ".toList ++ Yaml.Scalar.plainChars (.bool d.discovered) ++ ['\n']

theorem memberLines_discovered (b : Bool) :
    Yaml.memberLines 0 [(.text "initiated_from_gateway", .bool b)] =
      ["initiated_from_gateway: ".toList ++ Yaml.Scalar.plainChars (.bool b)] := by
  cases b <;> decide +kernel

/-- A printed definition ends with the line of its last member, which is never null. -/
theorem lastLine_dumpPresent (d : Definition) :
    Yaml.Lexer.LastLine (lastLine d) (Yaml.written d.dumpPresent).toList := by
  obtain ⟨ms, hms, hpresent⟩ : ∃ ms : Object, ms ≠ [] ∧
      d.dumpPresent = .object (ms ++ [(.text "initiated_from_gateway", .bool d.discovered)]) := by
    refine ⟨((d.members.dropLast).filter fun m => m.2.isPresent).map fun m => (.text m.1, m.2), ?_, ?_⟩
    · exact List.cons_ne_nil _ _
    · have hsplit : d.members = d.members.dropLast ++ [("initiated_from_gateway", .bool d.discovered)] := rfl
      show Value.object ((d.members.filter _).map _) = _
      conv_lhs => rw [hsplit, List.filter_append, List.map_append]
      rfl
  rw [hpresent, Yaml.written_object_concat hms (memberLines_discovered d.discovered)]
  refine ⟨⟨_, rfl⟩, ⟨'i', _, rfl, by decide, by decide⟩, ?_, ?_⟩
  · unfold lastLine
    cases d.discovered <;> decide
  · unfold lastLine
    cases d.discovered <;> decide

/-- The line feed behind a printed document is no part of it. -/
theorem parse_printed {d : Definition} {v : Value} (h : Yaml.parse (Yaml.written d.dumpPresent) = .ok v) :
    Yaml.parse (Yaml.written d.dumpPresent ++ "\n") = .ok v := by
  unfold Yaml.parse at h ⊢
  rw [String.toList_append]
  exact Yaml.parseChars_append_feed (Yaml.clear_written _) (Yaml.written_ends _) (lastLine_dumpPresent d) h

/-! ## Definitions that are printed -/

theorem render_line (colour : Bool) (text : String) : render colour (line text) = text ++ "\n" := by
  cases colour with
  | true =>
      show "" ++ (("" ++ (text ++ "\n")) ++ "") = _
      simp only [String.empty_append, String.append_empty]
  | false =>
      show "" ++ (text ++ "\n") = _
      rw [String.empty_append]

/-- **A printed definition is read as that definition.** What is read from an object is read again from its
members, and from those that are not null. The command prints the latter of the normalized definition, unless an
integer in it is too long to be written. If reading inverts writing there, the normalized definition is loaded from
any file with what was printed, and printing it gives the same. -/
theorem printed_definition_returns :
    (∀ (ms : Object) (d : Definition), Definition.read ms = .passed d →
      Definition.read d.dump.members = .passed d ∧ Definition.read d.dumpPresent.members = .passed d) ∧
    ∀ (c : Context) (path : String) (d : Definition), requireGateway c = .ok () →
      loadDefinition c.files path = .ok d →
        (Yaml.written? d.normalize.dumpPresent = none →
          run c (.transform path) = .done (.escape (.failure .longInteger))) ∧
        ∀ text, Yaml.written? d.normalize.dumpPresent = some text →
          ∃ out, run c (.transform path) = .done (.success out) ∧
            ∀ colour, render colour out = text ++ "\n" ∧
              (Yaml.parse text = .ok d.normalize.dumpPresent →
                ∀ (c' : Context) (path' : String), requireGateway c' = .ok () →
                  (Path.ofText path').isJson = false →
                  c'.files.contents (Path.ofText path') = .ok (Text.utf8 (render colour out)) →
                    loadDefinition c'.files path' = .ok d.normalize ∧
                      run c' (.transform path') = .done (.success out)) := by
  refine ⟨fun ms d h => ?_, fun c path d hgateway hloaded =>
    ⟨run_transform_of_unwritten hgateway hloaded, fun text hwritten => ?_⟩⟩
  · have hregular := (Definition.read_eq_passed_iff.mp h).isRegular
    exact ⟨Definition.read_eq_passed_iff.mpr hregular.readFrom_dump,
      Definition.read_eq_passed_iff.mpr hregular.readFrom_dumpPresent⟩
  · obtain ⟨ms, hread⟩ := exists_read_of_loadDefinition hloaded
    have hregular := (Definition.read_eq_passed_iff.mp hread).isRegular.normalize
    refine ⟨_, run_transform_of_loaded hgateway hloaded hwritten, fun colour => ⟨render_line colour _, ?_⟩⟩
    intro hinverts c' path' hgateway' hyaml hfile
    rw [render_line, Yaml.eq_written hwritten] at hfile
    rw [Yaml.eq_written hwritten] at hinverts
    have hclear : Yaml.Clear (Yaml.written d.normalize.dumpPresent ++ "\n").toList := by
      rw [String.toList_append]
      exact (Yaml.clear_written _).append (.cons rfl Yaml.clear_nil)
    have hagain := loadDefinition_of_text hregular hyaml hfile hclear (parse_printed hinverts)
    rw [← Definition.normalize_normalize] at hwritten
    exact ⟨hagain, run_transform_of_loaded hgateway' hagain hwritten⟩

/-- A definition with a wildcard behind a path, and with a null among the parameters of a policy. -/
def starredOrders : Definition where
  id := "orders"
  name := "Orders"
  version := "2"
  context := none
  document := ""
  endpoint := .absent
  policies := [⟨"throttle", [(.text "limit", .int 10), (.text "burst", .null)]⟩]
  routes := [⟨"/orders/*", "GET", []⟩]
  description := none
  organization := none
  createdTime := none
  discovered := false

/-- The definition as it is written by hand. -/
def ordersText : String :=
  "id: orders\nname: Orders\nversion: '2'\nswagger_definition: ''\napi_policies:\n- policy_name: throttle\n" ++
    "  parameters:\n    limit: 10\n    burst: null\nuri_templates:\n- uri_template: /orders/*\n  http_verb: GET\n"

/-- What the text stands for. -/
def ordersMembers : Object :=
  [(.text "id", .text "orders"), (.text "name", .text "Orders"), (.text "version", .text "2"),
    (.text "swagger_definition", .text ""),
    (.text "api_policies", .list [.object [(.text "policy_name", .text "throttle"),
      (.text "parameters", .object [(.text "limit", .int 10), (.text "burst", .null)])]]),
    (.text "uri_templates", .list [.object [(.text "uri_template", .text "/orders/*"),
      (.text "http_verb", .text "GET")]])]

/-- The definition as it is printed. -/
def ordersPrinted : String :=
  "id: orders\nname: Orders\nversion: '2'\nswagger_definition: ''\napi_policies:\n- policy_name: throttle\n" ++
    "  parameters:\n    limit: 10\n    burst: null\nuri_templates:\n- uri_template: /orders/\n  http_verb: GET\n" ++
    "  operation_policies: []\ninitiated_from_gateway: false\n"

/-- The file that is written by hand, and one with what is printed. -/
def ordersFiles : Files :=
  [(["orders.yaml"], Text.utf8 ordersText), (["printed.yaml"], Text.utf8 (ordersPrinted ++ "\n"))]

theorem starredOrders_loaded : loadDefinition ordersFiles "orders.yaml" = .ok starredOrders := by
  have htext : ordersFiles.text (Path.ofText "orders.yaml") = .ok ordersText :=
    text_of_contents rfl (by decide +kernel)
  have hparse : Yaml.parse ordersText = .ok (.object ordersMembers) := by decide +kernel
  have hmapping : readMapping ordersFiles (Path.ofText "orders.yaml") = .ok ordersMembers :=
    readMapping_of_parse (by decide) htext hparse
  exact loadDefinition_ok hmapping rfl rfl rfl

/-- The definition is loaded from a file and printed. What is printed stands in a second file, which is read as the
normalized definition: the wildcard is gone, and the null is still there. -/
theorem starredOrders_returns :
    Definition.read starredOrders.dumpPresent.members = .passed starredOrders ∧
      ∃ out, run { petsContext with files := ordersFiles } (.transform "orders.yaml") = .done (.success out) ∧
        render false out = ordersPrinted ++ "\n" ∧
        loadDefinition ordersFiles "printed.yaml" = .ok starredOrders.normalize ∧
        run { petsContext with files := ordersFiles } (.transform "printed.yaml") = .done (.success out) := by
  obtain ⟨hread, hprinted⟩ := printed_definition_returns
  have hwritten : Yaml.written? starredOrders.normalize.dumpPresent = some ordersPrinted := by decide +kernel
  obtain ⟨-, hreturns⟩ :=
    hprinted { petsContext with files := ordersFiles } "orders.yaml" starredOrders rfl starredOrders_loaded
  obtain ⟨out, hrun, hrendered⟩ := hreturns ordersPrinted hwritten
  obtain ⟨htext, hagain⟩ := hrendered false
  obtain ⟨hloaded, hsame⟩ := hagain (by decide +kernel) { petsContext with files := ordersFiles } "printed.yaml" rfl
    (by decide) (by rw [htext]; rfl)
  exact ⟨(hread ordersMembers starredOrders rfl).2, out, hrun, htext, hloaded, hsame⟩

end CommandLine

end ApiReconciler
