import ApiReconciler.Proofs.Artifact
import ApiReconciler.Proofs.Discovery.Questions

/-!
# `ApiReconciler.Proofs.Discovery.Found` — which APIs are found

Between the questions there is work that makes no call: the members of the listed object are read as a
definition, and the object is written into an artifact together with the document. On an object that is shown
as the gateway shows APIs, the first of these cannot fail (`readDiscovered_passed`), and the second fails only
for a document that cannot be read (`artifactText_parse`). So an API is found just if the questions about it
went well.

## Contents
- `readDiscovered_passed`, `discoveredDefinition_eq`: the definition of a listed API.
- `artifactText_parse`: its artifact, and the reference that is parsed from it.
- `trace_discoverOne`, `WentWell.discovered`: what is found went well, and what went well is found.
-/

namespace ApiReconciler

open Program

/-! ## Definitions -/

section

variable {item : Object} {id text name : String} {organization : Option String}

/-- A member that is read as a text is given as one, or it is not given. -/
theorem givenMember?_of_text (h : TextIfAny name item) :
    givenMember? item name = none ∨ ∃ s, givenMember? item name = some (.text s) := by
  unfold givenMember?
  rcases h with h | ⟨s, h⟩
  · rw [h]
    exact .inl rfl
  · rw [h]
    by_cases hs : (Value.text s).isTruthy = true
    · exact .inr ⟨s, if_pos hs⟩
    · exact .inl (if_neg hs)

/-- A member that is read as a text is a text or null. -/
theorem getD_of_text (h : TextIfAny name item) :
    ∃ o, (item.get? name).getD .null = Value.optionalText o := by
  rcases h with h | ⟨s, h⟩
  · exact ⟨none, by rw [h]; rfl⟩
  · exact ⟨some s, by rw [h]; rfl⟩

/-- An API has a name: its own, or its identifier. -/
theorem apiName_eq_done (hname : TextIfAny "name" item) (hid : item.get? "id" = some (.text id)) :
    ∃ name, apiName item = .done name := by
  unfold apiName
  rcases givenMember?_of_text hname with h | ⟨s, h⟩
  · rw [h]
    exact ⟨id, textMember_eq_done hid⟩
  · rw [h]
    exact ⟨s, rfl⟩

/-- The time of creation is a text, as it is or as the text of a moment. -/
theorem isoOfMoment_created (h : Shown item) :
    ∃ o, isoOfMoment ((item.get? "createdDate").getD .null) = Value.optionalText o := by
  rcases h.created with htext | ⟨m, hm⟩
  · obtain ⟨o, ho⟩ := getD_of_text htext
    rw [ho]
    cases o with
    | none => exact ⟨none, rfl⟩
    | some s => exact ⟨some s, rfl⟩
  · rw [hm]
    exact ⟨some m.iso, rfl⟩

/-- **The members of a listed API make a definition**, together with a name and a document. -/
theorem readDiscovered_passed (h : Shown item) (hid : item.get? "id" = some (.text id)) (name text : String)
    (organization : Option String) :
    ∃ d : Definition, d.id = id ∧ d.document = text ∧
      readDiscovered item name (.text text) organization = .passed d := by
  obtain ⟨version, hversion⟩ : ∃ version,
      (givenMember? item "version").getD (.text Definition.defaultVersion) = .text version := by
    rcases givenMember?_of_text h.version with hnone | ⟨s, hs⟩
    · exact ⟨_, by rw [hnone]; rfl⟩
    · exact ⟨s, by rw [hs]; rfl⟩
  obtain ⟨description, hdescription⟩ := getD_of_text h.description
  obtain ⟨created, hcreated⟩ := isoOfMoment_created h
  refine ⟨⟨id, name, version, some (contextOf name), text, .absent, [], [], description, organization, created,
    true⟩, rfl, rfl, ?_⟩
  unfold readDiscovered
  simp only [hid, hversion, hdescription, hcreated, Option.getD_some]
  cases description <;> cases organization <;> cases created <;> rfl

/-- The definition with its backend, if there is one. -/
def placeEndpoint (name : String) (d : Definition) : Option Value → Program Definition
  | none => .note (.noEndpoint name) (.done d)
  | some url =>
    if url.isTruthy then .done { d with endpoint := endpointOf url } else .note (.noEndpoint name) (.done d)

/-- A backend changes neither the identifier nor the document. -/
theorem trace_placeEndpoint (name : String) (d : Definition) (url : Option Value) :
    ∃ placed : Definition, placed.id = d.id ∧ placed.document = d.document ∧
      ∀ xs r, (placeEndpoint name d url).Trace xs r ↔ xs = [] ∧ r = .ok placed := by
  cases url with
  | none => exact ⟨d, rfl, rfl, fun _ _ => Iff.rfl⟩
  | some url =>
      by_cases htruthy : url.isTruthy = true
      · refine ⟨{ d with endpoint := endpointOf url }, rfl, rfl, fun xs r => ?_⟩
        rw [placeEndpoint, if_pos htruthy, trace_done]
      · refine ⟨d, rfl, rfl, fun xs r => ?_⟩
        rw [placeEndpoint, if_neg htruthy, trace_note, trace_done]

/-- **All that can fail about the definition of a listed API** is what is asked about its backend. -/
theorem discoveredDefinition_eq (h : Shown item) (hid : item.get? "id" = some (.text id)) (text : String)
    (organization : Option String) :
    ∃ name, ∃ d : Definition, d.id = id ∧ d.document = text ∧
      discoveredDefinition item (.text text) organization = (endpointUrl id).bind (placeEndpoint name d) := by
  obtain ⟨name, hname⟩ := apiName_eq_done h.name hid
  obtain ⟨d, hdid, hdocument, hread⟩ := readDiscovered_passed h hid name text organization
  refine ⟨name, d, hdid, hdocument, ?_⟩
  have hplaced : ∀ url, (match url with
      | none => do
        Program.log (.noEndpoint name)
        return d
      | some url =>
        if url.isTruthy then return { d with endpoint := endpointOf url }
        else do
          Program.log (.noEndpoint name)
          return d) = placeEndpoint name d url := by
    intro url
    cases url <;> rfl
  unfold discoveredDefinition
  rw [hname, textMember_eq_done hid]
  simp only [bind_eq, done_bind, hread]
  exact congrArg (Program.bind _) (funext hplaced)

/-! ## One API -/

/-- What follows when the stage of an API is known. -/
def discoverStaged (item : Object) (api : String) (organization : Option String) :
    Option String → Program (Option Discovered)
  | none => .note (.skipped api) (.done none)
  | some stage =>
    (exportDocument api stage).bind fun document =>
      (discoveredDefinition item document organization).bind fun d =>
        (ofExcept ((artifactText item d.document).mapError .document)).bind fun artifact =>
          .done (some ⟨d, artifact, stage⟩)

theorem discoverOne_eq (item : Object) (api : String) (organization : Option String) :
    discoverOne item api organization = (stageName api).bind (discoverStaged item api organization) := by
  refine congrArg (Program.bind _) (funext fun stage => ?_)
  cases stage <;> rfl

/-- An artifact is written of a document that can be read. -/
theorem parse_of_artifactText {artifact : String} (h : artifactText item text = .ok artifact) :
    ∃ v, Json.parse text = .ok v := by
  unfold artifactText at h
  cases hparse : Json.parse text with
  | error e =>
      rw [hparse] at h
      cases h
  | ok v => exact ⟨v, rfl⟩

theorem Value.Portable.apiMembers (h : (Value.object item).Portable) :
    (Value.object (apiMembers item)).Portable := by
  cases h with
  | object hrecord hmembers =>
      exact .object (hrecord.erase _) fun m hm => hmembers m (List.mem_of_mem_filter hm)

/-- **The artifact of a listed API and a document that can be read** is written, and a reference to the API is
parsed from it. -/
theorem artifactText_parse (h : Shown item) (hid : item.get? "id" = some (.text id)) {v : Value}
    (hparse : Json.parse text = .ok v) :
    ∃ artifact, artifactText item text = .ok artifact ∧
      ∃ ref, Reference.parse artifact = .ok ref ∧ ref.api = id := by
  have hportable := h.portable.apiMembers
  have hkept : (apiMembers item).get? "id" = some (.text id) := (Object.get?_erase_of_ne (by decide) item).trans hid
  have hnamed : id ≠ "" := by
    obtain ⟨other, hne, hother⟩ := h.named
    rw [hid] at hother
    cases hother
    exact hne
  obtain ⟨ns, hns, hback⟩ := Json.exists_denotes_object hportable
  -- what comes back under `id` is denoted by a text, so it is that text
  obtain ⟨w, hw, hdenotes⟩ := hback "id" _ hkept
  rw [hdenotes.unique (Json.denotes_text id)] at hw
  exact ⟨_, artifactText_eq_ok hportable.isWritable hparse, _,
    Reference.parse_listed hns (Json.parse_portable hparse) hw hnamed, rfl⟩

section

variable {xs : List Exchange}

/-- **An API that was found went well.** -/
theorem trace_discoverOne (h : Shown item) (hid : item.get? "id" = some (.text id)) {e : Discovered}
    (htrace : (discoverOne item id organization).Trace xs (.ok (some e))) (hpresents : ∀ x ∈ xs, x.Presents) :
    ∃ stage text, WentWell id stage text xs := by
  rw [discoverOne_eq] at htrace
  obtain ⟨stage, _, _, rfl, hstage, hstaged⟩ := trace_bind_ok.mp htrace
  cases stage with
  | none => cases hstaged.2
  | some stage =>
      obtain ⟨shown, first, others, rfl, hstages, hname⟩ := trace_stageName.mp hstage
      obtain ⟨document, _, _, rfl, hexport, hrest⟩ := trace_bind_ok.mp hstaged
      obtain ⟨-, hlater⟩ := List.forall_mem_append.mp hpresents
      obtain ⟨hbody, hanswers⟩ := List.forall_mem_append.mp hlater
      obtain ⟨text, rfl⟩ := exportDocument_text hexport hbody
      obtain ⟨exported, rfl, hexported⟩ := trace_exportDocument.mp hexport
      obtain ⟨name, d, -, rfl, hdefinition⟩ := discoveredDefinition_eq h hid text organization
      rw [hdefinition] at hrest
      obtain ⟨placed, _, _, rfl, hplaced, hartifact⟩ := trace_bind_ok.mp hrest
      obtain ⟨url, _, _, rfl, hurl, hplace⟩ := trace_bind_ok.mp hplaced
      obtain ⟨known, -, hdocument, hknown⟩ := trace_placeEndpoint name d url
      obtain ⟨rfl, hsame⟩ := (hknown _ _).mp hplace
      obtain rfl := Except.ok.inj hsame
      obtain ⟨artifact, _, _, rfl, hkept, rfl, -⟩ := trace_bind_ok.mp hartifact
      obtain ⟨rfl, hwritten⟩ := trace_ofExcept_mapError_ok.mp hkept
      rw [hdocument] at hwritten
      obtain ⟨v, hparse⟩ := parse_of_artifactText hwritten
      simp only [List.append_nil] at hanswers ⊢
      have hendpoint := (trace_endpointUrl hanswers).mp ⟨url, hurl⟩
      exact ⟨stage, d.document, .intro hstages hname hexported hparse hendpoint⟩

/-- **An API is found when it goes well**, with its identifier, its first stage, its document and a reference
to it. -/
theorem WentWell.discovered {stage : String} (hwell : WentWell id stage text xs) (h : Shown item)
    (hid : item.get? "id" = some (.text id)) (hpresents : ∀ x ∈ xs, x.Presents) (organization : Option String) :
    ∃ e : Discovered, (discoverOne item id organization).Trace xs (.ok (some e)) ∧
      e.definition.id = id ∧ e.stage = stage ∧ e.definition.document = text ∧
      ∃ ref, Reference.parse e.reference = .ok ref ∧ ref.api = id := by
  cases hwell with
  | @intro shown exported first document others ys hstages hname hexported hparse hendpoint =>
      obtain ⟨-, hpresents⟩ := List.forall_mem_cons.mp hpresents
      obtain ⟨-, hpresents⟩ := List.forall_mem_cons.mp hpresents
      obtain ⟨url, hurl⟩ := (trace_endpointUrl hpresents).mpr hendpoint
      obtain ⟨name, d, rfl, rfl, hdefinition⟩ := discoveredDefinition_eq h hid text organization
      obtain ⟨placed, hplacedId, hdocument, hplaced⟩ := trace_placeEndpoint name d url
      obtain ⟨artifact, hartifact, href⟩ := artifactText_parse h hid hparse
      refine ⟨⟨placed, artifact, stage⟩, ?_, hplacedId, rfl, hdocument, href⟩
      have hread : (discoveredDefinition item (.text d.document) organization).Trace ys (.ok placed) := by
        rw [hdefinition]
        exact trace_bind_ok.mpr ⟨url, ys, [], (List.append_nil _).symm, hurl, (hplaced _ _).mpr ⟨rfl, rfl⟩⟩
      have hkeep : (ofExcept ((artifactText item placed.document).mapError Failure.document)).Trace []
          (.ok artifact) :=
        trace_ofExcept_mapError_ok.mpr ⟨rfl, by rw [hdocument]; exact hartifact⟩
      rw [discoverOne_eq]
      refine trace_bind_ok.mpr ⟨some stage, [_], _, rfl, trace_stageName.mpr ⟨_, _, _, rfl, hstages, hname⟩, ?_⟩
      refine trace_bind_ok.mpr ⟨.text d.document, [_], ys, rfl, trace_exportDocument.mpr ⟨_, rfl, hexported⟩, ?_⟩
      refine trace_bind_ok.mpr ⟨placed, ys, [], (List.append_nil _).symm, hread, ?_⟩
      exact trace_bind_ok.mpr ⟨artifact, [], [], rfl, hkeep, rfl, rfl⟩

end

end

end ApiReconciler
