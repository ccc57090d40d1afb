import ApiReconciler.Discovery
import ApiReconciler.Proofs.Json.Documents
import ApiReconciler.Proofs.Reconcile.Failures

/-!
# `ApiReconciler.Proofs.Discovery.Questions` — what discovery asks about an API

About each listed API discovery asks for its stages, for the export of the first one and for its resources,
and then for the integration of the first method of the first resource that has methods. `WentWell` says of a
list of exchanges that these questions were asked and answered so that the API is found; it speaks of replies
and not of programs. Each question has a lemma that says from which exchanges it gets which answer, in both
directions, so that the lemmas serve to take a visit apart and to put one together.

## Contents
- `Shown`, `Exchange.Presents`: what well-formed replies hold.
- `EndpointAnswered`, `WentWell`: the questions about an API, answered.
- `trace_stageName`, `trace_exportDocument`, `trace_endpointUrl`: the questions one by one.
-/

namespace ApiReconciler

open Program

/-! ## Well-formed replies -/

/-- An API as the gateway lists it: it has an identifier, and the members that are read as texts are texts.
Whatever else it has is what a reply can hold: members of an object are named by texts, each once, and integers
are no longer than those that are read from replies. -/
structure Shown (item : Object) : Prop where
  named : ∃ id, id ≠ "" ∧ item.get? "id" = some (.text id)
  name : TextIfAny "name" item
  version : TextIfAny "version" item
  description : TextIfAny "description" item
  created : TextIfAny "createdDate" item ∨ ∃ m, item.get? "createdDate" = some (.scalar (.moment m))
  portable : (Value.object item).Portable

/-- The document in the body of a reply: a text, or a stream of the bytes of one. -/
def Exported (reply : Object) (text : String) : Prop :=
  reply.get? "body" = some (.text text) ∨
    ∃ bytes, reply.get? "body" = some (.scalar (.stream bytes)) ∧ Text.ofUtf8? bytes = some text

/-- The methods of a resource are named by texts. -/
def NamedMethods (item : Object) : Prop :=
  ∀ v, item.get? "resourceMethods" = some v →
    ∃ ms : Object, v = .object ms ∧ ∀ m ∈ ms, ∃ verb, m.1 = .text verb

/-- Replies to discovery that are well formed: listed APIs are shown as APIs, stages have names, exports have
bodies, and resources have identifiers. -/
def Exchange.Presents : Exchange → Prop
  | .list .apis (.ok items) => ∀ item ∈ items, Shown item
  | .call (.getStages _) (.ok reply) =>
    reply.get? "item" = none ∨ ∃ stages, reply.get? "item" = some (.list stages) ∧
      ∀ stage ∈ stages, ∃ name, stage.members.get? "stageName" = some (.text name)
  | .call (.exportApi ..) (.ok reply) =>
    (∃ text, reply.get? "body" = some (.text text)) ∨
      ∃ bytes, reply.get? "body" = some (.scalar (.stream bytes))
  | .list (.resources _) (.ok items) => ∀ item ∈ items, Identified item ∧ NamedMethods item
  | _ => True

/-! ## Visits that go well -/

/-- The questions about the backend of an API are answered: its resources are listed, and either none of
them has methods, or the integration of the first method of the first one that has some is shown or is
found missing. -/
inductive EndpointAnswered (api : String) : List Exchange → Prop
  | unbacked {items : List Object} (methodless : ∀ item ∈ items, verbsOf item = []) :
    EndpointAnswered api [.list (.resources api) (.ok items)]
  | backed {before after : List Object} {item : Object} {resource verb : String} {verbs : List String}
      {answer : Answer} (methodless : ∀ item ∈ before, verbsOf item = [])
      (identified : item.get? "id" = some (.text resource)) (method : verbsOf item = verb :: verbs)
      (answered : ∀ fault, answer = .error fault →
        (CallFailure.mk Operation.getIntegration.name fault).kind = .notFound) :
    EndpointAnswered api [.list (.resources api) (.ok (before ++ item :: after)),
      .call (.getIntegration ⟨api, resource, verb⟩) answer]

/-- The questions about an API are answered, and so that it is found: there is a first stage, its export is
a document that can be read, and the questions about the backend are answered. -/
inductive WentWell (api stage text : String) : List Exchange → Prop
  | intro {shown exported : Object} {first document : Value} {others : List Value} {xs : List Exchange}
      (stages : shown.get? "item" = some (.list (first :: others)))
      (staged : first.members.get? "stageName" = some (.text stage))
      (body : Exported exported text) (parsed : Json.parse text = .ok document)
      (endpoint : EndpointAnswered api xs) :
    WentWell api stage text (.call (.getStages api) (.ok shown) ::
      .call (.exportApi api stage documentFormat "application/json") (.ok exported) :: xs)

/-! ## The stages of the questions -/

section

variable {api stage text : String} {xs : List Exchange}

theorem trace_firstStage {v : Value} :
    (firstStage v.elements).Trace xs (.ok (some stage)) ↔
      ∃ first others, v = .list (first :: others) ∧ xs = [] ∧
        first.members.get? "stageName" = some (.text stage) := by
  cases v with
  | scalar s => simp [Value.elements, firstStage]
  | object ms => simp [Value.elements, firstStage]
  | list stages =>
      cases stages with
      | nil => simp [Value.elements, firstStage]
      | cons first others => simp [Value.elements, firstStage, trace_bind_ok, and_comm]

theorem trace_stageName :
    (stageName api).Trace xs (.ok (some stage)) ↔
      ∃ shown first others, xs = [.call (.getStages api) (.ok shown)] ∧
        shown.get? "item" = some (.list (first :: others)) ∧
        first.members.get? "stageName" = some (.text stage) := by
  constructor
  · intro h
    obtain ⟨v, _, ys, rfl, hstages, hrest⟩ := trace_bind_ok.mp h
    obtain ⟨shown, _, _, rfl, hget, rfl, hv⟩ := trace_bind_ok.mp hstages
    obtain rfl := trace_perform_ok.mp hget
    obtain ⟨first, others, hlist, rfl, hname⟩ := trace_firstStage.mp hrest
    refine ⟨shown, first, others, rfl, ?_, hname⟩
    -- without the member there would be no first stage
    rw [Except.ok.inj hv] at hlist
    cases hitem : shown.get? "item" with
    | none =>
        rw [hitem] at hlist
        cases hlist
    | some w =>
        rw [hitem] at hlist
        exact congrArg some hlist
  · rintro ⟨shown, first, others, rfl, hitem, hname⟩
    refine trace_bind_ok.mpr ⟨.list (first :: others), _, [], (List.append_nil _).symm, ?_,
      trace_firstStage.mpr ⟨_, _, rfl, rfl, hname⟩⟩
    refine trace_bind_ok.mpr ⟨shown, _, [], (List.append_nil _).symm, trace_perform_ok.mpr rfl, rfl, ?_⟩
    rw [hitem]
    rfl

theorem trace_documentOfBody {reply : Object} :
    (documentOfBody (reply.get? "body")).Trace xs (.ok (.text text)) ↔ xs = [] ∧ Exported reply text := by
  unfold Exported documentOfBody
  split
  · next h => simp [h]
  · next bytes h =>
      split
      · next s hs => simp [h, hs, eq_comm]
      · next hs => simp [h, hs]
  · next v hstream h =>
      rw [h, trace_done, Except.ok.injEq, Option.some.injEq]
      refine and_congr Iff.rfl ⟨fun hv => .inl hv.symm, ?_⟩
      rintro (hv | ⟨bytes, hv, -⟩)
      · exact hv.symm
      · exact absurd (Option.some.inj hv) (hstream bytes)

theorem trace_exportDocument :
    (exportDocument api stage).Trace xs (.ok (.text text)) ↔
      ∃ exported, xs = [.call (.exportApi api stage documentFormat "application/json") (.ok exported)] ∧
        Exported exported text := by
  constructor
  · intro h
    obtain ⟨exported, _, ys, rfl, hget, hrest⟩ := trace_bind_ok.mp h
    obtain rfl := trace_perform_ok.mp hget
    obtain ⟨rfl, hexported⟩ := trace_documentOfBody.mp hrest
    exact ⟨exported, rfl, hexported⟩
  · rintro ⟨exported, rfl, hexported⟩
    exact trace_bind_ok.mpr ⟨exported, _, [], rfl, trace_perform_ok.mpr rfl,
      trace_documentOfBody.mpr ⟨rfl, hexported⟩⟩

/-- The document of an export that has a body is a text. -/
theorem exportDocument_text {document : Value} (h : (exportDocument api stage).Trace xs (.ok document))
    (hpresents : ∀ x ∈ xs, x.Presents) : ∃ text, document = .text text := by
  obtain ⟨exported, _, ys, rfl, hget, hrest⟩ := trace_bind_ok.mp h
  obtain rfl := trace_perform_ok.mp hget
  rcases (List.forall_mem_cons.mp hpresents).1 with ⟨text, hbody⟩ | ⟨bytes, hbody⟩
  · rw [hbody] at hrest
    exact ⟨text, Except.ok.inj hrest.2⟩
  · simp only [hbody, documentOfBody] at hrest
    split at hrest
    · next text _ => exact ⟨text, Except.ok.inj hrest.2⟩
    · cases hrest.2

/-! ## Backends -/

theorem firstVerb?_eq_head? {item : Object} (h : NamedMethods item) : firstVerb? item = (verbsOf item).head? := by
  unfold firstVerb? verbsOf
  cases hitem : item.get? "resourceMethods" with
  | none => rfl
  | some v =>
      obtain ⟨ms, rfl, hms⟩ := h v hitem
      cases ms with
      | nil => rfl
      | cons m ms =>
          obtain ⟨k, w⟩ := m
          obtain ⟨verb, rfl⟩ := hms _ List.mem_cons_self
          rfl

/-- The first method is found by going through the resources. -/
theorem firstMethod?_eq_findSome? {items : List Object} (hnamed : ∀ item ∈ items, NamedMethods item) :
    firstMethod? items = items.findSome? fun item => (verbsOf item).head?.map (Prod.mk item) := by
  induction items with
  | nil => rfl
  | cons item items ih =>
      obtain ⟨hitem, hitems⟩ := List.forall_mem_cons.mp hnamed
      rw [firstMethod?, firstVerb?_eq_head? hitem, ih hitems, List.findSome?_cons]
      cases (verbsOf item).head? <;> rfl

/-- There is no method when no resource has any. -/
theorem firstMethod?_eq_none {items : List Object} (hnamed : ∀ item ∈ items, NamedMethods item) :
    firstMethod? items = none ↔ ∀ item ∈ items, verbsOf item = [] := by
  rw [firstMethod?_eq_findSome? hnamed, List.findSome?_eq_none_iff]
  simp only [Option.map_eq_none_iff, List.head?_eq_none_iff]

/-- The method is the first one of the first resource that has some. -/
theorem firstMethod?_eq_some {items : List Object} (hnamed : ∀ item ∈ items, NamedMethods item) {item : Object}
    {verb : String} :
    firstMethod? items = some (item, verb) ↔ ∃ before after verbs, items = before ++ item :: after ∧
      (∀ other ∈ before, verbsOf other = []) ∧ verbsOf item = verb :: verbs := by
  rw [firstMethod?_eq_findSome? hnamed, List.findSome?_eq_some_iff]
  simp only [Option.map_eq_none_iff, List.head?_eq_none_iff, Option.map_eq_some_iff, List.head?_eq_some_iff]
  constructor
  · rintro ⟨before, found, after, rfl, ⟨other, ⟨verbs, hverbs⟩, heq⟩, hbefore⟩
    obtain ⟨rfl, rfl⟩ := Prod.mk.inj heq
    exact ⟨before, after, verbs, rfl, hbefore, hverbs⟩
  · rintro ⟨before, after, verbs, rfl, hbefore, hverbs⟩
    exact ⟨before, item, after, rfl, ⟨verb, ⟨verbs, hverbs⟩, rfl⟩, hbefore⟩

/-- A call that may find nothing is answered, or it finds nothing. -/
theorem trace_tolerateMissing {c : Call} {found : Option Object} :
    (tolerateMissing (some <$> perform c) none).Trace xs (.ok found) ↔
      ∃ answer, xs = [.call c answer] ∧ found = answer.toOption ∧
        ∀ fault, answer = .error fault → (CallFailure.mk c.operation.name fault).kind = .notFound := by
  constructor
  · rintro ⟨answer, ys, rfl, h⟩
    refine ⟨answer, ?_⟩
    cases answer with
    | ok reply =>
        obtain ⟨rfl, hfound⟩ := h
        exact ⟨rfl, Except.ok.inj hfound, nofun⟩
    | error fault =>
        replace h : (if (CallFailure.mk c.operation.name fault).kind = .notFound then .done none
          else .fail (.call ⟨c.operation.name, fault⟩) : Program (Option Object)).Trace ys (.ok found) := h
        split at h
        · next hkind =>
            obtain ⟨rfl, hfound⟩ := h
            refine ⟨rfl, Except.ok.inj hfound, ?_⟩
            rintro _ ⟨⟩
            exact hkind
        · cases h.2
  · rintro ⟨answer, rfl, rfl, hanswer⟩
    refine ⟨answer, [], rfl, ?_⟩
    cases answer with
    | ok reply => exact ⟨rfl, rfl⟩
    | error fault =>
        show (if (CallFailure.mk c.operation.name fault).kind = .notFound then .done none
          else .fail (.call ⟨c.operation.name, fault⟩) : Program (Option Object)).Trace [] (.ok none)
        rw [if_pos (hanswer fault rfl)]
        exact ⟨rfl, rfl⟩

/-- What is asked about a method that was found. -/
def integrationUrl (api : String) : Option (Object × String) → Program (Option Value)
  | none => .done none
  | some (item, verb) =>
    (textMember item "id").bind fun resource =>
      (tolerateMissing (some <$> perform (.getIntegration ⟨api, resource, verb⟩)) none).bind fun reply =>
        .done (reply.bind fun ms => ms.get? "uri")

theorem endpointUrl_eq (api : String) :
    endpointUrl api = (collect (.resources api)).bind fun items => integrationUrl api (firstMethod? items) := by
  refine congrArg (Program.bind _) (funext fun items => ?_)
  unfold integrationUrl
  cases firstMethod? items <;> rfl

/-- **The backend of an API becomes known just if the questions about it are answered.** -/
theorem trace_endpointUrl (hpresents : ∀ x ∈ xs, x.Presents) :
    (∃ url, (endpointUrl api).Trace xs (.ok url)) ↔ EndpointAnswered api xs := by
  rw [endpointUrl_eq]
  constructor
  · rintro ⟨url, h⟩
    obtain ⟨items, _, ys, rfl, hlist, hrest⟩ := trace_bind_ok.mp h
    obtain rfl := trace_collect_ok.mp hlist
    have hitems := (List.forall_mem_cons.mp hpresents).1
    have hnamed : ∀ item ∈ items, NamedMethods item := fun item hitem => (hitems item hitem).2
    cases hmethod : firstMethod? items with
    | none =>
        rw [hmethod] at hrest
        obtain ⟨rfl, -⟩ := hrest
        exact .unbacked ((firstMethod?_eq_none hnamed).mp hmethod)
    | some found =>
        obtain ⟨item, verb⟩ := found
        rw [hmethod] at hrest
        obtain ⟨resource, _, _, rfl, hmember, hintegration⟩ := trace_bind_ok.mp hrest
        obtain ⟨rfl, hid⟩ := trace_textMember_ok.mp hmember
        obtain ⟨reply, _, _, rfl, htolerated, rfl, -⟩ := trace_bind_ok.mp hintegration
        obtain ⟨answer, rfl, -, hanswer⟩ := trace_tolerateMissing.mp htolerated
        obtain ⟨before, after, verbs, rfl, hbefore, hverbs⟩ := (firstMethod?_eq_some hnamed).mp hmethod
        exact .backed hbefore hid hverbs hanswer
  · intro h
    cases h with
    | @unbacked items hmethodless =>
        have hitems := (List.forall_mem_cons.mp hpresents).1
        refine ⟨none, trace_bind_ok.mpr ⟨items, _, [], rfl, trace_collect_ok.mpr rfl, ?_⟩⟩
        rw [(firstMethod?_eq_none fun item hitem => (hitems item hitem).2).mpr hmethodless]
        exact ⟨rfl, rfl⟩
    | @backed before after item resource verb verbs answer hbefore hid hverbs hanswer =>
        have hitems := (List.forall_mem_cons.mp hpresents).1
        refine ⟨answer.toOption.bind fun ms => ms.get? "uri",
          trace_bind_ok.mpr ⟨_, [_], [_], rfl, trace_collect_ok.mpr rfl, ?_⟩⟩
        rw [(firstMethod?_eq_some fun item hitem => (hitems item hitem).2).mpr ⟨_, _, _, rfl, hbefore, hverbs⟩]
        refine trace_bind_ok.mpr ⟨resource, [], [_], rfl, trace_textMember_ok.mpr ⟨rfl, hid⟩, ?_⟩
        exact trace_bind_ok.mpr ⟨_, [_], [], rfl, trace_tolerateMissing.mpr ⟨answer, rfl, rfl, hanswer⟩, rfl, rfl⟩

end

end ApiReconciler
