import ApiReconciler.Proofs.Discovery.Found

/-!
# `ApiReconciler.Proofs.Discovery.Isolation` — discovery isolates failures

Discovery goes over the listed APIs one by one, with a handler around each of them that decides what is noted
and what escapes. That nothing escapes when replies are well formed is a discipline (`discovering`) that the
questions about one API keep to: whatever fails among them is a failed call or a document that cannot be read,
and these are what the handler notes.

So a run consists of the listing and of one visit for each API (`Visit`). What a visit finds is determined by
the listed object and by what is exchanged in the visit (`Trace.unique`), and any visits one after the other
make a run (`discoverEach_of_visits`). This is why the failure of one API does not matter to the others.

## Contents
- `discovering`, `discoverOne_obeys`: failures that concern one API.
- `visit`, `Visit`, `Visit.Sound`: what becomes of one listed API.
- `trace_discoverEach`, `discoverEach_of_visits`: a run as a sequence of visits.
- `discover_isolates`: all of it together.
-/

namespace ApiReconciler

open Program

/-! ## Failures -/

/-- The discipline of the questions about one API: an integration may be missing, and whatever else fails
concerns this API alone. -/
def discovering : Discipline where
  admits := Exchange.Presents
  tolerates op f := op = .getIntegration ∧ f.kind = .notFound
  reports _ _ e := e.isConfined = true
  allows e := e.isConfined = true

section

variable {item : Object} {api id : String}

theorem question_obeys {c : Call} {Q : Object → Prop} (hc : c.operation ≠ .getIntegration)
    (hok : ∀ reply, (Exchange.call c (.ok reply)).Presents → Q reply) : (perform c).Obeys discovering Q :=
  .call (fun reply h => .done (hok reply h)) (fun _ h => absurd h.1 hc) fun _ _ => ⟨_, rfl, rfl⟩

theorem stageName_obeys : (stageName api).Obeys discovering anything := by
  have hstages : (stages api).Obeys discovering fun v => ∀ stage ∈ v.elements,
      ∃ name, stage.members.get? "stageName" = some (.text name) := by
    refine (question_obeys (by simp [Call.operation]) fun reply h => h).bind fun reply h => .done ?_
    rcases h with hnone | ⟨listed, hlisted, hnames⟩
    · rw [hnone]
      exact List.forall_mem_nil _
    · rw [hlisted]
      exact hnames
  refine hstages.bind fun v h => ?_
  cases hv : v.elements with
  | nil => exact .done trivial
  | cons stage others =>
      obtain ⟨name, hname⟩ := h stage (hv ▸ List.mem_cons_self)
      rw [firstStage, map_eq, textMember_eq_done hname]
      exact .done trivial

theorem exportDocument_obeys {stage : String} :
    (exportDocument api stage).Obeys discovering fun document => ∃ text, document = .text text := by
  refine (question_obeys (by simp [Call.operation]) fun reply h => h).bind fun reply h => ?_
  rcases h with ⟨text, hbody⟩ | ⟨bytes, hbody⟩
  · rw [hbody]
    exact .done ⟨text, rfl⟩
  · rw [hbody, documentOfBody]
    split
    · next text _ => exact .done ⟨text, rfl⟩
    · exact .fail rfl

theorem endpointUrl_obeys : (endpointUrl api).Obeys discovering anything := by
  rw [endpointUrl_eq]
  have hlist : (collect (.resources api)).Obeys discovering fun items =>
      ∀ item ∈ items, Identified item ∧ NamedMethods item :=
    .list (fun _ h => .done h) (fun _ h => absurd h.1 (by simp [Listing.operation])) fun _ _ => ⟨_, rfl, rfl⟩
  refine hlist.bind fun items h => ?_
  cases hmethod : firstMethod? items with
  | none => exact .done trivial
  | some found =>
      obtain ⟨item, verb⟩ := found
      obtain ⟨before, after, -, rfl, -, -⟩ := (firstMethod?_eq_some fun item hitem => (h item hitem).2).mp hmethod
      obtain ⟨resource, hresource⟩ := (h item (List.mem_append_right _ List.mem_cons_self)).1
      rw [integrationUrl, textMember_eq_done hresource, done_bind]
      refine Obeys.bind (Q := anything) ?_ fun _ _ => .done trivial
      -- an integration that is missing is none
      refine Obeys.rescueCall Discipline.nothing [.getIntegration] ?_ (fun _ _ => False.elim) ?_ ?_
      · exact (standingCall_obeys rfl).bind fun _ _ => .done trivial
      · intro op _ f _ htolerated
        rw [if_pos htolerated.2]
        exact .done trivial
      · intro op hop f hno
        rw [if_neg fun hkind => hno ⟨List.mem_singleton.mp hop, hkind⟩]
        exact ⟨_, rfl, rfl⟩

/-- **Whatever fails about a listed API concerns it alone.** -/
theorem discoverOne_obeys (h : Shown item) (hid : item.get? "id" = some (.text id)) (organization : Option String) :
    (discoverOne item id organization).Obeys discovering anything := by
  rw [discoverOne_eq]
  refine stageName_obeys.bind fun stage _ => ?_
  cases stage with
  | none => exact .note (.done trivial)
  | some stage =>
      refine exportDocument_obeys.bind ?_
      rintro _ ⟨text, rfl⟩
      obtain ⟨name, d, -, -, hdefinition⟩ := discoveredDefinition_eq h hid text organization
      rw [hdefinition]
      refine Obeys.bind (Q := anything) (endpointUrl_obeys.bind fun url _ => ?_) fun placed _ => ?_
      · unfold placeEndpoint
        split
        · exact .note (.done trivial)
        · split
          · exact .done trivial
          · exact .note (.done trivial)
      · exact (obeys_ofExcept_mapError (Q := anything) (fun _ _ => trivial) fun _ => rfl).bind fun _ _ =>
          .done trivial

end

/-! ## Visits -/

/-- What is done about one listed API. -/
def visit (organization : Option String) (item : Object) : Program (Option Discovered) :=
  (textMember item "id").bind fun api =>
    (discoverOne item api organization).rescue fun f =>
      if f.isConfined then .note (.notDiscovered api f) (.done none) else .fail f

theorem discoverEach_cons (organization : Option String) (item : Object) (items : List Object) :
    discoverEach organization (item :: items) = (visit organization item).bind fun found =>
      (discoverEach organization items).bind fun rest => .done (found.toList ++ rest) := by
  unfold visit
  rw [bind_assoc]
  refine congrArg (Program.bind _) (funext fun api => ?_)
  refine congrArg (fun p : Program (Option Discovered) => p.bind _) (congrArg _ (funext fun f => ?_))
  split <;> rfl

/-- What is asked about one API. -/
def visitOperations : List Operation := [.getStages, .exportApi, .getResources, .getIntegration]

section

variable {organization : Option String} {item : Object} {id : String} {xs : List Exchange}

theorem visit_eq (hid : item.get? "id" = some (.text id)) :
    visit organization item = (discoverOne item id organization).rescue fun f =>
      if f.isConfined then .note (.notDiscovered id f) (.done none) else .fail f := by
  rw [visit, textMember_eq_done hid, done_bind]

theorem endpointUrl_asks : (endpointUrl id).Asks (Request.On id visitOperations) := by
  rw [endpointUrl_eq]
  refine asks_bind (collect_asks rfl rfl) fun items => ?_
  cases firstMethod? items with
  | none => trivial
  | some found =>
      refine asks_bind asks_textMember fun resource => asks_bind (asks_rescueCall ?_ fun f => ?_) fun _ => asks_done
      · exact asks_bind (perform_asks rfl rfl) fun _ => asks_done
      · split <;> trivial

theorem apiName_asks {P : Request → Prop} : (apiName item).Asks P := by
  unfold apiName
  split
  · trivial
  · trivial
  · exact asks_textMember

theorem discoveredDefinition_asks (hid : item.get? "id" = some (.text id)) (document : Value) :
    (discoveredDefinition item document organization).Asks (Request.On id visitOperations) := by
  unfold discoveredDefinition
  rw [textMember_eq_done hid]
  refine asks_bind apiName_asks fun name => ?_
  rw [bind_eq, done_bind]
  refine asks_bind asks_ofExcept fun d => asks_bind endpointUrl_asks fun url => ?_
  split
  · trivial
  · split <;> trivial

/-- A visit asks about its API only. -/
theorem visit_asks (hid : item.get? "id" = some (.text id)) :
    (visit organization item).Asks (Request.On id visitOperations) := by
  rw [visit_eq hid, discoverOne_eq]
  refine asks_rescue (asks_bind ?_ fun stage => ?_) fun f => ?_
  · refine asks_bind (asks_bind (perform_asks rfl rfl) fun _ => asks_done) fun v => ?_
    unfold firstStage
    split
    · trivial
    · exact asks_bind asks_textMember fun _ => asks_done
  · cases stage with
    | none => trivial
    | some stage =>
        refine asks_bind (asks_bind (perform_asks rfl rfl) fun reply => ?_) fun document => ?_
        · unfold documentOfBody
          split
          · trivial
          · split <;> trivial
          · trivial
        exact asks_bind (discoveredDefinition_asks hid document) fun _ => asks_bind asks_ofExcept fun _ => asks_done
  · split <;> trivial

/-- A visit that goes well finds its API. -/
theorem WentWell.visited {stage text : String} (hwell : WentWell id stage text xs) (h : Shown item)
    (hid : item.get? "id" = some (.text id)) (hpresents : ∀ x ∈ xs, x.Presents) (organization : Option String) :
    ∃ e : Discovered, (visit organization item).Trace xs (.ok (some e)) ∧
      e.definition.id = id ∧ e.stage = stage ∧ e.definition.document = text ∧
      ∃ ref, Reference.parse e.reference = .ok ref ∧ ref.api = id := by
  obtain ⟨e, htrace, hcontent⟩ := hwell.discovered h hid hpresents organization
  refine ⟨e, ?_, hcontent⟩
  rw [visit_eq hid]
  exact trace_rescue.mpr (.inl ⟨_, rfl, htrace⟩)

/-- A visit never fails, and what it finds went well. -/
theorem trace_visit {r : Except Failure (Option Discovered)} (h : Shown item)
    (hid : item.get? "id" = some (.text id)) (htrace : (visit organization item).Trace xs r)
    (hpresents : ∀ x ∈ xs, x.Presents) :
    ∃ found, r = .ok found ∧ (found.isSome = true → ∃ stage text, WentWell id stage text xs) := by
  rw [visit_eq hid] at htrace
  rcases trace_rescue.mp htrace with ⟨found, rfl, hfound⟩ | ⟨e, ys, zs, rfl, hfailed, hhandled⟩
  · refine ⟨found, rfl, fun hsome => ?_⟩
    obtain ⟨e, rfl⟩ := Option.isSome_iff_exists.mp hsome
    exact trace_discoverOne h hid hfound hpresents
  · -- the failure concerns this API alone, so it is noted
    have hconfined : e.isConfined = true :=
      (discoverOne_obeys h hid organization).failure (fun x hx => hpresents x (List.mem_append_left _ hx))
        hfailed (fun _ hallowed => hallowed) fun _ _ _ hreported => hreported
    rw [if_pos hconfined] at hhandled
    exact ⟨none, hhandled.2, nofun⟩

end

/-- A visit of one API: the object it was listed as, what was exchanged about it, and what was found. -/
structure Visit where
  item : Object
  exchanges : List Exchange
  found : Option Discovered

/-- A visit that can take place. -/
def Visit.Possible (organization : Option String) (v : Visit) : Prop :=
  (visit organization v.item).Trace v.exchanges (.ok v.found)

/-- What a visit of an API comes to. It asks about this API only; the API is found just if the visit goes well;
and what is found has the identifier of the API, its first stage, its document, and a reference that is parsed
to the API. -/
structure Visit.Sound (id : String) (v : Visit) : Prop where
  listed : v.item.get? "id" = some (.text id)
  asked : ∀ x ∈ v.exchanges, x.request.On id visitOperations
  found_iff : v.found.isSome = true ↔ ∃ stage text, WentWell id stage text v.exchanges
  found : ∀ e, v.found = some e → e.definition.id = id ∧
    WentWell id e.stage e.definition.document v.exchanges ∧
    ∃ ref, Reference.parse e.reference = .ok ref ∧ ref.api = id

section

variable {organization : Option String}

/-- **A visit of an API comes to what it should**, when the replies to it are well formed. -/
theorem Visit.Possible.sound {v : Visit} (hv : v.Possible organization) (h : Shown v.item)
    (hpresents : ∀ x ∈ v.exchanges, x.Presents) : ∃ id, v.Sound id := by
  obtain ⟨id, -, hid⟩ := h.named
  obtain ⟨found, hresult, hfound⟩ := trace_visit h hid hv hpresents
  rw [← Except.ok.inj hresult] at hfound
  -- what a visit finds is determined by its exchanges
  have hwent : ∀ {stage text : String}, WentWell id stage text v.exchanges → ∃ e, v.found = some e ∧
      e.definition.id = id ∧ e.stage = stage ∧ e.definition.document = text ∧
      ∃ ref, Reference.parse e.reference = .ok ref ∧ ref.api = id := by
    intro stage text hwell
    obtain ⟨e, htrace, hcontent⟩ := hwell.visited h hid hpresents organization
    exact ⟨e, Except.ok.inj (hv.unique htrace), hcontent⟩
  refine ⟨id, hid, (visit_asks hid).trace hv, ⟨hfound, ?_⟩, fun e he => ?_⟩
  · rintro ⟨stage, text, hwell⟩
    obtain ⟨e, he, -⟩ := hwent hwell
    exact Option.isSome_iff_exists.mpr ⟨e, he⟩
  · obtain ⟨stage, text, hwell⟩ := hfound (Option.isSome_iff_exists.mpr ⟨e, he⟩)
    obtain ⟨e', he', hid', rfl, rfl, href⟩ := hwent hwell
    obtain rfl : e = e' := Option.some.inj (he.symm.trans he')
    exact ⟨hid', hwell, href⟩

/-- Visits that can take place make a run, one after the other. -/
theorem discoverEach_of_visits {visits : List Visit} (h : ∀ v ∈ visits, v.Possible organization) :
    (discoverEach organization (visits.map Visit.item)).Trace (visits.flatMap Visit.exchanges)
      (.ok (visits.filterMap Visit.found)) := by
  induction visits with
  | nil => exact ⟨rfl, rfl⟩
  | cons v visits ih =>
      obtain ⟨hv, hvisits⟩ := List.forall_mem_cons.mp h
      rw [List.map_cons, discoverEach_cons]
      refine trace_bind_ok.mpr ⟨v.found, v.exchanges, _, rfl, hv, ?_⟩
      refine trace_bind_ok.mpr ⟨_, _, [], (List.append_nil _).symm, ih hvisits, rfl, ?_⟩
      rw [List.filterMap_cons]
      cases v.found <;> rfl

theorem discover_of_visits {visits : List Visit} (h : ∀ v ∈ visits, v.Possible organization) :
    (discover organization).Trace
      (.list .apis (.ok (visits.map Visit.item)) :: visits.flatMap Visit.exchanges)
      (.ok (visits.filterMap Visit.found)) :=
  ⟨.ok (visits.map Visit.item), _, rfl, discoverEach_of_visits h⟩

/-- **A run over listed APIs consists of one visit for each**, and it does not fail. -/
theorem trace_discoverEach {items : List Object} {xs : List Exchange} {r : Except Failure (List Discovered)}
    (hshown : ∀ item ∈ items, Shown item) (h : (discoverEach organization items).Trace xs r)
    (hpresents : ∀ x ∈ xs, x.Presents) :
    ∃ visits : List Visit, visits.map Visit.item = items ∧ xs = visits.flatMap Visit.exchanges ∧
      r = .ok (visits.filterMap Visit.found) ∧ ∀ v ∈ visits, v.Possible organization := by
  induction items generalizing xs r with
  | nil =>
      obtain ⟨rfl, rfl⟩ := h
      exact ⟨[], rfl, rfl, rfl, List.forall_mem_nil _⟩
  | cons item items ih =>
      obtain ⟨hitem, hitems⟩ := List.forall_mem_cons.mp hshown
      obtain ⟨id, -, hid⟩ := hitem.named
      rw [discoverEach_cons] at h
      rcases trace_bind.mp h with ⟨found, ys, zs, rfl, hvisit, hrest⟩ | ⟨e, rfl, hvisit⟩
      · obtain ⟨-, hzs⟩ := List.forall_mem_append.mp hpresents
        rcases trace_bind.mp hrest with ⟨rest, us, ws, rfl, heach, rfl, rfl⟩ | ⟨e, rfl, heach⟩
        · obtain ⟨visits, hlisted, rfl, hresult, hpossible⟩ :=
            ih hitems heach fun x hx => hzs x (List.mem_append_left _ hx)
          refine ⟨⟨item, ys, found⟩ :: visits, by rw [List.map_cons, hlisted], ?_, ?_,
            List.forall_mem_cons.mpr ⟨hvisit, hpossible⟩⟩
          · rw [List.flatMap_cons, List.append_nil]
          · rw [List.filterMap_cons, Except.ok.inj hresult]
            cases found <;> rfl
        · obtain ⟨_, -, -, hresult, -⟩ := ih hitems heach hzs
          cases hresult
      · obtain ⟨found, hresult, -⟩ := trace_visit hitem hid hvisit hpresents
        cases hresult

/-- **Discovery isolates failures.** It fails only if the listing does. Otherwise, on well-formed replies, it
consists of one visit for each listed API, in the order of the listing, and its result is what they find. And
if one of them goes in any other way, what the others find is as it was. -/
theorem discover_isolates {xs : List Exchange} {r : Except Failure (List Discovered)}
    (h : (discover organization).Trace xs r) (hpresents : ∀ x ∈ xs, x.Presents) :
    (∃ fault, xs = [.list .apis (.error fault)] ∧ r = .error (.call ⟨Operation.getApis.name, fault⟩)) ∨
    ∃ visits : List Visit,
      xs = .list .apis (.ok (visits.map Visit.item)) :: visits.flatMap Visit.exchanges ∧
      r = .ok (visits.filterMap Visit.found) ∧
      (∀ v ∈ visits, v.Possible organization ∧ ∃ id, v.Sound id) ∧
      ∀ before v after, visits = before ++ v :: after →
        ∀ other : Visit, other.item = v.item → other.Possible organization → ∀ r',
          (discover organization).Trace
              (.list .apis (.ok (visits.map Visit.item)) :: (before ++ other :: after).flatMap Visit.exchanges) r' ↔
            r' = .ok (before.filterMap Visit.found ++ other.found.toList ++ after.filterMap Visit.found) := by
  obtain ⟨answer, ys, rfl, heach⟩ := h
  obtain ⟨hlisted, hanswers⟩ := List.forall_mem_cons.mp hpresents
  cases answer with
  | error fault =>
      obtain ⟨rfl, rfl⟩ := heach
      exact .inl ⟨fault, rfl, rfl⟩
  | ok items =>
      obtain ⟨visits, rfl, rfl, rfl, hpossible⟩ := trace_discoverEach hlisted heach hanswers
      refine .inr ⟨visits, rfl, rfl, fun v hv => ⟨hpossible v hv, ?_⟩, ?_⟩
      · refine (hpossible v hv).sound (hlisted _ (List.mem_map_of_mem hv)) fun x hx => ?_
        exact hanswers x (List.mem_flatMap.mpr ⟨v, hv, hx⟩)
      · rintro before v after rfl other hsame hother r'
        -- the other visit takes the place of the one that took place
        have hothers : ∀ w ∈ before ++ other :: after, w.Possible organization := by
          obtain ⟨hbefore, hafter⟩ := List.forall_mem_append.mp hpossible
          exact List.forall_mem_append.mpr ⟨hbefore, List.forall_mem_cons.mpr
            ⟨hother, (List.forall_mem_cons.mp hafter).2⟩⟩
        have hitems : (before ++ v :: after).map Visit.item = (before ++ other :: after).map Visit.item := by
          rw [List.map_append, List.map_append, List.map_cons, List.map_cons, hsame]
        have hfound : (before ++ other :: after).filterMap Visit.found =
            before.filterMap Visit.found ++ other.found.toList ++ after.filterMap Visit.found := by
          rw [List.filterMap_append, List.filterMap_cons, List.append_assoc]
          cases other.found <;> rfl
        have hrun := discover_of_visits hothers
        rw [hfound, ← hitems] at hrun
        exact ⟨fun h => h.unique hrun, fun hr => hr ▸ hrun⟩

end

/-! ### Two APIs, one of them lost -/

/-- An API whose stages cannot be listed. -/
def lostApi : Object := [(.text "id", .text "a")]

/-- An API that is found. -/
def foundApi : Object :=
  [(.text "id", .text "b"), (.text "name", .text "Found"),
    (.text "createdDate", .scalar (.moment ⟨⟨2024, 5, 17⟩, 8, 30, 0, 0, some 0⟩))]

/-- The visit of the first one. -/
def lostExchanges : List Exchange := [.call (.getStages "a") (.error (.disconnected "lost"))]

/-- The visit of the second one, which has a method without an integration. -/
def foundExchanges : List Exchange :=
  [.call (.getStages "b") (.ok [(.text "item", .list [.object [(.text "stageName", .text "live")]])]),
    .call (.exportApi "b" "live" documentFormat "application/json")
      (.ok [(.text "body", .scalar (.stream (Text.utf8 "\x7b\x7d")))]),
    .list (.resources "b") (.ok [[(.text "id", .text "r"),
      (.text "resourceMethods", .object [(.text "GET", .null)])]]),
    .call (.getIntegration ⟨"b", "r", "GET"⟩) (.error (.refused ⟨some "NotFoundException", none, none⟩))]

/-- The run that consists of the two visits. -/
def partlyLostRun : List Exchange := .list .apis (.ok [lostApi, foundApi]) :: (lostExchanges ++ foundExchanges)

theorem partlyLostRun_presents : ∀ x ∈ partlyLostRun, x.Presents := by
  have hlost : Shown lostApi := by
    refine ⟨⟨"a", by decide, rfl⟩, .inl rfl, .inl rfl, .inl rfl, .inl (.inl rfl), .object ⟨?_, by decide⟩ ?_⟩
    · exact List.forall_mem_singleton.mpr ⟨_, rfl⟩
    · exact List.forall_mem_singleton.mpr (.scalar trivial)
  have hfound : Shown foundApi := by
    refine ⟨⟨"b", by decide, rfl⟩, .inr ⟨_, rfl⟩, .inl rfl, .inl rfl, .inr ⟨_, rfl⟩, .object ⟨?_, by decide⟩ ?_⟩
    · exact List.forall_mem_cons.mpr ⟨⟨_, rfl⟩, List.forall_mem_cons.mpr ⟨⟨_, rfl⟩,
        List.forall_mem_singleton.mpr ⟨_, rfl⟩⟩⟩
    · exact List.forall_mem_cons.mpr ⟨.scalar trivial, List.forall_mem_cons.mpr ⟨.scalar trivial,
        List.forall_mem_singleton.mpr (.scalar trivial)⟩⟩
  have hstages : ∀ stage ∈ [Value.object [(.text "stageName", .text "live")]],
      ∃ name, stage.members.get? "stageName" = some (.text name) :=
    List.forall_mem_singleton.mpr ⟨"live", rfl⟩
  have hresource : ∀ item ∈ [[(Scalar.text "id", Value.text "r"),
      (.text "resourceMethods", .object [(.text "GET", .null)])]], Identified item ∧ NamedMethods item := by
    refine List.forall_mem_singleton.mpr ⟨⟨"r", rfl⟩, ?_⟩
    rintro v ⟨⟩
    exact ⟨_, rfl, List.forall_mem_singleton.mpr ⟨"GET", rfl⟩⟩
  exact List.forall_mem_cons.mpr ⟨List.forall_mem_cons.mpr ⟨hlost, List.forall_mem_singleton.mpr hfound⟩,
    List.forall_mem_cons.mpr ⟨trivial, List.forall_mem_cons.mpr ⟨.inr ⟨_, rfl, hstages⟩,
      List.forall_mem_cons.mpr ⟨.inr ⟨_, rfl⟩, List.forall_mem_cons.mpr ⟨hresource,
        List.forall_mem_singleton.mpr trivial⟩⟩⟩⟩⟩

theorem foundExchanges_wentWell : WentWell "b" "live" "\x7b\x7d" foundExchanges := by
  have hparse : Json.parse "\x7b\x7d" = .ok (.object []) := by
    simp [Json.parse, Json.parseChars, Json.readValue, Json.skipSpace, Json.isSpace]
  refine .intro rfl rfl (.inr ⟨_, rfl, Text.ofUtf8?_utf8 _⟩) hparse ?_
  refine @EndpointAnswered.backed "b" [] [] _ "r" "GET" [] _ (List.forall_mem_nil _) rfl rfl ?_
  rintro _ ⟨⟩
  decide

theorem partlyLostRun_isolated :
    ∃ e, (discover none).Trace partlyLostRun (.ok [e]) ∧ (∀ x ∈ partlyLostRun, x.Presents) ∧
      ∃ visits : List Visit, visits.map Visit.item = [lostApi, foundApi] ∧
        visits.filterMap Visit.found = [e] ∧ ∀ v ∈ visits, ∃ id, v.Sound id := by
  have hpresents := partlyLostRun_presents
  have hfound : Shown foundApi :=
    (List.forall_mem_cons.mp hpresents).1 foundApi (List.mem_cons_of_mem _ List.mem_cons_self)
  have hanswers : ∀ x ∈ foundExchanges, x.Presents :=
    (List.forall_mem_append.mp (List.forall_mem_cons.mp hpresents).2).2
  obtain ⟨e, hvisited, -⟩ := foundExchanges_wentWell.visited hfound rfl hanswers none
  have hlost : (visit none lostApi).Trace lostExchanges (.ok none) :=
    ⟨.error (.disconnected "lost"), [], rfl, rfl, rfl⟩
  have hpossible : ∀ v ∈ [Visit.mk lostApi lostExchanges none, ⟨foundApi, foundExchanges, some e⟩],
      v.Possible none :=
    List.forall_mem_cons.mpr ⟨hlost, List.forall_mem_singleton.mpr hvisited⟩
  have htrace : (discover none).Trace partlyLostRun (.ok [e]) := discover_of_visits hpossible
  refine ⟨e, htrace, hpresents, ?_⟩
  rcases discover_isolates htrace hpresents with ⟨fault, hfailed, -⟩ | ⟨visits, hrun, hresult, hvisits, -⟩
  · cases hfailed
  · obtain ⟨hlisted, -⟩ := List.cons_eq_cons.mp hrun
    injection hlisted with _ hitems
    exact ⟨visits, (Except.ok.inj hitems).symm, (Except.ok.inj hresult).symm, fun v hv => (hvisits v hv).2⟩

end ApiReconciler
