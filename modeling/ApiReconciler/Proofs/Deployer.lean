import ApiReconciler.Proofs.Reconcile.Reimport
import ApiReconciler.Proofs.Reference

/-!
# `ApiReconciler.Proofs.Deployer` — references carry an API through redeployments

A deployer knows nothing of the deployments before it: all that links one to the next is the text of a
reference. What is carried along a sequence of deployments is therefore said of the texts (`Carried`): each
of them is the written form of a reference to one API, the API that the first deployment imported. A
deployment over such a text parses it back to that API, writes over the API and nothing else, and reads the
next reference from it, so the next text is such a text again.

## Contents
- `Exchange.Shows`: replies that show an API by members that come back from a text.
- `trace_importApi_ok`, `trace_reimportApi_ok`: what a deployment that succeeds has exchanged.
- `Deployments`: sequences of deployments, each over the reference that the one before returned.
- `Carried`, `deployments_carried`: what they preserve.
- `references_carry_api`: the API of all of them.
-/

namespace ApiReconciler

open Program

/-- A reply to reading an API shows it: it names the API by a text that is not empty, and what else it holds
is plain. -/
def Exchange.Shows : Exchange → Prop
  | .call (.getApi api) (.ok reply) =>
    api ≠ "" ∧ reply.get? "id" = some (.text api) ∧ (Value.object (apiMembers reply)).Plain
  | _ => True

section

variable {t : Target} {d : Definition} {xs : List Exchange} {ref : Reference}

/-! ## One deployment -/

/-- The reference that the stages end with is to their API, and it comes back from its text. -/
theorem complete_storable {i : Imported} {baseUrl : String}
    (h : (complete t i d baseUrl).Trace xs (.ok ref)) (hshows : ∀ x ∈ xs, x.Shows) :
    ref.api = i.api ∧ ref.Storable := by
  obtain ⟨reply, hmem, hid, hmetadata⟩ := trace_complete_reference h
  obtain ⟨hnamed, hshown, hplain⟩ := hshows _ hmem
  have hsame : ref.api = i.api := by
    rw [hid] at hshown
    simpa using hshown
  refine ⟨hsame, ?_, ?_⟩
  · rw [hsame]
    exact hnamed
  · rw [hmetadata]
    exact hplain

/-- A first import that succeeds imports one API and is about it from then on. -/
theorem trace_importApi_ok (h : (importApi t d).Trace xs (.ok ref)) (hshows : ∀ x ∈ xs, x.Shows) :
    ref.Storable ∧ ∃ reply ys, xs = .call (.importApi d.document) (.ok reply) :: ys ∧
      reply.get? "id" = some (.text ref.api) ∧ ∀ y ∈ ys, y.request.On ref.api completionOperations := by
  obtain ⟨baseUrl, i, reply, ys, -, rfl, hid, hcomplete⟩ := trace_importApi_success h
  have hys : ∀ y ∈ ys, y.Shows := fun y hy => hshows y (List.mem_cons_of_mem _ hy)
  obtain ⟨hsame, hstorable⟩ := complete_storable hcomplete hys
  rw [hsame]
  exact ⟨hstorable, reply, ys, rfl, hid, (complete_asks t i d baseUrl).trace hcomplete⟩

/-- A reimport that succeeds is about its API only and keeps it. -/
theorem trace_reimportApi_ok {r : Reference} (h : (reimportApi t r d).Trace xs (.ok ref))
    (hreplies : ∀ x ∈ xs, x.Addressed ∧ x.Shows) :
    ref.Storable ∧ ref.api = r.api ∧
      ∀ x ∈ xs, x.request.On r.api (.overwriteApi :: completionOperations) := by
  cases hb : d.baseUrl with
  | error fault =>
      rw [reimportApi, requireBaseUrl_error hb] at h
      cases h.2
  | ok baseUrl =>
      rw [reimportApi_eq t r hb] at h
      obtain ⟨i, before, ys, rfl, hput, hcomplete⟩ := trace_bind_ok.mp h
      have hbefore := (overwriteDefinition_asks d).trace hput
      obtain ⟨reply, rfl, hapi⟩ := trace_overwriteDefinition hput
      have hsame : i.api = r.api := hapi (hreplies _ (List.mem_append_left _ List.mem_cons_self)).1
      have hys : ∀ y ∈ ys, y.Shows := fun y hy => (hreplies y (List.mem_append_right _ hy)).2
      obtain ⟨hkept, hstorable⟩ := complete_storable hcomplete hys
      have hafter := (complete_asks t i d baseUrl).trace hcomplete
      rw [hsame] at hkept hafter
      refine ⟨hstorable, hkept, fun x hx => ?_⟩
      rcases List.mem_append.mp hx with hx | hx
      · exact (hbefore x hx).mono (by decide)
      · exact (hafter x hx).mono (by decide)

end

/-! ## Deployers -/

section

variable {d : Deployer} {definition : Definition} {xs : List Exchange} {text given : String} {c : Connection}

theorem Deployer.require_eq_ok : d.require = .ok c ↔ d.connection = some c := by
  unfold Deployer.require
  split
  · next h => rw [h, Except.ok.injEq, Option.some.injEq]
  · next h => rw [h]; exact iff_of_false (fun h => by cases h) (fun h => by cases h)

/-- A connected deployer notes what it does, imports the definition and keeps the reference. -/
theorem deploy_new_eq (hc : d.connection = some c) :
    d.deploy definition none = .note (.deploying definition.name)
      ((importApi c.target definition).bind Deployer.keep) := by
  unfold Deployer.deploy
  rw [Deployer.require_eq_ok.mpr hc]
  rfl

/-- Over a text, it imports the definition to the API of the reference that the text denotes. -/
theorem deploy_over_eq (hc : d.connection = some c) :
    d.deploy definition (some given) = .note (.redeploying definition.name)
      ((ofExcept (Deployer.reference given)).bind fun r =>
        (reimportApi c.target r definition).bind Deployer.keep) := by
  unfold Deployer.deploy
  rw [Deployer.require_eq_ok.mpr hc]
  rfl

/-- What a deployer does with its connection, after a note. -/
theorem trace_connected {α : Type} {n : Note} {body : Connection → Program α} {a : α}
    (h : ((ofExcept d.require).bind fun c => (log n).bind fun _ => body c).Trace xs (.ok a)) :
    ∃ c, d.connection = some c ∧ (body c).Trace xs (.ok a) := by
  obtain ⟨c, _, _, rfl, hrequire, h₁⟩ := trace_bind_ok.mp h
  obtain ⟨rfl, hc⟩ := trace_ofExcept.mp hrequire
  obtain ⟨_, _, _, rfl, hnote, h₂⟩ := trace_bind_ok.mp h₁
  obtain ⟨rfl, -⟩ := trace_log.mp hnote
  exact ⟨c, Deployer.require_eq_ok.mp hc.symm, h₂⟩

/-- A first deployment is an import and the writing of its reference. -/
theorem trace_deploy_new (h : (d.deploy definition none).Trace xs (.ok text)) :
    ∃ c ref, d.connection = some c ∧ (importApi c.target definition).Trace xs (.ok ref) ∧
      ref.written = .ok text := by
  obtain ⟨c, hc, h₁⟩ := trace_connected h
  obtain ⟨ref, _, _, rfl, himport, hkeep⟩ := trace_bind_ok.mp h₁
  obtain ⟨rfl, hwritten⟩ := trace_ofExcept_mapError_ok.mp hkeep
  rw [List.append_nil]
  exact ⟨c, ref, hc, himport, hwritten⟩

/-- A redeployment is a reimport of the reference it parses, and the writing of the new one. -/
theorem trace_deploy_over (h : (d.deploy definition (some given)).Trace xs (.ok text)) :
    ∃ c r ref, d.connection = some c ∧ Reference.parse given = .ok r ∧
      (reimportApi c.target r definition).Trace xs (.ok ref) ∧ ref.written = .ok text := by
  obtain ⟨c, hc, h₁⟩ := trace_connected h
  obtain ⟨r, _, _, rfl, hparse, h₂⟩ := trace_bind_ok.mp h₁
  obtain ⟨rfl, hr⟩ := trace_ofExcept_mapError_ok.mp hparse
  obtain ⟨ref, _, _, rfl, hreimport, hkeep⟩ := trace_bind_ok.mp h₂
  obtain ⟨rfl, hwritten⟩ := trace_ofExcept_mapError_ok.mp hkeep
  rw [List.append_nil, List.nil_append]
  exact ⟨c, r, ref, hc, hr, hreimport, hwritten⟩

section

variable {σ : Type} {b : Backend σ} {s s' : σ} {ref : Reference}

theorem runs_keep (hwritten : ref.written = .ok text) : Runs b (Deployer.keep ref) s [] (.ok text) s := by
  unfold Deployer.keep
  rw [hwritten]
  exact runs_done text

/-- A first deployment runs as the import does. -/
theorem runs_deploy_new (hc : d.connection = some c)
    (h : Runs b (importApi c.target definition) s xs (.ok ref) s') (hwritten : ref.written = .ok text) :
    Runs b (d.deploy definition none) s xs (.ok text) s' := by
  unfold Deployer.deploy
  rw [Deployer.require_eq_ok.mpr hc, ← List.append_nil xs]
  exact (h.bind (runs_keep hwritten)).note

/-- A redeployment runs as the reimport of the reference it parses does. -/
theorem runs_deploy_over {r : Reference} (hc : d.connection = some c)
    (hr : Reference.parse given = .ok r)
    (h : Runs b (reimportApi c.target r definition) s xs (.ok ref) s') (hwritten : ref.written = .ok text) :
    Runs b (d.deploy definition (some given)) s xs (.ok text) s' := by
  have hparse : Runs b (ofExcept (Deployer.reference given)) s [] (.ok r) s := by
    unfold Deployer.reference
    rw [hr]
    exact runs_done r
  unfold Deployer.deploy
  rw [Deployer.require_eq_ok.mpr hc, ← List.append_nil xs]
  exact (hparse.bind (h.bind (runs_keep hwritten))).note

end

/-- A reference that is parsed is the one that is taken down. -/
theorem undeploy_eq {r : Reference} (hc : d.connection = some c) (hr : Reference.parse text = .ok r)
    (delete : Bool) : d.undeploy text delete = tearDown c.target r delete := by
  unfold Deployer.undeploy
  rw [Deployer.require_eq_ok.mpr hc]
  simp only [Deployer.reference, hr]
  rfl

theorem executionUrl_eq {r : Reference} (hc : d.connection = some c) (hr : Reference.parse text = .ok r) :
    d.executionUrl text = .ok ("https://" ++ r.api ++ ".execute-api." ++ c.settings.region ++
      ".amazonaws.com/" ++ c.settings.stage) := by
  unfold Deployer.executionUrl
  rw [Deployer.require_eq_ok.mpr hc]
  simp only [Deployer.reference, hr, Except.mapError, Except.map]

end

/-! ## Sequences of deployments -/

/-- Deployments one after the other, the first one without a reference and every other one over the text
that the one before it returned, handed on in either way. They all succeeded; `texts` are the texts they
returned, the last one first, and `xs` is what they exchanged. Between two of them anything can happen to
the gateway. -/
inductive Deployments {σ : Type} (b : Backend σ) (d : Deployer) : List String → List Exchange → Prop
  | first (definition : Definition) (s : σ) {text : String}
      (deployed : ((d.deploy definition none).run b s).result = .ok text) :
      Deployments b d [text] ((d.deploy definition none).exchanges b s)
  | next (definition : Definition) (s : σ) {last given text : String} {texts : List String}
      {xs : List Exchange} (before : Deployments b d (last :: texts) xs) (handed : HandedOn last given)
      (deployed : ((d.deploy definition (some given)).run b s).result = .ok text) :
      Deployments b d (text :: last :: texts) (xs ++ (d.deploy definition (some given)).exchanges b s)

/-- What deployments carry along: one import made the API, everything else is about it, and the texts are
written references to it. -/
structure Carried (d : Deployer) (api : String) (texts : List String) (xs : List Exchange) : Prop where
  connected : d.connection.isSome = true
  imported : ∃ document reply, reply.get? "id" = some (.text api) ∧
    xs.filter (fun x => x.request.operation = .importApi) = [.call (.importApi document) (.ok reply)]
  others : ∀ x ∈ xs, x.request.operation ≠ .importApi → x.request.api? = some api
  references : ∀ text ∈ texts, ∃ r : Reference, r.api = api ∧ r.Storable ∧ r.written = .ok text

/-- Requests that import nothing are left out of the imports. -/
theorem filter_importApi_eq_nil {api : String} {ops : List Operation} {xs : List Exchange}
    (hops : Operation.importApi ∉ ops) (h : ∀ x ∈ xs, x.request.On api ops) :
    xs.filter (fun x => x.request.operation = .importApi) = [] := by
  refine List.filter_eq_nil_iff.mpr fun x hx => ?_
  rw [decide_eq_true_eq]
  exact (h x hx).ne hops

section

variable {σ : Type} {b : Backend σ} {d : Deployer} {texts : List String} {xs : List Exchange}

theorem carried_first {definition : Definition} {text : String}
    (h : (d.deploy definition none).Trace xs (.ok text)) (hshows : ∀ x ∈ xs, x.Shows) :
    ∃ api, Carried d api [text] xs := by
  obtain ⟨c, ref, hc, himport, hwritten⟩ := trace_deploy_new h
  obtain ⟨hstorable, reply, ys, rfl, hid, hys⟩ := trace_importApi_ok himport hshows
  refine ⟨ref.api, ?_, ⟨definition.document, reply, hid, ?_⟩, ?_, ?_⟩
  · rw [hc]
    rfl
  · have hnone := filter_importApi_eq_nil (by decide) hys
    rw [List.filter_cons_of_pos rfl, hnone]
  · intro x hx hother
    rcases List.mem_cons.mp hx with rfl | hx
    · exact absurd rfl hother
    · exact (hys x hx).1
  · exact List.forall_mem_singleton.mpr ⟨ref, rfl, hstorable, hwritten⟩

/-- **A redeployment preserves what is carried along.** -/
theorem Carried.next {api last given text : String} {definition : Definition} {ys : List Exchange}
    (hcarried : Carried d api (last :: texts) xs) (handed : HandedOn last given)
    (h : (d.deploy definition (some given)).Trace ys (.ok text))
    (hreplies : ∀ y ∈ ys, y.Addressed ∧ y.Shows) : Carried d api (text :: last :: texts) (xs ++ ys) := by
  -- the last text is a reference to the API, so this is what the deployment parses and writes over
  obtain ⟨r, rfl, hr, hlast⟩ := hcarried.references last List.mem_cons_self
  obtain rfl := handed.eq hr hlast
  obtain ⟨c, parsed, ref, hc, hparsed, hreimport, hwritten⟩ := trace_deploy_over h
  rw [Reference.parse_written hr hlast] at hparsed
  obtain rfl := Except.ok.inj hparsed
  obtain ⟨hstorable, hsame, hys⟩ := trace_reimportApi_ok hreimport hreplies
  obtain ⟨document, reply, hid, himported⟩ := hcarried.imported
  refine ⟨hcarried.connected, ⟨document, reply, hid, ?_⟩, ?_, ?_⟩
  · rw [List.filter_append, filter_importApi_eq_nil (by decide) hys, List.append_nil]
    exact himported
  · intro x hx hother
    rcases List.mem_append.mp hx with hx | hx
    · exact hcarried.others x hx hother
    · exact (hys x hx).1
  · exact List.forall_mem_cons.mpr ⟨⟨ref, hsame, hstorable, hwritten⟩, hcarried.references⟩

/-- **Deployments carry one API along**, however many they are. -/
theorem deployments_carried (h : Deployments b d texts xs) (hreplies : ∀ x ∈ xs, x.Addressed ∧ x.Shows) :
    ∃ api, Carried d api texts xs := by
  induction h with
  | first definition s hdeployed =>
      have htrace := trace_run b (d.deploy definition none) s
      rw [hdeployed] at htrace
      exact carried_first htrace fun x hx => (hreplies x hx).2
  | @next definition s last given text texts xs _ handed hdeployed ih =>
      obtain ⟨api, hcarried⟩ := ih fun x hx => hreplies x (List.mem_append_left _ hx)
      have htrace := trace_run b (d.deploy definition (some given)) s
      rw [hdeployed] at htrace
      exact ⟨api, hcarried.next handed htrace fun x hx => hreplies x (List.mem_append_right _ hx)⟩

/-- **References carry an API through any number of redeployments.** When replies to overwriting and reading
an API are about it, and what they show of it is plain, the deployments imported one API, and everything
else they asked for is about this API. Each of the texts they returned is read back unchanged from a file
that it was written to with a line end behind it, and, handed on in either way, it is this API that it takes
down and gives the URL of. -/
theorem references_carry_api (h : Deployments b d texts xs)
    (hreplies : ∀ x ∈ xs, x.Addressed ∧ x.Shows) :
    ∃ c api, d.connection = some c ∧ api ≠ "" ∧
      (∃ document reply, reply.get? "id" = some (.text api) ∧
        xs.filter (fun x => x.request.operation = .importApi) =
          [.call (.importApi document) (.ok reply)]) ∧
      (∀ x ∈ xs, x.request.operation ≠ .importApi → x.request.api? = some api) ∧
      ∀ text ∈ texts,
        (∀ (files : Files) (path : String),
          files.contents (Path.ofText path) = .ok (Text.utf8 (text ++ "\n")) →
            CommandLine.referenceText files ("@" ++ path) = .ok text) ∧
        ∀ given, HandedOn text given →
          (∃ metadata, ∀ delete, d.undeploy given delete = tearDown c.target ⟨api, metadata⟩ delete) ∧
          (∀ delete s, ∀ x ∈ (d.undeploy given delete).exchanges b s, x.request.api? = some api) ∧
          d.executionUrl given = .ok ("https://" ++ api ++ ".execute-api." ++ c.settings.region ++
            ".amazonaws.com/" ++ c.settings.stage) := by
  obtain ⟨api, hcarried⟩ := deployments_carried h hreplies
  obtain ⟨c, hc⟩ := Option.isSome_iff_exists.mp hcarried.connected
  have hnamed : api ≠ "" := by
    -- there is at least one text, and no reference that was written names an empty API
    cases h with
    | first definition s =>
        obtain ⟨r, rfl, hr, -⟩ := hcarried.references _ List.mem_cons_self
        exact hr.named
    | next definition s =>
        obtain ⟨r, rfl, hr, -⟩ := hcarried.references _ List.mem_cons_self
        exact hr.named
  refine ⟨c, api, hc, hnamed, hcarried.imported, hcarried.others, fun text htext => ?_⟩
  obtain ⟨r, rfl, hr, hwritten⟩ := hcarried.references text htext
  refine ⟨fun files path => referenceText_file hr hwritten, fun given handed => ?_⟩
  obtain rfl := handed.eq hr hwritten
  have hparse := Reference.parse_written hr hwritten
  have hundeploy := undeploy_eq hc hparse
  have hurl := executionUrl_eq hc hparse
  refine ⟨⟨_, hundeploy⟩, fun delete s x hx => ?_, hurl⟩
  rw [hundeploy] at hx
  exact ((tearDown_asks c.target _ delete).exchanges x hx).1

end

/-! ### Two deployments -/

/-- What the gateway shows of an API. -/
def petsShown : Object := [(.text "id", .text "a"), (.text "name", .text "Pets")]

/-- The reference to this API. -/
def petsReference : Reference := ⟨"a", petsShown⟩

/-- The text of the reference. -/
def petsText : String := "\x7b\"id\": \"a\", \"name\": \"Pets\"\x7d"

theorem petsReference_storable : petsReference.Storable := by
  refine ⟨by decide, .object ⟨?_, by decide⟩ ?_⟩
  · exact List.forall_mem_cons.mpr ⟨⟨_, rfl⟩, List.forall_mem_singleton.mpr ⟨_, rfl⟩⟩
  · exact List.forall_mem_cons.mpr ⟨.text _, List.forall_mem_singleton.mpr (.text _)⟩

theorem petsReference_written : petsReference.written = .ok petsText := by
  have horder : ¬"name" < "id" := by decide
  have hsorted : petsReference.toValue.sorted = .object petsShown := by
    simp [petsReference, petsShown, Reference.toValue, Object.set, Scalar.same, Scalar.integer?,
      Value.sorted, Value.sortedMembers, Object.sorted, Object.insertSorted, Scalar.display, horder]
  rw [Reference.written_ok_iff, hsorted]
  exact ⟨rfl, rfl⟩

/-- Replies to a first deployment and one over it. -/
def redeploymentReplies : Script
  | .importApi | .overwriteApi => [.ok [(.text "id", .text "a")]]
  | .createAuthorizer => [.ok [(.text "id", .text "k")], .ok [(.text "id", .text "k")]]
  | .createDeployment => [.ok [(.text "id", .text "1")], .ok [(.text "id", .text "2")]]
  | .getApi => [.ok petsShown, .ok petsShown]
  | _ => []

/-- A deployer that is ready. -/
def readyDeployer : Deployer := ⟨.aws, some ⟨⟨"eu", "live", none, none, none, 10, 60, 3⟩, .given⟩⟩

/-- The first deployment. -/
def petsDeployed : List Exchange :=
  (importApi ⟨"eu", "live"⟩ guardedPets).exchanges (Script.backend true) redeploymentReplies

/-- The deployment over it. -/
def petsRedeployed : List Exchange :=
  (reimportApi ⟨"eu", "live"⟩ ⟨"a", Object.erase "id" petsReference.stored⟩ guardedPets).exchanges
    (Script.backend true) redeploymentReplies

theorem petsDeployments :
    Deployments (Script.backend true) readyDeployer [petsText, petsText]
      (petsDeployed ++ petsRedeployed) := by
  have hparse := Reference.parse_written petsReference_storable petsReference_written
  have himport : Runs (Script.backend true) (importApi ⟨"eu", "live"⟩ guardedPets) redeploymentReplies
      petsDeployed (.ok petsReference) _ := ⟨rfl, rfl, rfl⟩
  have hreimport : Runs (Script.backend true)
      (reimportApi ⟨"eu", "live"⟩ ⟨"a", Object.erase "id" petsReference.stored⟩ guardedPets)
      redeploymentReplies petsRedeployed (.ok petsReference) _ := ⟨rfl, rfl, rfl⟩
  have hfirst := runs_deploy_new (d := readyDeployer) rfl himport petsReference_written
  have hsecond := runs_deploy_over (d := readyDeployer) rfl hparse hreimport petsReference_written
  have hnew := Deployments.first guardedPets redeploymentReplies hfirst.result
  have hover := hnew.next guardedPets redeploymentReplies .direct hsecond.result
  rw [hfirst.exchanges, hsecond.exchanges] at hover
  exact hover

theorem petsDeployments_carry_a :
    (∀ x ∈ petsDeployed ++ petsRedeployed, x.Addressed ∧ x.Shows) ∧
      (∀ x ∈ petsDeployed ++ petsRedeployed, x.request.operation ≠ .importApi →
        x.request.api? = some "a") ∧
      readyDeployer.executionUrl petsText = .ok "https://a.execute-api.eu.amazonaws.com/live" ∧
      CommandLine.referenceText [(["pets.json"], Text.utf8 (petsText ++ "\n"))] "@pets.json" =
        .ok petsText := by
  have hshown : (Exchange.call (.getApi "a") (.ok petsShown)).Addressed ∧
      (Exchange.call (.getApi "a") (.ok petsShown)).Shows :=
    ⟨.inr rfl, petsReference_storable.named, rfl, petsReference_storable.plain⟩
  have hdeployed : ∀ x ∈ petsDeployed, x.Addressed ∧ x.Shows :=
    List.forall_mem_cons.mpr ⟨⟨trivial, trivial⟩, List.forall_mem_cons.mpr ⟨⟨trivial, trivial⟩,
      List.forall_mem_cons.mpr ⟨⟨trivial, trivial⟩, List.forall_mem_cons.mpr ⟨⟨trivial, trivial⟩,
        List.forall_mem_cons.mpr ⟨⟨trivial, trivial⟩, List.forall_mem_singleton.mpr hshown⟩⟩⟩⟩⟩
  have hredeployed : ∀ x ∈ petsRedeployed, x.Addressed ∧ x.Shows :=
    List.forall_mem_cons.mpr ⟨⟨.inr rfl, trivial⟩, List.forall_mem_cons.mpr ⟨⟨trivial, trivial⟩,
      List.forall_mem_cons.mpr ⟨⟨trivial, trivial⟩, List.forall_mem_cons.mpr ⟨⟨trivial, trivial⟩,
        List.forall_mem_cons.mpr ⟨⟨trivial, trivial⟩, List.forall_mem_cons.mpr ⟨⟨trivial, trivial⟩,
          List.forall_mem_singleton.mpr hshown⟩⟩⟩⟩⟩⟩
  have hreplies : ∀ x ∈ petsDeployed ++ petsRedeployed, x.Addressed ∧ x.Shows :=
    List.forall_mem_append.mpr ⟨hdeployed, hredeployed⟩
  obtain ⟨c, api, hc, -, -, hothers, htexts⟩ := references_carry_api petsDeployments hreplies
  obtain rfl : api = "a" := by
    have hmem : Exchange.call (.createDeployment "a" "live") (.ok [(.text "id", .text "1")]) ∈ petsDeployed :=
      List.mem_of_getElem? (i := 3) rfl
    have hcreated := hothers _ (List.mem_append_left _ hmem) (by decide)
    exact (Option.some.inj hcreated).symm
  obtain ⟨hfile, hhanded⟩ := htexts petsText List.mem_cons_self
  obtain rfl := Option.some.inj hc
  obtain ⟨-, -, hurl⟩ := hhanded petsText .direct
  exact ⟨hreplies, hothers, hurl, hfile _ "pets.json" rfl⟩

end ApiReconciler
