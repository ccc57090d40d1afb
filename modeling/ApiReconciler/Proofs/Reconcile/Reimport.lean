import ApiReconciler.Proofs.Reconcile.Accounting
import ApiReconciler.Proofs.Reconcile.Hosted

/-!
# `ApiReconciler.Proofs.Reconcile.Reimport` — a reimport stays on its API

A reimport overwrites the API it is given and then goes through the same stages as a first import. They
address the API that the overwriting named, so all that is needed of the gateway is that it answers about
the API it was asked for. Nothing surrounds the stages: after the overwriting, the run of a reimport is a
run of the stages and ends as they do, which is why a failure has no compensation.

## Contents
- `Exchange.Addressed`: replies that name no other API than the one asked for.
- `trace_complete_reference`: where the reference that a reconciliation gives comes from.
- `reimport_stays`: every run of a reimport.
-/

namespace ApiReconciler

open Program

/-- A reply to overwriting or reading an API names that API, if it names one. -/
def Exchange.Addressed : Exchange → Prop
  | .call (.overwriteApi api _) (.ok reply) | .call (.getApi api) (.ok reply) =>
    reply.get? "id" = none ∨ reply.get? "id" = some (.text api)
  | _ => True

section

variable {api : String} {xs : List Exchange} {ref : Reference}

/-! ## References -/

/-- A reference holds what the gateway shows of the API. -/
theorem trace_readReference (h : (readReference api).Trace xs (.ok ref)) :
    ∃ reply, xs = [.call (.getApi api) (.ok reply)] ∧ reply.get? "id" = some (.text ref.api) ∧
      ref.metadata = apiMembers reply := by
  obtain ⟨reply, ys, zs, rfl, hget, hrest⟩ := trace_bind_ok.mp h
  obtain rfl := trace_perform_ok.mp (trace_relabel_ok.mp hget)
  obtain ⟨id, us, ws, rfl, hid, rfl, hr⟩ := trace_bind_ok.mp hrest
  obtain ⟨rfl, hmember⟩ := trace_textMember_ok.mp hid
  rw [Except.ok.inj hr]
  exact ⟨reply, rfl, hmember, rfl⟩

/-- The last reply of a reconciliation is where its reference comes from. -/
theorem trace_complete_reference {t : Target} {i : Imported} {d : Definition} {baseUrl : String}
    (h : (complete t i d baseUrl).Trace xs (.ok ref)) :
    ∃ reply, .call (.getApi i.api) (.ok reply) ∈ xs ∧ reply.get? "id" = some (.text ref.api) ∧
      ref.metadata = apiMembers reply := by
  obtain ⟨_, _, _, rfl, -, h₁⟩ := trace_bind_ok.mp h
  obtain ⟨_, _, _, rfl, -, h₂⟩ := trace_bind_ok.mp h₁
  obtain ⟨_, _, _, rfl, -, h₃⟩ := trace_bind_ok.mp h₂
  obtain ⟨_, _, _, rfl, -, h₄⟩ := trace_bind_ok.mp h₃
  obtain ⟨reply, rfl, hid, hmembers⟩ := trace_readReference h₄
  refine ⟨reply, ?_, hid, hmembers⟩
  simp only [List.mem_append, List.mem_singleton, or_true]

/-- On replies about the API that was asked for, the reference is to the API that was imported. -/
theorem complete_same_api {t : Target} {i : Imported} {d : Definition} {baseUrl : String}
    (h : (complete t i d baseUrl).Trace xs (.ok ref)) (haddressed : ∀ x ∈ xs, x.Addressed) :
    ref.api = i.api := by
  obtain ⟨reply, hmem, hid, -⟩ := trace_complete_reference h
  rcases haddressed _ hmem with hnone | hsame
  · rw [hnone] at hid
    cases hid
  · rw [hsame] at hid
    simpa using hid.symm

/-! ## Overwriting -/

section

variable {σ : Type} {b : Backend σ} {s s' : σ}

theorem runs_addressedApi {reply : Object}
    (h : reply.get? "id" = none ∨ reply.get? "id" = some (.text api)) :
    Runs b (addressedApi api reply) s [] (.ok api) s := by
  unfold addressedApi
  rcases h with h | h
  · rw [h]
    exact runs_done api
  · rw [h]
    exact runs_textMember h

/-- An overwriting whose reply is about the API. -/
theorem runs_overwriteDefinition {d : Definition} {reply : Object}
    (ha : b.answer (.overwriteApi api d.document) s = (.ok reply, s'))
    (hid : reply.get? "id" = none ∨ reply.get? "id" = some (.text api)) :
    Runs b (overwriteDefinition api d) s [.call (.overwriteApi api d.document) (.ok reply)]
      (.ok ⟨.reused, api, warningsOf reply⟩) s' := by
  refine (runs_perform_ok ha).relabel_ok.bind ((runs_logAll _).bind ?_)
  exact ((runs_done ()).note (n := .reimported d.name api)).bind
    ((runs_addressedApi hid).bind (runs_done _))

/-- A refused overwriting. -/
theorem runs_overwriteDefinition_error {d : Definition} {fault : CallFault}
    (ha : b.answer (.overwriteApi api d.document) s = (.error fault, s')) :
    Runs b (overwriteDefinition api d) s [.call (.overwriteApi api d.document) (.error fault)]
      (.error (overwriteFailure api ⟨"put_rest_api", fault⟩)) s' :=
  (runs_perform_error ha).relabel_call.bind_error

end

/-- A call finds nothing just if its code says so. -/
theorem CallFailure.kind_eq_notFound_iff {f : CallFailure} :
    f.kind = .notFound ↔ f.code ∈ CallFailure.notFoundCodes := by
  obtain ⟨operation, fault⟩ := f
  cases fault with
  | disconnected text =>
      have hcode : ("" : String) ∉ CallFailure.notFoundCodes := by decide
      simpa [CallFailure.kind, CallFailure.code] using hcode
  | refused e =>
      unfold CallFailure.kind
      dsimp only
      split
      · next h => exact iff_of_true rfl h
      · next h =>
          split
          · exact iff_of_false (by simp) h
          · exact iff_of_false (by simp) h

/-- What is reported of a refused overwriting. -/
theorem overwriteFailure_reports (api : String) (f : CallFailure) :
    ∃ fault, overwriteFailure api f = .reimporting fault ∧
      (overwriteFailure api f).cause? = some f ∧
      ((overwriteFailure api f).isTargetMissing = true ↔ f.code ∈ CallFailure.notFoundCodes) := by
  unfold overwriteFailure
  rw [← CallFailure.kind_eq_notFound_iff]
  split
  · next h => exact ⟨_, rfl, rfl, iff_of_true rfl h⟩
  · next h => exact ⟨_, rfl, rfl, iff_of_false (by simp [Failure.isTargetMissing]) h⟩

/-! ## Reimporting -/

/-- The operations that a reimport never comes to. -/
def destructiveOperations : List Operation := [.importApi, .deleteApi, .deleteStage]

theorem reimportApi_asks (t : Target) (r : Reference) (d : Definition) :
    (reimportApi t r d).Asks fun q => q.operation ∉ destructiveOperations := by
  refine asks_bind asks_ofExcept fun baseUrl => ?_
  have hoverwrite : ∀ op ∈ destructiveOperations, op ∉ [Operation.overwriteApi] := by decide
  have hcomplete : ∀ op ∈ destructiveOperations, op ∉ completionOperations := by decide
  refine asks_bind ((overwriteDefinition_asks d).mono fun q h hop => hoverwrite _ hop h.2) fun i => ?_
  exact (complete_asks t i d baseUrl).mono fun q h hop => hcomplete _ hop h.2

/-- **A reimport never destroys the API and stays on it.** Whatever call fails, it imports no API and
deletes no API and no stage. Without a base URL it asks for nothing. Otherwise it first overwrites the API;
if that is refused, it is all that was asked, and the failure says whether the API is gone. After that, the
run is the one of the stages: everything is about this API, a failed call that is not tolerated is the last
one, and a success refers to the same API. -/
theorem reimport_stays {σ : Type} (b : Backend σ) (s : σ) (t : Target) (r : Reference) (d : Definition) :
    let run := (reimportApi t r d).run b s
    let xs := (reimportApi t r d).exchanges b s
    let overwriting := Call.overwriteApi r.api d.document
    (∀ x ∈ xs, x.request.operation ∉ destructiveOperations) ∧
    (∀ fault, d.baseUrl = .error fault → xs = [] ∧ run.result = .error (.definition fault)) ∧
    ∀ baseUrl, d.baseUrl = .ok baseUrl →
      (∀ fault s', b.answer overwriting s = (.error fault, s') →
        xs = [.call overwriting (.error fault)] ∧
          ∃ failed, run.result = .error (.reimporting failed) ∧
            (Failure.reimporting failed).cause? = some ⟨"put_rest_api", fault⟩ ∧
            ((Failure.reimporting failed).isTargetMissing = true ↔
              (CallFailure.mk "put_rest_api" fault).code ∈ CallFailure.notFoundCodes)) ∧
      ∀ reply s', b.answer overwriting s = (.ok reply, s') → (∀ x ∈ xs, x.Addressed) →
        let stages := complete t ⟨.reused, r.api, warningsOf reply⟩ d baseUrl
        xs = .call overwriting (.ok reply) :: stages.exchanges b s' ∧
          run.result = (stages.run b s').result ∧
          (∀ x ∈ xs, x.request.api? = some r.api) ∧
          (∀ pre x post f, xs = pre ++ x :: post → x.failure? = some f →
            ¬ToleratedInSync x.request.operation f →
            post = [] ∧ ∃ e, run.result = .error e ∧ e.class? = x.request.operation.class? ∧
              e.cause? = some f) ∧
          ∀ ref, run.result = .ok ref → ref.api = r.api := by
  intro run xs overwriting
  refine ⟨(reimportApi_asks t r d).exchanges, fun fault hf => ?_, fun baseUrl hb => ⟨?_, ?_⟩⟩
  · simp only [run, xs]
    rw [reimportApi, requireBaseUrl_error hf]
    exact ⟨rfl, rfl⟩
  · intro fault s' ha
    obtain ⟨hr, -, hx⟩ := (runs_overwriteDefinition_error ha).bind_error
      (f := fun imported => complete t imported d baseUrl)
    rw [← reimportApi_eq t r hb] at hr hx
    obtain ⟨failed, he, hreports⟩ := overwriteFailure_reports r.api ⟨"put_rest_api", fault⟩
    rw [he] at hr hreports
    exact ⟨hx, failed, hr, hreports⟩
  · intro reply s' ha haddressed stages
    -- the overwriting is the first thing asked, whatever follows, so its reply is about the API
    have hfirst : ∃ ys, xs = .call overwriting (b.answer overwriting s).1 :: ys := by
      simp only [xs]
      rw [reimportApi_eq t r hb]
      exact ⟨_, rfl⟩
    obtain ⟨ys, hys⟩ := hfirst
    rw [ha] at hys
    have hid : reply.get? "id" = none ∨ reply.get? "id" = some (.text r.api) :=
      haddressed (.call overwriting (.ok reply)) (hys ▸ List.mem_cons_self)
    obtain ⟨hr, -, hx⟩ := Runs.bind (f := fun imported => complete t imported d baseUrl)
      (runs_overwriteDefinition ha hid) (runs_self b stages s')
    rw [← reimportApi_eq t r hb] at hr hx
    replace hx : xs = .call overwriting (.ok reply) :: stages.exchanges b s' := hx
    have hstages : ∀ x ∈ stages.exchanges b s', x.request.On r.api completionOperations :=
      (complete_asks t ⟨.reused, r.api, warningsOf reply⟩ d baseUrl).exchanges
    have haccounts : (reconciling False).Accounts xs run.result :=
      (reimportApi_obeys t r False.elim).accounts (fun _ _ h => h.elim) (trace_run b _ s)
    refine ⟨hx, hr, ?_, haccounts.last, fun ref href => ?_⟩
    · rw [hx]
      exact List.forall_mem_cons.mpr ⟨rfl, fun x hxs => (hstages x hxs).1⟩
    · have htrace := trace_run b stages s'
      rw [← hr, href] at htrace
      refine complete_same_api htrace fun x hxs => haddressed x ?_
      rw [hx]
      exact List.mem_cons_of_mem _ hxs

end

/-- Replies to a reimport that fails when the API is deployed. -/
def undeployedReplies : Script
  | .overwriteApi => [.ok [(.text "id", .text "a")]]
  | .createAuthorizer => [.ok [(.text "id", .text "k")]]
  | .createDeployment => [.error (.disconnected "lost")]
  | _ => []

/-- The reimport with these replies. -/
def undeployedRun : List Exchange :=
  (reimportApi ⟨"eu", "live"⟩ ⟨"a", []⟩ guardedPets).exchanges losingGateway undeployedReplies

theorem undeployedRun_stays :
    (∀ x ∈ undeployedRun, x.Addressed) ∧ (∀ x ∈ undeployedRun, x.request.operation ∉ destructiveOperations) ∧
      (∀ x ∈ undeployedRun, x.request.api? = some "a") ∧
      ∃ e, ((reimportApi ⟨"eu", "live"⟩ ⟨"a", []⟩ guardedPets).run losingGateway undeployedReplies).result =
          .error e ∧ e.class? = some .deploying ∧
        e.cause? = some ⟨"create_deployment", .disconnected "lost"⟩ := by
  have haddressed : ∀ x ∈ undeployedRun, x.Addressed :=
    List.forall_mem_cons.mpr ⟨.inr rfl, List.forall_mem_cons.mpr ⟨trivial, List.forall_mem_cons.mpr
      ⟨trivial, List.forall_mem_cons.mpr ⟨trivial, List.forall_mem_singleton.mpr trivial⟩⟩⟩⟩
  obtain ⟨hnever, -, hrun⟩ :=
    reimport_stays losingGateway undeployedReplies ⟨"eu", "live"⟩ ⟨"a", []⟩ guardedPets
  obtain ⟨-, hstages⟩ := hrun "https://backend" rfl
  obtain ⟨-, -, hapi, hlast, -⟩ := hstages _ _ rfl haddressed
  obtain ⟨-, e, hr, hclass, hcause⟩ := hlast (undeployedRun.take 4)
    (.call (.createDeployment "a" "live") (.error (.disconnected "lost"))) [] _ rfl rfl (not_tolerated rfl _)
  exact ⟨haddressed, hnever, hapi, e, hr, hclass, hcause⟩

end ApiReconciler
