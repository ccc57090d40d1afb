import ApiReconciler.Proofs.Reconcile.Requests

/-!
# `ApiReconciler.Proofs.Reconcile.Rollback` — a first import is all or nothing

A first import makes an API and then works on it in many steps, any of which can fail. Whatever fails, and
whatever the gateway answers to the removal, the run consists of three parts: the import, the steps up to
the failure, and the removal. The steps are the run of `complete`, so the statement does not enumerate the
places a failure can come from: `complete` ends with a result or with a failure, and the removal follows
exactly in the second case.

## Contents
- `trace_deleteApi`: the ways in which deleting an API can go.
- `Removal`: the exchanges that follow a failure, and the failure that is reported in the end.
- `first_import_all_or_nothing`: the runs of `importApi`.
-/

namespace ApiReconciler

open Program

variable {api : String} {xs : List Exchange}

/-! ## Deleting an API -/

/-- What a failed call of a deletion comes to: the API was gone already, or the deletion failed. -/
def goneOrFailed (cause : CallFailure) : Except Failure Bool :=
  if cause.kind = .notFound then .ok false else .error (.call cause)

theorem goneOrFailed_eq_ok {cause : CallFailure} {v : Bool} (h : goneOrFailed cause = .ok v) :
    cause.kind = .notFound := by
  unfold goneOrFailed at h
  split at h
  · assumption
  · cases h

theorem goneOrFailed_eq_error {cause : CallFailure} {e : Failure} (h : goneOrFailed cause = .error e) :
    cause.kind ≠ .notFound ∧ e = .call cause := by
  unfold goneOrFailed at h
  split at h
  · cases h
  · exact ⟨by assumption, (Except.error.inj h).symm⟩

/-- The end of a deletion in which a call failed. -/
theorem trace_goneOrFailed {cause : CallFailure} {r : Except Failure Bool}
    (h : ((tolerateMissing (.fail (.call cause)) false).bind fun isDeleted =>
      (noteDeleted api isDeleted).bind fun _ => .done isDeleted).Trace xs r) :
    xs = [] ∧ r = goneOrFailed cause := by
  unfold goneOrFailed
  by_cases hk : cause.kind = .notFound
  · simp only [tolerateMissing, rescueCall, rescue, hk] at h
    rw [if_pos hk]; exact h
  · simp only [tolerateMissing, rescueCall, rescue, hk] at h
    rw [if_neg hk]; exact h

/-- The API is looked up and, when it is there, deleted. -/
theorem trace_deleteApi {r : Except Failure Bool} (h : (deleteApi api).Trace xs r) :
    (∃ shown gone, xs = [.call (.getApi api) (.ok shown), .call (.deleteApi api) (.ok gone)] ∧
        r = .ok true) ∨
      (∃ fault, xs = [.call (.getApi api) (.error fault)] ∧
        r = goneOrFailed ⟨"get_rest_api", fault⟩) ∨
      ∃ shown fault, xs = [.call (.getApi api) (.ok shown), .call (.deleteApi api) (.error fault)] ∧
        r = goneOrFailed ⟨"delete_rest_api", fault⟩ := by
  rw [deleteApi_eq] at h
  obtain ⟨answer, ys, rfl, h⟩ := h
  cases answer with
  | error fault =>
      obtain ⟨rfl, rfl⟩ := trace_goneOrFailed h
      exact .inr (.inl ⟨fault, rfl, rfl⟩)
  | ok shown =>
      obtain ⟨answer, zs, rfl, h⟩ := h
      cases answer with
      | error fault =>
          obtain ⟨rfl, rfl⟩ := trace_goneOrFailed h
          exact .inr (.inr ⟨shown, fault, rfl, rfl⟩)
      | ok gone =>
          obtain ⟨rfl, rfl⟩ := h
          exact .inl ⟨shown, gone, rfl, rfl⟩

/-! ## Removal -/

/-- What is reported when a call of a removal fails: the failure that prompted the removal if the API
turns out to be gone, and otherwise a failed rollback that carries it. -/
def reportedAfter (api : String) (trigger : Failure) (cause : CallFailure) : Failure :=
  if cause.kind = .notFound then trigger else .rollback api cause trigger

/-- The removal of an API after a failure: what is exchanged for it, and what is reported in the end. -/
inductive Removal (api : String) (trigger : Failure) : List Exchange → Failure → Prop
  | removed (shown gone : Object) :
    Removal api trigger
      [.call (.getApi api) (.ok shown), .call (.deleteApi api) (.ok gone)] trigger
  | unread (fault : CallFault) :
    Removal api trigger [.call (.getApi api) (.error fault)]
      (reportedAfter api trigger ⟨"get_rest_api", fault⟩)
  | undeleted (shown : Object) (fault : CallFault) :
    Removal api trigger
      [.call (.getApi api) (.ok shown), .call (.deleteApi api) (.error fault)]
      (reportedAfter api trigger ⟨"delete_rest_api", fault⟩)

/-- What is left of a removal is the failure that prompted it, or a failed rollback that carries it. -/
theorem Removal.left_eq {trigger left : Failure} (h : Removal api trigger xs left) :
    left = trigger ∨ ∃ cause, left = .rollback api cause trigger := by
  have hreported : ∀ cause, reportedAfter api trigger cause = trigger ∨
      ∃ c, reportedAfter api trigger cause = .rollback api c trigger := by
    intro cause
    unfold reportedAfter
    split
    · exact .inl rfl
    · exact .inr ⟨cause, rfl⟩
  cases h with
  | removed shown gone => exact .inl rfl
  | unread fault => exact hreported _
  | undeleted shown fault => exact hreported _

/-- A deletion that came to its end removed the API or found it gone: the trigger is all there is to
report. -/
theorem removal_of_deleted (trigger : Failure) {v : Bool} (h : (deleteApi api).Trace xs (.ok v)) :
    Removal api trigger xs trigger := by
  rcases trace_deleteApi h with ⟨shown, gone, rfl, -⟩ | ⟨fault, rfl, hv⟩ | ⟨shown, fault, rfl, hv⟩
  · exact .removed shown gone
  · have hk := goneOrFailed_eq_ok hv.symm
    have hr : Removal api trigger _ _ := .unread fault
    rwa [reportedAfter, if_pos hk] at hr
  · have hk := goneOrFailed_eq_ok hv.symm
    have hr : Removal api trigger _ _ := .undeleted shown fault
    rwa [reportedAfter, if_pos hk] at hr

/-- A deletion that failed did so at a call, and the rollback is reported as failed at that call. -/
theorem removal_of_undeleted (trigger : Failure) {e : Failure}
    (h : (deleteApi api).Trace xs (.error e)) :
    ∃ cause, e = .call cause ∧ Removal api trigger xs (.rollback api cause trigger) := by
  rcases trace_deleteApi h with ⟨shown, gone, rfl, hv⟩ | ⟨fault, rfl, hv⟩ | ⟨shown, fault, rfl, hv⟩
  · cases hv
  · obtain ⟨hk, rfl⟩ := goneOrFailed_eq_error hv.symm
    refine ⟨_, rfl, ?_⟩
    have hr : Removal api trigger _ _ := .unread fault
    rwa [reportedAfter, if_neg hk] at hr
  · obtain ⟨hk, rfl⟩ := goneOrFailed_eq_error hv.symm
    refine ⟨_, rfl, ?_⟩
    have hr : Removal api trigger _ _ := .undeleted shown fault
    rwa [reportedAfter, if_neg hk] at hr

/-- **Abandoning an import is a removal**, and what it reports is a failure in every case. -/
theorem abandon_removal {α : Type} {trigger : Failure} {r : Except Failure α}
    (h : (abandon api trigger : Program α).Trace xs r) :
    ∃ left, r = .error left ∧ Removal api trigger xs left := by
  rw [abandon_eq] at h
  rcases trace_bind.mp h with ⟨v, ys, zs, rfl, hd, rfl, rfl⟩ | ⟨e, rfl, hd⟩
  · rw [List.append_nil]
    rcases trace_rescueCall.mp hd with ⟨v, -, hd⟩ | ⟨f, us, ws, rfl, -, hf⟩ | ⟨e, -, he, -⟩
    · exact ⟨trigger, rfl, removal_of_deleted trigger hd⟩
    · cases hf.2
    · cases he
  · rcases trace_rescueCall.mp hd with ⟨v, hv, -⟩ | ⟨f, us, ws, rfl, hd, hf⟩ | ⟨e', hne, -, hd⟩
    · cases hv
    · obtain ⟨cause, hc, hr⟩ := removal_of_undeleted trigger hd
      obtain ⟨rfl, he⟩ := hf
      rw [List.append_nil, Except.error.inj he, Failure.call.inj hc]
      exact ⟨_, rfl, hr⟩
    · obtain ⟨cause, rfl, -⟩ := removal_of_undeleted trigger hd
      exact absurd rfl (hne cause)

/-! ## First imports -/

/-- An import whose reply names the API. -/
theorem runs_importDefinition {σ : Type} {b : Backend σ} {s s' : σ} {d : Definition} {reply : Object}
    (ha : b.answer (.importApi d.document) s = (.ok reply, s'))
    (hid : reply.get? "id" = some (.text api)) :
    Runs b (importDefinition d) s [.call (.importApi d.document) (.ok reply)]
      (.ok ⟨.created, api, warningsOf reply⟩) s' := by
  refine (runs_perform_ok ha).relabel_ok.bind ?_
  refine (runs_textMember hid).bind ?_
  exact (runs_logAll _).bind ((runs_done ()).note.bind (runs_done _))

/-- A rejected import. -/
theorem runs_importDefinition_error {σ : Type} {b : Backend σ} {s s' : σ} {d : Definition}
    {fault : CallFault} (ha : b.answer (.importApi d.document) s = (.error fault, s')) :
    Runs b (importDefinition d) s [.call (.importApi d.document) (.error fault)]
      (.error (.importing (.rejected d.name ⟨"import_rest_api", fault⟩))) s' :=
  (runs_perform_error ha).relabel_call.bind_error

/-- **A first import is all or nothing.** A definition without a base URL is refused before any call, and
a rejected import is the only call. After an import that made an API, everything addresses this API, and
no API is deleted while the steps succeed. Their first failure, whatever it is, is followed by the removal
of the API and by nothing else. -/
theorem first_import_all_or_nothing {σ : Type} (b : Backend σ) (s : σ) (t : Target) (d : Definition) :
    (∀ fault, d.baseUrl = .error fault →
      (importApi t d).exchanges b s = [] ∧
        ((importApi t d).run b s).result = .error (.definition fault)) ∧
    ∀ baseUrl, d.baseUrl = .ok baseUrl →
      (∀ fault s', b.answer (.importApi d.document) s = (.error fault, s') →
        (importApi t d).exchanges b s = [.call (.importApi d.document) (.error fault)] ∧
          ((importApi t d).run b s).result =
            .error (.importing (.rejected d.name ⟨"import_rest_api", fault⟩))) ∧
      ∀ reply api s', b.answer (.importApi d.document) s = (.ok reply, s') →
        reply.get? "id" = some (.text api) →
        let steps := complete t ⟨.created, api, warningsOf reply⟩ d baseUrl
        ∃ removal,
          (importApi t d).exchanges b s =
            .call (.importApi d.document) (.ok reply) :: (steps.exchanges b s' ++ removal) ∧
          (∀ x ∈ steps.exchanges b s' ++ removal, x.request.api? = some api) ∧
          (∀ x ∈ steps.exchanges b s', x.request.operation ≠ .deleteApi) ∧
          (∀ r, (steps.run b s').result = .ok r →
            removal = [] ∧ ((importApi t d).run b s).result = .ok r) ∧
          ∀ trigger, (steps.run b s').result = .error trigger →
            ∃ left, Removal api trigger removal left ∧
              ((importApi t d).run b s).result = .error left := by
  refine ⟨fun fault hf => ?_, fun baseUrl hb => ?_⟩
  · rw [importApi, requireBaseUrl_error hf]
    exact ⟨rfl, rfl⟩
  rw [importApi_eq t hb]
  refine ⟨fun fault s' ha => ?_, fun reply api s' ha hid => ?_⟩
  · obtain ⟨hr, -, hx⟩ := (runs_importDefinition_error ha).bind_error
    exact ⟨hx, hr⟩
  intro steps
  -- which calls the steps make is known whatever their result is
  have hon : ∀ x ∈ steps.exchanges b s', x.request.On api completionOperations :=
    (complete_asks t ⟨.created, api, warningsOf reply⟩ d baseUrl).exchanges
  have hsafe : ∀ x ∈ steps.exchanges b s', x.request.operation ≠ .deleteApi :=
    fun x hx => (hon x hx).ne (by decide)
  cases hm : (steps.run b s').result with
  | ok r =>
      have hsteps : Runs b steps s' (steps.exchanges b s') (.ok r) (steps.run b s').state :=
        ⟨hm, rfl, rfl⟩
      have hwhole : Runs b ((importDefinition d).bind fun i =>
          (complete t i d baseUrl).rescue (abandon i.api)) s _ _ _ :=
        Runs.bind (runs_importDefinition ha hid) hsteps.rescue_ok
      obtain ⟨hr, -, hx⟩ := hwhole
      refine ⟨[], by rwa [List.append_nil], ?_, hsafe, fun r' h => ?_, ?_⟩
      · rw [List.append_nil]
        exact fun x hx => (hon x hx).1
      · exact ⟨rfl, by rwa [← Except.ok.inj h]⟩
      · rintro trigger ⟨⟩
  | error trigger =>
      have hsteps : Runs b steps s' (steps.exchanges b s') (.error trigger) (steps.run b s').state :=
        ⟨hm, rfl, rfl⟩
      let removal := (abandon api trigger : Program Reference)
      have hremoval := runs_self b removal (steps.run b s').state
      have hwhole : Runs b ((importDefinition d).bind fun i =>
          (complete t i d baseUrl).rescue (abandon i.api)) s _ _ _ :=
        Runs.bind (runs_importDefinition ha hid) (hsteps.rescue_error hremoval)
      obtain ⟨hr, -, hx⟩ := hwhole
      refine ⟨_, hx, ?_, hsafe, ?_, fun trigger' h => ?_⟩
      · intro x hx
        rcases List.mem_append.mp hx with hx | hx
        · exact (hon x hx).1
        · exact ((abandon_asks trigger).exchanges x hx).1
      · rintro r ⟨⟩
      · obtain ⟨left, hl, hrem⟩ := abandon_removal (trace_run b removal (steps.run b s').state)
        rw [← Except.error.inj h]
        exact ⟨left, hrem, hr.trans hl⟩

end ApiReconciler
