import ApiReconciler.Gateway.Script
import ApiReconciler.Proofs.Reconcile.Failures
import ApiReconciler.Proofs.Reconcile.Rollback
import ApiReconciler.Proofs.Reconcile.Protection

/-!
# `ApiReconciler.Proofs.Reconcile.Accounting` — every failure is accounted for

When the gateway's replies are well formed, whatever leaves a reconciliation is a failure of a stage, and
it can be told from the last exchange which. For reimports and for taking an API down this is what their
disciplines say. A first import has a handler around its stages, so its run is taken apart first: the steps
are a run of the stages without the handler, and the removal follows them (`trace_importApi`).

There is one failure of no stage, that of a key with an integer that is too long to be written. A definition with
such a key never gets past its authorizers: unless a call fails before, this failure is what its reconciliation ends
with. So definitions are told apart by `Definition.Stalls`, and each kind keeps to a discipline of its own.

## Contents
- `Accounted`: what holds of a run.
- `accounted_of_obeys`, `accounted_of_stalls`: it follows from the disciplines.
- `Definition.Stalls`: definitions with a key that cannot be written.
- `failures_accounted`: the three ways of changing the gateway.
- `importApi_stalls`: what is exchanged for a definition that stalls.
-/

namespace ApiReconciler

open Program

/-- All failed calls of a trace are tolerated. -/
def AllTolerated (tolerated : Operation → CallFailure → Prop) (xs : List Exchange) : Prop :=
  ∀ x ∈ xs, ∀ f, x.failure? = some f → tolerated x.request.operation f

/-- A run in which every failure is accounted for, where `long` says that there is a key that cannot be written. A
failed call that is not tolerated is the last thing asked, and the failure it leaves has the class of the operation
and the failed call as its cause. Whatever failure is left has a class, save the one of an integer that is too
long. A run ends with this one just if there is such a key and no call has failed before. A failure has a cause
only if that call failed and was not tolerated. -/
structure Accounted {α : Type} (tolerated : Operation → CallFailure → Prop) (long : Prop) (xs : List Exchange)
    (r : Except Failure α) : Prop where
  last : ∀ pre x post f, xs = pre ++ x :: post → x.failure? = some f →
    ¬tolerated x.request.operation f →
    post = [] ∧ ∃ e, r = .error e ∧ e.class? = x.request.operation.class? ∧ e.cause? = some f
  classed : ∀ e, r = .error e → e.class?.isSome = true ∨ e = .longInteger
  stalled : r = .error .longInteger ↔ long ∧ AllTolerated tolerated xs
  cause : ∀ e f, r = .error e → e.cause? = some f →
    ∃ pre x, xs = pre ++ [x] ∧ x.failure? = some f ∧ ¬tolerated x.request.operation f

/-- A failure has a class, or there is such a key and no call has failed. -/
theorem Accounted.class?_or {α : Type} {tolerated : Operation → CallFailure → Prop} {long : Prop}
    {xs : List Exchange} {r : Except Failure α} {e : Failure} (h : Accounted tolerated long xs r)
    (hr : r = .error e) : e.class?.isSome = true ∨ e = .longInteger ∧ long ∧ AllTolerated tolerated xs := by
  refine (h.classed e hr).imp_right ?_
  rintro rfl
  exact ⟨rfl, h.stalled.mp hr⟩

/-- Failures that stem from a call are failures of a stage. -/
theorem Failure.class?_isSome_of_cause? {e : Failure} {f : CallFailure} (h : e.cause? = some f) :
    e.class?.isSome = true := by
  cases e <;> first | rfl | cases h

section

variable {α : Type} {tolerated : Operation → CallFailure → Prop} {long : Prop} {kind : Failure → Prop}
  {xs : List Exchange} {r : Except Failure α} {p : Program α}

/-- What the discipline says of a trace, if the other failures have a class as well, or are that of the key. -/
theorem accounted_of_accounts (h : (classified tolerated True kind).Accounts xs r)
    (hclass : ∀ e, kind e → e.class?.isSome = true ∨ e = .longInteger) (hcause : ∀ e, kind e → e.cause? = none)
    (hstalled : r = .error .longInteger ↔ long ∧ AllTolerated tolerated xs) :
    Accounted tolerated long xs r where
  last := h.last
  classed e he := by
    rcases h.accounted e he with hallowed | ⟨-, -, f, -, -, -, -, hcaused⟩
    · exact hclass e (hallowed trivial)
    · exact .inl (Failure.class?_isSome_of_cause? hcaused)
  stalled := hstalled
  cause e f he hf := by
    rcases h.accounted e he with hallowed | ⟨pre, x, g, hx, hg, ht, -, hcaused⟩
    · rw [hcause e (hallowed trivial)] at hf
      cases hf
    · rw [hf] at hcaused
      rw [← Option.some.inj hcaused] at hg ht
      exact ⟨pre, x, hx, hg, ht⟩

/-- A program that keeps to the discipline is accounted for, on well-formed replies. -/
theorem accounted_of_obeys {Q : α → Prop} (hp : p.Obeys (classified tolerated True Failure.Uncaused) Q)
    (hlong : ¬long) (h : p.Trace xs r) (hwell : ∀ x ∈ xs, x.WellFormed) : Accounted tolerated long xs r := by
  have haccounts := hp.accounts (fun x hx _ => hwell x hx) h
  refine accounted_of_accounts haccounts (fun _ h => .inl h.class?_isSome) (fun _ h => h.cause?_eq)
    (iff_of_false (fun hr => ?_) fun h => hlong h.1)
  rcases haccounts.accounted _ hr with hallowed | ⟨-, -, f, -, -, -, -, hcaused⟩
  · cases (hallowed trivial).class?_isSome
  · cases hcaused

/-- So is a program that stalls: if no call fails, nothing else can end it. -/
theorem accounted_of_stalls (hp : p.Obeys stalling never) (hlong : long) (h : p.Trace xs r)
    (hwell : ∀ x ∈ xs, x.WellFormed) : Accounted ToleratedInSync long xs r := by
  have haccounts := hp.accounts (fun x hx _ => hwell x hx) h
  refine accounted_of_accounts haccounts (fun _ h => .inr h) (fun e he => ?_)
    ⟨fun hr => ⟨hlong, fun x hx f hf => ?_⟩, fun ⟨_, htolerated⟩ => ?_⟩
  · rw [he]
    rfl
  · -- a failed call that is not tolerated would be the cause
    by_contra ht
    obtain ⟨pre, post, rfl⟩ := List.append_of_mem hx
    obtain ⟨-, e, he, -, hcaused⟩ := haccounts.last pre x post f rfl hf ht
    rw [← Except.error.inj (hr.symm.trans he)] at hcaused
    cases hcaused
  · cases r with
    | ok a => exact (hp.post (fun x hx _ => hwell x hx) h).elim
    | error e =>
        rcases haccounts.accounted e rfl with hallowed | ⟨pre, x, f, rfl, hf, ht, -⟩
        · rw [hallowed trivial]
        · exact absurd (htolerated x (List.mem_append_right _ List.mem_cons_self) f hf) ht

end

/-! ## Definitions that stall -/

/-- The reconciliation of a definition comes to a key that cannot be written, unless a call fails before. -/
def Definition.Stalls (d : Definition) : Prop := (∃ baseUrl, d.baseUrl = .ok baseUrl) ∧ d.HasLongKey

theorem Definition.Stalls.of_baseUrl {d : Definition} {baseUrl : String} (hb : d.baseUrl = .ok baseUrl) :
    d.Stalls ↔ d.HasLongKey :=
  and_iff_right ⟨baseUrl, hb⟩

/-- Without a base URL nothing is asked, and the definition is at fault. -/
theorem accounted_of_fault {d : Definition} {fault : DefinitionFault} (hb : d.baseUrl = .error fault) {α : Type} :
    Accounted ToleratedInSync d.Stalls [] (.error (.definition fault) : Except Failure α) := by
  have hstalls : ¬d.Stalls := by
    rintro ⟨⟨baseUrl, hbase⟩, -⟩
    cases hb.symm.trans hbase
  have hfails : (Program.fail (.definition fault) : Program α).Obeys (reconciling True) anything :=
    .fail fun _ => ⟨rfl, rfl⟩
  exact accounted_of_obeys hfails hstalls ⟨rfl, rfl⟩ (List.forall_mem_nil _)

/-- Whatever brings a definition to the gateway, the stages behind it are accounted for with it. -/
theorem stages_accounted {first : Program Imported} {t : Target} {d : Definition} {baseUrl : String}
    (hb : d.baseUrl = .ok baseUrl) (hfirst : ∀ D : Discipline, D.Reads True → first.Obeys D anything)
    {xs : List Exchange} {v : Except Failure Reference}
    (h : (first.bind fun imported => complete t imported d baseUrl).Trace xs v) (hwell : ∀ x ∈ xs, x.WellFormed) :
    Accounted ToleratedInSync d.Stalls xs v := by
  by_cases hlong : d.HasLongKey
  -- what follows the authorizers is never run, so nothing has to be known of it
  · have hstalls := (hfirst _ stalling_reads).bind fun imported _ => complete_stalls hlong t imported baseUrl
    exact accounted_of_stalls hstalls ((Definition.Stalls.of_baseUrl hb).mpr hlong) h hwell
  · have hobeys := (hfirst _ reconciling_reconciles.toReads).bind fun imported _ =>
      complete_obeys reconciling_reconciles t imported d (fun _ => hlong) baseUrl
    exact accounted_of_obeys hobeys (fun hstalls => hlong ((Definition.Stalls.of_baseUrl hb).mp hstalls)) h hwell

/-- **Reimports are accounted for.** -/
theorem reimportApi_accounted {t : Target} {r : Reference} {d : Definition} {xs : List Exchange}
    {v : Except Failure Reference} (h : (reimportApi t r d).Trace xs v) (hwell : ∀ x ∈ xs, x.WellFormed) :
    Accounted ToleratedInSync d.Stalls xs v := by
  cases hb : d.baseUrl with
  | error fault =>
      rw [reimportApi, requireBaseUrl_error hb] at h
      obtain ⟨rfl, rfl⟩ := h
      exact accounted_of_fault hb
  | ok baseUrl =>
      rw [reimportApi_eq t r hb] at h
      exact stages_accounted hb (fun _ hD => overwriteDefinition_obeys hD d) h hwell

/-! ## First imports -/

/-- The stages of a first import, without the removal of the API. -/
def importStages (t : Target) (d : Definition) (baseUrl : String) : Program Reference :=
  (importDefinition d).bind fun imported => complete t imported d baseUrl

theorem importStages_obeys {D : Discipline} {strict : Prop} (hD : D.Reconciles strict) (t : Target)
    {d : Definition} (hkeys : strict → ¬d.HasLongKey) (baseUrl : String) :
    (importStages t d baseUrl).Obeys D anything :=
  (importDefinition_obeys hD.toReads d).bind fun imported _ => complete_obeys hD t imported d hkeys baseUrl

/-- The stages of a first import are accounted for. -/
theorem importStages_accounted {t : Target} {d : Definition} {baseUrl : String} (hb : d.baseUrl = .ok baseUrl)
    {xs : List Exchange} {v : Except Failure Reference} (h : (importStages t d baseUrl).Trace xs v)
    (hwell : ∀ x ∈ xs, x.WellFormed) : Accounted ToleratedInSync d.Stalls xs v :=
  stages_accounted hb (fun _ hD => importDefinition_obeys hD d) h hwell

/-- **A first import is a run of its stages and what follows it**: nothing, or the removal of the API
after a failure. -/
theorem trace_importApi {t : Target} {d : Definition} {baseUrl : String} (hb : d.baseUrl = .ok baseUrl)
    {xs : List Exchange} {r : Except Failure Reference} (h : (importApi t d).Trace xs r) :
    ∃ steps removal ended, xs = steps ++ removal ∧ (importStages t d baseUrl).Trace steps ended ∧
      (removal = [] ∧ r = ended ∨
        ∃ api e left, ended = .error e ∧ Removal api e removal left ∧ r = .error left) := by
  rw [importApi_eq t hb] at h
  rcases trace_bind.mp h with ⟨i, ys, zs, rfl, hi, hrest⟩ | ⟨e, rfl, hi⟩
  -- the API was imported: the stages succeed, or one of them fails and the removal follows
  · rcases trace_rescue.mp hrest with ⟨v, rfl, hv⟩ | ⟨e, us, ws, rfl, he, hremoval⟩
    · exact ⟨ys ++ zs, [], _, (List.append_nil _).symm, trace_bind.mpr (.inl ⟨i, ys, zs, rfl, hi, hv⟩),
        .inl ⟨rfl, rfl⟩⟩
    · obtain ⟨left, hr, hleft⟩ := abandon_removal hremoval
      exact ⟨ys ++ us, ws, .error e, (List.append_assoc _ _ _).symm,
        trace_bind.mpr (.inl ⟨i, ys, us, rfl, hi, he⟩), .inr ⟨i.api, e, left, rfl, hleft, hr⟩⟩
  · exact ⟨xs, [], .error e, (List.append_nil _).symm, trace_bind.mpr (.inr ⟨e, rfl, hi⟩), .inl ⟨rfl, rfl⟩⟩

/-- A first import that succeeds is the import of one API and the stages after it. -/
theorem trace_importApi_success {t : Target} {d : Definition} {xs : List Exchange} {ref : Reference}
    (h : (importApi t d).Trace xs (.ok ref)) :
    ∃ baseUrl i reply ys, d.baseUrl = .ok baseUrl ∧ xs = .call (.importApi d.document) (.ok reply) :: ys ∧
      reply.get? "id" = some (.text i.api) ∧ (complete t i d baseUrl).Trace ys (.ok ref) := by
  cases hb : d.baseUrl with
  | error fault =>
      rw [importApi, requireBaseUrl_error hb] at h
      cases h.2
  | ok baseUrl =>
      obtain ⟨steps, removal, ended, rfl, hsteps, hend⟩ := trace_importApi hb h
      -- an import that was followed by the removal of its API has failed
      rcases hend with ⟨rfl, rfl⟩ | ⟨_, _, _, _, _, hfailed⟩
      · obtain ⟨i, _, ys, rfl, himport, hcomplete⟩ := trace_bind_ok.mp hsteps
        obtain ⟨reply, rfl, hid⟩ := trace_importDefinition himport
        rw [List.append_nil]
        exact ⟨baseUrl, i, reply, ys, rfl, rfl, hid, hcomplete⟩
      · cases hfailed

/-- **First imports are accounted for**: their stages are, and what is left after the removal has a class unless the
stages have stalled. -/
theorem importApi_accounted {t : Target} {d : Definition} {xs : List Exchange} {v : Except Failure Reference}
    (h : (importApi t d).Trace xs v) (hwell : ∀ x ∈ xs, x.WellFormed) :
    ∃ steps removal, ∃ ended : Except Failure Reference,
      xs = steps ++ removal ∧ Accounted ToleratedInSync d.Stalls steps ended ∧
      (removal = [] ∧ v = ended ∨
        ∃ api e left, ended = .error e ∧ Removal api e removal left ∧ v = .error left) ∧
      ∀ e, v = .error e →
        e.class?.isSome = true ∨ e = .longInteger ∧ d.Stalls ∧ AllTolerated ToleratedInSync steps := by
  cases hb : d.baseUrl with
  | error fault =>
      rw [importApi, requireBaseUrl_error hb] at h
      obtain ⟨rfl, rfl⟩ := h
      refine ⟨[], [], .error (.definition fault), rfl, accounted_of_fault hb, .inl ⟨rfl, rfl⟩, fun e he => ?_⟩
      rw [← Except.error.inj he]
      exact .inl rfl
  | ok baseUrl =>
      obtain ⟨steps, removal, ended, rfl, hsteps, hend⟩ := trace_importApi hb h
      have haccounted := importStages_accounted hb hsteps fun x hx => hwell x (List.mem_append_left removal hx)
      refine ⟨steps, removal, ended, rfl, haccounted, hend, fun e he => ?_⟩
      rcases hend with ⟨-, rfl⟩ | ⟨api, trigger, left, rfl, hremoval, rfl⟩
      · exact haccounted.class?_or he
      · obtain rfl := Except.error.inj he
        -- the failure of the stages is left, or that of the removal
        rcases hremoval.left_eq with rfl | ⟨cause, rfl⟩
        · exact haccounted.class?_or rfl
        · exact .inl rfl

/-- **Every failure is accounted for** when replies are well formed. Reimports go on from responses that
are there already and from whatever happens while superseded deployments are deleted, taking down goes on
from what is gone, and all other failed calls end the run and are reported by the class of their operation.
In a first import only the removal of the API follows. The one failure without a class is that of a key with an
integer that is too long to be written. It is left just if the definition has such a key and no call fails before
the key is asked for, and, in a first import, nothing fails while the API is removed. -/
theorem failures_accounted {σ : Type} (b : Backend σ) (s : σ) (t : Target) (d : Definition) (r : Reference)
    (delete : Bool) :
    ((∀ x ∈ (reimportApi t r d).exchanges b s, x.WellFormed) →
      Accounted ToleratedInSync d.Stalls ((reimportApi t r d).exchanges b s)
        ((reimportApi t r d).run b s).result) ∧
    ((∀ x ∈ (tearDown t r delete).exchanges b s, x.WellFormed) →
      Accounted ToleratedInTeardown False ((tearDown t r delete).exchanges b s)
        ((tearDown t r delete).run b s).result) ∧
    ((∀ x ∈ (importApi t d).exchanges b s, x.WellFormed) →
      ∃ steps removal, ∃ ended : Except Failure Reference,
        (importApi t d).exchanges b s = steps ++ removal ∧ Accounted ToleratedInSync d.Stalls steps ended ∧
        (removal = [] ∧ ((importApi t d).run b s).result = ended ∨
          ∃ api e left, ended = .error e ∧ Removal api e removal left ∧
            ((importApi t d).run b s).result = .error left) ∧
        ∀ e, ((importApi t d).run b s).result = .error e →
          e.class?.isSome = true ∨ e = .longInteger ∧ d.Stalls ∧ AllTolerated ToleratedInSync steps) :=
  ⟨reimportApi_accounted (trace_run b _ s),
    accounted_of_obeys (tearDown_obeys t r delete) not_false (trace_run b _ s),
    importApi_accounted (trace_run b _ s)⟩

/-- Replies of a gateway that takes definitions and then loses the connection. -/
def lostReplies : Script
  | .importApi => [.ok [(.text "id", .text "a")]]
  | .getResources => [.error (.disconnected "lost")]
  | .getStages => [.error (.disconnected "lost")]
  | .getApi => [.ok [(.text "id", .text "a")]]
  | _ => []

/-- The gateway that answers so. -/
def losingGateway : Backend Script := Script.backend true

/-- The definition has no key that cannot be written, so every failure has a class. -/
theorem lostReplies_accounted :
    ¬guardedPets.Stalls ∧
      (∀ x ∈ (reimportApi ⟨"eu", "live"⟩ ⟨"a", []⟩ guardedPets).exchanges losingGateway lostReplies,
        x.WellFormed) ∧
      (∀ x ∈ (tearDown ⟨"eu", "live"⟩ ⟨"a", []⟩ true).exchanges losingGateway lostReplies,
        x.WellFormed) ∧
      (∀ x ∈ (importApi ⟨"eu", "live"⟩ guardedPets).exchanges losingGateway lostReplies,
        x.WellFormed) ∧
      Accounted ToleratedInSync guardedPets.Stalls
        ((reimportApi ⟨"eu", "live"⟩ ⟨"a", []⟩ guardedPets).exchanges losingGateway lostReplies)
        ((reimportApi ⟨"eu", "live"⟩ ⟨"a", []⟩ guardedPets).run losingGateway lostReplies).result ∧
      Accounted ToleratedInTeardown False
        ((tearDown ⟨"eu", "live"⟩ ⟨"a", []⟩ true).exchanges losingGateway lostReplies)
        ((tearDown ⟨"eu", "live"⟩ ⟨"a", []⟩ true).run losingGateway lostReplies).result ∧
      ∃ e, ((importApi ⟨"eu", "live"⟩ guardedPets).run losingGateway lostReplies).result = .error e ∧
        e.class?.isSome = true := by
  have hwritable : ¬guardedPets.Stalls := by
    rintro ⟨-, hlong⟩
    cases hlong
  have hreimport : ∀ x ∈ (reimportApi ⟨"eu", "live"⟩ ⟨"a", []⟩ guardedPets).exchanges losingGateway
      lostReplies, x.WellFormed :=
    List.forall_mem_cons.mpr ⟨.inl rfl, List.forall_mem_singleton.mpr trivial⟩
  have htearDown : ∀ x ∈ (tearDown ⟨"eu", "live"⟩ ⟨"a", []⟩ true).exchanges losingGateway lostReplies,
      x.WellFormed :=
    List.forall_mem_singleton.mpr trivial
  have himport : ∀ x ∈ (importApi ⟨"eu", "live"⟩ guardedPets).exchanges losingGateway lostReplies,
      x.WellFormed :=
    List.forall_mem_cons.mpr ⟨⟨"a", rfl⟩, List.forall_mem_cons.mpr ⟨trivial,
      List.forall_mem_cons.mpr ⟨⟨"a", rfl⟩, List.forall_mem_singleton.mpr trivial⟩⟩⟩
  obtain ⟨hre, htear, himp⟩ := failures_accounted losingGateway lostReplies ⟨"eu", "live"⟩ guardedPets
    ⟨"a", []⟩ true
  obtain ⟨_, _, _, -, -, -, hclassed⟩ := himp himport
  refine ⟨hwritable, hreimport, htearDown, himport, hre hreimport, htear htearDown, _, rfl, ?_⟩
  exact (hclassed _ rfl).resolve_right fun h => hwritable h.2.1

/-! ### Definitions that are not accounted for -/

/-- What a gateway shows of an API that it has just made. -/
def madeReply : Object := [(.text "id", .text "a")]

/-- Replies of a gateway that does all it is asked for. -/
def quietReplies : Script
  | .importApi | .getApi => [.ok madeReply]
  | _ => []

/-- **Every definition that stalls leaves the failure without a class**, when it is imported and the gateway does
all it is asked for. -/
theorem importApi_stalls {d : Definition} (h : d.Stalls) (t : Target) :
    ∃ s', Runs (Script.backend true) (importApi t d) quietReplies
      [.call (.importApi d.document) (.ok madeReply), .list (.resources "a") (.ok []),
        .call (.getApi "a") (.ok madeReply), .call (.deleteApi "a") (.ok [])] (.error .longInteger) s' := by
  obtain ⟨⟨baseUrl, hb⟩, hlong⟩ := h
  have hsynchronize : ∀ warnings, synchronizeImported t ⟨.created, "a", warnings⟩ d = .fail .longInteger := by
    intro warnings
    show synchronize "a" t.region d [] false = _
    rw [synchronize_eq, hlong]
    rfl
  have hcomplete : ∀ warnings, complete t ⟨.created, "a", warnings⟩ d baseUrl =
      (fetchResources "a").bind fun _ => .fail .longInteger := by
    intro warnings
    rw [complete]
    simp only [hsynchronize]
    rfl
  have himport : Runs (Script.backend true) (importDefinition d) quietReplies
      [.call (.importApi d.document) (.ok madeReply)] (.ok ⟨.created, "a", warningsOf madeReply⟩) _ :=
    runs_importDefinition rfl rfl
  -- the stages end with the second exchange, and the removal follows
  have hrest : ∃ s', Runs (Script.backend true)
      ((complete t ⟨.created, "a", warningsOf madeReply⟩ d baseUrl).rescue (abandon "a"))
      (Script.update quietReplies .importApi [])
      [.list (.resources "a") (.ok []), .call (.getApi "a") (.ok madeReply), .call (.deleteApi "a") (.ok [])]
      (.error .longInteger) s' := by
    rw [hcomplete]
    exact ⟨_, rfl, rfl, rfl⟩
  obtain ⟨s', hrest⟩ := hrest
  rw [importApi_eq t hb]
  exact ⟨s', himport.bind hrest⟩

/-- A definition with an integer where the function of an authorizer is to be named. -/
def numberedPets (n : Int) : Definition :=
  { guardedPets with
    policies :=
      [⟨authorizerPolicyName, [(.text "lambdaARN", .int n), (.text "invokeRoleARN", .text "caller")]⟩] }

theorem numberedPets_stalls {n : Int} (h : (Value.int n).isWritable = false) : (numberedPets n).Stalls := by
  refine ⟨⟨"https://backend", rfl⟩, requiredAuthorizers_eq_error_iff.mpr ?_⟩
  have hfault : Policy.fault? ⟨authorizerPolicyName,
      [(.text "lambdaARN", .int n), (.text "invokeRoleARN", .text "caller")]⟩ = some .longInteger :=
    Policy.fault?_eq_longInteger_iff.mpr ⟨.int n, .text "caller", rfl, rfl, .inl h⟩
  show [_].findSome? Policy.fault? = _
  rw [List.findSome?_cons, hfault]

/-- `16 ^ 4000`, which has 4817 digits. -/
def longInteger : Int := ((16 ^ 40) ^ 100 : Nat)

theorem longInteger_unwritable : (Value.int longInteger).isWritable = false := by
  refine Value.isWritable_int_eq_false ?_
  rw [longInteger, Int.natAbs_natCast, show Digits.maxIntegerDigits = 43 * 100 from rfl, pow_mul]
  exact Nat.pow_le_pow_left (by norm_num) 100

/-- Imported by a gateway that does all it is asked for, it leaves a failure that has no class. -/
theorem numberedPets_unclassed :
    let p := importApi ⟨"eu", "live"⟩ (numberedPets longInteger)
    (∀ x ∈ p.exchanges (Script.backend true) quietReplies, x.WellFormed) ∧
      ∃ e, (p.run (Script.backend true) quietReplies).result = .error e ∧ e.class? = none := by
  intro p
  obtain ⟨s', hrun⟩ := importApi_stalls (numberedPets_stalls longInteger_unwritable) ⟨"eu", "live"⟩
  refine ⟨?_, _, hrun.result, rfl⟩
  rw [hrun.exchanges]
  have hmade : Identified madeReply := ⟨"a", rfl⟩
  refine List.forall_mem_cons.mpr ⟨hmade, List.forall_mem_cons.mpr ⟨List.forall_mem_nil _, ?_⟩⟩
  exact List.forall_mem_cons.mpr ⟨hmade, List.forall_mem_singleton.mpr trivial⟩

end ApiReconciler
