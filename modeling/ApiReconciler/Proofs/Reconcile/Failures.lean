import ApiReconciler.Proofs.Authorizer.Key
import ApiReconciler.Proofs.Gateway.Discipline
import ApiReconciler.Proofs.Reconcile.Requests

/-!
# `ApiReconciler.Proofs.Reconcile.Failures` — which failure a reconciliation ends with

The calls of a reconciliation are made in nested loops, each with a handler of its own, and one operation
can be fatal in one stage and of no consequence in another. What holds of all of them is a discipline
(`reconciling`): a failed call is either one of a few that are gone on from, or it is the last one and is
reported by a failure of the class that its operation stands for, with the failed call as its cause. The
stages keep to it one by one, and `complete` does because they do.

A reply without the member that is read from it is a failure of no stage. The discipline lets this happen
only to a gateway whose replies are not well formed, so both readings are there: one for a gateway that
answers as it should (`strict`), and one for any answers.

One failure of no stage is left, whatever the gateway answers: a policy asks for a key in which an integer has
too many digits to be written. Then no run comes past the synchronization of authorizers, so such a definition
has a discipline of its own (`stalling`). It allows no other failure without a failed call, and no success.

## Contents
- `FailureClass`, `Operation.class?`: what the operations stand for.
- `Exchange.WellFormed`: replies that carry their identifiers.
- `reconciling`, `tearingDown`: the two disciplines.
- `Discipline.Reads`, `Discipline.Reconciles`, `Discipline.TearsDown`: what a discipline needs in order to be
  kept to by the stages, and `…_obeys`: they keep to all of these.
- `stalling`, `complete_stalls`: keys that cannot be written.
-/

namespace ApiReconciler

open Program

/-! ## Classes of failures -/

/-- The classes of failures that a reconciliation reports. -/
inductive FailureClass
  | definition
  | importing
  | reimporting
  | authorizing
  | binding
  | deploying
  | rollback
deriving DecidableEq, Repr

/-- The class of a failure; a parameter that cannot be mapped counts as a failure to bind. -/
def Failure.class? : Failure → Option FailureClass
  | .definition _ => some .definition
  | .importing _ => some .importing
  | .reimporting _ => some .reimporting
  | .authorizing _ => some .authorizing
  | .mapping _ | .binding _ => some .binding
  | .deploying _ => some .deploying
  | .cleanup _ _ | .rollback _ _ _ => some .rollback
  | _ => none

/-- The class of failure that a failed call of an operation comes to. -/
def Operation.class? : Operation → Option FailureClass
  | .importApi | .getResources | .getMethod => some .importing
  | .overwriteApi => some .reimporting
  | .getAuthorizers | .createAuthorizer | .deleteAuthorizer => some .authorizing
  | .putMethod | .putIntegration | .putIntegrationResponse | .putMethodResponse
  | .updateMethodResponse | .updateMethod | .updateIntegrationResponse => some .binding
  | .createDeployment | .getDeployments | .deleteDeployment | .getStages | .deleteStage | .getApi
  | .deleteApi => some .deploying
  | _ => none

/-! ## Well-formed replies -/

/-- The object has an identifier. -/
def Identified (ms : Object) : Prop := ∃ id, ms.get? "id" = some (.text id)

/-- A member is a text, if it is there. -/
def TextIfAny (name : String) (ms : Object) : Prop :=
  ms.get? name = none ∨ ∃ s, ms.get? name = some (.text s)

/-- What is created or listed has an identifier, and members that are read as texts are texts. -/
def Exchange.WellFormed : Exchange → Prop
  | .call (.importApi _) (.ok reply) | .call (.getApi _) (.ok reply)
  | .call (.createAuthorizer ..) (.ok reply) | .call (.createDeployment ..) (.ok reply) => Identified reply
  | .call (.overwriteApi ..) (.ok reply) => TextIfAny "id" reply
  | .list (.resources _) (.ok items) => ∀ item ∈ items, Identified item ∧ TextIfAny "path" item
  | .list (.authorizers _) (.ok items) | .list (.deployments _) (.ok items) =>
    ∀ item ∈ items, Identified item
  | _ => True

/-! ## Disciplines -/

/-- A failure of a stage that stems from no call. -/
structure Failure.Uncaused (e : Failure) : Prop where
  class?_isSome : e.class?.isSome = true
  cause?_eq : e.cause? = none

/-- Failed calls that are not tolerated are reported by the class of their operation. When the gateway
answers as it should, all other failures are of one kind. -/
def classified (tolerated : Operation → CallFailure → Prop) (strict : Prop) (kind : Failure → Prop) :
    Discipline where
  admits x := strict → x.WellFormed
  tolerates := tolerated
  reports op f e := e.class? = op.class? ∧ e.cause? = some f
  allows e := strict → kind e

/-- What imports and reimports go on from: a response that is there already, and whatever happens while
superseded deployments are deleted. -/
def ToleratedInSync (op : Operation) (f : CallFailure) : Prop :=
  op = .putMethodResponse ∧ f.kind = .conflict ∨ op ∈ pruneOperations

/-- What taking down goes on from: what is to be deleted is gone. -/
def ToleratedInTeardown (_ : Operation) (f : CallFailure) : Prop := f.kind = .notFound

/-- The discipline of imports and reimports. -/
def reconciling (strict : Prop) : Discipline := classified ToleratedInSync strict Failure.Uncaused

/-- The discipline of taking down. -/
def tearingDown (strict : Prop) : Discipline := classified ToleratedInTeardown strict Failure.Uncaused

section

variable {strict : Prop} {api : String}

/-- The postcondition that says nothing. -/
def anything {α : Type} (_ : α) : Prop := True

/-- All other operations are fatal when they fail. -/
theorem not_tolerated {op : Operation} (h : (Operation.putMethodResponse :: pruneOperations).contains op = false)
    (f : CallFailure) : ¬ToleratedInSync op f := by
  have hno : op ∉ Operation.putMethodResponse :: pruneOperations := fun hmem => by
    rw [List.contains_iff_mem.mpr hmem] at h
    cases h
  rintro (⟨rfl, -⟩ | hp)
  · exact hno List.mem_cons_self
  · exact hno (List.mem_cons_of_mem _ hp)

/-- A member that is a text whenever the gateway answers as it should. -/
theorem member_obeys {D : Discipline} {ms : Object} {name : String} {Q : String → Prop}
    (hD : ∀ e : Failure, ¬strict → e.class? = none → (∀ f, e ≠ .call f) → D.allows e)
    (h : strict → ∃ s, ms.get? name = some (.text s)) (hQ : ∀ s, ms.get? name = some (.text s) → Q s) :
    (textMember ms name).Obeys D Q := by
  refine obeys_textMember hQ fun hno => ?_
  have hloose : ¬strict := fun hs => (h hs).elim hno
  exact ⟨hD _ hloose rfl fun _ => nofun, hD _ hloose rfl fun _ => nofun⟩

/-- A call inside a stage whose failure stands there, whatever it is. -/
theorem standingCall_obeys {D : Discipline} {ops : List Operation} {c : Call}
    (hop : ops.contains c.operation = true) :
    (perform c).Obeys (D.raw Discipline.nothing ops) anything :=
  obeys_perform hop (fun _ h => h) fun _ _ => trivial

/-- What was listed, if anything, has identifiers. -/
def ListedIdentified (strict : Prop) (listed : Option (List Object)) : Prop :=
  ∀ items, listed = some items → strict → ∀ item ∈ items, Identified item

theorem listedIdentified_none : ListedIdentified strict none := fun _ he => by cases he

/-- The listing of deployments, whose failure stands. -/
theorem listedDeployments_obeys {D : Discipline}
    (hD : ∀ items, D.admits (.list (.deployments api) (.ok items)) → strict → ∀ item ∈ items, Identified item) :
    ((collect (.deployments api)).bind fun items => .done (some items)).Obeys
      (D.raw Discipline.nothing [.getDeployments]) (ListedIdentified strict) := by
  refine (obeys_collect rfl (fun _ h => h) hD).bind fun items h => .done ?_
  intro items' he
  rw [← Option.some.inj he]
  exact h

theorem logAll_obeys {D : Discipline} (ns : List Note) : (logAll ns).Obeys D anything := by
  induction ns with
  | nil => exact .done trivial
  | cons n ns ih => exact .note ih

/-! ## Disciplines of imports and reimports -/

/-- The discipline inside a stage: what is tolerated there is tolerated already inside it. -/
def Discipline.inside (D : Discipline) (ops : List Operation) : Discipline := D.raw D.tolerates ops

/-- The disciplines that reading the API and changing its authorizers keep to. They go on from no more than
`ToleratedInSync` says. The other failed calls can be reported by the class of their operation. Reading a member
may fail when replies are not well formed. -/
structure Discipline.Reads (D : Discipline) (strict : Prop) : Prop where
  admits : ∀ x, D.admits x → strict → x.WellFormed
  tolerated : ∀ op f, D.tolerates op f → ToleratedInSync op f
  reports : ∀ op f e, e.class? = op.class? → e.cause? = some f → D.reports op f e
  member : ∀ e, ¬strict → e.class? = none → (∀ f, e ≠ .call f) → D.allows e

/-- The disciplines that imports and reimports keep to. They go on from all that `ToleratedInSync` says, and
failures of the stages are allowed when they stem from no call, save those of definitions. -/
structure Discipline.Reconciles (D : Discipline) (strict : Prop) : Prop extends D.Reads strict where
  tolerates : ∀ op f, ToleratedInSync op f → D.tolerates op f
  allows : ∀ e, e.class? ≠ some .definition → e.class?.isSome = true → e.cause? = none → D.allows e

theorem reconciling_reconciles : (reconciling strict).Reconciles strict where
  admits _ h := h
  tolerated _ _ h := h
  reports _ _ _ hclass hcause := ⟨hclass, hcause⟩
  member _ h _ _ hs := absurd hs h
  tolerates _ _ h := h
  allows _ _ hclass hcause _ := ⟨hclass, hcause⟩

namespace Discipline.Reads

variable {D : Discipline} (hD : D.Reads strict)

include hD

theorem fatal {op : Operation} (h : (Operation.putMethodResponse :: pruneOperations).contains op = false)
    (f : CallFailure) : ¬D.tolerates op f :=
  fun ht => not_tolerated h f (hD.tolerated op f ht)

theorem raw_member {ops : List Operation} (e : Failure) (h : ¬strict) (hclass : e.class? = none)
    (hne : ∀ f, e ≠ .call f) : (D.inside ops).allows e :=
  ⟨hD.member e h hclass hne, hne⟩

end Discipline.Reads

section

variable {D : Discipline} (hD : D.Reads strict)

include hD

/-- A call that is a stage of its own. -/
theorem stage_obeys {c : Call} {label : CallFailure → Failure} {Q : Object → Prop}
    (ht : ∀ f, ¬D.tolerates c.operation f)
    (hr : ∀ f, (label f).class? = c.operation.class? ∧ (label f).cause? = some f)
    (hok : ∀ reply, (strict → (Exchange.call c (.ok reply)).WellFormed) → Q reply) :
    ((perform c).relabel label).Obeys D Q := by
  refine (obeys_perform (by simp) ht fun reply h => hok reply (hD.admits _ h)).relabel [c.operation]
    fun op hop f => ?_
  rw [List.mem_singleton.mp hop]
  exact hD.reports _ f _ (hr f).1 (hr f).2

/-! ## Importing and reading -/

theorem importDefinition_obeys (d : Definition) :
    (importDefinition d).Obeys D anything := by
  refine (stage_obeys hD (hD.fatal rfl) (fun _ => ⟨rfl, rfl⟩)
    fun reply h => h).bind fun reply h => ?_
  refine (member_obeys (Q := anything) hD.member h fun _ _ => trivial).bind fun api _ => ?_
  exact (logAll_obeys _).bind fun _ _ => .note (.done trivial)

theorem addressedApi_obeys {reply : Object} (h : strict → TextIfAny "id" reply) :
    (addressedApi api reply).Obeys D anything := by
  unfold addressedApi
  split
  · exact .done trivial
  · next v hv =>
      refine member_obeys hD.member (fun hs => (h hs).resolve_left fun hn => ?_) fun _ _ => trivial
      rw [hv] at hn
      cases hn

theorem overwriteDefinition_obeys (d : Definition) :
    (overwriteDefinition api d).Obeys D anything := by
  have hlabel : ∀ f, (overwriteFailure api f).class? = some .reimporting ∧
      (overwriteFailure api f).cause? = some f := by
    intro f
    unfold overwriteFailure
    split <;> exact ⟨rfl, rfl⟩
  refine (stage_obeys hD (hD.fatal rfl) hlabel fun reply h => h).bind fun reply h => ?_
  refine (logAll_obeys _).bind fun _ _ => .note ?_
  exact (addressedApi_obeys hD h).bind fun named _ => .done trivial

theorem fetchMethods_obeys (resource : String) (verbs : List String) :
    (fetchMethods api resource verbs).Obeys (D.inside readOperations) anything := by
  induction verbs with
  | nil => exact .done trivial
  | cons verb verbs ih =>
      refine (obeys_perform rfl (hD.fatal rfl)
        (Q := anything) fun _ _ => trivial).bind fun reply _ => ?_
      exact ih.bind fun _ _ => .done trivial

theorem pathOf_obeys {item : Object} (h : strict → TextIfAny "path" item) :
    (pathOf item).Obeys (D.inside readOperations) anything := by
  unfold pathOf
  split
  · exact .done trivial
  · next v hv =>
      refine member_obeys hD.raw_member (fun hs => (h hs).resolve_left fun hn => ?_) fun _ _ => trivial
      rw [hv] at hn
      cases hn

theorem fetchListed_obeys {items : List Object}
    (h : strict → ∀ item ∈ items, Identified item ∧ TextIfAny "path" item) :
    (fetchListed api items).Obeys (D.inside readOperations) anything := by
  induction items with
  | nil => exact .done trivial
  | cons item items ih =>
      have hitem := fun hs => h hs item List.mem_cons_self
      have hitems := ih fun hs i hi => h hs i (List.mem_cons_of_mem _ hi)
      refine (member_obeys (Q := anything) hD.raw_member (fun hs => (hitem hs).1) fun _ _ => trivial).bind
        fun id _ => ?_
      refine (pathOf_obeys hD fun hs => (hitem hs).2).bind fun path _ => ?_
      refine (fetchMethods_obeys hD id (verbsOf item)).bind fun methods _ => ?_
      exact hitems.bind fun _ _ => .done trivial

theorem fetchResources_obeys : (fetchResources api).Obeys D anything := by
  refine Obeys.relabel readOperations ?_ ?_
  · exact (obeys_collect rfl (hD.fatal rfl) fun items h => hD.admits _ h).bind
      fun items h => fetchListed_obeys hD h
  · intro op hop f
    fin_cases hop <;> exact hD.reports _ f _ rfl rfl

/-! ## Authorizers -/

theorem managed_obeys {items : List Object} (h : strict → ∀ item ∈ items, Identified item) :
    (managed items).Obeys D anything := by
  induction items with
  | nil => exact .done trivial
  | cons item items ih =>
      have hitems := ih fun hs i hi => h hs i (List.mem_cons_of_mem _ hi)
      unfold managed
      split
      · exact hitems
      · refine (member_obeys (Q := anything) hD.member (fun hs => h hs item List.mem_cons_self)
          fun _ _ => trivial).bind fun id _ => ?_
        exact hitems.bind fun _ _ => .done trivial

theorem existingAuthorizers_obeys : (existingAuthorizers api).Obeys D anything := by
  refine Obeys.bind (Q := fun items => strict → ∀ item ∈ items, Identified item) ?_ fun items h =>
    managed_obeys hD h
  refine Obeys.relabel [.getAuthorizers] (obeys_collect rfl (hD.fatal rfl) fun items h => hD.admits _ h) ?_
  intro op hop f
  rw [List.mem_singleton.mp hop]
  exact hD.reports _ f _ rfl rfl

theorem createAuthorizer_obeys (region : String) (key : AuthorizerKey) :
    (createAuthorizer api region key).Obeys D anything :=
  (stage_obeys hD (hD.fatal rfl) (fun _ => ⟨rfl, rfl⟩) fun _ h => h).bind fun _ h =>
    member_obeys hD.member h fun _ _ => trivial

theorem createMissing_obeys (region : String) (keys : List AuthorizerKey) (b : Bindings) :
    (createMissing api region keys b).Obeys D anything := by
  induction keys generalizing b with
  | nil => exact .done trivial
  | cons key keys ih =>
      unfold createMissing
      split
      · exact ih b
      · exact (createAuthorizer_obeys hD region key).bind fun _ _ => ih _

theorem deleteAuthorizer_obeys (id : String) :
    (deleteAuthorizer api id).Obeys D anything :=
  (stage_obeys hD (Q := anything) (hD.fatal rfl) (fun _ => ⟨rfl, rfl⟩) fun _ _ => trivial).bind fun _ _ =>
    .done trivial

theorem deleteSuperfluous_obeys (required : List AuthorizerKey) (as : List Existing) (b : Bindings) :
    (deleteSuperfluous api required as b).Obeys D anything := by
  induction as generalizing b with
  | nil => exact .done trivial
  | cons a rest ih =>
      unfold deleteSuperfluous
      split
      · exact ih b
      · exact (deleteAuthorizer_obeys hD a.2).bind fun _ _ => ih _

/-- A synchronization may fail with the fault of a policy, and otherwise for a failed call. -/
theorem synchronize_obeys (region : String) {d : Definition}
    (hfault : ∀ fault, d.requiredAuthorizers = .error fault → D.allows fault.failure) (existing : List Existing)
    (prune : Bool) : (synchronize api region d existing prune).Obeys D anything := by
  rw [synchronize_eq]
  cases hrequired : d.requiredAuthorizers with
  | error fault => exact .fail (hfault fault hrequired)
  | ok scopes =>
      refine (createMissing_obeys hD region _ _).bind fun b _ => ?_
      refine Obeys.bind (Q := anything) ?_ fun _ _ => .note (.done trivial)
      cases prune with
      | true => exact deleteSuperfluous_obeys hD _ _ b
      | false => exact .done trivial

theorem synchronizeImported_obeys (t : Target) (i : Imported) {d : Definition}
    (hfault : ∀ fault, d.requiredAuthorizers = .error fault → D.allows fault.failure) :
    (synchronizeImported t i d).Obeys D anything := by
  unfold synchronizeImported
  split
  · exact synchronize_obeys hD t.region hfault [] false
  · exact (existingAuthorizers_obeys hD).bind fun existing _ =>
      synchronize_obeys hD t.region hfault existing true

end

section

variable {D : Discipline} (hD : D.Reconciles strict)

include hD

/-! ## Binding -/

/-- A call of the binding that has to succeed. -/
theorem bindingCall_obeys {c : Call} (hop : bindOperations.contains c.operation = true)
    (ht : (Operation.putMethodResponse :: pruneOperations).contains c.operation = false) :
    (perform c).Obeys (D.inside bindOperations) anything :=
  obeys_perform hop (hD.fatal ht) fun _ _ => trivial

/-- A response that is there already is changed instead; every other failure stands. -/
theorem declareResponse_obeys (m : MethodRef) (parameters : List (String × Bool)) :
    (declareResponse m parameters).Obeys (D.inside bindOperations) anything := by
  refine Obeys.rescueCall Discipline.nothing [.putMethodResponse] ?_ (fun _ _ => False.elim) ?_ ?_
  · exact (standingCall_obeys rfl).bind fun _ _ => .done trivial
  · intro op hop f _ htolerated
    rw [List.mem_singleton.mp hop] at htolerated
    -- the response is there, so it is changed by a call that has to succeed
    have hconflict : f.kind = .conflict :=
      (hD.tolerated _ f htolerated).elim (fun h => h.2) fun h => absurd h (by decide)
    rw [if_pos hconflict]
    exact (bindingCall_obeys hD rfl rfl).bind fun _ _ => .done trivial
  · intro op hop f hno
    rw [List.mem_singleton.mp hop] at hno ⊢
    rw [if_neg fun hconflict => hno (hD.tolerates _ f (.inl ⟨rfl, hconflict⟩))]
    exact ⟨_, rfl, by decide, rfl⟩

theorem configurePreflight_obeys (r : Resource) :
    (configurePreflight api r).Obeys (D.inside bindOperations) anything := by
  simp only [configurePreflight]
  split
  · exact .done trivial
  · refine (bindingCall_obeys hD rfl rfl).bind fun _ _ => ?_
    refine (bindingCall_obeys hD rfl rfl).bind fun _ _ => ?_
    refine (declareResponse_obeys hD _ _).bind fun _ _ => ?_
    exact (bindingCall_obeys hD rfl rfl).bind fun _ _ => .done trivial

theorem attachAuthorizer_obeys (m : MethodRef) (path : String) (b : Bindings) :
    (attachAuthorizer m path b).Obeys (D.inside bindOperations) anything := by
  unfold attachAuthorizer
  split
  · exact obeys_log trivial
  · exact (bindingCall_obeys hD rfl rfl).bind fun _ _ => .done trivial

theorem bindMethod_obeys (r : Resource) (method : Method) (baseUrl : String) (b : Bindings) :
    (bindMethod api r method baseUrl b).Obeys (D.inside bindOperations) anything := by
  have hmapping : ∀ fault, (D.inside bindOperations).allows (.mapping fault) :=
    fun fault => ⟨hD.allows _ nofun rfl rfl, fun _ => nofun⟩
  refine (obeys_ofExcept_mapError (Q := anything) (fun _ _ => trivial) hmapping).bind fun mappings _ => ?_
  refine (bindingCall_obeys hD rfl rfl).bind fun _ _ => ?_
  refine (bindingCall_obeys hD rfl rfl).bind fun _ _ => ?_
  refine (attachAuthorizer_obeys hD _ r.path b).bind fun _ _ => ?_
  refine (declareResponse_obeys hD _ _).bind fun _ _ => ?_
  exact (bindingCall_obeys hD rfl rfl).bind fun _ _ => .done trivial

theorem bindMethods_obeys (r : Resource) (baseUrl : String) (b : Bindings) (methods : List Method) :
    (bindMethods api r baseUrl b methods).Obeys (D.inside bindOperations) anything := by
  induction methods with
  | nil => exact .done trivial
  | cons method methods ih => exact (bindMethod_obeys hD r method baseUrl b).bind fun _ _ => ih

theorem bindResource_obeys (baseUrl : String) (b : Bindings) (r : Resource) :
    (bindResource api baseUrl b r).Obeys D anything := by
  refine Obeys.relabel bindOperations ?_ ?_
  · exact (configurePreflight_obeys hD r).bind fun _ _ => bindMethods_obeys hD r baseUrl b r.methods
  · intro op hop f
    fin_cases hop <;> exact hD.reports _ f _ rfl rfl

theorem bindEach_obeys (baseUrl : String) (b : Bindings) (rs : List Resource) :
    (bindEach api baseUrl b rs).Obeys D anything := by
  induction rs with
  | nil => exact .done trivial
  | cons r rs ih => exact (bindResource_obeys hD baseUrl b r).bind fun _ _ => ih

theorem bindAll_obeys (rs : List Resource) (baseUrl : String) (b : Bindings) :
    (bindAll api rs baseUrl b).Obeys D anything :=
  (bindEach_obeys hD baseUrl b _).bind fun _ _ => .note (.done trivial)

/-! ## Deploying -/

theorem deleteOthers_obeys (keep : String) {items : List Object}
    (h : strict → ∀ item ∈ items, Identified item) :
    (deleteOthers api keep items).Obeys D anything := by
  induction items with
  | nil => exact .done trivial
  | cons item items ih =>
      have hitems := ih fun hs i hi => h hs i (List.mem_cons_of_mem _ hi)
      refine (member_obeys (Q := anything) hD.member (fun hs => h hs item List.mem_cons_self)
        fun _ _ => trivial).bind fun id _ => ?_
      split
      · exact hitems
      · -- a deployment that cannot be deleted is noted, and that is all
        refine Obeys.bind (Q := anything) ?_ fun isLeft _ => hitems.bind fun _ _ => .done trivial
        refine Obeys.rescueCall Discipline.nothing [.deleteDeployment] ?_ (fun _ _ => False.elim)
          (fun _ _ _ _ _ => .note (.done trivial)) ?_
        · exact (standingCall_obeys rfl).bind fun _ _ => .done trivial
        · intro op hop f hno
          rw [List.mem_singleton.mp hop] at hno
          exact absurd (hD.tolerates _ f (.inr (by decide))) hno

theorem pruneDeployments_obeys (keep : String) :
    (pruneDeployments api keep).Obeys D anything := by
  refine Obeys.bind (Q := ListedIdentified strict) ?_ ?_
  · refine Obeys.rescueCall Discipline.nothing [.getDeployments]
      (listedDeployments_obeys fun _ h => hD.admits _ h)
      (fun _ _ => False.elim) (fun _ _ _ _ _ => .note (.done listedIdentified_none)) ?_
    intro op hop f hno
    rw [List.mem_singleton.mp hop] at hno
    exact absurd (hD.tolerates _ f (.inr (by decide))) hno
  · intro listed h
    cases listed with
    | none => exact .done trivial
    | some items => exact deleteOthers_obeys hD keep (h items rfl)

theorem deploy_obeys (stage : String) : (deploy api stage).Obeys D anything := by
  rw [deploy_eq]
  refine (stage_obeys hD.toReads (hD.fatal rfl) (fun _ => ⟨rfl, rfl⟩) fun _ h => h).bind fun reply h => ?_
  refine (member_obeys (Q := anything) hD.member h fun _ _ => trivial).bind fun deployment _ => ?_
  refine .note ((pruneDeployments_obeys hD deployment).bind fun left _ => ?_)
  refine Obeys.bind (Q := anything) ?_ fun _ _ => .done trivial
  unfold noteSuperseded
  split
  · exact obeys_log trivial
  · exact .done trivial

theorem readReference_obeys : (readReference api).Obeys D anything := by
  have hlabel : ∀ f, (readBackFailure api f).class? = some .deploying ∧
      (readBackFailure api f).cause? = some f := by
    intro f
    unfold readBackFailure
    split <;> exact ⟨rfl, rfl⟩
  refine (stage_obeys hD.toReads (hD.fatal rfl) hlabel fun reply h => h).bind fun reply h => ?_
  exact (member_obeys (Q := anything) hD.member h fun _ _ => trivial).bind fun _ _ => .done trivial

/-- **Everything that follows an import accounts for its failed calls**, if the keys can be written. -/
theorem complete_obeys (t : Target) (i : Imported) (d : Definition) (hkeys : strict → ¬d.HasLongKey)
    (baseUrl : String) : (complete t i d baseUrl).Obeys D anything := by
  have hfault : ∀ fault, d.requiredAuthorizers = .error fault → D.allows fault.failure := by
    intro fault hfault
    cases fault with
    | incomplete policy => exact hD.allows _ nofun rfl rfl
    | longInteger => exact hD.member _ (fun hs => hkeys hs hfault) rfl fun _ => nofun
  refine (fetchResources_obeys hD.toReads).bind fun resources _ => ?_
  refine (synchronizeImported_obeys hD.toReads t i hfault).bind fun bindings _ => ?_
  refine (bindAll_obeys hD resources baseUrl bindings).bind fun _ _ => ?_
  exact (deploy_obeys hD t.stage).bind fun _ _ => readReference_obeys hD

end

theorem requireBaseUrl_obeys (d : Definition) :
    (requireBaseUrl d).Obeys (reconciling strict) anything :=
  obeys_ofExcept_mapError (fun _ _ => trivial) fun _ _ => ⟨rfl, rfl⟩

theorem reimportApi_obeys (t : Target) (r : Reference) {d : Definition} (hkeys : strict → ¬d.HasLongKey) :
    (reimportApi t r d).Obeys (reconciling strict) anything :=
  (requireBaseUrl_obeys d).bind fun baseUrl _ =>
    (overwriteDefinition_obeys reconciling_reconciles.toReads d).bind fun imported _ =>
      complete_obeys reconciling_reconciles t imported d hkeys baseUrl

/-! ## Keys that cannot be written -/

/-- The discipline of a definition with a key that cannot be written: no other failure stems from no call. -/
def stalling : Discipline := classified ToleratedInSync True (· = .longInteger)

theorem stalling_reads : stalling.Reads True where
  admits _ h := h
  tolerated _ _ h := h
  reports _ _ _ hclass hcause := ⟨hclass, hcause⟩
  member _ h _ _ := absurd trivial h

/-- The postcondition of programs that never succeed. -/
def never {α : Type} (_ : α) : Prop := False

theorem synchronize_stalls {d : Definition} (hlong : d.HasLongKey) (region : String) (existing : List Existing)
    (prune : Bool) : (synchronize api region d existing prune).Obeys stalling never := by
  rw [synchronize_eq, hlong]
  exact .fail fun _ => rfl

/-- **With a key that cannot be written nothing comes past the authorizers.** -/
theorem complete_stalls {d : Definition} (hlong : d.HasLongKey) (t : Target) (i : Imported) (baseUrl : String) :
    (complete t i d baseUrl).Obeys stalling never := by
  refine (fetchResources_obeys stalling_reads).bind fun resources _ => ?_
  refine Obeys.bind (Q := never) ?_ fun _ hnever => hnever.elim
  unfold synchronizeImported
  split
  · exact synchronize_stalls hlong t.region [] false
  · exact (existingAuthorizers_obeys stalling_reads).bind fun existing _ =>
      synchronize_stalls hlong t.region existing true

/-! ## Taking down -/

/-- The disciplines that taking down keeps to: what is gone is gone on from, the other failed calls can be
reported as failures to deploy, and listed deployments have identifiers if the gateway is trusted. -/
structure Discipline.TearsDown (D : Discipline) (strict : Prop) : Prop where
  tolerates : ∀ op f, D.tolerates op f ↔ f.kind = .notFound
  reports : ∀ op f e, op.class? = some .deploying → e.class? = some .deploying → e.cause? = some f →
    D.reports op f e
  listed : ∀ api items, D.admits (.list (.deployments api) (.ok items)) → strict →
    ∀ item ∈ items, Identified item
  allows : ∀ e, ¬strict → e.class? = none → (∀ f, e ≠ .call f) → D.allows e

theorem tearingDown_tearsDown : (tearingDown strict).TearsDown strict where
  tolerates _ _ := Iff.rfl
  reports _ _ _ hop he hcause := ⟨he.trans hop.symm, hcause⟩
  listed _ _ h := h
  allows _ h _ _ hs := absurd hs h

section

variable {D : Discipline} (hD : D.TearsDown strict)

include hD

/-- A step of taking down goes on when what it addresses is gone. -/
theorem removing_obeys {α : Type} {p : Program α} {Q : α → Prop} (ops : List Operation)
    {step : DeploymentStep} {missing : α} (hp : p.Obeys (D.raw Discipline.nothing ops) Q)
    (hops : ∀ op ∈ ops, op.class? = some .deploying) (hQ : Q missing) :
    (removing p step api missing).Obeys D Q := by
  refine Obeys.rescueCall Discipline.nothing ops hp (fun _ _ => False.elim) (fun op _ f _ hgone => ?_)
    fun op hop f hthere => ?_
  · rw [if_pos ((hD.tolerates op f).mp hgone)]
    exact .done hQ
  · rw [if_neg fun hgone => hthere ((hD.tolerates op f).mpr hgone)]
    exact ⟨_, rfl, hD.reports op f _ (hops op hop) rfl rfl⟩

theorem deleteStage_obeys (stage : String) : (deleteStage api stage).Obeys D anything :=
  removing_obeys hD [.deleteStage] ((standingCall_obeys rfl).bind fun _ _ => .note (.done trivial))
    (by decide) trivial

theorem deleteDeployments_obeys {items : List Object} (h : strict → ∀ item ∈ items, Identified item) :
    (deleteDeployments api items).Obeys D anything := by
  induction items with
  | nil => exact .done trivial
  | cons item items ih =>
      have hitems := ih fun hs i hi => h hs i (List.mem_cons_of_mem _ hi)
      refine (member_obeys (Q := anything) hD.allows (fun hs => h hs item List.mem_cons_self)
        fun _ _ => trivial).bind fun id _ => ?_
      refine Obeys.bind (Q := anything) (removing_obeys hD [.deleteDeployment] ?_ (by decide) trivial)
        fun _ _ => hitems
      exact (standingCall_obeys rfl).bind fun _ _ => .done trivial

theorem takeDown_obeys (stage : String) : (takeDown api stage).Obeys D anything := by
  rw [takeDown_eq]
  refine Obeys.bind (Q := anything) (removing_obeys hD [.getStages] ?_ (by decide) trivial)
    fun stages _ => ?_
  · refine Obeys.bind (Q := anything) ?_ fun _ _ => .done trivial
    exact (standingCall_obeys rfl).bind fun _ _ => .done trivial
  cases stages with
  | none => exact .done trivial
  | some stages =>
      have hlisted : (removing ((collect (.deployments api)).bind fun items => .done (some items))
          .listDeployments api none).Obeys D (ListedIdentified strict) :=
        removing_obeys hD [.getDeployments] (listedDeployments_obeys (hD.listed api)) (by decide)
          listedIdentified_none
      -- the stage is removed if the API has any, and then all deployments are
      refine Obeys.bind (Q := anything) ?_ fun _ _ => hlisted.bind fun listed h => ?_
      · unfold removeStage
        split
        · exact deleteStage_obeys hD stage
        · exact .done trivial
      · cases listed with
        | none => exact .done trivial
        | some items => exact (deleteDeployments_obeys hD (h items rfl)).bind fun _ _ => obeys_log trivial

/-- Inside, the deletion of an API goes on when the API is gone, and the other failed calls stand. -/
theorem deleteApi_obeys : (deleteApi api).Obeys (D.raw D.tolerates removalOperations) anything := by
  rw [deleteApi_eq]
  refine Obeys.bind (Q := anything) ?_ fun isDeleted _ => Obeys.bind (Q := anything) ?_
    fun _ _ => .done trivial
  · refine Obeys.rescueCall Discipline.nothing removalOperations ?_ (fun _ _ => False.elim) ?_ ?_
    · refine (standingCall_obeys rfl).bind fun _ _ => ?_
      exact (standingCall_obeys rfl).bind fun _ _ => .done trivial
    -- an API that is gone counts as not deleted, and any other failure passes through
    · intro op _ f _ hgone
      rw [if_pos ((hD.tolerates op f).mp hgone)]
      exact .done trivial
    · intro op hop f hthere
      rw [if_neg fun hgone => hthere ((hD.tolerates op f).mpr hgone)]
      exact ⟨_, rfl, hop, rfl⟩
  · unfold noteDeleted
    split
    · exact obeys_log trivial
    · exact .done trivial

/-- **Taking an API down keeps to every discipline of taking down.** -/
theorem tearDown_obeys_of (t : Target) (r : Reference) (delete : Bool) :
    (tearDown t r delete).Obeys D anything := by
  rw [tearDown_eq]
  refine (takeDown_obeys hD t.stage).bind fun _ _ => ?_
  split
  · refine (Obeys.relabel removalOperations (deleteApi_obeys hD) ?_).bind fun _ _ => .done trivial
    intro op hop f
    fin_cases hop <;> exact hD.reports _ f _ rfl rfl rfl
  · exact .done trivial

end

/-- **Taking an API down accounts for its failed calls.** -/
theorem tearDown_obeys (t : Target) (r : Reference) (delete : Bool) :
    (tearDown t r delete).Obeys (tearingDown strict) anything :=
  tearDown_obeys_of tearingDown_tearsDown t r delete

end

end ApiReconciler
