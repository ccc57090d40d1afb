import ApiReconciler.Proofs.Authorizer.Convergence
import ApiReconciler.Proofs.Binding.Hosted
import ApiReconciler.Proofs.Reconcile.Requests

/-!
# `ApiReconciler.Proofs.Reconcile.Hosted` — the stages on a gateway that hosts the API

One lemma for each stage of a reconciliation: on a gateway that hosts the API the stage succeeds, and this
is what it leaves. Binding has a module of its own. Each lemma gives the whole of what is held afterwards,
so that the stages can be put one after the other.

## Contents
- `completes_overwriteDefinition`, `completes_fetchResources`: the definition is taken, and read back.
- `completes_synchronizeImported`: the authorizers, with everything else as it was.
- `completes_deploy`: one deployment is left, and the stage points to it.
-/

namespace ApiReconciler

open Program

section

variable {σ : Type} {b : Backend σ} {api : String} {declared : String → Declaration} {view : σ → HostedApi}
  {s : σ}

/-! ## The definition -/

/-- A reply that names the API, or none, is about the API. -/
theorem completes_addressedApi {reply : Object}
    (h : reply.get? "id" = none ∨ reply.get? "id" = some (.text api)) :
    Completes b (addressedApi api reply) s api s := by
  unfold addressedApi
  rcases h with h | h
  · rw [h]
    exact completes_done api
  · rw [h]
    exact completes_textMember h

/-- **A definition is taken**: the resources and methods are those that it declares, and everything else is
kept. -/
theorem Hosts.completes_overwriteDefinition (hb : Hosts b api declared view) (d : Definition) :
    ∃ warnings s', Completes b (overwriteDefinition api d) s ⟨.reused, api, warnings⟩ s' ∧
      view s' = { view s with
        resources := (declared d.document).resources
        methods := (declared d.document).methods } := by
  obtain ⟨a, s', ha, reply, rfl, hid, hv⟩ := hb.answers (.overwriteApi api d.document) s rfl
  refine ⟨warningsOf reply, s', ?_, hv⟩
  have hnamed : Completes b ((addressedApi api reply).bind fun named =>
      .done (⟨.reused, named, warningsOf reply⟩ : Imported)) s' ⟨.reused, api, warningsOf reply⟩ s' :=
    (completes_addressedApi hid).bind (completes_done _)
  have hlogged : Completes b (logAll ((warningsOf reply).map (Note.reimportWarning api))) s' () s' :=
    ⟨[], runs_logAll _⟩
  exact (completes_perform ha).relabel.bind (hlogged.bind hnamed.note)

/-! ## Resources -/

theorem Hosts.completes_fetchMethods (hb : Hosts b api declared view) {resource : String}
    {verbs : List String} (hverbs : ∀ verb ∈ verbs, ((view s).methods.get? (resource, verb)).isSome) :
    ∃ methods s', Completes b (fetchMethods api resource verbs) s methods s' ∧ view s' = view s ∧
      methods.map Method.verb = verbs ∧
      ∀ method ∈ methods, ∃ old, (view s).methods.get? (resource, method.verb) = some old ∧
        method.parameters = old.parameters := by
  induction verbs generalizing s with
  | nil => exact ⟨[], s, completes_done [], rfl, rfl, List.forall_mem_nil _⟩
  | cons verb verbs ih =>
      obtain ⟨hverb, hverbs⟩ := List.forall_mem_cons.mp hverbs
      obtain ⟨old, hold⟩ := Option.isSome_iff_exists.mp hverb
      obtain ⟨a, s₁, ha, hsame, hanswer⟩ := hb.answers (.getMethod ⟨api, resource, verb⟩) s rfl
      obtain ⟨reply, rfl, hparameters⟩ := hanswer old hold
      rw [← hsame] at hverbs
      obtain ⟨methods, s₂, hrun, hsame₂, hmap, hfound⟩ := ih hverbs
      refine ⟨_, s₂, (completes_perform ha).bind (hrun.bind (completes_done _)), hsame₂.trans hsame, ?_, ?_⟩
      · rw [List.map_cons, hmap]
      · intro method hm
        rcases List.mem_cons.mp hm with rfl | hm
        · exact ⟨old, hold, hparameters⟩
        · rw [← hsame]
          exact hfound method hm

theorem completes_pathOf {item : Object} {path : String}
    (h : item.get? "path" = some (.text path) ∨ item.get? "path" = none ∧ path = "/") :
    Completes b (pathOf item) s path s := by
  unfold pathOf
  rcases h with h | ⟨h, rfl⟩
  · rw [h]
    exact completes_textMember h
  · rw [h]
    exact completes_done "/"

theorem Hosts.completes_fetchListed (hb : Hosts b api declared view) {v : HostedApi} {items : List Object}
    {shown : List (String × String)} (hv : view s = v) (hshown : List.Forall₂ (Shows v) items shown) :
    ∃ rs s', Completes b (fetchListed api items) s rs s' ∧ view s' = v ∧
      rs.map (fun r => (r.id, r.path)) = shown ∧ ∀ r ∈ rs, r.ReadFrom v := by
  induction hshown generalizing s with
  | nil => exact ⟨[], s, completes_done [], hv, rfl, List.forall_mem_nil _⟩
  | @cons item r items shown hitem hshown ih =>
      subst hv
      obtain ⟨methods, s₁, hmethods, hsame₁, hmap, hfound⟩ :=
        hb.completes_fetchMethods fun verb hverb => (hitem.verbs verb).mp hverb
      obtain ⟨rs, s₂, hrest, hsame₂, hshown₂, hread⟩ := ih hsame₁
      refine ⟨⟨r.1, r.2, methods⟩ :: rs, s₂, ?_, hsame₂, ?_, ?_⟩
      · exact (completes_textMember hitem.id).bind
          ((completes_pathOf hitem.path).bind (hmethods.bind (hrest.bind (completes_done _))))
      · rw [List.map_cons, hshown₂]
      · intro r' hr'
        rcases List.mem_cons.mp hr' with rfl | hr'
        · refine ⟨?_, hfound, ?_⟩
          · rw [hmap]
            exact hitem.distinct
          · intro verb hverb
            rw [hmap]
            exact (hitem.verbs verb).mpr hverb
        · exact hread r' hr'

/-- **The resources are read** as the gateway has them, in whatever order it lists them. -/
theorem Hosts.completes_fetchResources (hb : Hosts b api declared view) :
    ∃ rs s', Completes b (fetchResources api) s rs s' ∧ view s' = view s ∧
      (rs.map fun r => (r.id, r.path)).Perm (view s).resources ∧ ∀ r ∈ rs, r.ReadFrom (view s) := by
  obtain ⟨_, pages, s₁, hl, hsame₁, items, shown, rfl, hperm, hshown⟩ := hb.lists (.resources api) s rfl
  obtain ⟨rs, s₂, hrun, hsame₂, hmap, hread⟩ := hb.completes_fetchListed hsame₁ hshown
  refine ⟨rs, s₂, ((completes_collect hl).bind hrun).relabel, hsame₂, ?_, hread⟩
  rw [hmap]
  exact hperm

/-! ## Authorizers -/

/-- Requests about authorizers leave everything else alone. -/
theorem Hosts.authorizers_only (hb : Hosts b api declared view) {α : Type} {p : Program α}
    (hp : p.Asks (Request.On api authorizerOperations)) :
    view (p.run b s).state = { view s with authorizers := (view (p.run b s).state).authorizers } := by
  -- the invariant of the run: all but the authorizers is as it was in the beginning
  let Same : σ → Prop := fun s' => view s' = { view s with authorizers := (view s').authorizers }
  have hcall : ∀ c s₁, (Request.call c).On api authorizerOperations → Same s₁ → Same (b.answer c s₁).2 := by
    intro c s₁ hc hs₁
    obtain ⟨a, s₂, ha, hanswer⟩ := hb.answers c s₁ hc.1
    rw [ha]
    show view s₂ = { view s with authorizers := (view s₂).authorizers }
    cases c with
    | createAuthorizer api' spec =>
        obtain ⟨reply, item, id, -, -, -, -, -, -, hv⟩ := hanswer
        rw [hv, hs₁]
    | deleteAuthorizer api' id =>
        rw [hanswer.2, hs₁]
    | _ => simp [Request.On, Request.operation, Call.operation, authorizerOperations] at hc
  have hlist : ∀ l s₁, (Request.list l).On api authorizerOperations → Same s₁ → Same (b.list l s₁).2.2 := by
    intro l s₁ hl hs₁
    obtain ⟨r, pages, s₂, hr, hlisted⟩ := hb.lists l s₁ hl.1
    rw [hr]
    show view s₂ = { view s with authorizers := (view s₂).authorizers }
    cases l with
    | authorizers api' =>
        rw [hlisted.1]
        exact hs₁
    | _ => simp [Request.On, Request.operation, Listing.operation, authorizerOperations] at hl
  exact hp.preserves hcall hlist rfl

/-- **The authorizers are made to match.** The bindings have the scopes of the definition, and bind a
required key to an authorizer of the key that is left. -/
theorem Hosts.completes_synchronizeImported (hb : Hosts b api declared view) {t : Target} {d : Definition}
    (warnings : List String) {scopes : ArrivalMap Scope AuthorizerKey}
    (hs : DistinctIds (view s).authorizers) (hscopes : d.requiredAuthorizers = .ok scopes)
    (hkeys : ∀ key ∈ requiredKeys scopes, Recognized t.region key) :
    ∃ bindings new made s',
      Completes b (synchronizeImported t ⟨.reused, api, warnings⟩ d) s bindings s' ∧
      Inventory (requiredKeys scopes) (view s).authorizers new made ∧
      view s' = { view s with
        authorizers := Inventory.left (requiredKeys scopes) (view s).authorizers new made } ∧
      bindings.scopes = scopes ∧ ∀ key ∈ requiredKeys scopes,
        bindings.ids.get? key = ArrivalMap.get? key (firstOf (view s).authorizers ++ made) := by
  obtain ⟨xs, bindings, new, made, s', hrun, hinventory, hleft, hsame, hids⟩ :=
    runs_resynchronize hb.keepsAuthorizers hs hscopes hkeys
  refine ⟨bindings, new, made, s', ⟨xs, hrun⟩, hinventory, ?_, hsame, hids⟩
  have hasks : (resynchronize api t.region d).Asks (Request.On api authorizerOperations) :=
    asks_bind existingAuthorizers_asks fun existing => synchronize_asks t.region d existing true
  have honly := hb.authorizers_only (s := s) hasks
  rw [hrun.state] at honly
  rw [honly]
  exact congrArg (fun items => { view s with authorizers := items }) hleft

/-! ## Deployments -/

/-- The deployments that are left when those of a list, save one, are deleted. -/
def remaining (keep : String) (listed deployments : List String) : List String :=
  deployments.filter fun id => id = keep ∨ id ∉ listed

theorem remaining_cons_self (keep : String) (listed deployments : List String) :
    remaining keep (keep :: listed) deployments = remaining keep listed deployments := by
  refine List.filter_congr fun id _ => ?_
  rw [decide_eq_decide, List.mem_cons, not_or]
  constructor
  · exact Or.imp_right And.right
  · intro h
    by_cases hid : id = keep
    · exact .inl hid
    · exact .inr ⟨hid, h.resolve_left hid⟩

theorem remaining_filter_ne {keep id : String} (hne : id ≠ keep) (listed deployments : List String) :
    remaining keep listed (deployments.filter fun other => other ≠ id) =
      remaining keep (id :: listed) deployments := by
  rw [remaining, remaining, List.filter_filter]
  refine List.filter_congr fun other _ => ?_
  rw [← Bool.decide_and, decide_eq_decide, List.mem_cons, not_or]
  constructor
  · rintro ⟨h, hother⟩
    exact h.imp_right fun h => ⟨hother, h⟩
  · rintro (rfl | ⟨hother, h⟩)
    · exact ⟨.inl rfl, hne.symm⟩
    · exact ⟨.inr h, hother⟩

/-- Nothing but the one that is kept remains when all are listed. -/
theorem remaining_of_perm {keep : String} {listed deployments : List String} (hnew : keep ∉ deployments)
    (hlisted : listed.Perm (deployments ++ [keep])) :
    remaining keep listed (deployments ++ [keep]) = [keep] := by
  have hold : remaining keep listed deployments = [] := by
    refine List.filter_eq_nil_iff.mpr fun id hid h => ?_
    rcases of_decide_eq_true h with rfl | h
    · exact hnew hid
    · exact h (hlisted.symm.subset (List.mem_append_left _ hid))
  have hkeep : remaining keep listed [keep] = [keep] := by simp [remaining]
  rw [remaining, List.filter_append]
  show remaining keep listed deployments ++ remaining keep listed [keep] = [keep]
  rw [hold, hkeep, List.nil_append]

/-- Deployments that no stage points to are deleted. -/
theorem Hosts.completes_deleteOthers (hb : Hosts b api declared view) {keep : String} {items : List Object}
    {ids : List String} (hstages : (view s).stages.values = [keep])
    (hitems : List.Forall₂ (fun item id => item.get? "id" = some (.text id)) items ids) :
    ∃ left s', Completes b (deleteOthers api keep items) s left s' ∧
      view s' = { view s with deployments := remaining keep ids (view s).deployments } := by
  induction hitems generalizing s with
  | nil => exact ⟨[], s, completes_done [], by simp [remaining]⟩
  | @cons item id items ids hid hitems ih =>
      by_cases hkeep : id = keep
      · subst hkeep
        obtain ⟨left, s', hrun, hv⟩ := ih hstages
        refine ⟨left, s', ?_, ?_⟩
        · rw [deleteOthers_cons api id hid, if_pos rfl]
          exact hrun
        · rw [remaining_cons_self]
          exact hv
      · obtain ⟨a, s₁, ha, hanswer⟩ := hb.answers (.deleteDeployment api id) s rfl
        have hfree : id ∉ (view s).stages.values := by
          rw [hstages]
          exact fun h => hkeep (List.mem_singleton.mp h)
        simp only [Answered, if_neg hfree] at hanswer
        obtain ⟨-, hv₁⟩ := hanswer
        -- whether the deletion is reported as done or not, the loop goes on
        have htry : ∃ isLeft, Completes b (tryDelete api id) s isLeft s₁ := by
          cases a with
          | ok reply => exact ⟨false, ((completes_perform ha).bind (completes_done false)).rescue⟩
          | error fault =>
              exact ⟨true, _, ((runs_perform_error ha).bind_error).rescue_error (runs_done true).note⟩
        obtain ⟨isLeft, htry⟩ := htry
        have hstages₁ : (view s₁).stages.values = [keep] := by
          rw [hv₁]
          exact hstages
        obtain ⟨left, s₂, hrun, hv₂⟩ := ih hstages₁
        refine ⟨if isLeft then id :: left else left, s₂, ?_, ?_⟩
        · rw [deleteOthers_cons api keep hid, if_neg hkeep]
          exact htry.bind (hrun.bind (completes_done _))
        · rw [hv₂, hv₁, remaining_filter_ne hkeep]

/-- **A deployment supersedes the others**: it is the one that is left, and the one that the stage points
to. -/
theorem Hosts.completes_deploy (hb : Hosts b api declared view) {stage : String}
    (hstages : ((view s).stages.map Prod.fst).Sublist [stage]) :
    ∃ id s', Completes b (deploy api stage) s id s' ∧
      view s' = { view s with deployments := [id], stages := [(stage, id)] } := by
  obtain ⟨a, s₁, ha, reply, id, rfl, hid, hnew, hv₁⟩ := hb.answers (.createDeployment api stage) s rfl
  rw [ArrivalMap.set_of_sublist_singleton hstages] at hv₁
  obtain ⟨_, pages, s₂, hl, hsame, items, ids, rfl, hperm, hitems⟩ := hb.lists (.deployments api) s₁ rfl
  have hvalues : (view s₂).stages.values = [id] := by
    rw [hsame, hv₁]
    rfl
  obtain ⟨left, s₃, hdelete, hv₃⟩ := hb.completes_deleteOthers hvalues hitems
  refine ⟨id, s₃, ?_, ?_⟩
  · rw [deploy_eq]
    have hlist : Completes b (((collect (.deployments api)).bind fun items => .done (some items)).rescueCall
        fun cause => .note (.deploymentsUnlisted api cause) (.done none)) s₁ (some items) s₂ :=
      ((completes_collect hl).bind (completes_done (some items))).rescue
    have hprune : Completes b (pruneDeployments api id) s₁ left s₃ := hlist.bind hdelete
    have hnote : Completes b (noteSuperseded api left) s₃ () s₃ := by
      unfold noteSuperseded
      split
      · exact (completes_done ()).note
      · exact completes_done ()
    exact (completes_perform ha).relabel.bind
      ((completes_textMember hid).bind (hprune.bind (hnote.bind (completes_done id))).note)
  · rw [hv₃, hsame, hv₁]
    rw [hv₁] at hperm
    rw [remaining_of_perm hnew hperm]

theorem Hosts.completes_readReference (hb : Hosts b api declared view) :
    ∃ metadata s', Completes b (readReference api) s ⟨api, metadata⟩ s' ∧ view s' = view s := by
  obtain ⟨a, s', ha, reply, rfl, hid, hv⟩ := hb.answers (.getApi api) s rfl
  refine ⟨apiMembers reply, s', ?_, hv⟩
  exact (completes_perform ha).relabel.bind ((completes_textMember hid).bind (completes_done _))

end

end ApiReconciler
