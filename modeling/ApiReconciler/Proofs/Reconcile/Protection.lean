import ApiReconciler.Proofs.Authorizer.Synchronization
import ApiReconciler.Proofs.Binding.Bound
import ApiReconciler.Proofs.Reconcile.Course
import ApiReconciler.Proofs.Reconcile.Resources
import ApiReconciler.Gateway.Script

/-!
# `ApiReconciler.Proofs.Reconcile.Protection` — nothing is deployed unbound or unprotected

A run that comes to a deployment has been through three stages before it: the resources were read, the
authorizers synchronized, and the methods bound. Nothing else in the run lists resources or touches an
authorizer. What a method is bound to then follows from the stages: its resource is listed, the key of its
operation is a required one, and a required key is bound to an authorizer that was found or made for it.

## Contents
- `operationKey?`: the key of an operation, and `resolve_eq`: what the bindings resolve it to.
- `Held`: an authorizer obtained for a key and not deleted.
- `deployed_bound_and_protected`: the runs of `sync`, up to a deployment and altogether.
-/

namespace ApiReconciler

open Program

variable {t : Target} {d : Definition} {xs ys : List Exchange}

/-! ## Operations and their keys -/

/-- The key that an operation is authorized with: the one of its own policy, else the API's. -/
def operationKey? (scopes : ArrivalMap Scope AuthorizerKey) (path verb : String) : Option AuthorizerKey :=
  (scopes.get? (Scope.of path verb)).or (scopes.get? .api)

/-- When every required key is bound, an operation gets the authorizer of its key. -/
theorem resolve_eq {b : Bindings} (hb : ∀ key ∈ requiredKeys b.scopes, ∃ id, b.ids.get? key = some id)
    (path verb : String) :
    b.resolve path verb = (operationKey? b.scopes path verb).bind fun key => b.ids.get? key := by
  unfold Bindings.resolve Bindings.idOf operationKey?
  cases hs : b.scopes.get? (Scope.of path verb) with
  | none => cases b.scopes.get? .api <;> rfl
  | some key =>
      obtain ⟨id, hid⟩ := hb key (mem_requiredKeys hs)
      simp only [hid, Option.some_or, Option.bind_some]

theorem mem_requiredKeys_of_operationKey? {scopes : ArrivalMap Scope AuthorizerKey} {path verb : String}
    {key : AuthorizerKey} (h : operationKey? scopes path verb = some key) : key ∈ requiredKeys scopes := by
  rcases Option.or_eq_some_iff.mp h with h | ⟨-, h⟩
  · exact mem_requiredKeys h
  · exact mem_requiredKeys h

/-- The exchange brings an authorizer of a key to light: it is listed, or made. -/
inductive Obtains (api region : String) (key : AuthorizerKey) (id : String) : Exchange → Prop
  | listed {items : List Object} {item : Object} (hitem : item ∈ items)
      (hkey : AuthorizerKey.ofAuthorizer? item = some key) (hid : textId? item = some id) :
    Obtains api region key id (.list (.authorizers api) (.ok items))
  | made {x : Exchange} (hmade : Made api region (key, id) x) : Obtains api region key id x

/-- An authorizer that was obtained for a key and is not deleted. -/
structure Held (api region : String) (key : AuthorizerKey) (id : String) (xs : List Exchange) : Prop where
  obtained : ∃ x ∈ xs, Obtains api region key id x
  kept : ∀ x ∈ xs, x.request ≠ .call (.deleteAuthorizer api id)

theorem Held.mono {api region : String} {key : AuthorizerKey} {id : String} (h : Held api region key id xs)
    (hxs : xs ⊆ ys) (hys : ∀ y ∈ ys, y.request.operation = .deleteAuthorizer → y ∈ xs) :
    Held api region key id ys := by
  refine ⟨h.obtained.imp fun x hx => ⟨hxs hx.1, hx.2⟩, fun y hy he => ?_⟩
  exact h.kept y (hys y hy (by rw [he]; rfl)) he

/-- A synchronization holds an authorizer for every required key. -/
theorem trace_synchronizeImported {i : Imported} {b : Bindings}
    (hids : (xs.flatMap Exchange.authorizerIds).Nodup)
    (h : (synchronizeImported t i d).Trace xs (.ok b)) :
    d.requiredAuthorizers = .ok b.scopes ∧
      ∀ key ∈ requiredKeys b.scopes, ∃ id, b.ids.get? key = some id ∧ Held i.api t.region key id xs := by
  unfold synchronizeImported at h
  split at h
  · obtain ⟨hscopes, hkeys⟩ := trace_synchronize (by simpa using hids) h
    refine ⟨hscopes, fun key hkey => ?_⟩
    obtain ⟨id, hid, ⟨⟨⟩⟩ | ⟨-, hx, hmade⟩, hkept⟩ := hkeys key hkey
    exact ⟨id, hid, ⟨_, hx, .made hmade⟩, hkept⟩
  · obtain ⟨existing, us, ws, rfl, hexisting, hsync⟩ := trace_bind_ok.mp h
    obtain ⟨items, vs, zs, rfl, hlist, hmanaged⟩ := trace_bind_ok.mp hexisting
    obtain rfl := trace_collect_ok.mp (trace_relabel_ok.mp hlist)
    obtain ⟨rfl, rfl⟩ := trace_managed hmanaged
    rw [List.append_nil, List.singleton_append, List.flatMap_cons, Exchange.authorizerIds] at hids
    obtain ⟨hscopes, hkeys⟩ :=
      trace_synchronize (hids.sublist ((keyed_ids_sublist items).append (List.Sublist.refl _))) hsync
    refine ⟨hscopes, fun key hkey => ?_⟩
    obtain ⟨id, hid, hfound, hkept⟩ := hkeys key hkey
    refine ⟨id, hid, ?_, fun x hx => ?_⟩
    · rcases hfound with hfirst | ⟨-, hx, hmade⟩
      · obtain ⟨item, hitem, hk⟩ := List.mem_filterMap.mp (ArrivalMap.mem_of_get? hfirst)
        obtain ⟨hkey, hid⟩ := keyed?_eq_some_iff.mp hk
        exact ⟨_, List.mem_append_left _ List.mem_cons_self, .listed hitem hkey hid⟩
      · exact ⟨_, List.mem_append_right _ hx, .made hmade⟩
    · rw [List.append_nil] at hx
      rcases List.mem_append.mp hx with hx | hx
      · rw [List.mem_singleton.mp hx, Exchange.request_list]
        simp
      · exact hkept x hx

/-! ## Listed methods -/

/-- The path of an object: the root when it has none. -/
def textPath? (item : Object) : Option String :=
  match item.get? "path" with
  | none => some "/"
  | some v => v.text?

/-- A method of one of the listed objects, at the path of the object. -/
def Lists (items : List Object) (m : MethodRef) (path : String) : Prop :=
  ∃ item ∈ items, textId? item = some m.resource ∧ textPath? item = some path ∧ m.verb ∈ verbsOf item

theorem Describes.textPath? {item : Object} {r : Resource} (h : Describes item r) :
    textPath? item = some r.path := by
  unfold ApiReconciler.textPath?
  rcases h.path with hp | ⟨hp, hr⟩
  · rw [hp]; rfl
  · rw [hp, hr]

/-- Listed methods are the methods of the resources that the listing describes. -/
theorem lists_iff {items : List Object} {rs : List Resource} (h : List.Forall₂ Describes items rs)
    {m : MethodRef} {path : String} :
    Lists items m path ↔
      ∃ r ∈ rs, ∃ method ∈ r.methods, m.resource = r.id ∧ path = r.path ∧ m.verb = method.verb := by
  constructor
  · rintro ⟨item, hitem, hid, hpath, hverb⟩
    obtain ⟨r, hr, hd⟩ := forall₂_exists_right h hitem
    rw [textId?_of_text hd.id] at hid
    rw [hd.textPath?] at hpath
    rw [← hd.verbs] at hverb
    obtain ⟨method, hm, hv⟩ := List.mem_map.mp hverb
    exact ⟨r, hr, method, hm, (Option.some.inj hid).symm, (Option.some.inj hpath).symm, hv.symm⟩
  · rintro ⟨r, hr, method, hm, hid, rfl, hverb⟩
    obtain ⟨item, hitem, hd⟩ := forall₂_exists_left h hr
    refine ⟨item, hitem, ?_, hd.textPath?, ?_⟩
    · rw [textId?_of_text hd.id, hid]
    · rw [← hd.verbs, hverb]
      exact List.mem_map_of_mem hm

/-! ## Courses -/

namespace Course

variable {i : Imported} {baseUrl : String} (c : Course t d i baseUrl xs)

include c

/-- A course lists resources once, and these are the ones it binds. -/
theorem listing :
    ∃ items, .list (.resources i.api) (.ok items) ∈ c.fetched ∧
      (∀ api result, .list (.resources api) result ∈ xs → api = i.api ∧ result = .ok items) ∧
      List.Forall₂ Describes items c.resources := by
  obtain ⟨items, ys, hfetched, hmethods, hd⟩ := trace_fetchResources c.reading
  refine ⟨items, by rw [hfetched]; exact List.mem_cons_self, fun api result hx => ?_, hd⟩
  have hx' := c.mem_fetched hx rfl
  rw [hfetched] at hx'
  rcases List.mem_cons.mp hx' with he | hy
  · injection he with hl hr
    injection hl with ha
    exact ⟨ha, hr⟩
  · exact absurd (hmethods _ hy) (show Operation.getResources ≠ .getMethod by decide)

theorem synced_sublist : c.synced.Sublist xs := by
  have h : c.synced.Sublist (c.fetched ++ (c.synced ++ (c.bound ++ c.rest))) :=
    (List.sublist_append_left _ _).trans (List.sublist_append_right _ _)
  rwa [← c.exchanges] at h

/-- What an operation is resolved to is held for its key, and there is nothing for an operation without
one. -/
theorem authorizers (hids : (xs.flatMap Exchange.authorizerIds).Nodup) :
    d.requiredAuthorizers = .ok c.bindings.scopes ∧ ∀ path verb,
      Option.Rel (fun key id => Held i.api t.region key id xs) (operationKey? c.bindings.scopes path verb)
        (c.bindings.resolve path verb) := by
  obtain ⟨hscopes, hkeys⟩ :=
    trace_synchronizeImported (hids.sublist (c.synced_sublist.flatMap _)) c.synchronizing
  refine ⟨hscopes, fun path verb => ?_⟩
  rw [resolve_eq fun key hkey => (hkeys key hkey).imp fun _ h => h.1]
  cases hk : operationKey? c.bindings.scopes path verb with
  | none => exact .none
  | some key =>
      obtain ⟨id, hid, hheld⟩ := hkeys key (mem_requiredKeys_of_operationKey? hk)
      rw [Option.bind_some, hid]
      exact .some (hheld.mono c.synced_sublist.subset fun x hx => c.mem_synced hx)

/-- A change of authorization is one that binding makes. -/
theorem updates {m : MethodRef} {patches : List Patch} {answer : Answer}
    (hx : .call (.updateMethod m patches) answer ∈ xs) :
    ∃ r ∈ c.resources, ∃ method ∈ r.methods, ∃ id, m = ⟨i.api, r.id, method.verb⟩ ∧
      c.bindings.resolve r.path method.verb = some id ∧ patches = authorizationPatches id :=
  have hbound := c.mem_bound hx (show Operation.updateMethod ∈ bindOperations by decide)
  (bindAll_asks_resolved c.resources).trace c.binding _ hbound m patches rfl

/-- A course that deploys has bound everything. -/
theorem bound_of_deployed {api stage : String} {answer : Answer}
    (hx : .call (.createDeployment api stage) answer ∈ xs) :
    api = i.api ∧ ∀ r ∈ c.resources, ∀ method ∈ r.methods,
      MethodBound ⟨i.api, r.id, method.verb⟩ (baseUrl ++ r.path)
        (c.bindings.resolve r.path method.verb) c.bound := by
  have hop : (Exchange.call (.createDeployment api stage) answer).request.operation =
      .createDeployment := rfl
  have hrest := c.mem_rest hx hop
  refine ⟨Option.some.inj (c.closing _ hrest).1, ?_⟩
  cases hc : c.count with
  | error e => exact absurd hop ((c.stopped e hc _ hrest).ne (by decide))
  | ok n =>
      have hbinding := c.binding
      rw [hc] at hbinding
      exact trace_bindAll hbinding

/-- What precedes a deployment contains all that was exchanged up to the binding of methods. -/
theorem prefix_of_deployed {before pre post : List Exchange} {x : Exchange}
    (hop : x.request.operation = .createDeployment)
    (hbefore : ∀ x ∈ before, x.request.operation ∈ importOperations)
    (h : before ++ xs = pre ++ x :: post) :
    before ++ (c.fetched ++ (c.synced ++ c.bound)) <+: pre := by
  have hx : before ++ xs = before ++ (c.fetched ++ (c.synced ++ c.bound)) ++ c.rest := by
    rw [List.append_assoc, List.append_assoc, List.append_assoc]
    exact congrArg (before ++ ·) c.exchanges
  refine prefix_of_append_eq (hx.symm.trans h) fun hm => ?_
  rcases List.mem_append.mp hm with hm | hm
  · exact absurd (hbefore x hm) (by rw [hop]; decide)
  · rw [List.mem_append, List.mem_append] at hm
    rcases hm with hm | hm | hm
    · exact absurd hop ((fetchResources_asks.trace c.reading x hm).ne (by decide))
    · exact absurd hop (((synchronizeImported_asks t i d).trace c.synchronizing x hm).ne (by decide))
    · exact absurd hop (((bindAll_asks _ _ _).trace c.binding x hm).ne (by decide))

end Course

/-! ## Runs -/

/-- **Nothing is deployed unbound or unprotected.** In a run in which no identifier of an authorizer is
given twice, a deployment comes after the listing of the resources, and every listed method was bound to
the backend before it: by its integration, by its response and, exactly if its operation has a key, by an
authorizer that the run obtained for this key and does not delete. Whether the run deploys or not, it
changes the authorization of a method in no other way. -/
theorem deployed_bound_and_protected {σ : Type} (b : Backend σ) (s : σ) (t : Target) (d : Definition)
    (r : Option Reference) (hrun : (sync t d r).exchanges b s = xs)
    (hids : (xs.flatMap Exchange.authorizerIds).Nodup) :
    (∀ pre api stage answer post, xs = pre ++ .call (.createDeployment api stage) answer :: post →
      ∃ baseUrl scopes items, d.baseUrl = .ok baseUrl ∧ d.requiredAuthorizers = .ok scopes ∧
        .list (.resources api) (.ok items) ∈ pre ∧
        (∀ other result, .list (.resources other) result ∈ xs → other = api ∧ result = .ok items) ∧
        (∀ item ∈ items, (textId? item).isSome ∧ (textPath? item).isSome) ∧
        ∀ m path, m.api = api → Lists items m path →
          ∃ authorizer, MethodBound m (baseUrl ++ path) authorizer pre ∧
            Option.Rel (fun key id => Held api t.region key id xs) (operationKey? scopes path m.verb)
              authorizer) ∧
      ∀ m patches answer, .call (.updateMethod m patches) answer ∈ xs →
        ∃ scopes items path key id, d.requiredAuthorizers = .ok scopes ∧
          .list (.resources m.api) (.ok items) ∈ xs ∧ Lists items m path ∧
          operationKey? scopes path m.verb = some key ∧ Held m.api t.region key id xs ∧
          patches = authorizationPatches id := by
  have h := trace_run b (sync t d r) s
  rw [hrun] at h
  rcases trace_sync h with hopening | ⟨i, baseUrl, before, ys, rfl, hb, hbefore, ⟨c⟩⟩
  · constructor
    · rintro pre api stage answer post rfl
      have hop := hopening _ (List.mem_append_right pre List.mem_cons_self)
      exact absurd hop (show Operation.createDeployment ∉ openingOperations by decide)
    · intro m patches answer hx
      exact absurd (hopening _ hx) (show Operation.updateMethod ∉ openingOperations by decide)
  -- from here on the run has a course; facts about it carry over to the whole run, which has no more than
  -- the import before it
  obtain ⟨items, hlist, honly, hd⟩ := c.listing
  have hids' : (ys.flatMap Exchange.authorizerIds).Nodup :=
    hids.sublist ((List.sublist_append_right before ys).flatMap _)
  obtain ⟨hscopes, hauthorizers⟩ := c.authorizers hids'
  have hafter : ∀ {x}, x ∈ before ++ ys → x.request.operation ∉ importOperations → x ∈ ys :=
    fun hx ho => (List.mem_append.mp hx).resolve_left fun hm => ho (hbefore _ hm)
  have hheld : ∀ {key id}, Held i.api t.region key id ys → Held i.api t.region key id (before ++ ys) :=
    fun hh => hh.mono (List.subset_append_right before ys) fun x hx ho => hafter hx (by rw [ho]; decide)
  constructor
  · intro pre api stage answer post hx
    have hdeploys : .call (.createDeployment api stage) answer ∈ ys :=
      hafter (by rw [hx]; simp) (show Operation.createDeployment ∉ importOperations by decide)
    obtain ⟨rfl, hbound⟩ := c.bound_of_deployed hdeploys
    have hpre := c.prefix_of_deployed rfl hbefore hx
    refine ⟨baseUrl, c.bindings.scopes, items, hb, hscopes, hpre.subset (by simp [hlist]), ?_, ?_, ?_⟩
    · exact fun other result hx => honly other result
        (hafter hx (show Operation.getResources ∉ importOperations by decide))
    · intro item hitem
      obtain ⟨r, -, hdescribes⟩ := forall₂_exists_right hd hitem
      rw [textId?_of_text hdescribes.id, hdescribes.textPath?]
      exact ⟨rfl, rfl⟩
    · intro m path hm hlists
      obtain ⟨r, hr, method, hmethod, hid, rfl, hverb⟩ := (lists_iff hd).mp hlists
      obtain rfl : m = ⟨i.api, r.id, method.verb⟩ := by
        cases m
        simp_all
      refine ⟨_, (hbound r hr method hmethod).mono ?_, ?_⟩
      · refine List.Sublist.trans ?_ hpre.sublist
        simp only [← List.append_assoc]
        exact List.sublist_append_right _ _
      · exact rel_imp (fun _ _ => hheld) (hauthorizers r.path method.verb)
  · intro m patches answer hx
    have hx' := hafter hx (show Operation.updateMethod ∉ importOperations by decide)
    obtain ⟨r, hr, method, hmethod, id, rfl, hresolve, hp⟩ := c.updates hx'
    have hrel := hauthorizers r.path method.verb
    rw [hresolve] at hrel
    obtain ⟨key, hkey, hid⟩ := rel_some_right hrel
    have hlisted : .list (.resources i.api) (.ok items) ∈ before ++ ys := by
      rw [c.exchanges]
      simp [hlist]
    refine ⟨c.bindings.scopes, items, r.path, key, id, hscopes, hlisted, ?_, hkey, hheld hid, hp⟩
    exact (lists_iff hd).mpr ⟨r, hr, method, hmethod, rfl, rfl, rfl⟩

/-- A definition whose API asks for an authorizer. -/
def guardedPets : Definition where
  id := "pets"
  name := "Pets"
  version := "1.0.0"
  context := none
  document := ""
  endpoint := .mapping [(.text "production_endpoints", .object [(.text "url", .text "https://backend/")])]
  policies := [⟨authorizerPolicyName,
    [(.text "lambdaARN", .text "check"), (.text "invokeRoleARN", .text "caller")]⟩]
  routes := [⟨"/pets", "GET", []⟩]
  description := none
  organization := none
  createdTime := none
  discovered := false

/-- The listing of a resource with one method. -/
def petsListing : List Object :=
  [[(.text "id", .text "r"), (.text "path", .text "/pets"),
    (.text "resourceMethods", .object [(.text "GET", .null)])]]

/-- Replies to a first import of this definition. -/
def petsReplies : Script
  | .importApi => [.ok [(.text "id", .text "a")]]
  | .getResources => [.ok [(.text "items", .list (petsListing.map .object))]]
  | .createAuthorizer => [.ok [(.text "id", .text "k")]]
  | .createDeployment => [.ok [(.text "id", .text "d")]]
  | .getApi => [.ok [(.text "id", .text "a")]]
  | _ => []

/-- The first import of this definition. -/
def petsRun : List Exchange :=
  (sync ⟨"eu", "live"⟩ guardedPets none).exchanges (Script.backend true) petsReplies

theorem petsRun_bound_and_protected :
    ∃ pre post answer, petsRun = pre ++ .call (.createDeployment "a" "live") answer :: post ∧
      ∃ id, MethodBound ⟨"a", "r", "GET"⟩ "https://backend/pets" (some id) pre ∧
        Held "a" "eu" ⟨"check", "caller"⟩ id petsRun := by
  have hids : (petsRun.flatMap Exchange.authorizerIds).Nodup := by decide
  have hlisting : petsRun[1]? = some (.list (.resources "a") (.ok petsListing)) := rfl
  have hdeployment : petsRun[13]? =
      some (.call (.createDeployment "a" "live") (.ok [(.text "id", .text "d")])) := rfl
  obtain ⟨pre, post, hx⟩ := List.append_of_mem (List.mem_of_getElem? hdeployment)
  obtain ⟨baseUrl, scopes, items, hb, hs, -, honly, -, hmethods⟩ :=
    (deployed_bound_and_protected (Script.backend true) petsReplies ⟨"eu", "live"⟩ guardedPets none rfl
      hids).1 _ _ _ _ _ hx
  obtain rfl := Except.ok.inj (honly _ _ (List.mem_of_getElem? hlisting)).2
  obtain rfl : "https://backend" = baseUrl := Except.ok.inj hb
  have hlists : Lists petsListing ⟨"a", "r", "GET"⟩ "/pets" :=
    ⟨_, List.mem_cons_self, rfl, rfl, List.mem_cons_self⟩
  obtain ⟨authorizer, hbound, hheld⟩ := hmethods ⟨"a", "r", "GET"⟩ "/pets" rfl hlists
  have hkey : operationKey? scopes "/pets" "GET" = some ⟨"check", "caller"⟩ := by
    rw [← Except.ok.inj hs]
    decide
  rw [hkey] at hheld
  cases hheld with
  | some hheld => exact ⟨pre, post, _, hx, _, hbound, hheld⟩

end ApiReconciler
