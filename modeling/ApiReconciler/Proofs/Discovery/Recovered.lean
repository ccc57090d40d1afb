import ApiReconciler.Gateway.Script
import ApiReconciler.Proofs.Binding.Integrations
import ApiReconciler.Proofs.Discovery.Questions
import ApiReconciler.Proofs.Reconcile.Accounting

/-!
# `ApiReconciler.Proofs.Discovery.Recovered` — when discovery recovers a backend

An API that was imported is looked at by discovery on a gateway that shows what the import did to it: the
listing has the methods that were declared and those that were made for preflights, in any order, and an
integration has the URI that it was last given. Discovery asks about one method alone, the first one of the
first resource with methods. Whether it recovers the backend then depends on which method that is: for a
declared one it gets the base URL with the path of its resource, for one that was made for preflights it gets
nothing, since the gateway answers these by itself (`endpointUrl_recovered_iff`). The order of the listing
decides, so that one API is discovered with its backend and without it (`preflightFirst_not_recovered`).

## Contents
- `lastIntegration?`, `Exposed`: what an import leaves of a method; `Exchange.Reflects`: a gateway that shows it.
- `Course.integrates_exposed`, `Course.lastIntegration?_uri`: the integrations that an import leaves.
- `endpointUrl_recovered_iff`: which backends discovery recovers.
-/

namespace ApiReconciler

open Program

/-! ## What an import leaves on the gateway -/

/-- The integration that an exchange gives to a method. -/
def Exchange.integrates? (m : MethodRef) : Exchange → Option Integration
  | .call (.putIntegration other i) (.ok _) => if other = m then some i else none
  | _ => none

/-- The integration that some exchanges leave a method with: the last one that it was given. -/
def lastIntegration? (m : MethodRef) (xs : List Exchange) : Option Integration :=
  (xs.filterMap (Exchange.integrates? m)).getLast?

/-- The method that an exchange makes. -/
def Exchange.makes? : Exchange → Option MethodRef
  | .call (.putMethod m _) (.ok _) => some m
  | _ => none

/-- The listing has the method. -/
def HasMethod (items : List Object) (m : MethodRef) : Prop :=
  ∃ item ∈ items, textId? item = some m.resource ∧ m.verb ∈ verbsOf item

/-- The methods of an API after an import: those that its listing shows, and those that were made. -/
def Exposed (items : List Object) (xs : List Exchange) (m : MethodRef) : Prop :=
  HasMethod items m ∨ m ∈ xs.filterMap Exchange.makes?

/-- An exchange with a gateway that shows what an import has left of an API: its resources are listed with all
methods that it has, in any order, and the integration of a method is the last one that it was given, with its
URI if it has one. -/
def Exchange.Reflects (api : String) (items : List Object) (xs : List Exchange) : Exchange → Prop
  | .list (.resources other) result => other = api →
    ∃ shown, result = .ok shown ∧ (∀ item ∈ shown, Identified item ∧ NamedMethods item) ∧
      ∀ m, m.api = api → (HasMethod shown m ↔ Exposed items xs m)
  | .call (.getIntegration m) answer => ∀ i, lastIntegration? m xs = some i →
    ∃ reply, answer = .ok reply ∧ reply.get? "uri" = i.uri.map Value.text
  | _ => True

/-- A URL that starts with a base URL. -/
def StartsWith (baseUrl : String) (url : Option Value) : Prop := ∃ path, url = some (.text (baseUrl ++ path))

section

variable {m : MethodRef} {i : Integration} {xs : List Exchange} {items : List Object}

theorem Exchange.integrates?_eq_some {x : Exchange} :
    x.integrates? m = some i ↔ ∃ reply, x = .call (.putIntegration m i) (.ok reply) := by
  constructor
  · intro h
    unfold Exchange.integrates? at h
    split at h
    · next other given reply =>
        split at h
        · next heq =>
            rw [heq, Option.some.inj h]
            exact ⟨reply, rfl⟩
        · cases h
    · cases h
  · rintro ⟨reply, rfl⟩
    exact if_pos rfl

theorem Exchange.makes?_eq_some {x : Exchange} :
    x.makes? = some m ↔ ∃ authorization reply, x = .call (.putMethod m authorization) (.ok reply) := by
  constructor
  · intro h
    unfold Exchange.makes? at h
    split at h
    · next authorization reply =>
        rw [Option.some.inj h]
        exact ⟨authorization, reply, rfl⟩
    · cases h
  · rintro ⟨authorization, reply, rfl⟩
    rfl

/-- The integration that is left was given by one of the exchanges. -/
theorem mem_of_lastIntegration? (h : lastIntegration? m xs = some i) :
    ∃ reply, .call (.putIntegration m i) (.ok reply) ∈ xs := by
  obtain ⟨x, hx, hgives⟩ := List.mem_filterMap.mp (List.mem_of_getLast? h)
  obtain ⟨reply, rfl⟩ := Exchange.integrates?_eq_some.mp hgives
  exact ⟨reply, hx⟩

/-- A method that was given an integration is left with one. -/
theorem exists_lastIntegration? {reply : Object} (h : .call (.putIntegration m i) (.ok reply) ∈ xs) :
    ∃ left, lastIntegration? m xs = some left := by
  have hgiven : i ∈ xs.filterMap (Exchange.integrates? m) :=
    List.mem_filterMap.mpr ⟨_, h, Exchange.integrates?_eq_some.mpr ⟨reply, rfl⟩⟩
  exact ⟨_, List.getLast?_eq_some_getLast (List.ne_nil_of_mem hgiven)⟩

theorem Lists.hasMethod {path : String} (h : Lists items m path) : HasMethod items m :=
  h.imp fun _ hitem => ⟨hitem.1, hitem.2.1, hitem.2.2.2⟩

/-- A method is listed at one path, when no two resources share an identifier. -/
theorem Lists.unique {path other : String} (hdistinct : (items.filterMap textId?).Nodup)
    (h : Lists items m path) (h' : Lists items m other) : path = other := by
  obtain ⟨item, hitem, hid, hpath, -⟩ := h
  obtain ⟨item', hitem', hid', hpath', -⟩ := h'
  obtain rfl := eq_of_filterMap_nodup hdistinct hitem hitem' hid hid'
  exact Option.some.inj (hpath.symm.trans hpath')

end

/-! ## Imports that succeeded -/

namespace Course

variable {t : Target} {d : Definition} {i : Imported} {baseUrl : String} {xs : List Exchange}
  (c : Course t d i baseUrl xs)

include c

/-- A method is integrated as binding plans it. -/
theorem integration_serves {m : MethodRef} {given : Integration} {answer : Answer}
    (hx : .call (.putIntegration m given) answer ∈ xs) :
    Serves i.api baseUrl (withMethods c.resources) m given := by
  have hbound := c.mem_bound hx (show Operation.putIntegration ∈ bindOperations by decide)
  exact ((bindAll_asks_planned c.resources).trace c.binding _ hbound).integrations m given rfl

/-- A method is made for preflights, on a resource that declares none. -/
theorem made_for_preflight {m : MethodRef} {authorization : String} {answer : Answer}
    (hx : .call (.putMethod m authorization) answer ∈ xs) :
    ∃ r ∈ withMethods c.resources, ¬r.DeclaresPreflight ∧ m = ⟨i.api, r.id, preflightVerb⟩ := by
  have hbound := c.mem_bound hx (show Operation.putMethod ∈ bindOperations by decide)
  exact ((bindAll_asks_planned c.resources).trace c.binding _ hbound).methods m authorization rfl

/-- **A course that binds all methods integrates every method that the API then has.** -/
theorem integrates_exposed {n : Nat} (hc : c.count = .ok n) {items : List Object}
    (hd : List.Forall₂ Describes items c.resources) {m : MethodRef} (hm : m.api = i.api)
    (hexposed : Exposed items xs m) : ∃ given, lastIntegration? m xs = some given := by
  have hbinding := c.binding
  rw [hc] at hbinding
  obtain ⟨api, resource, verb⟩ := m
  obtain rfl : api = i.api := hm
  rcases hexposed with ⟨item, hitem, hid, hverb⟩ | hmade
  · -- a declared method is bound to the backend
    obtain ⟨r, hr, hdescribes⟩ := forall₂_exists_right hd hitem
    rw [textId?_of_text hdescribes.id] at hid
    obtain rfl := Option.some.inj hid
    rw [← hdescribes.verbs] at hverb
    obtain ⟨method, hmethod, rfl⟩ := List.mem_map.mp hverb
    obtain ⟨given, shown, _, -, -, hput⟩ := (trace_bindAll hbinding r hr method hmethod).integrated
    exact exists_lastIntegration? (c.bound_subset (hput.subset List.mem_cons_self))
  · obtain ⟨x, hx, hmakes⟩ := List.mem_filterMap.mp hmade
    obtain ⟨authorization, _, rfl⟩ := Exchange.makes?_eq_some.mp hmakes
    obtain ⟨r, hr, hundeclared, hm⟩ := c.made_for_preflight hx
    obtain ⟨reply, hput⟩ := trace_bindAll_preflights hbinding r hr hundeclared
    rw [hm]
    exact exists_lastIntegration? (c.bound_subset hput)

/-- **A method is left with an integration that tells whether it was declared**, when no two resources share an
identifier: a declared method is sent to the backend at the path of its resource, and any other one is made for
preflights and is sent nowhere. -/
theorem lastIntegration?_uri {items : List Object} (hd : List.Forall₂ Describes items c.resources)
    (hdistinct : (items.filterMap textId?).Nodup) {m : MethodRef} {given : Integration}
    (h : lastIntegration? m xs = some given) :
    (∃ path, Lists items m path ∧ given.uri = some (baseUrl ++ path)) ∨
      ¬HasMethod items m ∧ m.verb = preflightVerb ∧ given.uri = none := by
  obtain ⟨reply, hput⟩ := mem_of_lastIntegration? h
  rcases c.integration_serves hput with ⟨hr, hmethod, rfl, huri⟩ | @⟨r, hr, hundeclared, rfl, rfl⟩
  · exact .inl ⟨_, (lists_iff hd).mpr ⟨_, List.mem_of_mem_filter hr, _, hmethod, rfl, rfl, rfl⟩, huri⟩
  · refine .inr ⟨?_, rfl, rfl⟩
    rintro ⟨item, hitem, hid, hverb⟩
    -- the resource that declares the verb would be the one that was found not to
    obtain ⟨other, hother, hdescribes⟩ := forall₂_exists_left hd (List.mem_of_mem_filter hr)
    obtain rfl := eq_of_filterMap_nodup hdistinct hitem hother hid (textId?_of_text hdescribes.id)
    rw [← hdescribes.verbs] at hverb
    exact hundeclared hverb

end Course

/-! ## Discovery -/

/-- Discovery asks about a method: the first one of the first resource with methods, among those it is shown. -/
inductive AsksAbout (api : String) (m : MethodRef) : List Exchange → Prop
  | intro {before after : List Object} {item reply : Object} {verbs : List String} (addressed : m.api = api)
      (methodless : ∀ other ∈ before, verbsOf other = []) (identified : textId? item = some m.resource)
      (first : verbsOf item = m.verb :: verbs) :
    AsksAbout api m [.list (.resources api) (.ok (before ++ item :: after)),
      .call (.getIntegration m) (.ok reply)]

section

variable {api : String} {items : List Object} {xs ys : List Exchange}

/-- **Discovery gets the URI of one integration** from a gateway that shows what an import has left, when the API
has methods and all of them have integrations. -/
theorem trace_endpointUrl_reflecting {r : Except Failure (Option Value)} (h : (endpointUrl api).Trace ys r)
    (hreflects : ∀ y ∈ ys, y.Reflects api items xs) (hsome : ∃ m, m.api = api ∧ Exposed items xs m)
    (hintegrated : ∀ m, m.api = api → Exposed items xs m → ∃ given, lastIntegration? m xs = some given) :
    ∃ m given, AsksAbout api m ys ∧ lastIntegration? m xs = some given ∧
      r = .ok (given.uri.map Value.text) := by
  rw [endpointUrl_eq] at h
  obtain ⟨result, zs, rfl, h⟩ := h
  obtain ⟨hlisting, hlater⟩ := List.forall_mem_cons.mp hreflects
  obtain ⟨shown, rfl, hwell, hshown⟩ := hlisting rfl
  replace h : (integrationUrl api (firstMethod? shown)).Trace zs r := h
  have hnamed : ∀ item ∈ shown, NamedMethods item := fun item hitem => (hwell item hitem).2
  cases hmethod : firstMethod? shown with
  | none =>
      -- the listing has a method, so that it is not without one
      obtain ⟨m, hm, hexposed⟩ := hsome
      obtain ⟨item, hitem, -, hverb⟩ := (hshown m hm).mpr hexposed
      rw [(firstMethod?_eq_none hnamed).mp hmethod item hitem] at hverb
      cases hverb
  | some found =>
      obtain ⟨item, verb⟩ := found
      obtain ⟨before, after, verbs, rfl, hbefore, hverbs⟩ := (firstMethod?_eq_some hnamed).mp hmethod
      have hitem : item ∈ before ++ item :: after := List.mem_append_right _ List.mem_cons_self
      obtain ⟨resource, hid⟩ := (hwell item hitem).1
      have hexposed : Exposed items xs ⟨api, resource, verb⟩ :=
        (hshown ⟨api, resource, verb⟩ rfl).mp
          ⟨item, hitem, textId?_of_text hid, hverbs ▸ List.mem_cons_self⟩
      obtain ⟨given, hgiven⟩ := hintegrated _ rfl hexposed
      rw [hmethod, integrationUrl, textMember_eq_done hid, done_bind] at h
      obtain ⟨answer, zs, rfl, h⟩ := h
      obtain ⟨reply, rfl, huri⟩ := hlater _ List.mem_cons_self given hgiven
      obtain ⟨rfl, rfl⟩ := h
      exact ⟨⟨api, resource, verb⟩, given, .intro rfl hbefore (textId?_of_text hid) hverbs, hgiven,
        congrArg Except.ok huri⟩

/-- **Discovery recovers the backend of an imported API just if the method that it asks about was declared.**
After an import that succeeded, of a definition with a declared method, and on a gateway that shows what this has
left and in which no two resources share an identifier, the question about the backend is answered. What is asked
about is the first method of the first resource with methods, in the order of the listing. If it was declared, the
URL is the base URL of the import with the path of its resource. If it was made by the import, for preflights,
there is no URL, whatever other methods the API has. -/
theorem endpointUrl_recovered_iff {σ τ : Type} (b : Backend σ) (s : σ) (shown : Backend τ) (u : τ) (t : Target)
    (d : Definition) {ref : Reference} (himport : ((importApi t d).run b s).result = .ok ref)
    (hlisted : .list (.resources api) (.ok items) ∈ (importApi t d).exchanges b s)
    (hdistinct : (items.filterMap textId?).Nodup) (hdeclared : ∃ m, m.api = api ∧ HasMethod items m)
    (hreflects : ∀ y ∈ (endpointUrl api).exchanges shown u,
      y.Reflects api items ((importApi t d).exchanges b s)) :
    ∃ baseUrl created m url, d.baseUrl = .ok baseUrl ∧
      .call (.importApi d.document) (.ok created) ∈ (importApi t d).exchanges b s ∧
      created.get? "id" = some (.text api) ∧
      AsksAbout api m ((endpointUrl api).exchanges shown u) ∧
      ((endpointUrl api).run shown u).result = .ok url ∧
      (StartsWith baseUrl url ↔ HasMethod items m) ∧
      (∀ path, Lists items m path → url = some (.text (baseUrl ++ path))) ∧
      (¬HasMethod items m → m.verb = preflightVerb ∧ url = none) := by
  have htrace := trace_run b (importApi t d) s
  rw [himport] at htrace
  obtain ⟨baseUrl, i, created, ys, hb, hexchanges, hid, hcomplete⟩ := trace_importApi_success htrace
  obtain ⟨c, n, hc⟩ := trace_complete_ok hcomplete
  obtain ⟨listed, -, honly, hd⟩ := c.listing
  rw [hexchanges] at hlisted hreflects ⊢
  have hlater := List.mem_of_ne_of_mem (by simp) hlisted
  obtain ⟨rfl, hsame⟩ := honly _ _ hlater
  obtain rfl := Except.ok.inj hsame
  -- the import itself neither makes a method nor integrates one, so what is left is left by the course
  obtain ⟨m, given, hasks, hgiven, hresult⟩ :=
    trace_endpointUrl_reflecting (trace_run shown (endpointUrl i.api) u) hreflects
      (hdeclared.imp fun m hm => ⟨hm.1, .inl hm.2⟩) fun m hm hexposed => c.integrates_exposed hc hd hm hexposed
  refine ⟨baseUrl, created, m, given.uri.map Value.text, hb, List.mem_cons_self, hid, hasks, hresult, ?_⟩
  rcases c.lastIntegration?_uri hd hdistinct hgiven with ⟨path, hlists, huri⟩ | ⟨hundeclared, hverb, huri⟩
  · rw [huri]
    have hmethod := hlists.hasMethod
    refine ⟨iff_of_true ⟨path, rfl⟩ hmethod, fun other hother => ?_, fun hundeclared => absurd hmethod hundeclared⟩
    rw [hother.unique hdistinct hlists]
    rfl
  · rw [huri]
    refine ⟨iff_of_false ?_ hundeclared, fun path hlists => absurd hlists.hasMethod hundeclared, fun _ => ?_⟩
    · rintro ⟨path, hurl⟩
      cases hurl
    · exact ⟨hverb, rfl⟩

end

/-- The resource of the API after its import, with its methods in some order. -/
def petsResource (verbs : List String) : Object :=
  [(.text "id", .text "r"), (.text "path", .text "/pets"),
    (.text "resourceMethods", .object (verbs.map fun verb => (.text verb, .null)))]

/-- Replies to discovery that have the methods in this order and the integration of the first one. -/
def petsDiscovery (verbs : List String) (integration : Object) : Script
  | .getResources => [.ok [(.text "items", .list [.object (petsResource verbs)])]]
  | .getIntegration => [.ok integration]
  | _ => []

/-- The declared method comes first. -/
def petsFirst : Script := petsDiscovery ["GET", preflightVerb] [(.text "uri", .text "https://backend/pets")]

/-- The method for preflights comes first. -/
def preflightFirst : Script := petsDiscovery [preflightVerb, "GET"] [(.text "type", .text "MOCK")]

theorem petsListing_eq : petsListing = [petsResource ["GET"]] := rfl

theorem verbsOf_petsResource (verbs : List String) : verbsOf (petsResource verbs) = verbs := by
  show (verbs.map fun verb => (Scalar.text verb, Value.null)).filterMap (fun m => (Value.scalar m.1).text?) = verbs
  rw [List.filterMap_map]
  exact List.filterMap_some

theorem hasMethod_petsResource {verbs : List String} {m : MethodRef} :
    HasMethod [petsResource verbs] m ↔ m.resource = "r" ∧ m.verb ∈ verbs := by
  have hid : textId? (petsResource verbs) = some "r" := rfl
  simp only [HasMethod, List.mem_singleton, exists_eq_left, hid, verbsOf_petsResource, Option.some.injEq,
    eq_comm (a := "r")]

theorem namedMethods_petsResource (verbs : List String) : NamedMethods (petsResource verbs) := by
  intro v hv
  obtain rfl := Option.some.inj hv
  refine ⟨_, rfl, fun m hm => ?_⟩
  obtain ⟨verb, -, rfl⟩ := List.mem_map.mp hm
  exact ⟨verb, rfl⟩

/-- After the import the API has the method that was declared and one for preflights, listed in any order. -/
theorem petsResource_reflects {verbs : List String} (hverbs : verbs.Perm ["GET", preflightVerb]) :
    (Exchange.list (.resources "a") (.ok [petsResource verbs])).Reflects "a" petsListing petsRun := by
  have hmade : petsRun.filterMap Exchange.makes? = [⟨"a", "r", preflightVerb⟩] := rfl
  refine fun _ => ⟨_, rfl, List.forall_mem_singleton.mpr ⟨⟨"r", rfl⟩, namedMethods_petsResource verbs⟩, ?_⟩
  rintro ⟨api, resource, verb⟩ (rfl : api = "a")
  unfold Exposed
  rw [petsListing_eq, hasMethod_petsResource, hasMethod_petsResource, hmade, hverbs.mem_iff]
  simp only [List.mem_cons, List.not_mem_nil, or_false, MethodRef.mk.injEq, true_and]
  tauto

/-- The import of one method that succeeded. -/
theorem petsRun_imported :
    (∃ ref, ((importApi ⟨"eu", "live"⟩ guardedPets).run (Script.backend true) petsReplies).result = .ok ref) ∧
      .list (.resources "a") (.ok petsListing) ∈ petsRun ∧ (petsListing.filterMap textId?).Nodup ∧
      HasMethod petsListing ⟨"a", "r", "GET"⟩ := by
  have hlisted : petsRun[1]? = some (.list (.resources "a") (.ok petsListing)) := rfl
  refine ⟨⟨_, rfl⟩, List.mem_of_getElem? hlisted, List.nodup_singleton "r", ?_⟩
  rw [petsListing_eq, hasMethod_petsResource]
  exact ⟨rfl, List.mem_cons_self⟩

/-- Discovery of this API reflects the import when the integration is that of the first method. -/
theorem petsDiscovery_reflects {verb other : String} {integration : Object} {i : Integration}
    (hverbs : [verb, other].Perm ["GET", preflightVerb])
    (hlast : lastIntegration? ⟨"a", "r", verb⟩ petsRun = some i)
    (huri : integration.get? "uri" = i.uri.map Value.text) :
    ∀ y ∈ (endpointUrl "a").exchanges (Script.backend true) (petsDiscovery [verb, other] integration),
      y.Reflects "a" petsListing petsRun := by
  refine List.forall_mem_cons.mpr ⟨petsResource_reflects hverbs, List.forall_mem_singleton.mpr ?_⟩
  intro given hgiven
  obtain rfl := Option.some.inj (hlast.symm.trans hgiven)
  exact ⟨integration, rfl, huri⟩

theorem petsFirst_recovered :
    ∃ m, AsksAbout "a" m ((endpointUrl "a").exchanges (Script.backend true) petsFirst) ∧ HasMethod petsListing m ∧
      ((endpointUrl "a").run (Script.backend true) petsFirst).result = .ok (some (.text "https://backend/pets")) := by
  obtain ⟨⟨ref, himport⟩, hlisted, hdistinct, hdeclared⟩ := petsRun_imported
  obtain ⟨baseUrl, created, m, url, hb, -, -, hasks, hresult, hrecovered, -, -⟩ :=
    endpointUrl_recovered_iff (Script.backend true) petsReplies (Script.backend true) petsFirst ⟨"eu", "live"⟩
      guardedPets himport hlisted hdistinct ⟨_, rfl, hdeclared⟩
      (petsDiscovery_reflects (List.Perm.refl _) rfl rfl)
  obtain rfl : "https://backend" = baseUrl := Except.ok.inj hb
  obtain rfl : some (.text "https://backend/pets") = url := Except.ok.inj hresult
  exact ⟨m, hasks, hrecovered.mp ⟨"/pets", rfl⟩, hresult⟩

/-- The API has a declared method and was imported with the base URL `https://backend`, and the gateway shows it
as it is; yet discovery gets no URL, because the method for preflights comes first. -/
theorem preflightFirst_not_recovered :
    ((∃ ref, ((importApi ⟨"eu", "live"⟩ guardedPets).run (Script.backend true) petsReplies).result = .ok ref) ∧
      .list (.resources "a") (.ok petsListing) ∈ petsRun ∧ (petsListing.filterMap textId?).Nodup ∧
      HasMethod petsListing ⟨"a", "r", "GET"⟩) ∧
      guardedPets.baseUrl = .ok "https://backend" ∧
      (∀ y ∈ (endpointUrl "a").exchanges (Script.backend true) preflightFirst,
        y.Reflects "a" petsListing petsRun) ∧
      ¬∃ url, ((endpointUrl "a").run (Script.backend true) preflightFirst).result = .ok url ∧
        StartsWith "https://backend" url := by
  refine ⟨petsRun_imported, rfl, petsDiscovery_reflects (List.Perm.swap _ _ _) rfl rfl, ?_⟩
  rintro ⟨url, hresult, path, rfl⟩
  cases hresult

end ApiReconciler
