import ApiReconciler.Proofs.Authorizer.Key

/-!
# `ApiReconciler.Proofs.Authorizer.Scope` — the policy that decides on a scope

The scopes of a definition are collected route by route into a map. Within a route the first policy that asks
for an authorizer counts, as it does for the API as a whole. Between routes it is the other way round: several
of them can fall on one scope, since case does not matter and operations can be repeated, and a route that asks
for an authorizer sets the scope anew. So the policy that decides on the scope of an operation is the first one
of the *last* route that has one (`Definition.Decides`).

A scope is bound just if some policy for it asks for an authorizer, and to the key of the first such policy in
the order of the definition wherever the routes of the scope agree on the key. Routes that do not agree are the
case in which the first policy does not win.

## Contents
- `get?_addRoutes`: one route after the other.
- `Definition.policiesAt`, `Definition.Decides`: the policies for a scope, and the one that decides.
- `scopes_bound_by_last_route`: **the key that each scope is bound to**.
-/

namespace ApiReconciler

/-! ## One route -/

/-- The policy by which a route asks for an authorizer in a scope. -/
def Route.policyAt? (s : Scope) (r : Route) : Option Policy :=
  if Scope.of r.path r.verb = s then authorizerPolicy? r.policies else none

theorem Route.policyAt?_self (r : Route) :
    r.policyAt? (Scope.of r.path r.verb) = authorizerPolicy? r.policies := if_pos rfl

theorem Route.policyAt?_eq_some {s : Scope} {r : Route} {p : Policy} :
    r.policyAt? s = some p ↔ Scope.of r.path r.verb = s ∧ authorizerPolicy? r.policies = some p := by
  unfold Route.policyAt?
  by_cases hs : Scope.of r.path r.verb = s
  · simp [hs]
  · simp [hs]

/-- No route falls on the scope of the whole API. -/
theorem Route.policyAt?_api (r : Route) : r.policyAt? .api = none := by
  have hne : Scope.of r.path r.verb ≠ .api := by
    unfold Scope.of
    intro h
    cases h
  exact if_neg hne

/-! ## One route after the other -/

/-- The key of a policy, if it has one. -/
def Policy.key? (p : Policy) : Option AuthorizerKey := p.authorizerKey.toOption

theorem Policy.key?_eq_some {p : Policy} {key : AuthorizerKey} :
    p.key? = some key ↔ p.authorizerKey = .ok key := by
  unfold Policy.key?
  cases p.authorizerKey with
  | error e => simp [Except.toOption]
  | ok k => simp [Except.toOption]

section

variable {routes : List Route} {scopes scopes' : ArrivalMap Scope AuthorizerKey}

/-- **The last route that asks for an authorizer in a scope sets it.** Without one the scope stays as it was. -/
theorem get?_addRoutes (h : addRoutes routes scopes = .ok scopes') (s : Scope) :
    ArrivalMap.get? s scopes' =
      match routes.reverse.findSome? (Route.policyAt? s) with
      | none => ArrivalMap.get? s scopes
      | some p => p.key? := by
  induction routes generalizing scopes with
  | nil =>
      unfold addRoutes at h
      rw [Except.ok.inj h]
      rfl
  | cons r rs ih =>
      obtain ⟨next, hr, hrs⟩ := addRoutes_cons_ok h
      rw [ih hrs, List.reverse_cons, List.findSome?_append]
      cases hlater : rs.reverse.findSome? (Route.policyAt? s) with
      | some p => rfl
      | none =>
          -- no later route asks, so this one sets the scope if it asks
          simp only [Option.none_or, List.findSome?_singleton]
          by_cases hs : Scope.of r.path r.verb = s
          · subst hs
            rw [Route.policyAt?_self]
            obtain ⟨hnone, rfl⟩ | ⟨p, key, hp, hkey, rfl⟩ := addRequired_ok hr
            · rw [hnone]
            · rw [hp, ArrivalMap.get?_set_self]
              exact (Policy.key?_eq_some.mpr hkey).symm
          · have hother : r.policyAt? s = none := if_neg hs
            rw [hother]
            obtain ⟨-, rfl⟩ | ⟨p, key, -, -, rfl⟩ := addRequired_ok hr
            · rfl
            · exact ArrivalMap.get?_set_of_ne _ _ (Ne.symm hs)

/-- Every policy by which a route asks for an authorizer has a key. -/
theorem key_of_addRoutes (h : addRoutes routes scopes = .ok scopes') {r : Route} (hr : r ∈ routes) {p : Policy}
    (hp : authorizerPolicy? r.policies = some p) : ∃ key, p.authorizerKey = .ok key := by
  induction routes generalizing scopes with
  | nil => cases hr
  | cons first rs ih =>
      obtain ⟨next, hfirst, hrest⟩ := addRoutes_cons_ok h
      rcases List.mem_cons.mp hr with rfl | hr
      · obtain ⟨hnone, -⟩ | ⟨q, key, hq, hkey, -⟩ := addRequired_ok hfirst
        · rw [hnone] at hp
          cases hp
        · rw [hq] at hp
          exact ⟨key, Option.some.inj hp ▸ hkey⟩
      · exact ih hrest hr

end

/-! ## The policy that decides -/

/-- The policies for a scope, in the order of the definition. -/
def Definition.policiesAt (d : Definition) (s : Scope) : List Policy :=
  match s with
  | .api => d.policies
  | s => (d.routes.filter fun r => Scope.of r.path r.verb = s).flatMap Route.policies

/-- The policy that decides on a scope: of the API's policies the first one that asks for an authorizer, of the
routes' the first one of the last route in the scope that has one. -/
inductive Definition.Decides (d : Definition) : Scope → Policy → Prop
  | api {p : Policy} (asks : authorizerPolicy? d.policies = some p) : d.Decides .api p
  | route {before after : List Route} {r : Route} {p : Policy} (routes : d.routes = before ++ r :: after)
      (asks : authorizerPolicy? r.policies = some p)
      (last : ∀ later ∈ after, Scope.of later.path later.verb = Scope.of r.path r.verb →
        authorizerPolicy? later.policies = none) : d.Decides (Scope.of r.path r.verb) p

section

variable {d : Definition} {s : Scope} {p : Policy}

/-- The first policy for the scope of an operation is that of the first route that asks in it. -/
theorem authorizerPolicy?_policiesAt_operation (d : Definition) (path verb : String) :
    authorizerPolicy? (d.policiesAt (.operation path verb)) =
      d.routes.findSome? (Route.policyAt? (.operation path verb)) := by
  unfold Definition.policiesAt authorizerPolicy?
  induction d.routes with
  | nil => rfl
  | cons r rs ih =>
      rw [List.findSome?_cons]
      by_cases hs : Scope.of r.path r.verb = .operation path verb
      · have hr : r.policyAt? (.operation path verb) = authorizerPolicy? r.policies := if_pos hs
        simp only [List.filter_cons, decide_eq_true hs, if_true, List.flatMap_cons, List.find?_append, ih, hr]
        unfold authorizerPolicy?
        cases r.policies.find? fun p => p.name = authorizerPolicyName <;> rfl
      · have hr : r.policyAt? (.operation path verb) = none := if_neg hs
        simp only [List.filter_cons, decide_eq_false hs, hr]
        exact ih

/-- The policy that decides on the scope of an operation is found from the end. -/
theorem decides_operation_iff {path verb : String} :
    d.Decides (.operation path verb) p ↔
      d.routes.reverse.findSome? (Route.policyAt? (.operation path verb)) = some p := by
  generalize hs : Scope.operation path verb = s
  constructor
  · intro h
    cases h with
    | api asks => cases hs
    | @route before after r p routes asks last =>
        have hlater : after.reverse.findSome? (Route.policyAt? (Scope.of r.path r.verb)) = none := by
          rw [List.findSome?_eq_none_iff]
          intro later hmem
          by_cases hsame : Scope.of later.path later.verb = Scope.of r.path r.verb
          · unfold Route.policyAt?
            rw [if_pos hsame]
            exact last later (List.mem_reverse.mp hmem) hsame
          · exact if_neg hsame
        rw [routes, List.reverse_append, List.reverse_cons, List.findSome?_append, List.findSome?_append, hlater]
        simp [Route.policyAt?_self, asks]
  · intro h
    obtain ⟨later, r, earlier, hrev, hr, hlater⟩ := List.findSome?_eq_some_iff.mp h
    have hroutes : d.routes = earlier.reverse ++ r :: later.reverse := by
      rw [← List.reverse_reverse d.routes, hrev]
      simp
    obtain ⟨rfl, hasks⟩ := Route.policyAt?_eq_some.mp hr
    refine .route hroutes hasks fun r' hr' hsame => ?_
    have hnone := hlater r' (List.mem_reverse.mp hr')
    unfold Route.policyAt? at hnone
    rwa [if_pos hsame] at hnone

/-- A scope for which a policy asks for an authorizer has a policy that decides. -/
theorem exists_decides {first : Policy} (h : authorizerPolicy? (d.policiesAt s) = some first) :
    ∃ p, d.Decides s p := by
  cases s with
  | api => exact ⟨first, .api h⟩
  | operation path verb =>
      rw [authorizerPolicy?_policiesAt_operation] at h
      obtain ⟨r, hr, hasks⟩ := List.exists_of_findSome?_eq_some h
      have hsome : (d.routes.reverse.findSome? (Route.policyAt? (.operation path verb))).isSome = true := by
        rw [List.findSome?_isSome_iff]
        exact ⟨r, List.mem_reverse.mpr hr, by rw [hasks]; rfl⟩
      obtain ⟨p, hp⟩ := Option.isSome_iff_exists.mp hsome
      exact ⟨p, decides_operation_iff.mpr hp⟩

/-- A policy that decides is one of the API, or the first one of a route in the scope. -/
theorem Definition.Decides.source (h : d.Decides s p) :
    (s = .api ∧ authorizerPolicy? d.policies = some p) ∨ ∃ r ∈ d.routes, r.policyAt? s = some p := by
  cases h with
  | api asks => exact .inl ⟨rfl, asks⟩
  | @route before after r p routes asks last =>
      have hr : r ∈ d.routes := by
        rw [routes]
        simp
      exact .inr ⟨r, hr, Route.policyAt?_eq_some.mpr ⟨rfl, asks⟩⟩

/-- A policy that decides is a policy for the scope, and asks for an authorizer. -/
theorem Definition.Decides.mem (h : d.Decides s p) : p ∈ d.policiesAt s ∧ p.name = authorizerPolicyName := by
  have hnamed : ∀ {policies : List Policy}, authorizerPolicy? policies = some p →
      p ∈ policies ∧ p.name = authorizerPolicyName := by
    intro policies hp
    exact ⟨List.mem_of_find?_eq_some hp, by simpa using List.find?_some hp⟩
  obtain ⟨rfl, hasks⟩ | ⟨r, hr, hat⟩ := h.source
  · exact hnamed hasks
  · obtain ⟨rfl, hasks⟩ := Route.policyAt?_eq_some.mp hat
    obtain ⟨hmem, hname⟩ := hnamed hasks
    refine ⟨?_, hname⟩
    have hroute : r ∈ d.routes.filter fun r' => Scope.of r'.path r'.verb = Scope.of r.path r.verb := by
      simp [hr]
    exact List.mem_flatMap.mpr ⟨r, hroute, hmem⟩

end

/-! ## The keys of scopes -/

section

variable {d : Definition} {scopes : ArrivalMap Scope AuthorizerKey}

/-- A policy that decides has a key. -/
theorem Definition.Decides.key (h : d.requiredAuthorizers = .ok scopes) {s : Scope} {p : Policy}
    (hp : d.Decides s p) : ∃ key, p.authorizerKey = .ok key := by
  obtain ⟨api, hapi, hroutes⟩ := requiredAuthorizers_ok h
  obtain ⟨rfl, hasks⟩ | ⟨r, hr, hat⟩ := hp.source
  · obtain ⟨hnone, -⟩ | ⟨q, key, hq, hkey, -⟩ := addRequired_ok hapi
    · rw [hnone] at hasks
      cases hasks
    · rw [hq] at hasks
      exact ⟨key, Option.some.inj hasks ▸ hkey⟩
  · obtain ⟨-, hasks⟩ := Route.policyAt?_eq_some.mp hat
    exact key_of_addRoutes hroutes hr hasks

/-- **A scope is bound to the key of the policy that decides on it.** -/
theorem get?_eq_some_iff_decides (h : d.requiredAuthorizers = .ok scopes) (s : Scope) (key : AuthorizerKey) :
    scopes.get? s = some key ↔ ∃ p, d.Decides s p ∧ p.authorizerKey = .ok key := by
  obtain ⟨api, hapi, hroutes⟩ := requiredAuthorizers_ok h
  rw [get?_addRoutes hroutes s]
  cases s with
  | api =>
      -- no route falls on this scope, so it is as the policies of the API leave it
      have hnone : d.routes.reverse.findSome? (Route.policyAt? .api) = none :=
        List.findSome?_eq_none_iff.mpr fun r _ => r.policyAt?_api
      have hdecides : ∀ p, d.Decides .api p ↔ authorizerPolicy? d.policies = some p := by
        intro p
        constructor
        · intro hp
          obtain ⟨-, hasks⟩ | ⟨r, -, hat⟩ := hp.source
          · exact hasks
          · rw [r.policyAt?_api] at hat
            cases hat
        · exact .api
      rw [hnone]
      obtain ⟨hasks, rfl⟩ | ⟨p, key', hasks, hkey, rfl⟩ := addRequired_ok hapi
      · simp [hdecides, hasks, ArrivalMap.get?]
      · simp [hdecides, hasks, hkey, ArrivalMap.set]
  | operation path verb =>
      have hempty : ArrivalMap.get? (.operation path verb) api = none := by
        obtain ⟨-, rfl⟩ | ⟨p, key', -, -, rfl⟩ := addRequired_ok hapi
        · rfl
        · simp [ArrivalMap.set, ArrivalMap.get?]
      simp only [decides_operation_iff, hempty]
      cases d.routes.reverse.findSome? (Route.policyAt? (.operation path verb)) with
      | none => simp
      | some p => simp [Policy.key?_eq_some]

/-- **The key that each scope is bound to.** A scope is bound just if one of the policies for it asks for an
authorizer, and it is bound to the key of the policy that decides: the first one of the API, or the first one of
the last route in the scope that has one. Where all routes in a scope that ask for an authorizer ask for the
same key, this is the key of the first policy for the scope. -/
theorem scopes_bound_by_last_route (h : d.requiredAuthorizers = .ok scopes) :
    (∀ s, (∃ key, scopes.get? s = some key) ↔ ∃ p ∈ d.policiesAt s, p.name = authorizerPolicyName) ∧
      (∀ s key, scopes.get? s = some key ↔ ∃ p, d.Decides s p ∧ p.authorizerKey = .ok key) ∧
      ∀ s first, authorizerPolicy? (d.policiesAt s) = some first →
        (∀ r ∈ d.routes, ∀ p, r.policyAt? s = some p → p.authorizerKey = first.authorizerKey) →
          ∃ key, first.authorizerKey = .ok key ∧ scopes.get? s = some key := by
  have hbound := get?_eq_some_iff_decides h
  refine ⟨fun s => ⟨?_, ?_⟩, hbound, ?_⟩
  · rintro ⟨key, hkey⟩
    obtain ⟨p, hp, -⟩ := (hbound s key).mp hkey
    exact ⟨p, hp.mem⟩
  · rintro ⟨p, hp, hname⟩
    have hasks : (authorizerPolicy? (d.policiesAt s)).isSome = true :=
      List.find?_isSome.mpr ⟨p, hp, decide_eq_true hname⟩
    obtain ⟨first, hfirst⟩ := Option.isSome_iff_exists.mp hasks
    obtain ⟨q, hq⟩ := exists_decides hfirst
    obtain ⟨key, hkey⟩ := hq.key h
    exact ⟨key, (hbound s key).mpr ⟨q, hq, hkey⟩⟩
  · intro s first hfirst hsame
    obtain ⟨p, hp⟩ := exists_decides hfirst
    obtain ⟨key, hkey⟩ := hp.key h
    have hagree : p.authorizerKey = first.authorizerKey := by
      obtain ⟨rfl, hasks⟩ | ⟨r, hr, hat⟩ := hp.source
      · have hapi : authorizerPolicy? d.policies = some first := hfirst
        rw [hasks] at hapi
        rw [Option.some.inj hapi]
      · exact hsame r hr p hat
    exact ⟨key, hagree ▸ hkey, (hbound s key).mpr ⟨p, hp, hkey⟩⟩

end

/-- A policy that asks for the authorizer of a function. -/
def asksFor (target : String) : Policy :=
  ⟨authorizerPolicyName, [(.text "lambdaARN", .text target), (.text "invokeRoleARN", .text "caller")]⟩

/-- A definition with two routes in one scope, which ask for different authorizers, and one in another. -/
def doubledOrders : Definition where
  id := "orders"
  name := "Orders"
  version := Definition.defaultVersion
  context := none
  document := ""
  endpoint := .absent
  policies := []
  routes :=
    [⟨"/Orders", "GET", [⟨"rateLimit", []⟩, asksFor "first"]⟩,
      ⟨"/items", "GET", [⟨"rateLimit", []⟩, asksFor "items", asksFor "first"]⟩,
      ⟨"/orders", "get", [asksFor "last"]⟩]
  description := none
  organization := none
  createdTime := none
  discovered := false

/-- The scopes of this definition. -/
def doubledScopes : ArrivalMap Scope AuthorizerKey :=
  [(.operation "/orders" "get", ⟨"last", "caller"⟩), (.operation "/items" "get", ⟨"items", "caller"⟩)]

theorem doubledOrders_scopes : doubledOrders.requiredAuthorizers = .ok doubledScopes := rfl

theorem doubledOrders_bound :
    doubledOrders.requiredAuthorizers = .ok doubledScopes ∧
      (∃ p, doubledOrders.Decides (.operation "/orders" "get") p ∧ p.authorizerKey = .ok ⟨"last", "caller"⟩) ∧
      doubledScopes.get? (.operation "/items" "get") = some ⟨"items", "caller"⟩ := by
  obtain ⟨-, hdecides, hfirst⟩ := scopes_bound_by_last_route doubledOrders_scopes
  refine ⟨doubledOrders_scopes, (hdecides _ _).mp rfl, ?_⟩
  have hsame : ∀ r ∈ doubledOrders.routes, ∀ p, r.policyAt? (.operation "/items" "get") = some p →
      p.authorizerKey = (asksFor "items").authorizerKey := by
    intro r hr p hp
    obtain ⟨hscope, hasks⟩ := Route.policyAt?_eq_some.mp hp
    have hitems : r = ⟨"/items", "GET", [⟨"rateLimit", []⟩, asksFor "items", asksFor "first"]⟩ := by
      simp only [doubledOrders, List.mem_cons, List.not_mem_nil, or_false] at hr
      rcases hr with rfl | rfl | rfl
      · exact absurd hscope (by decide)
      · rfl
      · exact absurd hscope (by decide)
    subst hitems
    rw [← Option.some.inj hasks]
  obtain ⟨key, hkey, hbound⟩ := hfirst (.operation "/items" "get") (asksFor "items") rfl hsame
  have hitems : (asksFor "items").authorizerKey = .ok ⟨"items", "caller"⟩ := rfl
  rw [hitems] at hkey
  rw [hbound, Except.ok.inj hkey]

/-- In the scope of the two routes, the first policy is that of the first route, and it does not win. -/
theorem doubledOrders_first_loses :
    doubledOrders.requiredAuthorizers = .ok doubledScopes ∧
      authorizerPolicy? (doubledOrders.policiesAt (.operation "/orders" "get")) = some (asksFor "first") ∧
      (asksFor "first").authorizerKey = .ok ⟨"first", "caller"⟩ ∧
      doubledScopes.get? (.operation "/orders" "get") = some ⟨"last", "caller"⟩ :=
  ⟨rfl, rfl, rfl, rfl⟩

end ApiReconciler
