import ApiReconciler.Proofs.Authorizer.Safety
import ApiReconciler.Proofs.Reconcile.Protection

/-!
# `ApiReconciler.Proofs.Authorizer.Resolution` — what operations resolve to after a synchronization

The bindings look for an authorizer of the operation first and for one of the API when they find none. They
do not tell why they found none: an operation whose own key has lost its authorizer would be handed to the
authorizer of the API, without any error. After a synchronization this cannot happen, because every required
key is bound then (`trace_synchronize`), so only an operation without a key of its own is handed on.

## Contents
- `operationKey?_of_own`, `operationKey?_eq_none_iff`: the key of an operation, by where it comes from.
- `resolution_exact`: what every operation resolves to, and where its authorizer comes from.
-/

namespace ApiReconciler

open Program

section

variable {scopes : ArrivalMap Scope AuthorizerKey} {path verb : String}

/-- The own key of an operation goes before the key of the API. -/
theorem operationKey?_of_own {key : AuthorizerKey} (h : scopes.get? (Scope.of path verb) = some key) :
    operationKey? scopes path verb = some key := by
  rw [operationKey?, h, Option.some_or]

theorem operationKey?_eq_none_iff :
    operationKey? scopes path verb = none ↔
      scopes.get? (Scope.of path verb) = none ∧ scopes.get? .api = none :=
  Option.or_eq_none_iff

end

/-- **Resolution after a synchronization is exact.** When the identifiers that were listed and those that were
given to new authorizers are all distinct, each operation resolves to what its key is bound to: the key of its
own policy, and only if it has none, the key of the API. It resolves to nothing just if there is neither. What
it resolves to is the first listed authorizer of that key, or if none was listed, the one that was made for
it, and the synchronization has not deleted it. -/
theorem resolution_exact {σ : Type} (backend : Backend σ) (s : σ) (api region : String) (d : Definition)
    (prune : Bool) {existing : List Existing} {xs : List Exchange} {b : Bindings}
    (hrun : (synchronize api region d existing prune).exchanges backend s = xs)
    (hsucceeds : ((synchronize api region d existing prune).run backend s).result = .ok b)
    (hfresh : (existing.map Prod.snd ++ xs.flatMap Exchange.authorizerIds).Nodup) :
    d.requiredAuthorizers = .ok b.scopes ∧ ∀ path verb,
      b.resolve path verb = (operationKey? b.scopes path verb).bind (fun key => b.ids.get? key) ∧
        (∀ key, b.scopes.get? (Scope.of path verb) = some key → b.resolve path verb = b.ids.get? key) ∧
        (b.resolve path verb = none ↔
          b.scopes.get? (Scope.of path verb) = none ∧ b.scopes.get? .api = none) ∧
        ∀ id, b.resolve path verb = some id →
          ∃ key, operationKey? b.scopes path verb = some key ∧ Assigned api region existing xs key id ∧
            ∀ x ∈ xs, x.request ≠ .call (.deleteAuthorizer api id) := by
  have htrace := trace_run backend (synchronize api region d existing prune) s
  rw [hrun, hsucceeds] at htrace
  obtain ⟨hscopes, hbound⟩ := trace_synchronize hfresh htrace
  refine ⟨hscopes, fun path verb => ?_⟩
  have hresolve := resolve_eq (fun key hkey => (hbound key hkey).imp fun _ h => h.1) path verb
  refine ⟨hresolve, fun key hkey => ?_, ?_, fun id hid => ?_⟩
  · rw [hresolve, operationKey?_of_own hkey, Option.bind_some]
  · -- a key of an operation is a required one, so it is bound
    rw [hresolve, ← operationKey?_eq_none_iff]
    cases hkey : operationKey? b.scopes path verb with
    | none => exact iff_of_true rfl rfl
    | some key =>
        obtain ⟨id, hid, -⟩ := hbound key (mem_requiredKeys_of_operationKey? hkey)
        rw [Option.bind_some, hid]
        exact iff_of_false nofun nofun
  · rw [hresolve] at hid
    obtain ⟨key, hkey, hid⟩ := Option.bind_eq_some_iff.mp hid
    obtain ⟨id', hid', hassigned, hkept⟩ := hbound key (mem_requiredKeys_of_operationKey? hkey)
    obtain rfl := Option.some.inj (hid'.symm.trans hid)
    exact ⟨key, hkey, hassigned, hkept⟩

/-- A reply that names an authorizer. -/
def freshReply : Script
  | .createAuthorizer => [.ok [(.text "id", .text "4")]]
  | _ => []

/-- A synchronization that creates an authorizer and deletes two. -/
def freshRun : List Exchange :=
  (synchronize "a" "eu" guardedOrders crowdedOrders true).exchanges (Script.backend true) freshReply

/-- The operation with a policy gets the authorizer that was made for its key, and every other one the first
that was listed for the key of the API. -/
theorem crowdedOrders_resolved :
    (crowdedOrders.map Prod.snd ++ freshRun.flatMap Exchange.authorizerIds).Nodup ∧
      ∃ b, ((synchronize "a" "eu" guardedOrders crowdedOrders true).run (Script.backend true)
          freshReply).result = .ok b ∧
        b.resolve "/Orders" "post" = some "4" ∧ b.resolve "/orders" "get" = some "1" ∧
        (∀ path verb, b.resolve path verb ≠ none) ∧
        ∀ x ∈ freshRun, x.request ≠ .call (.deleteAuthorizer "a" "1") := by
  have hfresh : (crowdedOrders.map Prod.snd ++ freshRun.flatMap Exchange.authorizerIds).Nodup := by decide
  obtain ⟨b, hb, hids⟩ : ∃ b, ((synchronize "a" "eu" guardedOrders crowdedOrders true).run
      (Script.backend true) freshReply).result = .ok b ∧
        b.ids = [(⟨"check", "caller"⟩, "1"), (⟨"audit", "caller"⟩, "4")] := ⟨_, rfl, rfl⟩
  obtain ⟨hscopes, hresolved⟩ :=
    resolution_exact (Script.backend true) freshReply "a" "eu" guardedOrders true rfl hb hfresh
  have hb' : b.scopes =
      [(.api, ⟨"check", "caller"⟩), (.operation "/orders" "post", ⟨"audit", "caller"⟩)] :=
    (Except.ok.inj hscopes).symm
  have hget : b.resolve "/orders" "get" = some "1" := by
    rw [(hresolved "/orders" "get").1, hb', hids]
    rfl
  refine ⟨hfresh, b, hb, ?_, hget, fun path verb hnone => ?_, ?_⟩
  · rw [(hresolved "/Orders" "post").2.1 ⟨"audit", "caller"⟩ (by rw [hb']; rfl), hids]
    rfl
  · obtain ⟨-, hapi⟩ := (hresolved path verb).2.2.1.mp hnone
    rw [hb'] at hapi
    cases hapi
  · obtain ⟨-, -, -, hkept⟩ := (hresolved "/orders" "get").2.2.2 "1" hget
    exact hkept

end ApiReconciler
