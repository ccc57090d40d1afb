import ApiReconciler.Proofs.Lists
import ApiReconciler.Proofs.Reconcile.Requests

/-!
# `ApiReconciler.Proofs.Reconcile.Resources` — resources as the listing has them

Resources are read from a listing and one reply for each method. The replies only contribute the request
parameters: which resources there are, their identifiers, paths and verbs is decided by the listing.
-/

namespace ApiReconciler

open Program

variable {api : String} {xs : List Exchange}

/-- The resource that was read from a listed object: its identifier, its path, which is the root's when the
object has none, and its verbs. -/
structure Describes (item : Object) (r : Resource) : Prop where
  id : item.get? "id" = some (.text r.id)
  path : item.get? "path" = some (.text r.path) ∨ item.get? "path" = none ∧ r.path = "/"
  verbs : r.methods.map Method.verb = verbsOf item

theorem trace_pathOf {item : Object} {path : String} (h : (pathOf item).Trace xs (.ok path)) :
    xs = [] ∧ (item.get? "path" = some (.text path) ∨ item.get? "path" = none ∧ path = "/") := by
  unfold pathOf at h
  split at h
  · next hn =>
      obtain ⟨rfl, h⟩ := h
      exact ⟨rfl, .inr ⟨hn, Except.ok.inj h⟩⟩
  · obtain ⟨rfl, hpath⟩ := trace_textMember_ok.mp h
    exact ⟨rfl, .inl hpath⟩

theorem trace_fetchMethods {resource : String} {verbs : List String} {methods : List Method}
    (h : (fetchMethods api resource verbs).Trace xs (.ok methods)) : methods.map Method.verb = verbs := by
  induction verbs generalizing methods xs with
  | nil => rw [Except.ok.inj h.2]; rfl
  | cons verb verbs ih =>
      obtain ⟨reply, ys, zs, rfl, -, hrest⟩ := trace_bind_ok.mp h
      obtain ⟨rest, us, ws, rfl, hmore, -, hv⟩ := trace_bind_ok.mp hrest
      rw [Except.ok.inj hv, List.map_cons, ih hmore]

theorem trace_fetchListed {items : List Object} {rs : List Resource}
    (h : (fetchListed api items).Trace xs (.ok rs)) : List.Forall₂ Describes items rs := by
  induction items generalizing rs xs with
  | nil => rw [Except.ok.inj h.2]; exact .nil
  | cons item items ih =>
      obtain ⟨id, ys, zs, rfl, hid, hrest⟩ := trace_bind_ok.mp h
      obtain ⟨path, us, zs, rfl, hpath, hrest⟩ := trace_bind_ok.mp hrest
      obtain ⟨methods, vs, zs, rfl, hmethods, hrest⟩ := trace_bind_ok.mp hrest
      obtain ⟨rest, ws, zs, rfl, hmore, -, hv⟩ := trace_bind_ok.mp hrest
      rw [Except.ok.inj hv]
      exact .cons ⟨(trace_textMember_ok.mp hid).2, (trace_pathOf hpath).2, trace_fetchMethods hmethods⟩
        (ih hmore)

theorem fetchMethods_asks_methods (resource : String) (verbs : List String) :
    (fetchMethods api resource verbs).Asks fun q => q.operation = .getMethod := by
  induction verbs with
  | nil => trivial
  | cons verb verbs ih => exact asks_bind (asks_perform.mpr rfl) fun _ => asks_bind ih fun _ => trivial

/-- Listed objects are read without a further listing. -/
theorem fetchListed_asks_methods (items : List Object) :
    (fetchListed api items).Asks fun q => q.operation = .getMethod := by
  induction items with
  | nil => trivial
  | cons item items ih =>
      refine asks_bind asks_textMember fun id => asks_bind (pathOf_asks item) fun path => ?_
      exact asks_bind (fetchMethods_asks_methods id _) fun _ => asks_bind ih fun _ => trivial

/-- **One listing gives the resources**, in its order. -/
theorem trace_fetchResources {rs : List Resource} (h : (fetchResources api).Trace xs (.ok rs)) :
    ∃ items ys, xs = .list (.resources api) (.ok items) :: ys ∧
      (∀ y ∈ ys, y.request.operation = .getMethod) ∧ List.Forall₂ Describes items rs := by
  obtain ⟨items, ys, zs, rfl, hlist, hrest⟩ := trace_bind_ok.mp (trace_relabel_ok.mp h)
  obtain rfl := trace_collect_ok.mp hlist
  exact ⟨items, zs, rfl, (fetchListed_asks_methods items).trace hrest, trace_fetchListed hrest⟩

end ApiReconciler
