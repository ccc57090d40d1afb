import ApiReconciler.Proofs.ArrivalMap
import ApiReconciler.Proofs.Gateway.Trace
import ApiReconciler.Proofs.Lists
import ApiReconciler.Proofs.Reconcile.Stages

/-!
# `ApiReconciler.Proofs.Authorizer.Synchronization` — what a synchronization does to the bindings

A synchronization sorts the authorizers it finds into the first of each key and the further ones, makes
one for every required key that has none, and deletes what is left over. Its identifiers and the further
ones are at every point just those that were found or made (`partitionExisting_perm`,
`trace_createMissing`), so when these are distinct, no identifier that a required key is bound to is ever
among those deleted (`not_superfluous`).

## Contents
- `requiredKeys`: each key once.
- `partitionExisting`: the first of each key, and a permutation of the rest.
- `trace_managed`, `trace_createMissing`, `trace_deleteSuperfluous`: the steps.
- `Assigned`: how a key comes by its authorizer.
- `trace_synchronize`: what a successful synchronization binds and what it spares.
-/

namespace ApiReconciler

open Program

/-! ## Required keys -/

theorem nodup_requiredKeys (scopes : ArrivalMap Scope AuthorizerKey) : (requiredKeys scopes).Nodup :=
  nodup_eraseDups _

theorem mem_requiredKeys {scopes : ArrivalMap Scope AuthorizerKey} {scope : Scope} {key : AuthorizerKey}
    (h : scopes.get? scope = some key) : key ∈ requiredKeys scopes :=
  List.mem_eraseDups.mpr (List.mem_map.mpr ⟨_, ArrivalMap.mem_of_get? h, rfl⟩)

/-! ## Existing authorizers -/

section

variable (existing : List Existing) (ids : ArrivalMap AuthorizerKey String) (more : List Existing)

theorem partitionExisting_perm :
    ((partitionExisting existing ids more).1 ++ (partitionExisting existing ids more).2).Perm
      (ids ++ more ++ existing) := by
  induction existing generalizing ids more with
  | nil => rw [partitionExisting, List.append_nil]
  | cons a rest ih =>
      obtain ⟨key, id⟩ := a
      rw [partitionExisting]
      split
      · refine (ih ids _).trans ?_
        rw [List.append_assoc, List.append_assoc, List.append_assoc, List.singleton_append]
      · next h =>
          rw [ArrivalMap.has_iff] at h
          refine (ih _ more).trans ?_
          rw [ArrivalMap.set_of_new h, List.append_assoc, List.append_assoc, List.append_assoc,
            List.singleton_append]
          exact List.perm_middle.symm.append_left ids

theorem nodup_partitionExisting (h : (ids.map Prod.fst).Nodup) :
    ((partitionExisting existing ids more).1.map Prod.fst).Nodup := by
  induction existing generalizing ids more with
  | nil => exact h
  | cons a rest ih =>
      obtain ⟨key, id⟩ := a
      rw [partitionExisting]
      split
      · exact ih ids _ h
      · next hk =>
          rw [ArrivalMap.has_iff] at hk
          refine ih _ more ?_
          rw [ArrivalMap.set_of_new hk, List.map_append]
          exact List.Nodup.append h (List.nodup_singleton key) (by simpa using hk)

/-- A key keeps the identifier that was found first. -/
theorem get?_partitionExisting (key : AuthorizerKey) :
    (partitionExisting existing ids more).1.get? key = (ids.get? key).or (ArrivalMap.get? key existing) := by
  induction existing generalizing ids more with
  | nil => simp [partitionExisting]
  | cons a rest ih =>
      obtain ⟨k, id⟩ := a
      rw [partitionExisting, ArrivalMap.get?_cons]
      split
      · next hk =>
          rw [ih]
          split
          · next he =>
              obtain ⟨v, hv⟩ := Option.isSome_iff_exists.mp hk
              rw [← he, hv]
              rfl
          · rfl
      · next hk =>
          rw [ArrivalMap.has_iff] at hk
          rw [ih, ArrivalMap.set_of_new hk, ArrivalMap.get?_append, Option.or_assoc]
          refine congrArg _ ?_
          rw [ArrivalMap.get?_cons, ArrivalMap.get?_nil]
          split <;> rfl

end

/-- Keys that are not repeated are all first. -/
theorem partitionExisting_of_nodup {existing : List Existing} {ids : ArrivalMap AuthorizerKey String}
    {more : List Existing} (h : ((ids ++ existing).map Prod.fst).Nodup) :
    partitionExisting existing ids more = (ids ++ existing, more) := by
  induction existing generalizing ids with
  | nil => rw [partitionExisting, List.append_nil]
  | cons a rest ih =>
      obtain ⟨key, id⟩ := a
      have hnew : key ∉ ids.map Prod.fst := by
        rw [List.map_append] at h
        exact fun hk => List.disjoint_of_nodup_append h hk List.mem_cons_self
      have hnot : ¬ids.has key = true := ArrivalMap.has_iff.not.mpr hnew
      rw [partitionExisting, if_neg hnot, ArrivalMap.set_of_new hnew]
      have hrest : ids ++ (key, id) :: rest = ids ++ [(key, id)] ++ rest := by simp
      rw [hrest] at h ⊢
      exact ih h

/-! ## Listing and creating -/

variable {api region : String} {xs : List Exchange}

/-- The key and the identifier of an object that has both. -/
def keyed? (item : Object) : Option Existing :=
  (AuthorizerKey.ofAuthorizer? item).bind fun key => (textId? item).map fun id => (key, id)

theorem keyed?_eq_some_iff {item : Object} {a : Existing} :
    keyed? item = some a ↔
      AuthorizerKey.ofAuthorizer? item = some a.1 ∧ textId? item = some a.2 := by
  obtain ⟨key, id⟩ := a
  simp [keyed?, Option.bind_eq_some_iff]

theorem keyed_ids_sublist (items : List Object) :
    ((items.filterMap keyed?).map Prod.snd).Sublist (items.filterMap textId?) := by
  induction items with
  | nil => exact List.Sublist.refl _
  | cons item items ih =>
      cases hk : keyed? item with
      | some a =>
          have hid := (keyed?_eq_some_iff.mp hk).2
          rw [List.filterMap_cons_some hk, List.filterMap_cons_some hid]
          exact ih.cons_cons a.2
      | none =>
          rw [List.filterMap_cons_none hk]
          exact ih.trans ((List.sublist_cons_self item items).filterMap textId?)

/-- The existing authorizers are the listed objects that have a key. -/
theorem trace_managed {items : List Object} {existing : List Existing}
    (h : (managed items).Trace xs (.ok existing)) :
    xs = [] ∧ existing = items.filterMap keyed? := by
  induction items generalizing existing xs with
  | nil =>
      obtain ⟨rfl, h⟩ := h
      exact ⟨rfl, Except.ok.inj h⟩
  | cons item items ih =>
      unfold managed at h
      split at h
      · next hk =>
          rw [List.filterMap_cons, keyed?, hk]
          exact ih h
      · next key hk =>
          obtain ⟨id, ys, zs, rfl, hid, hrest⟩ := trace_bind_ok.mp h
          obtain ⟨rfl, hmember⟩ := trace_textMember_ok.mp hid
          obtain ⟨rest, us, ws, rfl, hmore, rfl, hv⟩ := trace_bind_ok.mp hrest
          obtain ⟨rfl, rfl⟩ := ih hmore
          have hitem : keyed? item = some (key, id) :=
            keyed?_eq_some_iff.mpr ⟨hk, textId?_of_text hmember⟩
          refine ⟨rfl, ?_⟩
          rw [List.filterMap_cons, hitem]
          exact Except.ok.inj hv

/-- The exchange in which the authorizer of a key was made. -/
def Made (api region : String) (a : Existing) (x : Exchange) : Prop :=
  ∃ reply, x = .call (.createAuthorizer api
      ⟨a.1.displayName, a.1.uri region, a.1.credential, defaultIdentitySource⟩) (.ok reply) ∧
    reply.get? "id" = some (.text a.2)

theorem trace_createAuthorizer {key : AuthorizerKey} {id : String}
    (h : (createAuthorizer api region key).Trace xs (.ok id)) :
    ∃ x, xs = [x] ∧ Made api region (key, id) x := by
  obtain ⟨reply, ys, zs, rfl, hc, hid⟩ := trace_bind_ok.mp h
  obtain rfl := trace_perform_ok.mp (trace_relabel_ok.mp hc)
  obtain ⟨rfl, hmember⟩ := trace_textMember_ok.mp hid
  exact ⟨_, rfl, reply, rfl, hmember⟩

/-- **What is made is what was missing**, in the order of the required keys, one exchange for each. -/
theorem trace_createMissing {keys : List AuthorizerKey} {b b' : Bindings} (hkeys : keys.Nodup)
    (h : (createMissing api region keys b).Trace xs (.ok b')) :
    ∃ made : List Existing,
      b' = { b with ids := b.ids ++ made, created := b.created ++ made.map Prod.fst } ∧
      made.map Prod.fst = keys.filter (fun key => !b.ids.has key) ∧
      List.Forall₂ (Made api region) made xs := by
  induction keys generalizing b xs with
  | nil =>
      obtain ⟨rfl, h⟩ := h
      refine ⟨[], ?_, rfl, .nil⟩
      simp [Except.ok.inj h]
  | cons key keys ih =>
      obtain ⟨hkey, hkeys⟩ := List.nodup_cons.mp hkeys
      unfold createMissing at h
      split at h
      · next hk =>
          obtain ⟨made, hb, hm, hx⟩ := ih hkeys h
          refine ⟨made, hb, ?_, hx⟩
          rw [List.filter_cons, hk]
          exact hm
      · next hk =>
          obtain ⟨id, ys, zs, rfl, hc, hrest⟩ := trace_bind_ok.mp h
          obtain ⟨x, rfl, hmade⟩ := trace_createAuthorizer hc
          -- the later keys are other ones, so binding this key does not change which are missing
          obtain ⟨made, rfl, hm, hx⟩ := ih hkeys hrest
          have hnew := ArrivalMap.has_iff.not.mp hk
          refine ⟨(key, id) :: made, ?_, ?_, .cons hmade hx⟩
          · rw [ArrivalMap.set_of_new hnew]
            simp
          · rw [List.map_cons, List.filter_cons, if_pos (by simp [hk]), hm]
            refine congrArg _ (List.filter_congr fun k hmem => ?_)
            have hne : k ≠ key := fun he => hkey (he ▸ hmem)
            rw [ArrivalMap.has, ArrivalMap.get?_set_of_ne _ _ hne, ArrivalMap.has]

/-- Nothing is made when nothing is missing. -/
theorem createMissing_of_has {keys : List AuthorizerKey} {b : Bindings}
    (h : ∀ key ∈ keys, b.ids.has key = true) : createMissing api region keys b = .done b := by
  induction keys with
  | nil => rfl
  | cons key keys ih =>
      obtain ⟨hkey, hkeys⟩ := List.forall_mem_cons.mp h
      rw [createMissing, if_pos hkey]
      exact ih hkeys

/-! ## Deleting -/

/-- Only authorizers of the list are deleted. -/
theorem deleteSuperfluous_asks_listed (required : List AuthorizerKey) (as : List Existing)
    (b : Bindings) :
    (deleteSuperfluous api required as b).Asks fun q =>
      ∃ a ∈ as, q = .call (.deleteAuthorizer api a.2) := by
  induction as generalizing b with
  | nil => trivial
  | cons a rest ih =>
      have hrest : ∀ b, (deleteSuperfluous api required rest b).Asks fun q =>
          ∃ a' ∈ a :: rest, q = .call (.deleteAuthorizer api a'.2) :=
        fun b => (ih b).mono fun q hq => hq.imp fun a' h => ⟨List.mem_cons_of_mem _ h.1, h.2⟩
      unfold deleteSuperfluous
      split
      · exact hrest b
      · refine asks_bind (asks_bind (asks_relabel (asks_perform.mpr ?_)) fun _ => asks_done) fun _ => hrest _
        exact ⟨a, List.mem_cons_self, rfl⟩

/-- A deletion that is made leaves the required keys bound as they are. -/
theorem withoutAuthorizer_get?_required {required : List AuthorizerKey} {b : Bindings} {a : Existing}
    (ha : ¬(a.1 ∈ required ∧ b.ids.get? a.1 = some a.2)) {key : AuthorizerKey} (hkey : key ∈ required) :
    (b.withoutAuthorizer a).ids.get? key = b.ids.get? key := by
  rw [Bindings.withoutAuthorizer]
  split
  · next hbound =>
      refine ArrivalMap.get?_erase_of_ne ?_
      rintro rfl
      exact ha ⟨hkey, hbound⟩
  · rfl

/-- Deletions leave the scopes as they are, and the identifiers of required keys. -/
theorem trace_deleteSuperfluous {required : List AuthorizerKey} {as : List Existing} {b b' : Bindings}
    (h : (deleteSuperfluous api required as b).Trace xs (.ok b')) :
    b'.scopes = b.scopes ∧ ∀ key ∈ required, b'.ids.get? key = b.ids.get? key := by
  induction as generalizing b xs with
  | nil =>
      obtain ⟨-, h⟩ := h
      rw [Except.ok.inj h]
      exact ⟨rfl, fun _ _ => rfl⟩
  | cons a rest ih =>
      unfold deleteSuperfluous at h
      split at h
      · exact ih h
      · next hs =>
          obtain ⟨u, ys, zs, rfl, -, hrest⟩ := trace_bind_ok.mp h
          obtain ⟨hscopes, hids⟩ := ih hrest
          exact ⟨hscopes, fun key hkey => (hids key hkey).trans (withoutAuthorizer_get?_required hs hkey)⟩

theorem trace_pruneAuthorizers {required : List AuthorizerKey} {more : List Existing} {prune : Bool}
    {b b' : Bindings} (h : (pruneAuthorizers api required more prune b).Trace xs (.ok b')) :
    (b'.scopes = b.scopes ∧ ∀ key ∈ required, b'.ids.get? key = b.ids.get? key) ∧
      ∀ x ∈ xs, ∃ a ∈ more ++ b.ids.filter (fun a => a.1 ∉ required),
        x.request = .call (.deleteAuthorizer api a.2) := by
  cases prune with
  | true => exact ⟨trace_deleteSuperfluous h, (deleteSuperfluous_asks_listed _ _ _).trace h⟩
  | false =>
      obtain ⟨rfl, h⟩ := h
      rw [Except.ok.inj h]
      exact ⟨⟨rfl, fun _ _ => rfl⟩, List.forall_mem_nil _⟩

/-- With distinct identifiers, what a required key is bound to is not left over. -/
theorem not_superfluous {required : List AuthorizerKey} {ids : ArrivalMap AuthorizerKey String}
    {more : List Existing} {a b : Existing} (hids : ((ids ++ more).map Prod.snd).Nodup) (ha : a ∈ ids)
    (hkey : a.1 ∈ required) (hb : b ∈ more ++ ids.filter fun b => b.1 ∉ required) : b.2 ≠ a.2 := by
  rintro he
  rcases List.mem_append.mp hb with hb | hb
  · rw [List.map_append] at hids
    have hdisjoint := List.disjoint_of_nodup_append hids
    exact hdisjoint (List.mem_map_of_mem ha) (he ▸ List.mem_map_of_mem hb)
  · obtain ⟨hb, hunwanted⟩ := List.mem_filter.mp hb
    have hsame : b = a := List.inj_on_of_nodup_map hids (List.mem_append_left _ hb)
      (List.mem_append_left _ ha) he
    rw [hsame] at hunwanted
    exact of_decide_eq_true hunwanted hkey

/-! ## Synchronizing -/

section

variable {existing made : List Existing} {first : ArrivalMap AuthorizerKey String} {more : List Existing}
  {required : List AuthorizerKey}

/-- A required key is bound, to what was found first or to what was made. -/
theorem bound_of_required (hmissing : made.map Prod.fst = required.filter fun key => !first.has key)
    {key : AuthorizerKey} (hkey : key ∈ required) :
    ∃ id, ArrivalMap.get? key (first ++ made) = some id := by
  have hthere : key ∈ (first ++ made).map Prod.fst := by
    rw [List.map_append, hmissing, List.mem_append, List.mem_filter]
    by_cases hk : first.has key = true
    · exact .inl (ArrivalMap.has_iff.mp hk)
    · exact .inr ⟨hkey, by simpa using hk⟩
  exact Option.ne_none_iff_exists'.mp fun hn => ArrivalMap.get?_eq_none_iff.mp hn hthere

/-- What is bound or left over is what was found or made. -/
theorem bound_or_more_perm (h : (first ++ more).Perm existing) :
    (first ++ made ++ more).Perm (existing ++ made) := by
  rw [List.append_assoc]
  refine (List.perm_append_comm.append_left first).trans ?_
  rw [← List.append_assoc]
  exact h.append_right made

end

/-- The identifiers of authorizers that an exchange brings to light. -/
def Exchange.authorizerIds : Exchange → List String
  | .list (.authorizers _) (.ok items) => items.filterMap textId?
  | .call (.createAuthorizer ..) (.ok reply) => (textId? reply).toList
  | _ => []

theorem authorizerIds_of_made {made : List Existing} (h : List.Forall₂ (Made api region) made xs) :
    xs.flatMap Exchange.authorizerIds = made.map Prod.snd := by
  induction h with
  | nil => rfl
  | cons hmade _ ih =>
      obtain ⟨reply, rfl, hid⟩ := hmade
      rw [List.flatMap_cons, ih, Exchange.authorizerIds, textId?_of_text hid]
      rfl

/-- How a key comes by its authorizer: it keeps the one that is listed first, or one is made for it because
none is listed. -/
inductive Assigned (api region : String) (existing : List Existing) (xs : List Exchange)
    (key : AuthorizerKey) (id : String) : Prop
  | listed (hfirst : ArrivalMap.get? key existing = some id)
  | made {x : Exchange} (hnone : key ∉ existing.map Prod.fst) (hx : x ∈ xs)
    (hmade : Made api region (key, id) x)

/-- **A required key ends up bound to the authorizer that was found first or made for it, and is not
deleted.** -/
theorem trace_synchronize {d : Definition} {existing : List Existing} {prune : Bool} {b : Bindings}
    (hids : (existing.map Prod.snd ++ xs.flatMap Exchange.authorizerIds).Nodup)
    (h : (synchronize api region d existing prune).Trace xs (.ok b)) :
    d.requiredAuthorizers = .ok b.scopes ∧
      ∀ key ∈ requiredKeys b.scopes, ∃ id, b.ids.get? key = some id ∧
        Assigned api region existing xs key id ∧
        ∀ x ∈ xs, x.request ≠ .call (.deleteAuthorizer api id) := by
  rw [synchronize_eq] at h
  -- the required keys are read, the missing ones created, and what is left over deleted
  obtain ⟨scopes, us, ys, rfl, hread, h₁⟩ := trace_bind_ok.mp h
  obtain ⟨rfl, hscopes⟩ := trace_ofExcept_mapError_ok.mp hread
  obtain ⟨bound, created, zs, rfl, hcreate, h₂⟩ := trace_bind_ok.mp h₁
  obtain ⟨b', deleted, ws, rfl, hprune, rfl, hb⟩ := trace_bind_ok.mp h₂
  obtain rfl := Except.ok.inj hb
  obtain ⟨made, rfl, hmissing, hmade⟩ := trace_createMissing (nodup_requiredKeys scopes) hcreate
  obtain ⟨⟨hsame, hkept⟩, hdeleted⟩ := trace_pruneAuthorizers hprune
  -- from here on the two parts are a permutation of the existing ones, and the first one gives the first of
  -- each key
  have hpartition := partitionExisting_perm existing [] []
  have hfirst : ∀ key, (partitionExisting existing [] []).1.get? key = ArrivalMap.get? key existing :=
    get?_partitionExisting existing [] []
  generalize (partitionExisting existing [] []).1 = first at *
  generalize (partitionExisting existing [] []).2 = more at *
  replace hsame : b.scopes = scopes := hsame
  obtain rfl := hsame
  have hdistinct : ((first ++ made ++ more).map Prod.snd).Nodup := by
    rw [((bound_or_more_perm hpartition).map Prod.snd).nodup_iff, List.nil_append, List.map_append,
      ← authorizerIds_of_made hmade]
    refine hids.sublist ((List.Sublist.refl _).append ?_)
    rw [List.nil_append, List.flatMap_append]
    exact List.sublist_append_left _ _
  refine ⟨hscopes, fun key hkey => ?_⟩
  obtain ⟨id, hid⟩ := bound_of_required hmissing hkey
  have hbound := ArrivalMap.mem_of_get? hid
  refine ⟨id, (hkept key hkey).trans hid, ?_, fun x hx => ?_⟩
  · rw [ArrivalMap.get?_append, hfirst, Option.or_eq_some_iff] at hid
    rcases hid with hlisted | ⟨hnone, hlater⟩
    · exact .listed hlisted
    · obtain ⟨x, hx, hm⟩ := forall₂_exists_right hmade (ArrivalMap.mem_of_get? hlater)
      have hin : x ∈ [] ++ (created ++ (deleted ++ [])) :=
        List.mem_append_right _ (List.mem_append_left _ hx)
      exact .made (ArrivalMap.get?_eq_none_iff.mp hnone) hin hm
  · rw [List.nil_append, List.append_nil] at hx
    rcases List.mem_append.mp hx with hx | hx
    · obtain ⟨a, -, reply, rfl, -⟩ := forall₂_exists_left hmade hx
      simp
    · obtain ⟨a, ha, hrequest⟩ := hdeleted x hx
      intro he
      rw [hrequest] at he
      injection he with he
      injection he with _ he
      exact not_superfluous hdistinct hbound hkey ha he

end ApiReconciler
