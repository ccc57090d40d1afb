import ApiReconciler.Proofs.Authorizer.Key
import ApiReconciler.Proofs.Authorizer.Synchronization
import ApiReconciler.Proofs.Gateway.Memory

/-!
# `ApiReconciler.Proofs.Authorizer.Convergence` — synchronizing authorizers converges

On a gateway that keeps what it is given, listing the authorizers and synchronizing them succeeds from
every list of authorizers. What it leaves is the list it found and what it made, without what was left
over, so the proof is about lists: the keys of what is left are a permutation of the required keys, and
objects without a key are not left over. A second synchronization finds nothing to do, because what the
first one left has each required key once and no other.

## Contents
- `DistinctIds`, `KeepsAuthorizers`: the gateway that is assumed. One that hosts an API is of this kind.
- `runs_existingAuthorizers`, `runs_createMissing`, `runs_deleteSuperfluous`: each step succeeds, and the
  list it leaves.
- `Inventory`: what a pass has in hand, and what is left of it.
- `resynchronize`: the pass; `runs_resynchronize`: what it leaves.
- `authorizers_converge`: the result about two passes.
-/

namespace ApiReconciler

open Program

/-- The key of an object is the key of an authorizer that the reconciliation looks after. -/
def isManaged (item : Object) : Bool := (AuthorizerKey.ofAuthorizer? item).isSome

/-- Objects that have identifiers, no two the same. -/
structure DistinctIds (items : List Object) : Prop where
  named : ∀ item ∈ items, ∃ id, item.get? "id" = some (.text id)
  distinct : (items.filterMap textId?).Nodup

/-- A gateway that keeps the authorizers of an API as a list. It lists all of them, in as many pages as it
likes. It appends what is created, with an identifier of its own and the URI and the credentials that were
given, and it removes what is deleted. -/
structure KeepsAuthorizers {σ : Type} (b : Backend σ) (api : String) (authorizers : σ → List Object) :
    Prop where
  listed : ∀ s, ∃ pages s', b.list (.authorizers api) s = (.ok (authorizers s), pages, s') ∧
    authorizers s' = authorizers s
  created : ∀ spec s, ∃ reply item id s', b.answer (.createAuthorizer api spec) s = (.ok reply, s') ∧
    reply.get? "id" = some (.text id) ∧ item.get? "id" = some (.text id) ∧
    id ∉ (authorizers s).filterMap textId? ∧
    item.get? "authorizerUri" = some (.text spec.uri) ∧
    item.get? "authorizerCredentials" = some (.text spec.credentials) ∧
    authorizers s' = authorizers s ++ [item]
  deleted : ∀ id s, id ∈ (authorizers s).filterMap textId? →
    ∃ reply s', b.answer (.deleteAuthorizer api id) s = (.ok reply, s') ∧
      authorizers s' = (authorizers s).filter fun item => textId? item ≠ some id

section

variable {σ : Type} {b : Backend σ} {api region : String} {authorizers : σ → List Object} {s : σ}

/-- A gateway that hosts an API keeps its authorizers. -/
theorem Hosts.keepsAuthorizers {declared : String → Declaration} {view : σ → HostedApi}
    (hb : Hosts b api declared view) : KeepsAuthorizers b api fun s => (view s).authorizers := by
  constructor
  · intro s
    obtain ⟨r, pages, s', hl, hsame, rfl⟩ := hb.lists (.authorizers api) s rfl
    exact ⟨pages, s', hl, by rw [hsame]⟩
  · intro spec s
    obtain ⟨a, s', ha, reply, item, id, rfl, hreply, hid, hnew, huri, hcredentials, hv⟩ :=
      hb.answers (.createAuthorizer api spec) s rfl
    exact ⟨reply, item, id, s', ha, hreply, hid, hnew, huri, hcredentials, by rw [hv]⟩
  · intro id s hid
    obtain ⟨a, s', ha, haccepted, hv⟩ := hb.answers (.deleteAuthorizer api id) s rfl
    obtain ⟨reply, rfl⟩ := haccepted hid
    exact ⟨reply, s', ha, by rw [hv]⟩

/-! ## Listing -/

theorem runs_managed {items : List Object}
    (hitems : ∀ item ∈ items, ∃ id, item.get? "id" = some (.text id)) :
    Runs b (managed items) s [] (.ok (items.filterMap keyed?)) s := by
  induction items with
  | nil => exact runs_done []
  | cons item items ih =>
      obtain ⟨⟨id, hid⟩, hitems⟩ := List.forall_mem_cons.mp hitems
      unfold managed
      cases hk : AuthorizerKey.ofAuthorizer? item with
      | none =>
          have hitem : keyed? item = none := by rw [keyed?, hk]; rfl
          rw [List.filterMap_cons_none hitem]
          exact ih hitems
      | some key =>
          have hitem : keyed? item = some (key, id) := by
            rw [keyed?, hk, textId?_of_text hid]; rfl
          rw [List.filterMap_cons_some hitem]
          exact (runs_textMember hid).bind ((ih hitems).bind (runs_done _))

theorem runs_existingAuthorizers (hb : KeepsAuthorizers b api authorizers)
    (hs : DistinctIds (authorizers s)) :
    ∃ s', authorizers s' = authorizers s ∧
      Runs b (existingAuthorizers api) s [.list (.authorizers api) (.ok (authorizers s))]
        (.ok ((authorizers s).filterMap keyed?)) s' := by
  obtain ⟨pages, s', hl, hsame⟩ := hb.listed s
  exact ⟨s', hsame, (runs_collect_ok hl).relabel_ok.bind (runs_managed hs.named)⟩

/-! ## Creating -/

theorem DistinctIds.append {items : List Object} {item : Object} {id : String} (h : DistinctIds items)
    (hid : item.get? "id" = some (.text id)) (hnew : id ∉ items.filterMap textId?) :
    DistinctIds (items ++ [item]) := by
  constructor
  · intro i hi
    rcases List.mem_append.mp hi with hi | hi
    · exact h.named i hi
    · exact ⟨id, by rwa [List.mem_singleton.mp hi]⟩
  · rw [List.filterMap_append, List.filterMap_cons_some (textId?_of_text hid), List.filterMap_nil]
    exact h.distinct.append (List.nodup_singleton id) (by simpa using hnew)

theorem DistinctIds.filter {items : List Object} (h : DistinctIds items) (p : Object → Bool) :
    DistinctIds (items.filter p) :=
  ⟨fun item hitem => h.named item (List.mem_filter.mp hitem).1,
    h.distinct.sublist (List.filter_sublist.filterMap textId?)⟩

/-- An authorizer that is created for the key is found again by it. -/
def Recognized (region : String) (key : AuthorizerKey) : Prop :=
  ∀ item : Object, item.get? "authorizerUri" = some (.text (key.uri region)) →
    item.get? "authorizerCredentials" = some (.text key.credential) →
    AuthorizerKey.ofAuthorizer? item = some key

theorem runs_createAuthorizer (hb : KeepsAuthorizers b api authorizers) {key : AuthorizerKey}
    (hs : DistinctIds (authorizers s)) (hkey : Recognized region key) :
    ∃ xs item id s', keyed? item = some (key, id) ∧ authorizers s' = authorizers s ++ [item] ∧
      DistinctIds (authorizers s') ∧ Runs b (createAuthorizer api region key) s xs (.ok id) s' := by
  obtain ⟨reply, item, id, s', ha, hreply, hid, hnew, huri, hcredentials, happend⟩ :=
    hb.created ⟨key.displayName, key.uri region, key.credential, defaultIdentitySource⟩ s
  refine ⟨_, item, id, s', ?_, happend, ?_, (runs_perform_ok ha).relabel_ok.bind (runs_textMember hreply)⟩
  · rw [keyed?, hkey item huri hcredentials, textId?_of_text hid]
    rfl
  · rw [happend]
    exact hs.append hid hnew

/-- Every missing authorizer is made, and is found again by its key. -/
theorem runs_createMissing (hb : KeepsAuthorizers b api authorizers) {keys : List AuthorizerKey}
    (bindings : Bindings) (hs : DistinctIds (authorizers s))
    (hkeys : ∀ key ∈ keys, Recognized region key) :
    ∃ xs bindings' made items s',
      Runs b (createMissing api region keys bindings) s xs (.ok bindings') s' ∧
      bindings'.ids = bindings.ids ++ made ∧ authorizers s' = authorizers s ++ items ∧
      items.map keyed? = made.map some ∧ DistinctIds (authorizers s') := by
  induction keys generalizing bindings s with
  | nil => exact ⟨[], bindings, [], [], s, runs_done bindings, by simp, by simp, rfl, hs⟩
  | cons key keys ih =>
      obtain ⟨hkey, hkeys⟩ := List.forall_mem_cons.mp hkeys
      unfold createMissing
      split
      · exact ih bindings hs hkeys
      · next hk =>
          -- the induction carries that the identifiers stay distinct
          obtain ⟨xs, item, id, s₁, hitem, happend, hs₁, hcreate⟩ := runs_createAuthorizer hb hs hkey
          obtain ⟨ys, bindings', made, items, s₂, hrest, hids, hlist, hmade, hs₂⟩ :=
            ih { bindings with ids := bindings.ids.set key id, created := bindings.created ++ [key] }
              hs₁ hkeys
          refine ⟨xs ++ ys, bindings', (key, id) :: made, item :: items, s₂, hcreate.bind hrest, ?_, ?_,
            ?_, hs₂⟩
          · rw [hids, ArrivalMap.set_of_new (ArrivalMap.has_iff.not.mp hk), List.append_assoc]
            rfl
          · rw [hlist, happend, List.append_assoc]
            rfl
          · rw [List.map_cons, List.map_cons, hitem, hmade]

/-! ## Deleting -/

/-- The objects without those that have given identifiers. -/
def without (dead : List Existing) (items : List Object) : List Object :=
  items.filter fun item => textId? item ∉ dead.map fun a => some a.2

theorem without_cons (a : Existing) (dead : List Existing) (items : List Object) :
    without dead (items.filter fun item => textId? item ≠ some a.2) = without (a :: dead) items := by
  rw [without, without, List.filter_filter]
  refine List.filter_congr fun item _ => ?_
  simp only [List.map_cons, List.mem_cons, not_or, Bool.decide_and, Bool.and_comm, ne_eq]

theorem withoutAuthorizer_get? {bindings : Bindings} {a : Existing} {key : AuthorizerKey} {id : String}
    (h : bindings.ids.get? key ≠ some id) : (bindings.withoutAuthorizer a).ids.get? key ≠ some id := by
  rw [Bindings.withoutAuthorizer]
  split
  · by_cases hk : key = a.1
    · rw [hk, ArrivalMap.get?_erase_self]
      simp
    · rwa [ArrivalMap.get?_erase_of_ne hk]
  · exact h

/-- Authorizers that no required key is bound to are all deleted. -/
theorem runs_deleteSuperfluous (hb : KeepsAuthorizers b api authorizers) {required : List AuthorizerKey}
    {dead : List Existing} (bindings : Bindings) (hdistinct : (dead.map Prod.snd).Nodup)
    (hthere : ∀ a ∈ dead, a.2 ∈ (authorizers s).filterMap textId?)
    (hfree : ∀ a ∈ dead, a.1 ∈ required → bindings.ids.get? a.1 ≠ some a.2) :
    ∃ xs bindings' s', Runs b (deleteSuperfluous api required dead bindings) s xs (.ok bindings') s' ∧
      authorizers s' = without dead (authorizers s) := by
  induction dead generalizing bindings s with
  | nil => exact ⟨[], bindings, s, runs_done bindings, by simp [without]⟩
  | cons a dead ih =>
      obtain ⟨hnew, hdistinct⟩ := List.nodup_cons.mp hdistinct
      obtain ⟨ha, hthere⟩ := List.forall_mem_cons.mp hthere
      obtain ⟨hafree, hfree⟩ := List.forall_mem_cons.mp hfree
      obtain ⟨reply, s₁, hanswer, hremoved⟩ := hb.deleted a.2 s ha
      have hdelete : Runs b (deleteAuthorizer api a.2) s
          ([.call (.deleteAuthorizer api a.2) (.ok reply)] ++ []) (.ok ()) s₁ :=
        (runs_perform_ok hanswer).relabel_ok.bind (runs_done ())
      -- the others are still there, because their identifiers are other ones
      have hthere₁ : ∀ a' ∈ dead, a'.2 ∈ (authorizers s₁).filterMap textId? := by
        intro a' ha'
        have hother : a'.2 ≠ a.2 := fun he => hnew (he ▸ List.mem_map_of_mem ha')
        obtain ⟨item, hitem, hid⟩ := List.mem_filterMap.mp (hthere a' ha')
        rw [hremoved]
        exact List.mem_filterMap.mpr ⟨item, List.mem_filter.mpr ⟨hitem, by simp [hid, hother]⟩, hid⟩
      obtain ⟨ys, bindings', s₂, hrest, hleft⟩ := ih (bindings.withoutAuthorizer a) hdistinct hthere₁
        fun a' ha' hr => withoutAuthorizer_get? (hfree a' ha' hr)
      have hstep : deleteSuperfluous api required (a :: dead) bindings =
          (deleteAuthorizer api a.2).bind fun _ =>
            deleteSuperfluous api required dead (bindings.withoutAuthorizer a) :=
        if_neg fun hbound => hafree hbound.1 hbound.2
      rw [hstep]
      exact ⟨_, bindings', s₂, hdelete.bind hrest, by rw [hleft, hremoved, without_cons]⟩

end

/-! ## What is left

The rest of the argument is about lists: what was found, what was made, and what is superfluous. -/

/-- The first authorizer of each key among listed objects. -/
def firstOf (found : List Object) : ArrivalMap AuthorizerKey String :=
  (partitionExisting (found.filterMap keyed?) [] []).1

/-- The further authorizers of the keys among listed objects. -/
def furtherOf (found : List Object) : List Existing :=
  (partitionExisting (found.filterMap keyed?) [] []).2

/-- What a synchronization has in hand before it deletes: the objects it found, and those it made for the
required keys that were missing. -/
structure Inventory (required : List AuthorizerKey) (found new : List Object) (made : List Existing) :
    Prop where
  keys : required.Nodup
  distinct : DistinctIds (found ++ new)
  created : new.map keyed? = made.map some
  missing : made.map Prod.fst = required.filter fun key => !(firstOf found).has key

theorem DistinctIds.keys_eq {items : List Object} (h : DistinctIds items) :
    items.filterMap AuthorizerKey.ofAuthorizer? = (items.filterMap keyed?).map Prod.fst := by
  rw [List.map_filterMap]
  refine List.filterMap_congr fun item hitem => ?_
  obtain ⟨id, hid⟩ := h.named item hitem
  rw [keyed?, textId?_of_text hid]
  cases AuthorizerKey.ofAuthorizer? item <;> rfl

/-- The first pair of a key is that of the first object of the key. -/
theorem get?_keyed {items : List Object} {key : AuthorizerKey} {item : Object} {id : String}
    (hitems : ∀ item ∈ items, ∃ id, item.get? "id" = some (.text id))
    (hfirst : items.find? (fun item => AuthorizerKey.ofAuthorizer? item = some key) = some item)
    (hid : textId? item = some id) : ArrivalMap.get? key (items.filterMap keyed?) = some id := by
  induction items with
  | nil => cases hfirst
  | cons i items ih =>
      obtain ⟨⟨v, hv⟩, hitems⟩ := List.forall_mem_cons.mp hitems
      rw [List.find?_cons] at hfirst
      split at hfirst
      · next hkey =>
          have hk : keyed? i = some (key, v) :=
            keyed?_eq_some_iff.mpr ⟨by simpa using hkey, textId?_of_text hv⟩
          rw [← Option.some.inj hfirst, textId?_of_text hv] at hid
          rw [List.filterMap_cons_some hk, ArrivalMap.get?_cons, if_pos rfl, hid]
      · next hkey =>
          cases hk : keyed? i with
          | none =>
              rw [List.filterMap_cons_none hk]
              exact ih hitems hfirst
          | some a =>
              have hne : a.1 ≠ key := by
                rintro rfl
                simp [(keyed?_eq_some_iff.mp hk).1] at hkey
              rw [List.filterMap_cons_some hk, ArrivalMap.get?_cons, if_neg hne]
              exact ih hitems hfirst

namespace Inventory

variable {required : List AuthorizerKey} {found new : List Object} {made : List Existing}

/-- What is deleted: further authorizers of a key, and those that no required key is bound to. -/
def superfluous (required : List AuthorizerKey) (found : List Object) (made : List Existing) :
    List Existing :=
  furtherOf found ++ (firstOf found ++ made).filter fun a => a.1 ∉ required

/-- What is left on the gateway. -/
def left (required : List AuthorizerKey) (found new : List Object) (made : List Existing) : List Object :=
  without (superfluous required found made) (found ++ new)

theorem superfluous_subset {required : List AuthorizerKey} {found : List Object} {made : List Existing} :
    superfluous required found made ⊆ firstOf found ++ made ++ furtherOf found := by
  intro a ha
  rcases List.mem_append.mp ha with ha | ha
  · exact List.mem_append_right _ ha
  · exact List.mem_append_left _ (List.mem_filter.mp ha).1

theorem filterMap_new {items : List Object} {pairs : List Existing} (h : items.map keyed? = pairs.map some) :
    items.filterMap keyed? = pairs :=
  calc items.filterMap keyed?
      = (items.map keyed?).filterMap id := by rw [List.filterMap_map]; rfl
    _ = (pairs.map some).filterMap id := by rw [h]
    _ = pairs := by rw [List.filterMap_map]; exact List.filterMap_some

variable (h : Inventory required found new made)

include h

theorem keyed_eq : (found ++ new).filterMap keyed? = found.filterMap keyed? ++ made := by
  rw [List.filterMap_append, filterMap_new h.created]

theorem perm : (firstOf found ++ made ++ furtherOf found).Perm ((found ++ new).filterMap keyed?) := by
  rw [h.keyed_eq]
  exact bound_or_more_perm (partitionExisting_perm (found.filterMap keyed?) [] [])

theorem distinct_ids : ((firstOf found ++ made ++ furtherOf found).map Prod.snd).Nodup := by
  rw [(h.perm.map Prod.snd).nodup_iff]
  exact h.distinct.distinct.sublist (keyed_ids_sublist (found ++ new))

theorem nodup_keys : ((firstOf found ++ made).map Prod.fst).Nodup := by
  rw [List.map_append, h.missing]
  refine (nodup_partitionExisting _ [] [] List.nodup_nil).append (h.keys.filter _) ?_
  intro key hfirst hmade
  obtain ⟨-, hnew⟩ := List.mem_filter.mp hmade
  have hhas : (firstOf found).has key = true := ArrivalMap.has_iff.mpr hfirst
  rw [hhas] at hnew
  cases hnew

/-- A bound identifier is deleted just if its key is not required. -/
theorem mem_superfluous {a : Existing} (ha : a ∈ firstOf found ++ made) :
    a.2 ∈ (superfluous required found made).map Prod.snd ↔ a.1 ∉ required := by
  constructor
  · intro hdead hkey
    obtain ⟨a', ha', he⟩ := List.mem_map.mp hdead
    exact not_superfluous h.distinct_ids ha hkey ha' he
  · intro hkey
    refine List.mem_map_of_mem (List.mem_append_right _ (List.mem_filter.mpr ⟨ha, ?_⟩))
    exact decide_eq_true hkey

theorem superfluous_distinct : ((superfluous required found made).map Prod.snd).Nodup := by
  have hs : ((firstOf found ++ made).filter (fun a => a.1 ∉ required) ++ furtherOf found).Sublist
      (firstOf found ++ made ++ furtherOf found) := List.filter_sublist.append (List.Sublist.refl _)
  have hp : (superfluous required found made).Perm
      ((firstOf found ++ made).filter (fun a => a.1 ∉ required) ++ furtherOf found) :=
    List.perm_append_comm
  rw [(hp.map Prod.snd).nodup_iff]
  exact h.distinct_ids.sublist (hs.map Prod.snd)

theorem superfluous_there :
    ∀ a ∈ superfluous required found made, a.2 ∈ (found ++ new).filterMap textId? := by
  intro a ha
  obtain ⟨item, hitem, hk⟩ := List.mem_filterMap.mp (h.perm.subset (superfluous_subset ha))
  exact List.mem_filterMap.mpr ⟨item, hitem, (keyed?_eq_some_iff.mp hk).2⟩

theorem superfluous_free : ∀ a ∈ superfluous required found made, a.1 ∈ required →
    ArrivalMap.get? a.1 (firstOf found ++ made) ≠ some a.2 := by
  intro a ha hkey hbound
  exact (h.mem_superfluous (ArrivalMap.mem_of_get? hbound)).mp (List.mem_map_of_mem ha) hkey

/-- What is left has the required keys, each once. -/
theorem left_perm :
    ((left required found new made).filterMap keyed?).Perm
      ((firstOf found ++ made).filter fun a => a.1 ∈ required) := by
  have hp : ∀ item a, keyed? item = some a →
      decide (textId? item ∉ (superfluous required found made).map fun a => some a.2) =
        decide (a.2 ∉ (superfluous required found made).map Prod.snd) := by
    intro item a hk
    rw [(keyed?_eq_some_iff.mp hk).2]
    simp
  -- the pairs can be filtered in place of the objects, and the pairs are known up to their order
  rw [left, without, filterMap_filter_of hp]
  refine (h.perm.symm.filter _).trans ?_
  rw [List.filter_append]
  have hfurther : (furtherOf found).filter
      (fun a => a.2 ∉ (superfluous required found made).map Prod.snd) = [] := by
    refine List.filter_eq_nil_iff.mpr fun a ha hn => of_decide_eq_true hn ?_
    exact List.mem_map_of_mem (List.mem_append_left _ ha)
  rw [hfurther, List.append_nil]
  refine List.Perm.of_eq (List.filter_congr fun a ha => ?_)
  rw [decide_eq_decide, h.mem_superfluous ha, not_not]

theorem left_distinct : DistinctIds (left required found new made) := h.distinct.filter _

/-- The keys of what is left are the required ones, each once. -/
theorem keys_left :
    ((left required found new made).filterMap AuthorizerKey.ofAuthorizer?).Perm required := by
  rw [h.left_distinct.keys_eq]
  refine (h.left_perm.map Prod.fst).trans ?_
  refine (List.perm_ext_iff_of_nodup ?_ h.keys).mpr fun key => ?_
  · exact h.nodup_keys.sublist (List.filter_sublist.map Prod.fst)
  constructor
  · intro hkey
    obtain ⟨a, ha, rfl⟩ := List.mem_map.mp hkey
    exact of_decide_eq_true (List.mem_filter.mp ha).2
  · intro hkey
    obtain ⟨id, hid⟩ := bound_of_required h.missing hkey
    have hbound := ArrivalMap.mem_of_get? hid
    exact List.mem_map.mpr ⟨(key, id), List.mem_filter.mpr ⟨hbound, decide_eq_true hkey⟩, rfl⟩

theorem count_left (key : AuthorizerKey) :
    ((left required found new made).filterMap AuthorizerKey.ofAuthorizer?).count key =
      if key ∈ required then 1 else 0 := by
  rw [h.keys_left.count_eq]
  by_cases hkey : key ∈ required
  · rw [if_pos hkey]
    exact List.count_eq_one_of_mem h.keys hkey
  · rw [if_neg hkey]
    exact List.count_eq_zero_of_not_mem hkey

/-- An object whose key and identifier are bound stays if the key is required. -/
theorem mem_left {item : Object} {a : Existing} (hitem : item ∈ found ++ new) (hk : keyed? item = some a)
    (ha : a ∈ firstOf found ++ made) (hkey : a.1 ∈ required) : item ∈ left required found new made := by
  refine List.mem_filter.mpr ⟨hitem, decide_eq_true ?_⟩
  rw [(keyed?_eq_some_iff.mp hk).2]
  intro hdead
  obtain ⟨a', ha', he⟩ := List.mem_map.mp hdead
  exact (h.mem_superfluous ha).mp (List.mem_map.mpr ⟨a', ha', Option.some.inj he⟩) hkey

/-- A required key is bound to an authorizer that is left. -/
theorem bound_left {key : AuthorizerKey} (hkey : key ∈ required) :
    ∃ id item, ArrivalMap.get? key (firstOf found ++ made) = some id ∧
      item ∈ left required found new made ∧ keyed? item = some (key, id) := by
  obtain ⟨id, hid⟩ := bound_of_required h.missing hkey
  have hbound := ArrivalMap.mem_of_get? hid
  obtain ⟨item, hitem, hk⟩ := List.mem_filterMap.mp (h.perm.subset (List.mem_append_left _ hbound))
  exact ⟨id, item, hid, h.mem_left hitem hk hbound hkey, hk⟩

/-- The authorizer of a required key that was listed first stays. -/
theorem first_mem_left {key : AuthorizerKey} {item : Object} (hkey : key ∈ required)
    (hfirst : found.find? (fun item => AuthorizerKey.ofAuthorizer? item = some key) = some item) :
    item ∈ left required found new made := by
  have hitem : item ∈ found := List.mem_of_find?_eq_some hfirst
  obtain ⟨id, hid⟩ := h.distinct.named item (List.mem_append_left new hitem)
  have hk : keyed? item = some (key, id) :=
    keyed?_eq_some_iff.mpr ⟨by simpa using List.find?_some hfirst, textId?_of_text hid⟩
  have hget : (firstOf found).get? key = some id := by
    rw [firstOf, get?_partitionExisting]
    exact get?_keyed (fun item hitem => h.distinct.named item (List.mem_append_left new hitem)) hfirst
      (textId?_of_text hid)
  exact h.mem_left (List.mem_append_left new hitem) hk
    (List.mem_append_left made (ArrivalMap.mem_of_get? hget)) hkey

/-- Objects without a key stay as they are, and none is added. -/
theorem unmanaged_left :
    (left required found new made).filter (fun item => !isManaged item) =
      found.filter fun item => !isManaged item := by
  -- what was made has a key, and so has everything that is deleted
  have hnew : new.filter (fun item => !isManaged item) = [] := by
    refine List.filter_eq_nil_iff.mpr fun item hitem => ?_
    obtain ⟨a, -, ha⟩ := List.mem_map.mp (h.created ▸ List.mem_map_of_mem hitem)
    rw [isManaged, (keyed?_eq_some_iff.mp ha.symm).1]
    simp
  have hkept : ∀ item ∈ found ++ new, isManaged item = false →
      textId? item ∉ (superfluous required found made).map fun a => some a.2 := by
    intro item hitem hunmanaged hdead
    obtain ⟨a, ha, hid⟩ := List.mem_map.mp hdead
    obtain ⟨item', hitem', hk⟩ := List.mem_filterMap.mp (h.perm.subset (superfluous_subset ha))
    obtain ⟨hkey, hid'⟩ := keyed?_eq_some_iff.mp hk
    rw [eq_of_filterMap_nodup h.distinct.distinct hitem hitem' hid.symm hid', isManaged, hkey] at hunmanaged
    cases hunmanaged
  rw [left, without, List.filter_filter, ← List.append_nil (found.filter _), ← hnew, ← List.filter_append]
  refine List.filter_congr fun item hitem => ?_
  cases hm : isManaged item with
  | true => rfl
  | false => simp [hkept item hitem hm]

end Inventory

/-! ## Passes -/

/-- A pass over the authorizers of an API: what is there is listed and made to match a definition. -/
def resynchronize (api region : String) (d : Definition) : Program Bindings :=
  (existingAuthorizers api).bind fun existing => synchronize api region d existing true

section

variable {σ : Type} {b : Backend σ} {api region : String} {authorizers : σ → List Object} {s : σ}
  {d : Definition} {scopes : ArrivalMap Scope AuthorizerKey}

/-- **A pass succeeds**, and leaves what it found and made without what is superfluous. -/
theorem runs_resynchronize (hb : KeepsAuthorizers b api authorizers) (hs : DistinctIds (authorizers s))
    (hscopes : d.requiredAuthorizers = .ok scopes)
    (hkeys : ∀ key ∈ requiredKeys scopes, Recognized region key) :
    ∃ xs bindings new made s', Runs b (resynchronize api region d) s xs (.ok bindings) s' ∧
      Inventory (requiredKeys scopes) (authorizers s) new made ∧
      authorizers s' = Inventory.left (requiredKeys scopes) (authorizers s) new made ∧
      bindings.scopes = scopes ∧ ∀ key ∈ requiredKeys scopes,
        bindings.ids.get? key = ArrivalMap.get? key (firstOf (authorizers s) ++ made) := by
  obtain ⟨s₁, hsame, hlist⟩ := runs_existingAuthorizers hb hs
  rw [← hsame] at hs
  obtain ⟨ys, b₁, made, new, s₂, hcreate, hids, hlist₂, hmade, hs₂⟩ :=
    runs_createMissing hb ⟨scopes, firstOf (authorizers s), [], []⟩ hs hkeys
  -- which keys were missing is known of every trace, so also of this run's
  obtain ⟨made', rfl, hmissing, -⟩ := trace_createMissing (nodup_requiredKeys scopes) hcreate.trace
  obtain rfl : made' = made := List.append_cancel_left hids
  rw [hsame] at hlist₂
  rw [hlist₂] at hs₂
  have hinventory : Inventory (requiredKeys scopes) (authorizers s) new made' :=
    ⟨nodup_requiredKeys scopes, hs₂, hmade, hmissing⟩
  obtain ⟨zs, b₂, s₃, hdelete, hleft⟩ := runs_deleteSuperfluous hb
    ⟨scopes, firstOf (authorizers s) ++ made', [] ++ made'.map Prod.fst, []⟩
    hinventory.superfluous_distinct (by rw [hlist₂]; exact hinventory.superfluous_there)
    hinventory.superfluous_free
  obtain ⟨hsame₂, hkept⟩ := trace_deleteSuperfluous hdelete.trace
  have hsync : Runs b (synchronize api region d ((authorizers s).filterMap keyed?) true) s₁
      (ys ++ (zs ++ [])) (.ok b₂) s₃ := by
    rw [synchronize_eq, hscopes]
    exact hcreate.bind (Runs.bind hdelete (runs_done b₂).note)
  exact ⟨_, b₂, new, made', s₃, hlist.bind hsync, hinventory, by rw [hleft, hlist₂]; rfl, hsame₂, hkept⟩

/-- A synchronization of authorizers that have the required keys, each once, has nothing to do. -/
theorem synchronize_of_matching {existing : List Existing} (hscopes : d.requiredAuthorizers = .ok scopes)
    (hkeys : (existing.map Prod.fst).Perm (requiredKeys scopes)) :
    ∃ n bindings, synchronize api region d existing true = .note n (.done bindings) := by
  have hnodup : (existing.map Prod.fst).Nodup := hkeys.nodup_iff.mpr (nodup_requiredKeys scopes)
  have hpartition : partitionExisting existing [] [] = (existing, []) := partitionExisting_of_nodup hnodup
  have hnone : existing.filter (fun a => a.1 ∉ requiredKeys scopes) = [] := by
    refine List.filter_eq_nil_iff.mpr fun a ha hn => of_decide_eq_true hn ?_
    exact hkeys.subset (List.mem_map_of_mem ha)
  have hmissing : createMissing api region (requiredKeys scopes) ⟨scopes, existing, [], []⟩ =
      .done ⟨scopes, existing, [], []⟩ :=
    createMissing_of_has fun key hkey => ArrivalMap.has_iff.mpr (hkeys.symm.subset hkey)
  have hprune : pruneAuthorizers api (requiredKeys scopes) [] true ⟨scopes, existing, [], []⟩ =
      .done ⟨scopes, existing, [], []⟩ := by
    rw [pruneAuthorizers, if_pos rfl, hnone]
    rfl
  rw [synchronize_eq, hscopes, hpartition]
  simp only [Except.mapError, ofExcept_ok, done_bind]
  rw [hmissing, done_bind, hprune, done_bind]
  exact ⟨_, _, rfl⟩

/-- **A pass over what a pass left makes no change**: it lists, and that is all. -/
theorem runs_resynchronize_again (hb : KeepsAuthorizers b api authorizers) (hs : DistinctIds (authorizers s))
    (hscopes : d.requiredAuthorizers = .ok scopes)
    (hkeys : ((authorizers s).filterMap AuthorizerKey.ofAuthorizer?).Perm (requiredKeys scopes)) :
    ∃ bindings s', authorizers s' = authorizers s ∧
      Runs b (resynchronize api region d) s [.list (.authorizers api) (.ok (authorizers s))]
        (.ok bindings) s' := by
  obtain ⟨s', hsame, hlist⟩ := runs_existingAuthorizers hb hs
  rw [hs.keys_eq] at hkeys
  obtain ⟨n, bindings, hsync⟩ := synchronize_of_matching hscopes hkeys
  refine ⟨bindings, s', hsame, hlist.bind ?_⟩
  rw [hsync]
  exact (runs_done bindings).note

theorem recognized (hregion : region ≠ "") (hcolon : ':' ∉ region.toList)
    (hscopes : d.requiredAuthorizers = .ok scopes)
    (hslash : ∀ key ∈ scopes.values, '/' ∉ key.target.toList) :
    ∀ key ∈ requiredKeys scopes, Recognized region key := by
  intro key hkey item huri hcredentials
  have hvalue : key ∈ scopes.values := List.mem_eraseDups.mp hkey
  obtain ⟨htarget, hcredential⟩ := requiredAuthorizers_isFilled hscopes key hvalue
  exact AuthorizerKey.ofAuthorizer?_uri hregion hcolon htarget hcredential (hslash key hvalue) huri
    hcredentials

/-- **Synchronizing the authorizers converges.** Whatever authorizers there are, a pass succeeds. It leaves
one authorizer for each required key, the first that was listed if there was one, no other authorizer with
a key, and every authorizer without a key as it was. A second pass creates nothing and deletes nothing. -/
theorem authorizers_converge (hb : KeepsAuthorizers b api authorizers) (hs : DistinctIds (authorizers s))
    (hregion : region ≠ "") (hcolon : ':' ∉ region.toList) (hscopes : d.requiredAuthorizers = .ok scopes)
    (hslash : ∀ key ∈ scopes.values, '/' ∉ key.target.toList) :
    ∃ xs bindings s', Runs b (resynchronize api region d) s xs (.ok bindings) s' ∧
      (∀ key, ((authorizers s').filterMap AuthorizerKey.ofAuthorizer?).count key =
        if key ∈ scopes.values then 1 else 0) ∧
      (∀ key ∈ scopes.values, ∀ item,
        (authorizers s).find? (fun item => AuthorizerKey.ofAuthorizer? item = some key) = some item →
        item ∈ authorizers s') ∧
      (authorizers s').filter (fun item => !isManaged item) =
        (authorizers s).filter (fun item => !isManaged item) ∧
      ∃ bindings' s'', authorizers s'' = authorizers s' ∧
        Runs b (resynchronize api region d) s' [.list (.authorizers api) (.ok (authorizers s'))]
          (.ok bindings') s'' := by
  obtain ⟨xs, bindings, new, made, s', hruns, hinventory, hleft, -, -⟩ :=
    runs_resynchronize hb hs hscopes (recognized hregion hcolon hscopes hslash)
  refine ⟨xs, bindings, s', hruns, fun key => ?_, fun key hkey item hfirst => ?_, ?_, ?_⟩
  · rw [hleft, hinventory.count_left]
    simp only [requiredKeys, List.mem_eraseDups]
  · rw [hleft]
    exact hinventory.first_mem_left (List.mem_eraseDups.mpr hkey) hfirst
  · rw [hleft]
    exact hinventory.unmanaged_left
  · refine runs_resynchronize_again hb ?_ hscopes ?_
    · rw [hleft]
      exact hinventory.left_distinct
    · rw [hleft]
      exact hinventory.keys_left

end

/-- A definition with an authorizer for the API and another one for an operation. -/
def guardedOrders : Definition where
  id := "orders"
  name := "Orders"
  version := "1.0.0"
  context := none
  document := ""
  endpoint := .absent
  policies := [⟨authorizerPolicyName,
    [(.text "lambdaARN", .text "check"), (.text "invokeRoleARN", .text "caller")]⟩]
  routes := [⟨"/orders", "GET", []⟩, ⟨"/orders", "POST", [⟨authorizerPolicyName,
    [(.text "lambdaARN", .text "audit"), (.text "invokeRoleARN", .text "caller")]⟩]⟩]
  description := none
  organization := none
  createdTime := none
  discovered := false

/-- An authorizer on the gateway, with its target. -/
def hostedAuthorizer (id target : String) : Object :=
  [(.text "id", .text id), (.text "authorizerUri", .text (AuthorizerKey.uri "eu" ⟨target, "caller"⟩)),
    (.text "authorizerCredentials", .text "caller")]

/-- An API with two authorizers of a required key, one of a key that is not required, and one without a
key. -/
def crowdedApi : HostedApi where
  resources := []
  methods := []
  authorizers := [hostedAuthorizer "1" "check", hostedAuthorizer "2" "gone", hostedAuthorizer "3" "check",
    [(.text "id", .text "4")]]
  deployments := []
  stages := []

theorem distinctIds_crowdedApi : DistinctIds crowdedApi.authorizers := by
  constructor
  · simp only [crowdedApi, List.forall_mem_cons]
    exact ⟨⟨_, rfl⟩, ⟨_, rfl⟩, ⟨_, rfl⟩, ⟨_, rfl⟩, List.forall_mem_nil _⟩
  · decide

theorem crowdedApi_converges :
    ∃ xs bindings v', Runs (memoryGateway fun _ => ⟨[], [], List.nodup_nil⟩)
        (resynchronize "a" "eu" guardedOrders) crowdedApi xs (.ok bindings) v' ∧
      (v'.authorizers.filterMap AuthorizerKey.ofAuthorizer?).count ⟨"check", "caller"⟩ = 1 ∧
      (v'.authorizers.filterMap AuthorizerKey.ofAuthorizer?).count ⟨"audit", "caller"⟩ = 1 ∧
      (v'.authorizers.filterMap AuthorizerKey.ofAuthorizer?).count ⟨"gone", "caller"⟩ = 0 ∧
      hostedAuthorizer "1" "check" ∈ v'.authorizers := by
  have hscopes : guardedOrders.requiredAuthorizers =
      .ok [(.api, ⟨"check", "caller"⟩), (.operation "/orders" "post", ⟨"audit", "caller"⟩)] := rfl
  obtain ⟨xs, bindings, v', hruns, hcount, hfirst, -, -⟩ :=
    authorizers_converge (memoryGateway_hosts _ "a").keepsAuthorizers distinctIds_crowdedApi
      (show "eu" ≠ "" by decide) (by decide) hscopes (by decide)
  refine ⟨xs, bindings, v', hruns, (hcount _).trans (by decide), (hcount _).trans (by decide),
    (hcount _).trans (by decide), ?_⟩
  exact hfirst ⟨"check", "caller"⟩ (by decide) _ rfl

end ApiReconciler
