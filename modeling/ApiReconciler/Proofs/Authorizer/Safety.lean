import ApiReconciler.Gateway.Script
import ApiReconciler.Proofs.Authorizer.Convergence

/-!
# `ApiReconciler.Proofs.Authorizer.Safety` — synchronizing authorizers is safe wherever it stops

Any call of a synchronization can fail, and then it is the last one. So a synchronization is described by
two lists that it works off in turn: the required keys that are missing, which it creates, and what is
superfluous, which it deletes (`InTurn`). The guard of the deletions looks at identifiers that change while
it is used, but with distinct identifiers it never holds: no required key is bound to what is superfluous,
and forgetting a binding does not change that (`deleteSuperfluous_inTurn`). So the list to delete is known
beforehand, and the first authorizer of a required key is not on it.

Identifiers of created authorizers play no part in this, so nothing is assumed of them.

## Contents
- `InTurn`: calls made one after the other, up to the first answer that is no good.
- `createMissing_inTurn`, `deleteSuperfluous_inTurn`: the two loops, however they end.
- `Unneeded`, `mem_superfluous_iff`: what is superfluous, said about the list of existing authorizers.
- `synchronize_safe`: every run of a synchronization, whether it succeeds or not.
-/

namespace ApiReconciler

open Program

variable {api region : String} {xs : List Exchange}

/-! ## Calls in turn -/

/-- Calls for the elements of a list, one after the other, up to the first one that gets no good answer.
The flag says whether they all did. -/
inductive InTurn {α : Type} (ask : α → Call) (good : Answer → Prop) :
    List α → List Exchange → Bool → Prop
  | finished : InTurn ask good [] [] true
  | stopped {a : α} {rest : List α} {answer : Answer} (h : ¬good answer) :
    InTurn ask good (a :: rest) [.call (ask a) answer] false
  | next {a : α} {rest : List α} {answer : Answer} {xs : List Exchange} {all : Bool} (h : good answer)
    (hrest : InTurn ask good rest xs all) :
    InTurn ask good (a :: rest) (.call (ask a) answer :: xs) all

/-- Nothing is asked that is not on the list. -/
theorem InTurn.request {α : Type} {ask : α → Call} {good : Answer → Prop} {as : List α} {all : Bool}
    (h : InTurn ask good as xs all) {x : Exchange} (hx : x ∈ xs) :
    ∃ a ∈ as, x.request = .call (ask a) := by
  induction h with
  | finished => cases hx
  | stopped h =>
      rw [List.mem_singleton.mp hx]
      exact ⟨_, List.mem_cons_self, rfl⟩
  | next h _ ih =>
      rcases List.mem_cons.mp hx with rfl | hx
      · exact ⟨_, List.mem_cons_self, rfl⟩
      · obtain ⟨a, ha, hr⟩ := ih hx
        exact ⟨a, List.mem_cons_of_mem _ ha, hr⟩

/-- The answer is a reply that names what was made. -/
def Named (answer : Answer) : Prop := ∃ reply id, answer = .ok reply ∧ reply.get? "id" = some (.text id)

/-- A member is a text, or asking for it fails. -/
theorem trace_textMember_error {ms : Object} {name : String} {e : Failure}
    (h : (textMember ms name).Trace xs (.error e)) : xs = [] ∧ ∀ s, ms.get? name ≠ some (.text s) := by
  unfold textMember at h
  split at h
  · next hm => exact ⟨h.1, fun s hs => by rw [hm] at hs; cases hs⟩
  · cases h.2
  · next v hv hm =>
      refine ⟨h.1, fun s hs => ?_⟩
      rw [hm] at hs
      exact hv s (Option.some.inj hs)

/-! ## Creating -/

/-- The call that creates the authorizer of a key. -/
def creation (api region : String) (key : AuthorizerKey) : Call :=
  .createAuthorizer api ⟨key.displayName, key.uri region, key.credential, defaultIdentitySource⟩

/-- An authorizer is created by one call, which fails unless the reply names the authorizer. -/
theorem trace_createAuthorizer_cases {key : AuthorizerKey} {r : Except Failure String}
    (h : (createAuthorizer api region key).Trace xs r) :
    ∃ answer, xs = [.call (creation api region key) answer] ∧
      ((∃ id, r = .ok id ∧ Named answer) ∨ ∃ e, r = .error e ∧ ¬Named answer) := by
  obtain ⟨answer, ys, rfl, h⟩ := h
  cases answer with
  | error fault =>
      obtain ⟨rfl, rfl⟩ := h
      refine ⟨.error fault, rfl, .inr ⟨_, rfl, ?_⟩⟩
      rintro ⟨reply, id, h, -⟩
      cases h
  | ok reply =>
      cases r with
      | ok id =>
          obtain ⟨rfl, hid⟩ := trace_textMember_ok.mp h
          exact ⟨.ok reply, rfl, .inl ⟨id, rfl, reply, id, rfl, hid⟩⟩
      | error e =>
          obtain ⟨rfl, hno⟩ := trace_textMember_error h
          refine ⟨.ok reply, rfl, .inr ⟨e, rfl, ?_⟩⟩
          rintro ⟨_, id, ⟨⟩, hid⟩
          exact hno id hid

/-- **The missing authorizers are created in turn**, and creating them succeeds if they all are. -/
theorem createMissing_inTurn {keys : List AuthorizerKey} {b : Bindings} {r : Except Failure Bindings}
    (hkeys : keys.Nodup) (h : (createMissing api region keys b).Trace xs r) :
    InTurn (creation api region) Named (keys.filter fun key => !b.ids.has key) xs r.isOk := by
  induction keys generalizing b xs with
  | nil =>
      obtain ⟨rfl, rfl⟩ := h
      exact .finished
  | cons key keys ih =>
      obtain ⟨hkey, hkeys⟩ := List.nodup_cons.mp hkeys
      unfold createMissing at h
      split at h
      · next hk =>
          rw [List.filter_cons, hk]
          exact ih hkeys h
      · next hk =>
          rw [List.filter_cons, if_pos (by simp [hk])]
          rcases trace_bind.mp h with ⟨id, ys, zs, rfl, hc, hrest⟩ | ⟨e, rfl, hc⟩
          · obtain ⟨answer, rfl, ⟨_, -, hgood⟩ | ⟨e, he, -⟩⟩ := trace_createAuthorizer_cases hc
            · -- the later keys are other ones, so binding this key does not change which are missing
              have hsame : keys.filter (fun k => !(b.ids.set key id).has k) =
                  keys.filter fun k => !b.ids.has k := by
                refine List.filter_congr fun k hmem => ?_
                have hne : k ≠ key := fun he => hkey (he ▸ hmem)
                rw [ArrivalMap.has, ArrivalMap.get?_set_of_ne _ _ hne, ArrivalMap.has]
              have hlater := ih hkeys hrest
              rw [hsame] at hlater
              exact .next hgood hlater
            · cases he
          · obtain ⟨answer, rfl, ⟨_, hr, -⟩ | ⟨-, -, hbad⟩⟩ := trace_createAuthorizer_cases hc
            · cases hr
            · exact .stopped hbad

/-! ## Deleting -/

/-- The call that deletes an authorizer. -/
def deletion (api : String) (a : Existing) : Call := .deleteAuthorizer api a.2

theorem trace_deleteAuthorizer {id : String} {r : Except Failure Unit}
    (h : (deleteAuthorizer api id).Trace xs r) :
    ∃ answer, xs = [.call (.deleteAuthorizer api id) answer] ∧
      (r = .ok () ∧ Accepted answer ∨ ∃ e, r = .error e ∧ ¬Accepted answer) := by
  obtain ⟨answer, ys, rfl, h⟩ := h
  cases answer with
  | ok reply =>
      obtain ⟨rfl, rfl⟩ := h
      exact ⟨.ok reply, rfl, .inl ⟨rfl, reply, rfl⟩⟩
  | error fault =>
      obtain ⟨rfl, rfl⟩ := h
      refine ⟨.error fault, rfl, .inr ⟨_, rfl, ?_⟩⟩
      rintro ⟨reply, h⟩
      cases h

/-- **Authorizers that no required key is bound to are deleted in turn**, each of them. -/
theorem deleteSuperfluous_inTurn {required : List AuthorizerKey} {doomed : List Existing} {b : Bindings}
    {r : Except Failure Bindings} (hfree : ∀ a ∈ doomed, a.1 ∈ required → b.ids.get? a.1 ≠ some a.2)
    (h : (deleteSuperfluous api required doomed b).Trace xs r) :
    InTurn (deletion api) Accepted doomed xs r.isOk ∧
      ∀ b', r = .ok b' → b'.created = b.created ∧ b'.deleted = b.deleted ++ doomed.map Prod.fst := by
  induction doomed generalizing b xs with
  | nil =>
      obtain ⟨rfl, rfl⟩ := h
      refine ⟨.finished, fun b' hb => ?_⟩
      rw [Except.ok.inj hb, List.map_nil, List.append_nil]
      exact ⟨rfl, rfl⟩
  | cons a doomed ih =>
      obtain ⟨hafree, hfree⟩ := List.forall_mem_cons.mp hfree
      unfold deleteSuperfluous at h
      rw [if_neg fun hbound => hafree hbound.1 hbound.2] at h
      rcases trace_bind.mp h with ⟨_, ys, zs, rfl, hd, hrest⟩ | ⟨e, rfl, hd⟩
      · obtain ⟨answer, rfl, ⟨-, hgood⟩ | ⟨e, he, -⟩⟩ := trace_deleteAuthorizer hd
        · obtain ⟨hturn, hend⟩ := ih (fun a' ha' hr => withoutAuthorizer_get? (hfree a' ha' hr)) hrest
          refine ⟨.next hgood hturn, fun b' hb => ?_⟩
          obtain ⟨hcreated, hdeleted⟩ := hend b' hb
          refine ⟨hcreated, hdeleted.trans ?_⟩
          rw [Bindings.withoutAuthorizer, List.append_assoc, List.map_cons, List.singleton_append]
        · cases he
      · obtain ⟨answer, rfl, ⟨hr, -⟩ | ⟨-, -, hbad⟩⟩ := trace_deleteAuthorizer hd
        · cases hr
        · refine ⟨.stopped hbad, ?_⟩
          rintro b' ⟨⟩

/-! ## What is superfluous -/

/-- No required key needs an authorizer: its key is not required, or an earlier one has the same key. -/
def Unneeded (required : List AuthorizerKey) (existing : List Existing) (a : Existing) : Prop :=
  ∃ before after, existing = before ++ a :: after ∧ (a.1 ∉ required ∨ a.1 ∈ before.map Prod.fst)

/-- The further ones are those whose key was there before. -/
theorem mem_partitionExisting_snd {existing : List Existing} {ids : ArrivalMap AuthorizerKey String}
    {more : List Existing} {a : Existing} :
    a ∈ (partitionExisting existing ids more).2 ↔ a ∈ more ∨
      ∃ before after, existing = before ++ a :: after ∧ a.1 ∈ ids.map Prod.fst ++ before.map Prod.fst := by
  induction existing generalizing ids more with
  | nil => simp [partitionExisting]
  | cons first rest ih =>
      obtain ⟨key, id⟩ := first
      -- what precedes an element of the rest is the first element and what precedes it in the rest
      have hlater : ∀ keys : List AuthorizerKey,
          (∃ before after, (key, id) :: rest = before ++ a :: after ∧ a.1 ∈ keys ++ before.map Prod.fst) ↔
            (key, id) = a ∧ key ∈ keys ∨
              ∃ before after, rest = before ++ a :: after ∧ a.1 ∈ keys ++ key :: before.map Prod.fst := by
        intro keys
        constructor
        · rintro ⟨_ | ⟨f, before⟩, after, he, hk⟩
          · obtain ⟨rfl, rfl⟩ := List.cons_eq_cons.mp he
            rw [List.map_nil, List.append_nil] at hk
            exact .inl ⟨rfl, hk⟩
          · obtain ⟨rfl, rfl⟩ := List.cons_eq_cons.mp he
            exact .inr ⟨before, after, rfl, hk⟩
        · rintro (⟨rfl, hk⟩ | ⟨before, after, rfl, hk⟩)
          · exact ⟨[], rest, rfl, List.mem_append_left _ hk⟩
          · exact ⟨(key, id) :: before, after, rfl, hk⟩
      rw [partitionExisting, hlater]
      split
      · next hk =>
          rw [ArrivalMap.has_iff] at hk
          rw [ih, List.mem_append, List.mem_singleton, or_assoc]
          refine or_congr Iff.rfl (or_congr ?_ ?_)
          · exact ⟨fun he => ⟨he.symm, hk⟩, fun h => h.1.symm⟩
          · refine exists_congr fun before => exists_congr fun after => and_congr Iff.rfl ?_
            simp only [List.mem_append, List.mem_cons]
            constructor
            · exact fun h => h.imp_right .inr
            · rintro (h | rfl | h)
              · exact .inl h
              · exact .inl hk
              · exact .inr h
      · next hk =>
          rw [ArrivalMap.has_iff] at hk
          rw [ih, ArrivalMap.set_of_new hk, List.map_append, List.map_singleton]
          refine or_congr Iff.rfl ?_
          have hnot : ¬((key, id) = a ∧ key ∈ ids.map Prod.fst) := fun h => hk h.2
          rw [or_iff_right hnot]
          simp only [List.append_assoc, List.singleton_append]

section

variable {required : List AuthorizerKey} {existing : List Existing}

/-- What a synchronization deletes when it may: the further authorizers, and those that nothing requires. -/
def superfluousOf (required : List AuthorizerKey) (existing : List Existing) : List Existing :=
  (partitionExisting existing [] []).2 ++
    (partitionExisting existing [] []).1.filter fun a => a.1 ∉ required

theorem mem_superfluousOf {a : Existing} :
    a ∈ superfluousOf required existing ↔ Unneeded required existing a := by
  have hfurther : a ∈ (partitionExisting existing [] []).2 ↔
      ∃ before after, existing = before ++ a :: after ∧ a.1 ∈ before.map Prod.fst := by
    rw [mem_partitionExisting_snd, or_iff_right List.not_mem_nil]
    rfl
  have hall : a ∈ existing ↔
      a ∈ (partitionExisting existing [] []).1 ∨ a ∈ (partitionExisting existing [] []).2 := by
    rw [← List.mem_append]
    exact (partitionExisting_perm existing [] []).mem_iff.symm
  rw [superfluousOf, List.mem_append, List.mem_filter, decide_eq_true_iff]
  constructor
  · rintro (h | ⟨h, hkey⟩)
    · obtain ⟨before, after, he, hk⟩ := hfurther.mp h
      exact ⟨before, after, he, .inr hk⟩
    · obtain ⟨before, after, he⟩ := List.append_of_mem (hall.mpr (.inl h))
      exact ⟨before, after, he, .inl hkey⟩
  · rintro ⟨before, after, he, hkey | hk⟩
    · have ha : a ∈ existing := by rw [he]; exact List.mem_append_right _ List.mem_cons_self
      exact (hall.mp ha).symm.imp_right fun h => ⟨h, hkey⟩
    · exact .inl (hfurther.mpr ⟨before, after, he, hk⟩)

theorem superfluousOf_nodup (hids : (existing.map Prod.snd).Nodup) :
    ((superfluousOf required existing).map Prod.snd).Nodup := by
  have hperm := (partitionExisting_perm existing [] []).map Prod.snd
  have hsub : ((partitionExisting existing [] []).2 ++
        (partitionExisting existing [] []).1.filter fun a => a.1 ∉ required).Sublist
      ((partitionExisting existing [] []).2 ++ (partitionExisting existing [] []).1) :=
    (List.Sublist.refl _).append List.filter_sublist
  refine List.Nodup.sublist (hsub.map Prod.snd) ?_
  rw [((List.perm_append_comm.map Prod.snd).trans hperm).nodup_iff]
  exact hids

/-- The first authorizer of a required key is not superfluous. -/
theorem first_not_superfluous (hids : (existing.map Prod.snd).Nodup) {key : AuthorizerKey} {id : String}
    (hkey : key ∈ required) (hfirst : ArrivalMap.get? key existing = some id) {a : Existing}
    (ha : a ∈ superfluousOf required existing) : a.2 ≠ id := by
  have hbound : (partitionExisting existing [] []).1.get? key = some id := by
    rw [get?_partitionExisting]
    exact hfirst
  have hdistinct : (((partitionExisting existing [] []).1 ++
      (partitionExisting existing [] []).2).map Prod.snd).Nodup := by
    rw [((partitionExisting_perm existing [] []).map Prod.snd).nodup_iff]
    exact hids
  exact not_superfluous hdistinct (ArrivalMap.mem_of_get? hbound) hkey ha

end

/-! ## Synchronizing -/

section

variable {scopes : ArrivalMap Scope AuthorizerKey} {existing made : List Existing}

/-- The keys that are required and that no existing authorizer has. -/
def missingKeys (scopes : ArrivalMap Scope AuthorizerKey) (existing : List Existing) :
    List AuthorizerKey :=
  (requiredKeys scopes).filter fun key => key ∉ existing.map Prod.fst

theorem missingKeys_eq :
    missingKeys scopes existing =
      (requiredKeys scopes).filter fun key => !(partitionExisting existing [] []).1.has key := by
  refine List.filter_congr fun key _ => ?_
  have hsame : (partitionExisting existing [] []).1.has key = ArrivalMap.has key existing := by
    rw [ArrivalMap.has, ArrivalMap.has, get?_partitionExisting]
    rfl
  rw [hsame, decide_not]
  refine congrArg (!·) ?_
  rw [Bool.eq_iff_iff, decide_eq_true_iff]
  exact ArrivalMap.has_iff.symm

/-- Keys that were missing are required, so what was made for them is not superfluous. -/
theorem superfluousOf_made (hmade : made.map Prod.fst = missingKeys scopes existing) :
    ((partitionExisting existing [] []).2 ++
      ((partitionExisting existing [] []).1 ++ made).filter fun a => a.1 ∉ requiredKeys scopes) =
      superfluousOf (requiredKeys scopes) existing := by
  have hnone : made.filter (fun a => a.1 ∉ requiredKeys scopes) = [] := by
    refine List.filter_eq_nil_iff.mpr fun a ha hn => of_decide_eq_true hn ?_
    exact (List.mem_filter.mp (hmade ▸ List.mem_map_of_mem ha)).1
  rw [superfluousOf, List.filter_append, hnone, List.append_nil]

/-- No required key is bound to what is superfluous. -/
theorem superfluousOf_free (hids : (existing.map Prod.snd).Nodup) :
    ∀ a ∈ superfluousOf (requiredKeys scopes) existing, a.1 ∈ requiredKeys scopes →
      ArrivalMap.get? a.1 ((partitionExisting existing [] []).1 ++ made) ≠ some a.2 := by
  intro a ha hkey hbound
  -- a required key is superfluous only as a further one, so there is a first one with that key
  obtain ⟨before, after, he, h⟩ := mem_superfluousOf.mp ha
  have hthere : a.1 ∈ existing.map Prod.fst := by
    rw [he, List.map_append]
    exact List.mem_append_left _ (h.resolve_left fun hn => hn hkey)
  obtain ⟨id, hid⟩ : ∃ id, ArrivalMap.get? a.1 existing = some id :=
    Option.ne_none_iff_exists'.mp fun hn => ArrivalMap.get?_eq_none_iff.mp hn hthere
  have hfirst : (partitionExisting existing [] []).1.get? a.1 = some id := by
    rw [get?_partitionExisting]
    exact hid
  rw [ArrivalMap.get?_append, hfirst] at hbound
  exact first_not_superfluous hids hkey hid ha (Option.some.inj hbound).symm

/-- The existing authorizers whose deletion has not been asked for. -/
def untouched (api : String) (xs : List Exchange) (existing : List Existing) : List Existing :=
  existing.filter fun a => Request.call (deletion api a) ∉ xs.map Exchange.request

/-- While only superfluous authorizers are deleted, a required key that has an authorizer keeps it. -/
theorem get?_untouched (hids : (existing.map Prod.snd).Nodup)
    (hxs : ∀ x ∈ xs, ∀ id, x.request = .call (.deleteAuthorizer api id) →
      ∃ a ∈ superfluousOf (requiredKeys scopes) existing, a.2 = id)
    {key : AuthorizerKey} (hkey : key ∈ requiredKeys scopes) :
    ArrivalMap.get? key (untouched api xs existing) = ArrivalMap.get? key existing := by
  refine ArrivalMap.get?_filter_of fun id hid => decide_eq_true fun hmem => ?_
  obtain ⟨x, hx, hrequest⟩ := List.mem_map.mp hmem
  obtain ⟨a, ha, he⟩ := hxs x hx id hrequest
  exact first_not_superfluous hids hkey hid ha he

end

/-- What a synchronization is to delete. -/
def marked (prune : Bool) (required : List AuthorizerKey) (existing : List Existing) : List Existing :=
  if prune then superfluousOf required existing else []

theorem marked_subset (prune : Bool) (required : List AuthorizerKey) (existing : List Existing) :
    marked prune required existing ⊆ superfluousOf required existing := by
  cases prune with
  | true => exact List.Subset.refl _
  | false => exact List.nil_subset _

/-- **A synchronization works off two lists**: the missing keys, and when they all have authorizers, what
is marked. -/
theorem trace_synchronize_inTurn {d : Definition} {scopes : ArrivalMap Scope AuthorizerKey}
    {existing : List Existing} {prune : Bool} {r : Except Failure Bindings}
    (hids : (existing.map Prod.snd).Nodup) (hscopes : d.requiredAuthorizers = .ok scopes)
    (h : (synchronize api region d existing prune).Trace xs r) :
    ∃ creations deletions made, xs = creations ++ deletions ∧
      InTurn (creation api region) Named (missingKeys scopes existing) creations made ∧
      (made = false → deletions = [] ∧ r.isOk = false) ∧
      (made = true →
        InTurn (deletion api) Accepted (marked prune (requiredKeys scopes) existing) deletions r.isOk) ∧
      ∀ bindings, r = .ok bindings →
        bindings.created = missingKeys scopes existing ∧
          bindings.deleted = (marked prune (requiredKeys scopes) existing).map Prod.fst := by
  rw [synchronize_eq, hscopes] at h
  simp only [Except.mapError, ofExcept_ok, done_bind] at h
  rw [missingKeys_eq]
  rcases trace_bind.mp h with ⟨b, creations, rest, rfl, hcreate, hrest⟩ | ⟨e, rfl, hcreate⟩
  · have hturn := createMissing_inTurn (nodup_requiredKeys scopes) hcreate
    obtain ⟨made, rfl, hmade, -⟩ := trace_createMissing (nodup_requiredKeys scopes) hcreate
    rw [← missingKeys_eq] at hmade hturn ⊢
    have hdelete : InTurn (deletion api) Accepted (marked prune (requiredKeys scopes) existing) rest r.isOk ∧
        ∀ b', r = .ok b' → b'.created = [] ++ made.map Prod.fst ∧
          b'.deleted = [] ++ (marked prune (requiredKeys scopes) existing).map Prod.fst := by
      cases prune with
      | true =>
          rw [pruneAuthorizers, if_pos rfl, superfluousOf_made hmade] at hrest
          rcases trace_bind.mp hrest with ⟨b', deletions, none, rfl, hd, rfl, rfl⟩ | ⟨e, rfl, hd⟩
          · rw [List.append_nil]
            exact deleteSuperfluous_inTurn (superfluousOf_free hids) hd
          · exact deleteSuperfluous_inTurn (superfluousOf_free hids) hd
      | false =>
          obtain ⟨rfl, rfl⟩ := hrest
          refine ⟨.finished, fun b' hb => ?_⟩
          rw [← Except.ok.inj hb]
          exact ⟨rfl, rfl⟩
    refine ⟨creations, rest, true, rfl, hturn, fun h => ?_, fun _ => hdelete.1, fun bindings hb => ?_⟩
    · cases h
    · rw [← hmade]
      exact hdelete.2 bindings hb
  · have hturn := createMissing_inTurn (nodup_requiredKeys scopes) hcreate
    refine ⟨xs, [], false, (List.append_nil xs).symm, hturn, fun _ => ⟨rfl, rfl⟩, fun h => ?_,
      fun bindings hb => ?_⟩
    · cases h
    · cases hb

/-- **Synchronizing authorizers is safe at every point of every run**, wherever it stops. A policy without a
key is refused before any call. Otherwise the missing authorizers are created in turn, and only when
all of them are made, the unneeded ones are deleted in turn, if that is asked for, each of them once. What
is reported as created and deleted is just that. After any part of the calls, a required key that had an
authorizer still has the one that was listed first. -/
theorem synchronize_safe {σ : Type} (b : Backend σ) (s : σ) (api region : String) (d : Definition)
    (prune : Bool) {existing : List Existing} (hids : (existing.map Prod.snd).Nodup) :
    let pass := synchronize api region d existing prune
    (∀ fault, d.requiredAuthorizers = .error fault →
      pass.exchanges b s = [] ∧ (pass.run b s).result = .error fault.failure) ∧
    ∀ scopes, d.requiredAuthorizers = .ok scopes →
      ∃ creations deletions made doomed,
        pass.exchanges b s = creations ++ deletions ∧
        InTurn (creation api region) Named (missingKeys scopes existing) creations made ∧
        (made = false → deletions = [] ∧ (pass.run b s).result.isOk = false) ∧
        (made = true → InTurn (deletion api) Accepted doomed deletions (pass.run b s).result.isOk) ∧
        (doomed.map Prod.snd).Nodup ∧
        (prune = false → doomed = []) ∧
        (prune = true → ∀ a, a ∈ doomed ↔ Unneeded (requiredKeys scopes) existing a) ∧
        (∀ bindings, (pass.run b s).result = .ok bindings →
          bindings.created = missingKeys scopes existing ∧
            bindings.deleted = doomed.map Prod.fst) ∧
        ∀ pre, pre <+: pass.exchanges b s → ∀ key ∈ requiredKeys scopes,
          ArrivalMap.get? key (untouched api pre existing) = ArrivalMap.get? key existing := by
  intro pass
  refine ⟨fun fault hfault => ?_, fun scopes hscopes => ?_⟩
  · simp only [pass]
    rw [synchronize_eq, hfault]
    exact ⟨rfl, rfl⟩
  obtain ⟨creations, deletions, made, hx, hcreate, hstopped, hdelete, hreport⟩ :=
    trace_synchronize_inTurn hids hscopes (trace_run b pass s)
  have hsub := marked_subset prune (requiredKeys scopes) existing
  refine ⟨creations, deletions, made, marked prune (requiredKeys scopes) existing, hx, hcreate, hstopped,
    hdelete, ?_, ?_, ?_, hreport, fun pre hpre key hkey => ?_⟩
  · cases prune with
    | true => exact superfluousOf_nodup hids
    | false => exact List.nodup_nil
  · rintro rfl
    rfl
  · rintro rfl a
    exact mem_superfluousOf
  -- a deletion, in whichever part of the run, is one from the list
  refine get?_untouched hids (fun x hxs id hrequest => ?_) hkey
  rcases List.mem_append.mp (hx ▸ hpre.subset hxs) with hxs | hxs
  · obtain ⟨_, -, hr⟩ := hcreate.request hxs
    rw [hr] at hrequest
    cases hrequest
  · cases made with
    | false => rw [(hstopped rfl).1] at hxs; cases hxs
    | true =>
        obtain ⟨a, ha, hr⟩ := (hdelete rfl).request hxs
        rw [hr] at hrequest
        cases hrequest
        exact ⟨a, hsub ha, rfl⟩

/-- Two authorizers of a required key, and between them one of a key that is not required. -/
def crowdedOrders : List Existing :=
  [(⟨"check", "caller"⟩, "1"), (⟨"gone", "caller"⟩, "2"), (⟨"check", "caller"⟩, "3")]

/-- Replies to a synchronization in which the second deletion fails. -/
def ordersReplies : Script
  | .createAuthorizer => [.ok [(.text "id", .text "4")]]
  | .deleteAuthorizer => [Answer.empty, .error (.disconnected "lost")]
  | _ => []

/-- The synchronization with these replies. -/
def ordersRun : List Exchange :=
  (synchronize "a" "eu" guardedOrders crowdedOrders true).exchanges (Script.backend true) ordersReplies

theorem crowdedOrders_safe :
    (crowdedOrders.map Prod.snd).Nodup ∧
      (∃ creations deletions made doomed, ordersRun = creations ++ deletions ∧
        InTurn (creation "a" "eu") Named [⟨"audit", "caller"⟩] creations made ∧
        (made = true → InTurn (deletion "a") Accepted doomed deletions false) ∧
        (⟨"gone", "caller"⟩, "2") ∈ doomed ∧ (⟨"check", "caller"⟩, "1") ∉ doomed) ∧
      ArrivalMap.get? ⟨"check", "caller"⟩ (untouched "a" ordersRun crowdedOrders) = some "1" := by
  have hids : (crowdedOrders.map Prod.snd).Nodup := by decide
  have hscopes : guardedOrders.requiredAuthorizers =
      .ok [(.api, ⟨"check", "caller"⟩), (.operation "/orders" "post", ⟨"audit", "caller"⟩)] := rfl
  obtain ⟨creations, deletions, made, doomed, hx, hcreate, -, hdelete, -, -, hdoomed, -, hkept⟩ :=
    (synchronize_safe (Script.backend true) ordersReplies "a" "eu" guardedOrders true hids).2 _ hscopes
  refine ⟨hids, ⟨creations, deletions, made, doomed, hx, hcreate, hdelete, ?_, ?_⟩, ?_⟩
  · rw [hdoomed rfl]
    exact ⟨[_], [_], rfl, .inl (by decide)⟩
  · rw [hdoomed rfl, ← mem_superfluousOf]
    decide
  · exact hkept _ (List.prefix_refl _) ⟨"check", "caller"⟩ (by decide)

end ApiReconciler
