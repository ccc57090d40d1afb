import ApiReconciler.Proofs.Authorizer.Safety
import ApiReconciler.Proofs.Gateway.Staging

/-!
# `ApiReconciler.Proofs.Authorizer.Repeats` — authorizers that are listed more than once

A list of existing authorizers can name the same one repeatedly, for instance when a page is listed twice. The
first entry of a key is kept apart from the further ones, so a repeat is a further entry, and it depends on the
first one whether it does any harm. The deletions pass over an entry that a required key is bound to, which is
what a repeat of the first entry of a required key is. Every other authorizer that is listed repeatedly is asked
to be deleted as often as it is listed: a key that nothing requires has its first entry on the list to delete
beside the repeats of it, and a further entry of a required key is not what the key is bound to.

What is passed over can be told beforehand, since the deletions never change what a required key is bound to. So
a synchronization works off a list that is known from the start (`condemned`), and repeats do no harm exactly if
this list has none.

## Contents
- `Spared`, `HarmlessRepeats`: what is passed over, and lists all of whose repeats are.
- `partitionExisting_eraseDups`: the first entries of a list and its further ones, without its repeats.
- `condemned`, `synchronize_condemned`: the deletions as a list that is worked off.
- `deletionsOf`: the deletions of a run, `trace_synchronize_deletions`: they follow the list.
- `DeletesOnce`: gateways on which what was deleted cannot be deleted again, and the runs on them.
- `repeats_harmless_iff`: when repeats change anything.
-/

namespace ApiReconciler

open Program

/-! ## Repeats -/

/-- The authorizer that a required key keeps: the one that is listed first. -/
def Spared (required : List AuthorizerKey) (existing : List Existing) (a : Existing) : Prop :=
  a.1 ∈ required ∧ ArrivalMap.get? a.1 existing = some a.2

instance (required : List AuthorizerKey) (existing : List Existing) (a : Existing) :
    Decidable (Spared required existing a) :=
  inferInstanceAs (Decidable (_ ∧ _))

/-- Whatever is listed more than once is kept. -/
def HarmlessRepeats (required : List AuthorizerKey) (existing : List Existing) : Prop :=
  ∀ a, existing.Duplicate a → Spared required existing a

section

variable {existing : List Existing} {p : Existing → Bool}

/-- What is left of a list does not need the repeats of what was passed. -/
theorem partitionExisting_eraseDups_rest (existing before more more' : List Existing)
    (ids : ArrivalMap AuthorizerKey String) (hkeys : ∀ a ∈ before, a.1 ∈ ids.map Prod.fst)
    (hp : ∀ a, (before ++ existing).Duplicate a → p a = false) (hmore : more.filter p = more'.filter p) :
    (partitionExisting existing ids more).1 =
        (partitionExisting (existing.filter (· ∉ before)).eraseDups ids more').1 ∧
      (partitionExisting existing ids more).2.filter p =
        (partitionExisting (existing.filter (· ∉ before)).eraseDups ids more').2.filter p := by
  -- the induction carries the entries that were passed, since an entry is a repeat if it is among them
  induction existing generalizing before ids more more' with
  | nil => exact ⟨rfl, hmore⟩
  | cons a rest ih =>
      by_cases ha : a ∈ before
      · have hrepeat : p a = false := hp a (duplicate_append ha List.mem_cons_self)
        have hhas : ids.has a.1 = true := ArrivalMap.has_iff.mpr (hkeys a ha)
        have hskip : (a :: rest).filter (· ∉ before) = rest.filter (· ∉ before) :=
          List.filter_cons_of_neg (by simpa using ha)
        obtain ⟨key, id⟩ := a
        rw [hskip, partitionExisting, if_pos hhas]
        refine ih _ _ _ _ hkeys (fun b hb => hp b (hb.mono_sublist ?_)) ?_
        · exact (List.Sublist.refl before).append (List.sublist_cons_self _ rest)
        · rw [List.filter_append, List.filter_singleton, hrepeat, hmore]
          exact List.append_nil _
      · have hp' : ∀ b, (before ++ [a] ++ rest).Duplicate b → p b = false := by
          rw [List.append_assoc, List.singleton_append]
          exact hp
        rw [eraseDups_filter_not_mem ha]
        obtain ⟨key, id⟩ := a
        rw [partitionExisting, partitionExisting]
        split
        · next hhas =>
            refine ih _ _ _ _ (fun b hb => ?_) hp' ?_
            · rcases List.mem_append.mp hb with hb | hb
              · exact hkeys b hb
              · rw [List.mem_singleton.mp hb]
                exact ArrivalMap.has_iff.mp hhas
            · rw [List.filter_append, List.filter_append, hmore]
        · next hhas =>
            refine ih _ _ _ _ (fun b hb => ?_) hp' hmore
            rw [ArrivalMap.set_of_new (ArrivalMap.has_iff.not.mp hhas), List.map_append, List.mem_append]
            rcases List.mem_append.mp hb with hb | hb
            · exact .inl (hkeys b hb)
            · rw [List.mem_singleton.mp hb]
              exact .inr List.mem_cons_self

/-- **Leaving out the repeats of a list** changes nothing about the first entries of its keys, and of the further
ones only repeats are missing. -/
theorem partitionExisting_eraseDups (hp : ∀ a, existing.Duplicate a → p a = false) :
    (partitionExisting existing [] []).1 = (partitionExisting existing.eraseDups [] []).1 ∧
      (partitionExisting existing [] []).2.filter p =
        (partitionExisting existing.eraseDups [] []).2.filter p := by
  have hall : existing.filter (· ∉ ([] : List Existing)) = existing :=
    List.filter_eq_self.mpr fun _ _ => decide_eq_true List.not_mem_nil
  have hrest := partitionExisting_eraseDups_rest existing [] [] [] [] (List.forall_mem_nil _) hp rfl
  rwa [hall] at hrest

theorem firsts_eraseDups :
    (partitionExisting existing.eraseDups [] []).1 = (partitionExisting existing [] []).1 :=
  (partitionExisting_eraseDups (p := fun _ => false) fun _ _ => rfl).1.symm

theorem get?_eraseDups (key : AuthorizerKey) :
    ArrivalMap.get? key existing.eraseDups = ArrivalMap.get? key existing := by
  have hfirst : ∀ l : List Existing, (partitionExisting l [] []).1.get? key = ArrivalMap.get? key l :=
    fun l => get?_partitionExisting l [] [] key
  rw [← hfirst existing.eraseDups, firsts_eraseDups, hfirst]

end

/-! ## What is deleted -/

section

variable {required : List AuthorizerKey} {existing : List Existing}

/-- What a synchronization deletes: all that is superfluous, except what a required key keeps. -/
def condemned (required : List AuthorizerKey) (existing : List Existing) : List Existing :=
  (superfluousOf required existing).filter fun a => ¬Spared required existing a

/-- **Without the repeats of a list, the same is deleted**, if they do no harm. -/
theorem condemned_eraseDups (h : HarmlessRepeats required existing) :
    condemned required existing.eraseDups = condemned required existing := by
  have hsame : ∀ a, Spared required existing.eraseDups a ↔ Spared required existing a := fun a => by
    rw [Spared, get?_eraseDups, Spared]
  have hrepeats : ∀ a, existing.Duplicate a → decide (¬Spared required existing a) = false :=
    fun a ha => decide_eq_false (not_not.mpr (h a ha))
  simp only [condemned, superfluousOf, hsame]
  rw [List.filter_append, List.filter_append, firsts_eraseDups, (partitionExisting_eraseDups hrepeats).2]

/-- A list without repeats has none that do harm. -/
theorem harmlessRepeats_eraseDups : HarmlessRepeats required existing.eraseDups :=
  fun _ ha => absurd (nodup_eraseDups existing) ha.not_nodup

/-- **What is listed repeatedly and not kept is deleted as often as it is listed.** -/
theorem count_superfluousOf {a : Existing} (ha : ¬Spared required existing a) :
    (superfluousOf required existing).count a = existing.count a := by
  have hperm := (partitionExisting_perm existing [] []).count_eq a
  rw [List.count_append, List.nil_append, List.nil_append] at hperm
  rw [superfluousOf, List.count_append]
  have hfirst : ((partitionExisting existing [] []).1.filter fun b => b.1 ∉ required).count a =
      (partitionExisting existing [] []).1.count a := by
    by_cases hkey : a.1 ∈ required
    · -- the first entry of a required key is kept, so this is another one
      have hnot : a ∉ (partitionExisting existing [] []).1 := by
        intro hmem
        have hnodup : ((partitionExisting existing [] []).1.map Prod.fst).Nodup :=
          nodup_partitionExisting existing [] [] List.nodup_nil
        have hfound := (ArrivalMap.get?_eq_some_iff hnodup).mpr hmem
        rw [get?_partitionExisting] at hfound
        exact ha ⟨hkey, hfound⟩
      rw [List.count_eq_zero_of_not_mem hnot, List.count_eq_zero_of_not_mem]
      exact fun hmem => hnot (List.mem_filter.mp hmem).1
    · exact List.count_filter (decide_eq_true hkey)
  omega

theorem count_condemned {a : Existing} (ha : ¬Spared required existing a) :
    (condemned required existing).count a = (superfluousOf required existing).count a :=
  List.count_filter (p := fun a => decide ¬Spared required existing a) (decide_eq_true ha)

/-- What is to be deleted repeatedly is what is listed repeatedly and not kept. -/
theorem duplicate_condemned_iff {a : Existing} :
    (condemned required existing).Duplicate a ↔ existing.Duplicate a ∧ ¬Spared required existing a := by
  have hcount (ha : ¬Spared required existing a) :
      (condemned required existing).Duplicate a ↔ existing.Duplicate a := by
    rw [duplicate_iff_count, duplicate_iff_count, count_condemned ha, count_superfluousOf ha]
  constructor
  · intro h
    have ha : ¬Spared required existing a := of_decide_eq_true (List.mem_filter.mp h.mem).2
    exact ⟨(hcount ha).mp h, ha⟩
  · rintro ⟨h, ha⟩
    exact (hcount ha).mpr h

/-- **Nothing is to be deleted twice exactly if repeats do no harm.** -/
theorem nodup_condemned_iff : (condemned required existing).Nodup ↔ HarmlessRepeats required existing := by
  rw [List.nodup_iff_forall_not_duplicate]
  refine forall_congr' fun a => ?_
  rw [duplicate_condemned_iff, not_and, not_not]

instance : Decidable (HarmlessRepeats required existing) := decidable_of_iff _ nodup_condemned_iff

end

/-! ## Synchronizing with repeats -/

section

variable {api region : String} {required : List AuthorizerKey} {existing made : List Existing}
  {scopes : ArrivalMap Scope AuthorizerKey} {d : Definition}

/-- **What deletions pass over can be left out beforehand**, since they never change what a required key is bound
to. -/
theorem deleteSuperfluous_filter {doomed : List Existing} {b bound : Bindings}
    (hbound : ∀ key ∈ required, b.ids.get? key = bound.ids.get? key) :
    deleteSuperfluous api required doomed b =
      deleteSuperfluous api required
        (doomed.filter fun a => ¬(a.1 ∈ required ∧ bound.ids.get? a.1 = some a.2)) b := by
  induction doomed generalizing b with
  | nil => rfl
  | cons a rest ih =>
      have hsame : (a.1 ∈ required ∧ b.ids.get? a.1 = some a.2) ↔
          (a.1 ∈ required ∧ bound.ids.get? a.1 = some a.2) :=
        and_congr_right fun hkey => by rw [hbound a.1 hkey]
      by_cases ha : a.1 ∈ required ∧ b.ids.get? a.1 = some a.2
      · rw [List.filter_cons_of_neg (by simpa using hsame.mp ha), deleteSuperfluous, if_pos ha]
        exact ih hbound
      · have hkept : ¬(a.1 ∈ required ∧ bound.ids.get? a.1 = some a.2) := fun h => ha (hsame.mpr h)
        rw [List.filter_cons_of_pos (by simpa [imp_iff_not_or] using hkept), deleteSuperfluous, if_neg ha,
          deleteSuperfluous, if_neg ha]
        refine congrArg (deleteAuthorizer api a.2 >>= ·) (funext fun _ => ih fun key hkey => ?_)
        exact (withoutAuthorizer_get?_required ha hkey).trans (hbound key hkey)

theorem mem_of_mem_superfluousOf {a : Existing} (ha : a ∈ superfluousOf required existing) : a ∈ existing := by
  obtain ⟨before, after, rfl, -⟩ := mem_superfluousOf.mp ha
  exact List.mem_append_right _ List.mem_cons_self

/-- The keys of existing authorizers are bound to the first of them, also when others have been made. -/
theorem get?_firsts_append {a : Existing} (ha : a ∈ existing) :
    ArrivalMap.get? a.1 ((partitionExisting existing [] []).1 ++ made) = ArrivalMap.get? a.1 existing := by
  obtain ⟨id, hid⟩ : ∃ id, ArrivalMap.get? a.1 existing = some id :=
    Option.ne_none_iff_exists'.mp fun hn =>
      ArrivalMap.get?_eq_none_iff.mp hn (List.mem_map_of_mem ha)
  have hfirst : (partitionExisting existing [] []).1.get? a.1 = some id := by
    rw [get?_partitionExisting]
    exact hid
  rw [ArrivalMap.get?_append, hfirst, hid, Option.some_or]

/-- After the creations, the list of what is deleted is worked off. -/
theorem pruneAuthorizers_condemned (hmade : made.map Prod.fst = missingKeys scopes existing) {b : Bindings}
    (hb : b.ids = (partitionExisting existing [] []).1 ++ made) :
    pruneAuthorizers api (requiredKeys scopes) (partitionExisting existing [] []).2 true b =
      deleteSuperfluous api (requiredKeys scopes) (condemned (requiredKeys scopes) existing) b := by
  have hlist : (superfluousOf (requiredKeys scopes) existing).filter
        (fun a => ¬(a.1 ∈ requiredKeys scopes ∧ b.ids.get? a.1 = some a.2)) =
      condemned (requiredKeys scopes) existing := by
    refine List.filter_congr fun a ha => ?_
    rw [hb, get?_firsts_append (mem_of_mem_superfluousOf ha)]
    rfl
  rw [pruneAuthorizers, if_pos rfl, hb, superfluousOf_made hmade, ← hlist]
  exact deleteSuperfluous_filter fun _ _ => rfl

/-- **A synchronization works off what is known beforehand**: the creations, and then the deletions. -/
theorem synchronize_condemned (hscopes : d.requiredAuthorizers = .ok scopes) :
    synchronize api region d existing true =
      (createMissing api region (requiredKeys scopes)
        ⟨scopes, (partitionExisting existing [] []).1, [], []⟩).bind fun b =>
      (deleteSuperfluous api (requiredKeys scopes) (condemned (requiredKeys scopes) existing) b).bind fun b =>
      .note (.authorizersSynchronized api (requiredKeys scopes).length b.created.length b.deleted.length)
        (.done b) := by
  rw [synchronize_eq, hscopes]
  simp only [Except.mapError, ofExcept_ok, done_bind]
  refine Program.bind_congr fun xs b hcreate => ?_
  obtain ⟨made, rfl, hmade, -⟩ := trace_createMissing (nodup_requiredKeys scopes) hcreate
  rw [← missingKeys_eq] at hmade
  rw [pruneAuthorizers_condemned hmade rfl]

/-- **Repeats that do no harm change nothing at all**: the programs are the same. -/
theorem synchronize_eraseDups (hscopes : d.requiredAuthorizers = .ok scopes)
    (h : HarmlessRepeats (requiredKeys scopes) existing) :
    synchronize api region d existing true = synchronize api region d existing.eraseDups true := by
  rw [synchronize_condemned hscopes, synchronize_condemned hscopes, firsts_eraseDups, condemned_eraseDups h]

end

/-! ## Deletions in the exchanges -/

/-- The authorizer whose deletion an exchange asks for. -/
def Exchange.deletedId? : Exchange → Option String
  | .call (.deleteAuthorizer _ id) _ => some id
  | _ => none

/-- The authorizers whose deletions are asked for, in order. -/
def deletionsOf (xs : List Exchange) : List String := xs.filterMap Exchange.deletedId?

theorem deletionsOf_append (xs ys : List Exchange) :
    deletionsOf (xs ++ ys) = deletionsOf xs ++ deletionsOf ys := List.filterMap_append

section

variable {api region : String} {required : List AuthorizerKey} {existing doomed : List Existing}
  {scopes : ArrivalMap Scope AuthorizerKey} {d : Definition} {xs : List Exchange}

/-- Creations delete nothing. -/
theorem InTurn.deletionsOf_creations {keys : List AuthorizerKey} {all : Bool}
    (h : InTurn (creation api region) Named keys xs all) : deletionsOf xs = [] := by
  refine List.filterMap_eq_nil_iff.mpr fun x hx => ?_
  obtain ⟨key, -, hrequest⟩ := h.request hx
  cases x with
  | call c answer =>
      obtain rfl : c = creation api region key := by simpa using hrequest
      rfl
  | list l result => rfl

/-- Deletions in turn delete what is on the list, as far as they get. -/
theorem InTurn.deletionsOf_deletions {all : Bool} (h : InTurn (deletion api) Accepted doomed xs all) :
    deletionsOf xs <+: doomed.map Prod.snd := by
  induction h with
  | finished => exact List.nil_prefix
  | stopped h => exact ⟨_, rfl⟩
  | next h hrest ih => exact (List.prefix_cons_inj _).mpr ih

/-- No required key is bound to what is deleted. -/
theorem condemned_free {made : List Existing} {b : Bindings}
    (hb : b.ids = (partitionExisting existing [] []).1 ++ made) :
    ∀ a ∈ condemned required existing, a.1 ∈ required → b.ids.get? a.1 ≠ some a.2 := by
  intro a ha hkey hbound
  obtain ⟨hmem, hkept⟩ := List.mem_filter.mp ha
  rw [hb, get?_firsts_append (mem_of_mem_superfluousOf hmem)] at hbound
  exact of_decide_eq_true hkept ⟨hkey, hbound⟩

/-- **Whatever is answered**, the deletions are those of the list, as far as they get. -/
theorem trace_synchronize_deletions (hscopes : d.requiredAuthorizers = .ok scopes)
    {r : Except Failure Bindings} (h : (synchronize api region d existing true).Trace xs r) :
    deletionsOf xs <+: (condemned (requiredKeys scopes) existing).map Prod.snd := by
  rw [synchronize_condemned hscopes] at h
  rcases trace_bind.mp h with ⟨b, creations, rest, rfl, hcreate, hrest⟩ | ⟨e, rfl, hcreate⟩
  · obtain ⟨made, rfl, -, -⟩ := trace_createMissing (nodup_requiredKeys scopes) hcreate
    rw [deletionsOf_append, (createMissing_inTurn (nodup_requiredKeys scopes) hcreate).deletionsOf_creations,
      List.nil_append]
    rcases trace_bind.mp hrest with ⟨b', deletions, none, rfl, hd, rfl, rfl⟩ | ⟨e, rfl, hd⟩
    · rw [List.append_nil]
      exact (deleteSuperfluous_inTurn (condemned_free rfl) hd).1.deletionsOf_deletions
    · exact (deleteSuperfluous_inTurn (condemned_free rfl) hd).1.deletionsOf_deletions
  · rw [(createMissing_inTurn (nodup_requiredKeys scopes) hcreate).deletionsOf_creations]
    exact List.nil_prefix

end

/-! ## What cannot be deleted twice -/

/-- A gateway on which an authorizer of an API can be deleted once, as long as it is held: it accepts every
creation without losing what it holds, it deletes what it holds and nothing else, and it fails to find what it
does not hold. -/
structure DeletesOnce {σ : Type} (b : Backend σ) (api : String) (holds : σ → String → Prop) : Prop where
  created : ∀ spec s, ∃ reply id s', b.answer (.createAuthorizer api spec) s = (.ok reply, s') ∧
    reply.get? "id" = some (.text id) ∧ ∀ other, holds s other → holds s' other
  deleted : ∀ id s, holds s id → ∃ reply s', b.answer (.deleteAuthorizer api id) s = (.ok reply, s') ∧
    ∀ other, holds s' other ↔ holds s other ∧ other ≠ id
  refused : ∀ id s, ¬holds s id → ∃ fault s', b.answer (.deleteAuthorizer api id) s = (.error fault, s') ∧
    fault.IsMissing

/-- A gateway that keeps an API in memory deletes its authorizers once. -/
theorem memoryGateway_deletesOnce (declared : String → Declaration) (api : String) :
    DeletesOnce (memoryGateway declared) api fun v id => id ∈ v.authorizers.filterMap textId? where
  created spec v := by
    refine ⟨_, _, _, rfl, rfl, fun other hother => ?_⟩
    rw [List.filterMap_append]
    exact List.mem_append_left _ hother
  deleted id v hid := by
    refine ⟨[], _, Prod.ext (if_pos hid) rfl, fun other => ?_⟩
    have hkept : (v.authorizers.filter fun item => textId? item ≠ some id).filterMap textId? =
        (v.authorizers.filterMap textId?).filter fun other => other ≠ id :=
      filterMap_filter_of (fun item other hitem => by rw [hitem]; simp) _
    change other ∈ (v.authorizers.filter fun item => textId? item ≠ some id).filterMap textId? ↔ _
    rw [hkept, List.mem_filter, decide_eq_true_iff]
  refused id v hid := ⟨_, _, Prod.ext (if_neg hid) rfl, isMissing_notFound⟩

section

variable {σ : Type} {b : Backend σ} {api region : String} {holds : σ → String → Prop} {s : σ}
  {required : List AuthorizerKey} {doomed : List Existing} {bound : Bindings}

/-- Everything that is missing is created, and nothing is lost. -/
theorem DeletesOnce.runs_createMissing (hb : DeletesOnce b api holds) (region : String)
    (keys : List AuthorizerKey) (bound : Bindings) (s : σ) :
    ∃ xs bound' s', Runs b (createMissing api region keys bound) s xs (.ok bound') s' ∧
      ∀ id, holds s id → holds s' id := by
  induction keys generalizing bound s with
  | nil => exact ⟨[], bound, s, runs_done bound, fun _ h => h⟩
  | cons key keys ih =>
      unfold createMissing
      split
      · exact ih bound s
      · obtain ⟨reply, id, s₁, hanswer, hid, hheld₁⟩ :=
          hb.created ⟨key.displayName, key.uri region, key.credential, defaultIdentitySource⟩ s
        obtain ⟨ys, bound', s₂, hrest, hheld₂⟩ :=
          ih { bound with ids := bound.ids.set key id, created := bound.created ++ [key] } s₁
        have hcreate : Runs b (createAuthorizer api region key) s _ (.ok id) s₁ :=
          (runs_perform_ok hanswer).relabel_ok.bind (runs_textMember hid)
        exact ⟨_, bound', s₂, hcreate.bind hrest, fun other h => hheld₂ other (hheld₁ other h)⟩

theorem deleteSuperfluous_cons {a : Existing} (ha : a.1 ∈ required → bound.ids.get? a.1 ≠ some a.2) :
    deleteSuperfluous api required (a :: doomed) bound =
      (deleteAuthorizer api a.2).bind fun _ =>
        deleteSuperfluous api required doomed (bound.withoutAuthorizer a) :=
  if_neg fun hbound => ha hbound.1 hbound.2

theorem deleteSuperfluous_append (before after : List Existing) (bound : Bindings) :
    deleteSuperfluous api required (before ++ after) bound =
      (deleteSuperfluous api required before bound).bind (deleteSuperfluous api required after) := by
  induction before generalizing bound with
  | nil => rfl
  | cons a before ih =>
      rw [List.cons_append, deleteSuperfluous, deleteSuperfluous]
      split
      · exact ih bound
      · rw [bind_eq, bind_eq, Program.bind_assoc]
        exact congrArg _ (funext fun _ => ih _)

/-- **What is held is deleted**, if nothing is to be deleted twice. -/
theorem DeletesOnce.runs_deleteSuperfluous (hb : DeletesOnce b api holds)
    (hfree : ∀ a ∈ doomed, a.1 ∈ required → bound.ids.get? a.1 ≠ some a.2)
    (hids : (doomed.map Prod.snd).Nodup) (hheld : ∀ a ∈ doomed, holds s a.2) :
    ∃ xs bound' s', Runs b (deleteSuperfluous api required doomed bound) s xs (.ok bound') s' ∧
      deletionsOf xs = doomed.map Prod.snd ∧ ∀ id, holds s' id ↔ holds s id ∧ id ∉ doomed.map Prod.snd := by
  induction doomed generalizing bound s with
  | nil => exact ⟨[], bound, s, runs_done bound, rfl, fun id => by simp⟩
  | cons a doomed ih =>
      obtain ⟨hnew, hids⟩ := List.nodup_cons.mp hids
      obtain ⟨hafree, hfree⟩ := List.forall_mem_cons.mp hfree
      obtain ⟨ha, hheld⟩ := List.forall_mem_cons.mp hheld
      obtain ⟨reply, s₁, hanswer, hleft₁⟩ := hb.deleted a.2 s ha
      have hdelete : Runs b (deleteAuthorizer api a.2) s
          ([.call (.deleteAuthorizer api a.2) (.ok reply)] ++ []) (.ok ()) s₁ :=
        (runs_perform_ok hanswer).relabel_ok.bind (runs_done ())
      -- the others are still there, because their identifiers are other ones
      have hheld₁ : ∀ a' ∈ doomed, holds s₁ a'.2 := fun a' ha' =>
        (hleft₁ a'.2).mpr ⟨hheld a' ha', fun he => hnew (he ▸ List.mem_map_of_mem ha')⟩
      have hfree₁ : ∀ a' ∈ doomed, a'.1 ∈ required →
          (bound.withoutAuthorizer a).ids.get? a'.1 ≠ some a'.2 :=
        fun a' ha' hr => withoutAuthorizer_get? (hfree a' ha' hr)
      obtain ⟨ys, bound', s₂, hrest, hdeletions, hleft₂⟩ := ih hfree₁ hids hheld₁
      rw [deleteSuperfluous_cons hafree]
      refine ⟨_, bound', s₂, hdelete.bind hrest, ?_, fun id => ?_⟩
      · rw [deletionsOf_append, hdeletions]
        rfl
      · rw [hleft₂, hleft₁, List.map_cons, List.mem_cons, not_or, and_assoc]

/-- **What is to be deleted again is not found**, and that is the end. -/
theorem DeletesOnce.runs_deleteSuperfluous_again (hb : DeletesOnce b api holds) {before after : List Existing}
    {a : Existing} (hdoomed : doomed = before ++ a :: after)
    (hfree : ∀ a ∈ doomed, a.1 ∈ required → bound.ids.get? a.1 ≠ some a.2)
    (hids : (before.map Prod.snd).Nodup) (hheld : ∀ a ∈ doomed, holds s a.2)
    (hagain : a.2 ∈ before.map Prod.snd) :
    ∃ xs cause s', Runs b (deleteSuperfluous api required doomed bound) s xs
        (.error (.authorizing (.deleting a.2 api cause))) s' ∧
      deletionsOf xs = before.map Prod.snd ++ [a.2] ∧ cause.kind = .notFound := by
  subst hdoomed
  have hbefore : before ⊆ before ++ a :: after := List.subset_append_left _ _
  have hmem : a ∈ before ++ a :: after := List.mem_append_right _ List.mem_cons_self
  have hfree₀ : ∀ a' ∈ before, a'.1 ∈ required → bound.ids.get? a'.1 ≠ some a'.2 :=
    fun a' ha' => hfree a' (hbefore ha')
  obtain ⟨ys, bound', s₁, hfirst, hdeletions, hleft⟩ :=
    hb.runs_deleteSuperfluous hfree₀ hids fun a' ha' => hheld a' (hbefore ha')
  obtain ⟨-, hkept⟩ := trace_deleteSuperfluous hfirst.trace
  obtain ⟨fault, s₂, hanswer, hmissing⟩ := hb.refused a.2 s₁ fun h => ((hleft a.2).mp h).2 hagain
  have hdelete : Runs b (deleteAuthorizer api a.2) s₁ [.call (.deleteAuthorizer api a.2) (.error fault)]
      (.error (.authorizing (.deleting a.2 api ⟨_, fault⟩))) s₂ :=
    (runs_perform_error hanswer).relabel_call.bind_error
  have hfree' : a.1 ∈ required → bound'.ids.get? a.1 ≠ some a.2 := fun hkey => by
    rw [hkept a.1 hkey]
    exact hfree a hmem hkey
  have hrest := hdelete.bind_error (f := fun _ =>
    deleteSuperfluous api required after (bound'.withoutAuthorizer a))
  rw [← deleteSuperfluous_cons hfree'] at hrest
  rw [deleteSuperfluous_append]
  refine ⟨_, _, s₂, hfirst.bind hrest, ?_, hmissing _⟩
  rw [deletionsOf_append, hdeletions]
  rfl

end

/-! ## Repeats and their harm -/

/-- An identifier always comes with the same key. -/
def KeyOfId (existing : List Existing) : Prop :=
  ∀ a ∈ existing, ∀ a' ∈ existing, a.2 = a'.2 → a.1 = a'.1

instance (existing : List Existing) : Decidable (KeyOfId existing) :=
  inferInstanceAs (Decidable (∀ a ∈ existing, ∀ a' ∈ existing, a.2 = a'.2 → a.1 = a'.1))

theorem KeyOfId.eq {existing : List Existing} (h : KeyOfId existing) {a a' : Existing} (ha : a ∈ existing)
    (ha' : a' ∈ existing) (hid : a.2 = a'.2) : a = a' :=
  Prod.ext (h a ha a' ha' hid) hid

theorem KeyOfId.eraseDups {existing : List Existing} (h : KeyOfId existing) : KeyOfId existing.eraseDups :=
  fun a ha a' ha' => h a (List.mem_eraseDups.mp ha) a' (List.mem_eraseDups.mp ha')

theorem condemned_subset (required : List AuthorizerKey) (existing : List Existing) :
    condemned required existing ⊆ existing :=
  fun _ ha => mem_of_mem_superfluousOf (List.mem_filter.mp ha).1

/-- Without repeats that do harm, no identifier is to be deleted twice. -/
theorem KeyOfId.nodup_condemned {required : List AuthorizerKey} {existing : List Existing}
    (hkeys : KeyOfId existing) (h : HarmlessRepeats required existing) :
    ((condemned required existing).map Prod.snd).Nodup :=
  (nodup_condemned_iff.mpr h).map_on fun _ ha _ ha' =>
    hkeys.eq (condemned_subset _ _ ha) (condemned_subset _ _ ha')

section

variable {σ : Type} {b : Backend σ} {api region : String} {holds : σ → String → Prop} {s : σ}
  {existing : List Existing} {scopes : ArrivalMap Scope AuthorizerKey} {d : Definition}

/-- **Whatever is answered, no identifier is deleted twice**, unless repeats do harm. -/
theorem nodup_deletionsOf (hscopes : d.requiredAuthorizers = .ok scopes) (hkeys : KeyOfId existing)
    (h : HarmlessRepeats (requiredKeys scopes) existing) (b : Backend σ) (s : σ) :
    (deletionsOf ((synchronize api region d existing true).exchanges b s)).Nodup :=
  (hkeys.nodup_condemned h).sublist (trace_synchronize_deletions hscopes (trace_run b _ s)).sublist

/-- When everything missing has been created, what is to be deleted is still held. -/
theorem DeletesOnce.runs_creations (hb : DeletesOnce b api holds) (hheld : ∀ a ∈ existing, holds s a.2) :
    ∃ xs bound s', Runs b (createMissing api region (requiredKeys scopes)
        ⟨scopes, (partitionExisting existing [] []).1, [], []⟩) s xs (.ok bound) s' ∧
      (∀ a ∈ condemned (requiredKeys scopes) existing, a.1 ∈ requiredKeys scopes →
        bound.ids.get? a.1 ≠ some a.2) ∧
      ∀ a ∈ condemned (requiredKeys scopes) existing, holds s' a.2 := by
  obtain ⟨xs, bound, s', hcreate, hkept⟩ := hb.runs_createMissing region (requiredKeys scopes)
    ⟨scopes, (partitionExisting existing [] []).1, [], []⟩ s
  obtain ⟨made, rfl, -, -⟩ := trace_createMissing (nodup_requiredKeys scopes) hcreate.trace
  exact ⟨xs, _, s', hcreate, condemned_free rfl,
    fun a ha => hkept a.2 (hheld a (condemned_subset _ _ ha))⟩

/-- Without repeats that do harm, a synchronization succeeds. -/
theorem DeletesOnce.runs_synchronize (hb : DeletesOnce b api holds) (region : String)
    (hscopes : d.requiredAuthorizers = .ok scopes) (hkeys : KeyOfId existing)
    (hheld : ∀ a ∈ existing, holds s a.2) (h : HarmlessRepeats (requiredKeys scopes) existing) :
    ∃ xs bindings s', Runs b (synchronize api region d existing true) s xs (.ok bindings) s' := by
  obtain ⟨ys, b₁, s₁, hcreate, hfree, hheld₁⟩ := hb.runs_creations hheld
  obtain ⟨zs, b₂, s₂, hdelete, -, -⟩ := hb.runs_deleteSuperfluous hfree (hkeys.nodup_condemned h) hheld₁
  rw [synchronize_condemned hscopes]
  exact ⟨_, b₂, s₂, hcreate.bind (hdelete.bind (runs_done b₂).note)⟩

/-- **Repeats that do harm end a synchronization**: one of them is to be deleted again, and is not found. -/
theorem DeletesOnce.runs_synchronize_again (hb : DeletesOnce b api holds)
    (hscopes : d.requiredAuthorizers = .ok scopes) (hkeys : KeyOfId existing)
    (hheld : ∀ a ∈ existing, holds s a.2) (h : ¬HarmlessRepeats (requiredKeys scopes) existing) :
    ∃ a cause xs s', existing.Duplicate a ∧ ¬Spared (requiredKeys scopes) existing a ∧
      Runs b (synchronize api region d existing true) s xs
        (.error (.authorizing (.deleting a.2 api cause))) s' ∧
      cause.kind = .notFound ∧ ¬(deletionsOf xs).Nodup := by
  have htwice : ¬((condemned (requiredKeys scopes) existing).map Prod.snd).Nodup :=
    fun hnodup => h (nodup_condemned_iff.mp hnodup.of_map)
  obtain ⟨before, a, after, hlist, hbefore, hagain⟩ := exists_repeat_of_not_nodup htwice
  -- what has the identifier before is the same authorizer, since an identifier has one key
  have hrepeat : existing.Duplicate a ∧ ¬Spared (requiredKeys scopes) existing a := by
    obtain ⟨a', ha', hid⟩ := List.mem_map.mp hagain
    have hmem : ∀ x ∈ before ++ a :: after, x ∈ existing := fun x hx =>
      condemned_subset (requiredKeys scopes) existing (hlist ▸ hx)
    obtain rfl : a' = a := hkeys.eq (hmem a' (List.mem_append_left _ ha'))
      (hmem a (List.mem_append_right _ List.mem_cons_self)) hid
    rw [← duplicate_condemned_iff, hlist]
    exact duplicate_append ha' List.mem_cons_self
  obtain ⟨ys, b₁, s₁, hcreate, hfree, hheld₁⟩ := hb.runs_creations hheld
  obtain ⟨zs, cause, s₂, hdelete, hdeletions, hcause⟩ :=
    hb.runs_deleteSuperfluous_again hlist hfree hbefore hheld₁ hagain
  refine ⟨a, cause, ys ++ zs, s₂, hrepeat.1, hrepeat.2, ?_, hcause, fun hnodup => ?_⟩
  · rw [synchronize_condemned hscopes]
    exact hcreate.bind hdelete.bind_error
  · rw [deletionsOf_append, hdeletions] at hnodup
    exact (List.nodup_append.mp (List.nodup_append.mp hnodup).2.1).2.2 _ hagain _ List.mem_cons_self rfl

/-- **Repeated entries make a difference exactly if one of them is not kept.** Without its repeats, a list never
has an identifier deleted twice in a pass, whatever is answered, and a list on which every repeated entry is the
first one of a required key is synchronized just as without its repeats. On a gateway that deletes once what is
listed, every other list is synchronized differently: without its repeats that succeeds, and with them an entry
that is deleted again is not found. A definition with a policy that has no key is refused in either case. -/
theorem repeats_harmless_iff (api region : String) (d : Definition) (existing : List Existing) :
    let pass (listed : List Existing) := synchronize api region d listed true
    (∀ fault, d.requiredAuthorizers = .error fault → pass existing = pass existing.eraseDups) ∧
    ∀ scopes, d.requiredAuthorizers = .ok scopes →
      (HarmlessRepeats (requiredKeys scopes) existing → pass existing = pass existing.eraseDups) ∧
      (KeyOfId existing → ∀ {σ : Type} (b : Backend σ) (s : σ),
        (deletionsOf ((pass existing.eraseDups).exchanges b s)).Nodup ∧
        ∀ holds : σ → String → Prop, DeletesOnce b api holds → (∀ a ∈ existing, holds s a.2) →
          (∃ bindings, ((pass existing.eraseDups).run b s).result = .ok bindings) ∧
          [HarmlessRepeats (requiredKeys scopes) existing,
            (pass existing).exchanges b s = (pass existing.eraseDups).exchanges b s,
            ((pass existing).run b s).result = ((pass existing.eraseDups).run b s).result,
            (deletionsOf ((pass existing).exchanges b s)).Nodup].TFAE ∧
          (¬HarmlessRepeats (requiredKeys scopes) existing →
            ∃ a cause, existing.Duplicate a ∧ ¬Spared (requiredKeys scopes) existing a ∧
              ((pass existing).run b s).result = .error (.authorizing (.deleting a.2 api cause)) ∧
              cause.kind = .notFound)) := by
  intro pass
  refine ⟨fun fault hfault => ?_, fun scopes hscopes => ?_⟩
  · simp only [pass]
    rw [synchronize_eq, synchronize_eq, hfault]
    rfl
  have hsame : HarmlessRepeats (requiredKeys scopes) existing → pass existing = pass existing.eraseDups :=
    synchronize_eraseDups hscopes
  refine ⟨hsame, fun hkeys σ b s => ?_⟩
  have honce : (deletionsOf ((pass existing.eraseDups).exchanges b s)).Nodup :=
    nodup_deletionsOf hscopes hkeys.eraseDups harmlessRepeats_eraseDups b s
  refine ⟨honce, fun holds hb hheld => ?_⟩
  obtain ⟨xs, bindings, s', hclean⟩ := hb.runs_synchronize region hscopes hkeys.eraseDups
    (fun a ha => hheld a (List.mem_eraseDups.mp ha)) harmlessRepeats_eraseDups
  -- a list that has repeats that do harm fails where the list without them succeeds
  have hfails : ¬HarmlessRepeats (requiredKeys scopes) existing → ∃ a cause ys s'',
      existing.Duplicate a ∧ ¬Spared (requiredKeys scopes) existing a ∧
      Runs b (pass existing) s ys (.error (.authorizing (.deleting a.2 api cause))) s'' ∧
      cause.kind = .notFound ∧ ¬(deletionsOf ys).Nodup :=
    hb.runs_synchronize_again hscopes hkeys hheld
  refine ⟨⟨bindings, hclean.result⟩, ?_, fun hharm => ?_⟩
  · tfae_have 1 → 2 := fun h => by rw [hsame h]
    tfae_have 1 → 3 := fun h => by rw [hsame h]
    tfae_have 2 → 4 := fun h => by rwa [h]
    tfae_have 3 → 1 := fun h => by
      by_contra hharm
      obtain ⟨a, cause, ys, s'', -, -, hruns, -, -⟩ := hfails hharm
      rw [hruns.result, hclean.result] at h
      cases h
    tfae_have 4 → 1 := fun h => by
      by_contra hharm
      obtain ⟨a, cause, ys, s'', -, -, hruns, -, htwice⟩ := hfails hharm
      rw [hruns.exchanges] at h
      exact htwice h
    tfae_finish
  · obtain ⟨a, cause, ys, s'', hrepeat, hkept, hruns, hcause, -⟩ := hfails hharm
    exact ⟨a, cause, hrepeat, hkept, hruns.result, hcause⟩

end

/-- A gateway in memory, for which every document declares nothing. -/
def bareGateway : Backend HostedApi := memoryGateway fun _ => ⟨[], [], List.nodup_nil⟩

/-- The synchronization of what is listed. -/
def ordersPass (listed : List Existing) : Program Bindings := synchronize "a" "eu" guardedOrders listed true

theorem relistedOrders_harm :
    (ordersPass (crowdedOrders ++ [(⟨"check", "caller"⟩, "1")])).exchanges bareGateway crowdedApi =
        (ordersPass crowdedOrders).exchanges bareGateway crowdedApi ∧
      ¬(deletionsOf ((ordersPass (crowdedOrders ++ crowdedOrders)).exchanges bareGateway crowdedApi)).Nodup ∧
      ∃ bindings, ((ordersPass crowdedOrders).run bareGateway crowdedApi).result = .ok bindings := by
  have hscopes : guardedOrders.requiredAuthorizers =
      .ok [(.api, ⟨"check", "caller"⟩), (.operation "/orders" "post", ⟨"audit", "caller"⟩)] := rfl
  have honce := memoryGateway_deletesOnce (fun _ => ⟨[], [], List.nodup_nil⟩) "a"
  -- what the key that is kept is bound to may be listed again, but not everything
  obtain ⟨hsame, -⟩ := (repeats_harmless_iff "a" "eu" guardedOrders
    (crowdedOrders ++ [(⟨"check", "caller"⟩, "1")])).2 _ hscopes
  obtain ⟨-, htwice⟩ := (repeats_harmless_iff "a" "eu" guardedOrders
    (crowdedOrders ++ crowdedOrders)).2 _ hscopes
  obtain ⟨-, hall⟩ := htwice (by decide) bareGateway crowdedApi
  obtain ⟨hclean, htfae, -⟩ := hall _ honce (by decide)
  refine ⟨congrArg (fun p => p.exchanges bareGateway crowdedApi) (hsame (by decide)), fun hnodup => ?_, hclean⟩
  exact absurd ((htfae.out 3 0).mp hnodup) (by decide)

/-- A definition that asks for no authorizer. -/
def unguardedOrders : Definition := { guardedOrders with policies := [], routes := [] }

/-- An API with an authorizer that nothing requires. -/
def orphanApi : HostedApi := { crowdedApi with authorizers := [hostedAuthorizer "1" "gone"] }

/-- This authorizer, listed twice. -/
def relistedOrphan : List Existing := [(⟨"gone", "caller"⟩, "1"), (⟨"gone", "caller"⟩, "1")]

/-- The synchronization of what is listed, when nothing is required. -/
def orphanPass (listed : List Existing) : Program Bindings := synchronize "a" "eu" unguardedOrders listed true

theorem relistedOrphan_deleted_twice :
    KeyOfId relistedOrphan ∧ relistedOrphan.eraseDups = [(⟨"gone", "caller"⟩, "1")] ∧
      DeletesOnce bareGateway "a" (fun v id => id ∈ v.authorizers.filterMap textId?) ∧
      deletionsOf ((orphanPass relistedOrphan).exchanges bareGateway orphanApi) = ["1", "1"] ∧
      deletionsOf ((orphanPass relistedOrphan.eraseDups).exchanges bareGateway orphanApi) = ["1"] ∧
      ((orphanPass relistedOrphan).run bareGateway orphanApi).result =
        .error (.authorizing (.deleting "1" "a"
          ⟨Operation.deleteAuthorizer.name, .refused ⟨some "NotFoundException", none, none⟩⟩)) ∧
      ((orphanPass relistedOrphan.eraseDups).run bareGateway orphanApi).result =
        .ok ⟨[], [], [], [⟨"gone", "caller"⟩]⟩ :=
  ⟨by decide, by decide, memoryGateway_deletesOnce _ "a", rfl, rfl, rfl, rfl⟩

end ApiReconciler
