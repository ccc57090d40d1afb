import Mathlib.Data.List.Nodup
import Mathlib.Data.String.Basic
import ApiReconciler.Json.Writer

/-!
# `ApiReconciler.Proofs.Members` — members whose names are texts

Objects of the gateway are records: their names are texts, and each is given once. In a record it does not
matter where a member stands, so sorting the members changes nothing that is looked up, and collecting them
one after the other gives the same list again.

## Contents
- `Object.IsRecord`: the names are texts, each given once.
- `Object.IsRecord.ofList`, `Object.isRecord_ofList`: collecting members, which changes nothing in a record.
- `Object.sorted_perm`, `Object.IsRecord.set`: what keeps records.
- `Object.IsRecord.sorted_eq_of_perm`: sorting forgets the order.
- `Object.IsRecord.get?_eq_some_iff`: looking up is membership.
- `Object.get?_erase_of_ne`, `Object.IsRecord.get?_filter`, `Object.get?_mapValues`: what is found when members are left out or changed.
-/

namespace ApiReconciler

namespace Object

/-- The names of the members are texts, each given once. -/
structure IsRecord (ms : Object) : Prop where
  texts : ∀ m ∈ ms, ∃ name, m.1 = .text name
  distinct : (ms.map Prod.fst).Nodup

/-- A text is the same key as itself only. -/
theorem same_text (k : Scalar) (name : String) : k.same (.text name) = true ↔ k = .text name := by
  have hname : (Scalar.text name).integer? = none := rfl
  unfold Scalar.same
  rw [hname]
  cases hk : k.integer? with
  | some n =>
      refine iff_of_false Bool.false_ne_true fun h => ?_
      rw [h, hname] at hk
      cases hk
  | none =>
      have hnan : k = .text name → k ≠ .float .nan := by
        rintro rfl h
        cases h
      rw [Bool.and_eq_true, decide_eq_true_iff, decide_eq_true_iff]
      exact ⟨And.right, fun h => ⟨hnan h, h⟩⟩

variable {ms ns : Object} {name : String} {v : Value}

/-! ## Records -/

theorem isRecord_nil : IsRecord [] where
  texts := fun _ hm => absurd hm List.not_mem_nil
  distinct := List.nodup_nil

theorem IsRecord.perm (h : IsRecord ms) (hperm : ms.Perm ns) : IsRecord ns where
  texts := fun m hm => h.texts m (hperm.mem_iff.mpr hm)
  distinct := (hperm.map Prod.fst).nodup_iff.mp h.distinct

theorem IsRecord.tail {m : Scalar × Value} (h : IsRecord (m :: ms)) : IsRecord ms where
  texts := fun n hn => h.texts n (List.mem_cons_of_mem _ hn)
  distinct := (List.nodup_cons.mp h.distinct).2

/-- What only changes values keeps a record. -/
theorem IsRecord.mapValues (h : IsRecord ms) (f : Value → Value) :
    IsRecord (ms.map fun m => (m.1, f m.2)) where
  texts := by
    intro n hn
    obtain ⟨m, hm, rfl⟩ := List.mem_map.mp hn
    exact h.texts m hm
  distinct := by
    rw [List.map_map]
    exact h.distinct

/-! ## Setting a member -/

/-- A new name comes last. -/
theorem set_of_not_mem (hname : Scalar.text name ∉ ms.map Prod.fst) :
    set (.text name) v ms = ms ++ [(.text name, v)] := by
  induction ms with
  | nil => rfl
  | cons m ms ih =>
      obtain ⟨k, w⟩ := m
      have hk : ¬k.same (.text name) = true := by
        rw [same_text]
        rintro rfl
        exact hname List.mem_cons_self
      have htail : Scalar.text name ∉ ms.map Prod.fst := fun h => hname (List.mem_cons_of_mem _ h)
      rw [set, if_neg hk, ih htail]
      rfl

theorem mem_set {m : Scalar × Value} (hm : m ∈ set (.text name) v ms) :
    m = (.text name, v) ∨ m ∈ ms := by
  induction ms with
  | nil => exact .inl (List.mem_singleton.mp hm)
  | cons n ms ih =>
      obtain ⟨k, w⟩ := n
      rw [set] at hm
      split at hm
      · next hk =>
          obtain rfl := (same_text k name).mp hk
          exact (List.mem_cons.mp hm).imp id (List.mem_cons_of_mem _)
      · rcases List.mem_cons.mp hm with rfl | htail
        · exact .inr List.mem_cons_self
        · exact (ih htail).imp id (List.mem_cons_of_mem _)

/-- Setting a name that is there changes no name. -/
theorem map_fst_set (hname : Scalar.text name ∈ ms.map Prod.fst) :
    (set (.text name) v ms).map Prod.fst = ms.map Prod.fst := by
  induction ms with
  | nil => cases hname
  | cons m ms ih =>
      obtain ⟨k, w⟩ := m
      rw [set]
      split
      · rfl
      · next hk =>
          have hne : Scalar.text name ≠ k := fun h => hk ((same_text k name).mpr h.symm)
          have htail := (List.mem_cons.mp hname).resolve_left hne
          rw [List.map_cons, ih htail]
          rfl

theorem IsRecord.set (h : IsRecord ms) (name : String) (v : Value) :
    IsRecord (Object.set (.text name) v ms) where
  texts := by
    intro m hm
    rcases mem_set hm with rfl | hold
    · exact ⟨name, rfl⟩
    · exact h.texts m hold
  distinct := by
    -- a name that is there keeps its place, a new one comes last
    by_cases hname : Scalar.text name ∈ ms.map Prod.fst
    · rw [map_fst_set hname]
      exact h.distinct
    · have hlast := h.distinct.concat hname
      rw [List.concat_eq_append] at hlast
      rw [set_of_not_mem hname, List.map_append]
      exact hlast

/-! ## Collecting members -/

theorem foldl_set_of_isRecord (before : Object) (h : IsRecord (before ++ ms)) :
    ms.foldl (fun o m => Object.set m.1 m.2 o) before = before ++ ms := by
  induction ms generalizing before with
  | nil => exact (List.append_nil before).symm
  | cons m ms ih =>
      obtain ⟨k, v⟩ := m
      obtain ⟨name, hk⟩ : ∃ name, k = .text name :=
        h.texts (k, v) (List.mem_append_right _ List.mem_cons_self)
      subst hk
      have hnew : Scalar.text name ∉ before.map Prod.fst := by
        intro hmem
        have hdistinct := h.distinct
        rw [List.map_append] at hdistinct
        exact (List.nodup_append.mp hdistinct).2.2 _ hmem _ List.mem_cons_self rfl
      have hstep : before ++ (.text name, v) :: ms = before ++ [(.text name, v)] ++ ms := by
        rw [List.append_assoc]
        rfl
      rw [List.foldl_cons, set_of_not_mem hnew, hstep]
      exact ih _ (hstep ▸ h)

/-- **Collecting the members of a record changes nothing.** -/
theorem IsRecord.ofList (h : IsRecord ms) : Object.ofList ms = ms := foldl_set_of_isRecord [] h

/-- Collecting members whose names are texts gives a record. -/
theorem isRecord_ofList (h : ∀ m ∈ ms, ∃ name, m.1 = .text name) : IsRecord (Object.ofList ms) := by
  have hfold : ∀ before : Object, IsRecord before →
      IsRecord (ms.foldl (fun o m => Object.set m.1 m.2 o) before) := by
    induction ms with
    | nil => exact fun before hbefore => hbefore
    | cons m ms ih =>
        obtain ⟨⟨name, hname⟩, htail⟩ := List.forall_mem_cons.mp h
        intro before hbefore
        rw [List.foldl_cons, hname]
        exact ih htail _ (hbefore.set name m.2)
  exact hfold [] isRecord_nil

/-! ## Sorting -/

theorem insertSorted_perm (m : Scalar × Value) (ms : Object) : (insertSorted m ms).Perm (m :: ms) := by
  induction ms with
  | nil => exact .refl _
  | cons n ms ih =>
      rw [insertSorted]
      split
      · exact .refl _
      · exact (ih.cons n).trans (.swap m n ms)

/-- Sorting moves members and does nothing else. -/
theorem sorted_perm (ms : Object) : (sorted ms).Perm ms := by
  have hfold : ∀ (ns before : Object),
      (ns.foldl (fun o m => insertSorted m o) before).Perm (ns ++ before) := by
    intro ns
    induction ns with
    | nil => exact fun before => .refl _
    | cons n ns ih =>
        intro before
        exact (ih _).trans (((insertSorted_perm n before).append_left ns).trans List.perm_middle)
  have hperm := hfold ms []
  rwa [List.append_nil] at hperm

/-- One member may stand before another: the text of its key does not come later. -/
def InOrder (m n : Scalar × Value) : Prop := String.ofList m.1.display ≤ String.ofList n.1.display

theorem insertSorted_inOrder {m : Scalar × Value} (h : ms.Pairwise InOrder) :
    (insertSorted m ms).Pairwise InOrder := by
  induction ms with
  | nil => exact List.pairwise_singleton InOrder m
  | cons n ms ih =>
      obtain ⟨hn, hms⟩ := List.pairwise_cons.mp h
      rw [insertSorted]
      split
      · next hlt =>
          refine List.pairwise_cons.mpr ⟨fun o ho => ?_, h⟩
          rcases List.mem_cons.mp ho with rfl | ho
          · exact le_of_lt hlt
          · exact le_trans (le_of_lt hlt) (hn o ho)
      · next hnlt =>
          refine List.pairwise_cons.mpr ⟨fun o ho => ?_, ih hms⟩
          rcases List.mem_cons.mp ((insertSorted_perm m ms).mem_iff.mp ho) with rfl | ho
          · exact not_lt.mp hnlt
          · exact hn o ho

/-- Sorting puts members in order. -/
theorem sorted_inOrder (ms : Object) : (sorted ms).Pairwise InOrder := by
  have hfold : ∀ (ns before : Object), before.Pairwise InOrder →
      (ns.foldl (fun o m => insertSorted m o) before).Pairwise InOrder := by
    intro ns
    induction ns with
    | nil => exact fun before hbefore => hbefore
    | cons n ns ih => exact fun before hbefore => ih _ (insertSorted_inOrder hbefore)
  exact hfold ms [] .nil

/-- Two members of a record that may both stand before each other are the same: their names are their texts. -/
theorem IsRecord.eq_of_inOrder (h : IsRecord ms) {m n : Scalar × Value} (hm : m ∈ ms) (hn : n ∈ ms)
    (hmn : InOrder m n) (hnm : InOrder n m) : m = n := by
  obtain ⟨name, hname⟩ := h.texts m hm
  obtain ⟨other, hother⟩ := h.texts n hn
  have htext : String.ofList m.1.display = String.ofList n.1.display := le_antisymm hmn hnm
  have hsame : name = other := by
    rw [hname, hother] at htext
    simpa [Scalar.display] using htext
  refine List.inj_on_of_nodup_map h.distinct hm hn ?_
  rw [hname, hother, hsame]

/-- **The order of the members of a record does not matter to sorting.** -/
theorem IsRecord.sorted_eq_of_perm (h : IsRecord ms) (hperm : ms.Perm ns) : sorted ms = sorted ns := by
  have hsorted : (sorted ms).Perm (sorted ns) := (sorted_perm ms).trans (hperm.trans (sorted_perm ns).symm)
  refine hsorted.eq_of_pairwise ?_ (sorted_inOrder ms) (sorted_inOrder ns)
  intro m n hm hn hmn hnm
  have hn' : n ∈ ms := hperm.mem_iff.mpr ((sorted_perm ns).mem_iff.mp hn)
  exact h.eq_of_inOrder ((sorted_perm ms).mem_iff.mp hm) hn' hmn hnm

/-! ## Looking up -/

/-- In a record, the value of a name is that of the only member with it. -/
theorem IsRecord.get?_eq_some_iff (h : IsRecord ms) :
    get? name ms = some v ↔ (.text name, v) ∈ ms := by
  induction ms with
  | nil => simp
  | cons m ms ih =>
      obtain ⟨k, w⟩ := m
      have hnew : k ∉ ms.map Prod.fst := (List.nodup_cons.mp h.distinct).1
      rw [get?_cons, List.mem_cons, ← ih h.tail]
      split
      · next hk =>
          subst hk
          have hnone : (.text name, v) ∉ ms := fun hmem => hnew (List.mem_map_of_mem hmem)
          rw [ih h.tail, or_iff_left hnone]
          simp [eq_comm]
      · next hk =>
          rw [or_iff_right]
          exact fun he => hk (congrArg Prod.fst he).symm

/-! ## Members that stay -/

/-- Other members are found as before. -/
theorem get?_erase_of_ne {other : String} (hne : name ≠ other) (ms : Object) :
    get? name (erase other ms) = get? name ms := by
  induction ms with
  | nil => rfl
  | cons m ms ih =>
      obtain ⟨k, w⟩ := m
      by_cases hk : k = .text other
      · subst hk
        have hskip : ¬Scalar.text other = .text name := fun h => hne (Scalar.text.inj h).symm
        rw [get?_cons, if_neg hskip, ← ih]
        simp only [erase, List.filter_cons, ne_eq, not_true_eq_false, decide_false, Bool.false_eq_true,
          if_false]
      · rw [get?_cons, ← ih]
        simp only [erase, List.filter_cons, ne_eq, hk, not_false_eq_true, decide_true, if_true, get?_cons]

/-- Setting a member to the value that it has changes nothing. -/
theorem set_eq_self (h : get? name ms = some v) : set (.text name) v ms = ms := by
  induction ms with
  | nil => cases h
  | cons m ms ih =>
      obtain ⟨k, w⟩ := m
      rw [get?_cons] at h
      rw [set]
      by_cases hk : k = .text name
      · rw [if_pos hk] at h
        rw [if_pos ((same_text k name).mpr hk), Option.some.inj h]
      · rw [if_neg hk] at h
        rw [if_neg (fun hsame => hk ((same_text k name).mp hsame)), ih h]

theorem not_mem_of_get?_eq_none (h : get? name ms = none) : Scalar.text name ∉ ms.map Prod.fst := by
  induction ms with
  | nil => exact List.not_mem_nil
  | cons m ms ih =>
      obtain ⟨k, w⟩ := m
      rw [get?_cons] at h
      split at h
      · cases h
      · next hk => exact List.not_mem_cons_of_ne_of_not_mem (Ne.symm hk) (ih h)

/-- Taking away a member that is not there changes nothing. -/
theorem erase_of_none (h : get? name ms = none) : erase name ms = ms := by
  have hnew := not_mem_of_get?_eq_none h
  refine List.filter_eq_self.mpr fun m hm => decide_eq_true fun hname => hnew ?_
  exact hname ▸ List.mem_map_of_mem hm

/-- Setting a new member and taking it away again changes nothing. -/
theorem erase_set_of_none (h : get? name ms = none) (v : Value) : erase name (set (.text name) v ms) = ms := by
  have hkept := erase_of_none h
  rw [set_of_not_mem (not_mem_of_get?_eq_none h), erase, List.filter_append, ← erase, hkept]
  simp

theorem erase_mapValues (f : Value → Value) (name : String) (ms : Object) :
    erase name (ms.map fun m => (m.1, f m.2)) = (erase name ms).map fun m => (m.1, f m.2) :=
  List.filter_map

theorem IsRecord.filter (h : ms.IsRecord) (p : Scalar × Value → Bool) : IsRecord (ms.filter p) where
  texts := fun m hm => h.texts m (List.mem_of_mem_filter hm)
  distinct := h.distinct.sublist (List.filter_sublist.map Prod.fst)

theorem IsRecord.erase (h : ms.IsRecord) (name : String) : (Object.erase name ms).IsRecord := h.filter _

/-- A member that is taken away and set again moves to the end. -/
theorem IsRecord.set_erase_perm (h : IsRecord ms) (hv : get? name ms = some v) :
    (Object.set (.text name) v (Object.erase name ms)).Perm ms := by
  have hgone : Scalar.text name ∉ (Object.erase name ms).map Prod.fst := by
    intro hmem
    obtain ⟨m, hm, hname⟩ := List.mem_map.mp hmem
    exact of_decide_eq_true (List.mem_filter.mp hm).2 hname
  have hset : IsRecord (Object.set (.text name) v (Object.erase name ms)) := (h.erase name).set name v
  refine (List.perm_ext_iff_of_nodup hset.distinct.of_map h.distinct.of_map).mpr fun m => ?_
  rw [set_of_not_mem hgone, List.mem_append, List.mem_singleton, Object.erase, List.mem_filter, decide_eq_true_iff]
  constructor
  · rintro (⟨hm, -⟩ | rfl)
    · exact hm
    · exact h.get?_eq_some_iff.mp hv
  · intro hm
    by_cases hname : m.1 = .text name
    · -- the name is given once
      obtain ⟨k, w⟩ := m
      obtain rfl : k = .text name := hname
      have hw := h.get?_eq_some_iff.mpr hm
      rw [hv] at hw
      rw [← Option.some.inj hw]
      exact .inr rfl
    · exact .inl ⟨hm, hname⟩

/-- In a record, a member is found among those with a kind of value when its own value is one. -/
theorem IsRecord.get?_filter (h : IsRecord ms) (p : Value → Bool) (name : String) :
    get? name (ms.filter fun m => p m.2) = (get? name ms).filter p := by
  induction ms with
  | nil => rfl
  | cons m ms ih =>
      obtain ⟨k, w⟩ := m
      have hnew : k ∉ ms.map Prod.fst := (List.nodup_cons.mp h.distinct).1
      have htail := ih h.tail
      rw [List.filter_cons, get?_cons]
      by_cases hk : k = .text name
      · rw [if_pos hk, Option.filter_some]
        split
        · rw [get?_cons, if_pos hk]
        · -- no other member has the name
          have hnone : get? name ms = none := by
            rw [Option.eq_none_iff_forall_ne_some]
            intro u hu
            exact hnew (hk ▸ List.mem_map_of_mem (h.tail.get?_eq_some_iff.mp hu))
          rw [htail, hnone]
          rfl
      · rw [if_neg hk, ← htail]
        split
        · rw [get?_cons, if_neg hk]
        · rfl

theorem get?_mapValues (f : Value → Value) (h : get? name ms = some v) :
    get? name (ms.map fun m => (m.1, f m.2)) = some (f v) := by
  induction ms with
  | nil => cases h
  | cons m ms ih =>
      obtain ⟨k, w⟩ := m
      rw [get?_cons] at h
      rw [List.map_cons, get?_cons]
      split_ifs at h ⊢
      · rw [Option.some.inj h]
      · exact ih h

end Object

end ApiReconciler
