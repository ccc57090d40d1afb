import Mathlib
import ApiReconciler.ArrivalMap

/-!
# `ApiReconciler.Proofs.ArrivalMap` — maps as lists of pairs

What is found in a map, in terms of the pairs it consists of. `get?` gives the first pair of a key, so it
also makes sense on a list of pairs that repeats keys; on a map that does not, finding and membership are
the same (`get?_eq_some_iff`).
-/

namespace ApiReconciler.ArrivalMap

variable {κ α : Type} [DecidableEq κ] {key : κ} {value : α} {m : ArrivalMap κ α}

@[simp] theorem get?_nil : get? key ([] : ArrivalMap κ α) = none := rfl

@[simp] theorem get?_cons {p : κ × α} :
    get? key (p :: m) = if p.1 = key then some p.2 else get? key m := rfl

theorem mem_of_get? (h : get? key m = some value) : (key, value) ∈ m := by
  induction m with
  | nil => cases h
  | cons p m ih =>
      obtain ⟨k, v⟩ := p
      rw [get?_cons] at h
      split at h
      · next hk =>
          rw [← Option.some.inj h, ← hk]
          exact List.mem_cons_self
      · exact List.mem_cons_of_mem _ (ih h)

theorem get?_eq_none_iff : get? key m = none ↔ key ∉ m.map Prod.fst := by
  induction m with
  | nil => simp
  | cons p m ih =>
      rw [get?_cons, List.map_cons, List.mem_cons, not_or]
      split
      · next hk => simp [hk]
      · next hk => simp [ih, Ne.symm hk]

theorem has_iff : has key m = true ↔ key ∈ m.map Prod.fst := by
  rw [has, ← not_iff_not, Bool.not_eq_true, Option.isSome_eq_false_iff, Option.isNone_iff_eq_none]
  exact get?_eq_none_iff

/-- Without repeated keys, what is found is what is there. -/
theorem get?_eq_some_iff (hm : (m.map Prod.fst).Nodup) : get? key m = some value ↔ (key, value) ∈ m := by
  constructor
  · exact mem_of_get?
  · intro h
    induction m with
    | nil => cases h
    | cons p m ih =>
        obtain ⟨hp, hm⟩ := List.nodup_cons.mp hm
        rw [get?_cons]
        rcases List.mem_cons.mp h with rfl | h
        · exact if_pos rfl
        · rw [if_neg, ih hm h]
          rintro rfl
          exact hp (List.mem_map.mpr ⟨_, h, rfl⟩)

theorem get?_append {m' : ArrivalMap κ α} : get? key (m ++ m') = (get? key m).or (get? key m') := by
  induction m with
  | nil => rfl
  | cons p m ih =>
      rw [List.cons_append, get?_cons, get?_cons]
      split
      · rfl
      · exact ih

theorem get?_erase_of_ne {other : κ} (h : other ≠ key) : get? other (erase key m) = get? other m := by
  induction m with
  | nil => rfl
  | cons p m ih =>
      rw [erase] at ih
      rw [erase, List.filter_cons, get?_cons]
      split
      · rw [get?_cons, ih]
      · next hp =>
          have hk : p.1 = key := by simpa using hp
          rw [ih, if_neg (hk.trans_ne h.symm)]

/-- The first pair of a key is found whether or not other pairs are left out. -/
theorem get?_filter_of {p : κ × α → Bool} (h : ∀ v, get? key m = some v → p (key, v) = true) :
    get? key (m.filter p) = get? key m := by
  induction m with
  | nil => rfl
  | cons a m ih =>
      obtain ⟨k, v⟩ := a
      rw [get?_cons] at h ⊢
      by_cases hk : k = key
      · subst hk
        rw [List.filter_cons, if_pos (h v (if_pos rfl)), get?_cons, if_pos rfl, if_pos rfl]
      · rw [if_neg hk] at h ⊢
        rw [List.filter_cons]
        split
        · rw [get?_cons, if_neg hk, ih h]
        · exact ih h

/-- A new key goes to the end. -/
theorem set_of_new (h : key ∉ m.map Prod.fst) : set key value m = m ++ [(key, value)] := by
  induction m with
  | nil => rfl
  | cons p m ih =>
      rw [List.map_cons, List.mem_cons, not_or] at h
      rw [set, if_neg (Ne.symm h.1), ih h.2]
      rfl

/-- A map that has no other key has one pair when the key is set. -/
theorem set_of_sublist_singleton (h : (m.map Prod.fst).Sublist [key]) : set key value m = [(key, value)] := by
  rcases List.sublist_singleton.mp h with h | h
  · rw [List.map_eq_nil_iff.mp h]
    rfl
  · obtain ⟨p, rfl, rfl⟩ := List.map_eq_singleton_iff.mp h
    exact if_pos rfl

theorem mem_set {a : κ × α} (h : a ∈ set key value m) : a ∈ m ∨ a.2 = value := by
  induction m with
  | nil =>
      rw [List.mem_singleton.mp h]
      exact .inr rfl
  | cons p m ih =>
      rw [set] at h
      split at h
      · rcases List.mem_cons.mp h with rfl | h
        · exact .inr rfl
        · exact .inl (List.mem_cons_of_mem _ h)
      · rcases List.mem_cons.mp h with rfl | h
        · exact .inl List.mem_cons_self
        · exact (ih h).imp_left (List.mem_cons_of_mem _)

theorem set_set {other : α} : set key value (set key other m) = set key value m := by
  induction m with
  | nil => simp only [set, if_true]
  | cons p m ih =>
      obtain ⟨k, v⟩ := p
      by_cases hk : k = key
      · simp only [set, if_pos hk]
      · simp only [set, if_neg hk, ih]

/-- Setting other keys does not change what is found. -/
theorem get?_foldl_set_of_not_mem {pairs : List (κ × α)} (hkey : key ∉ pairs.map Prod.fst) :
    get? key (pairs.foldl (fun acc p => set p.1 p.2 acc) m) = get? key m := by
  induction pairs generalizing m with
  | nil => rfl
  | cons first pairs ih =>
      rw [List.map_cons, List.mem_cons, not_or] at hkey
      rw [List.foldl_cons, ih hkey.2, get?_set_of_ne _ _ hkey.1]

/-- Pairs that are set one after the other are found, if no key is set twice. -/
theorem get?_foldl_set {pairs : List (κ × α)} (hpairs : (pairs.map Prod.fst).Nodup) {p : κ × α}
    (hp : p ∈ pairs) : get? p.1 (pairs.foldl (fun acc p => set p.1 p.2 acc) m) = some p.2 := by
  induction pairs generalizing m with
  | nil => cases hp
  | cons first pairs ih =>
      obtain ⟨hfirst, hpairs⟩ := List.nodup_cons.mp hpairs
      rw [List.foldl_cons]
      rcases List.mem_cons.mp hp with rfl | hp
      · rw [get?_foldl_set_of_not_mem hfirst, get?_set_self]
      · exact ih hpairs hp

/-- Pairs that are set one after the other under new keys stay in their order. -/
theorem foldl_set_of_nodup {pairs : List (κ × α)} (h : ((m ++ pairs).map Prod.fst).Nodup) :
    pairs.foldl (fun acc p => set p.1 p.2 acc) m = m ++ pairs := by
  induction pairs generalizing m with
  | nil => exact (List.append_nil m).symm
  | cons first pairs ih =>
      have hnew : first.1 ∉ m.map Prod.fst := by
        intro hmem
        rw [List.map_append] at h
        exact (List.nodup_append.mp h).2.2 _ hmem _ List.mem_cons_self rfl
      have hstep : m ++ first :: pairs = m ++ [first] ++ pairs := by
        rw [List.append_assoc, List.singleton_append]
      rw [List.foldl_cons, set_of_new hnew, hstep]
      exact ih (hstep ▸ h)

end ApiReconciler.ArrivalMap
