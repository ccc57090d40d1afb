import Mathlib

/-!
# `ApiReconciler.Proofs.Lists` — facts about lists, options and results that several proofs use
-/

namespace ApiReconciler

variable {α β : Type}

theorem nodup_eraseDups [BEq α] [LawfulBEq α] (l : List α) : l.eraseDups.Nodup := by
  -- what is left of the tail is shorter, but no part of the list: the induction is on the length
  induction hn : l.length using Nat.strong_induction_on generalizing l with
  | _ n ih =>
      cases l with
      | nil => exact List.nodup_nil
      | cons a l =>
          have hshorter : (l.filter fun b => !b == a).length < n := by
            rw [← hn]
            exact Nat.lt_succ_of_le (List.length_filter_le _ _)
          have hnew : a ∉ (l.filter fun b => !b == a).eraseDups := by
            intro hmem
            have hne := (List.mem_filter.mp (List.mem_eraseDups.mp hmem)).2
            rw [beq_self_eq_true] at hne
            cases hne
          rw [List.eraseDups_cons]
          exact List.nodup_cons.mpr ⟨hnew, ih _ hshorter _ rfl⟩

/-- What was not seen before is kept once, and what follows it is told apart from it as well. -/
theorem eraseDups_filter_not_mem [BEq α] [LawfulBEq α] [DecidableEq α] {before : List α} {a : α}
    (ha : a ∉ before) (rest : List α) :
    ((a :: rest).filter (· ∉ before)).eraseDups = a :: (rest.filter (· ∉ before ++ [a])).eraseDups := by
  have hlater : ((rest.filter (· ∉ before)).filter fun b => !b == a) = rest.filter (· ∉ before ++ [a]) := by
    rw [List.filter_filter]
    refine List.filter_congr fun b _ => ?_
    rw [Bool.eq_iff_iff]
    simp [not_or, and_comm]
  rw [List.filter_cons_of_pos (by simpa using ha), List.eraseDups_cons, hlater]

theorem duplicate_iff_count [BEq α] [LawfulBEq α] {a : α} {l : List α} : l.Duplicate a ↔ 2 ≤ l.count a := by
  rw [List.duplicate_iff_sublist, ← List.replicate_sublist_iff]
  rfl

/-- What is in a list and again in what follows, is there twice. -/
theorem duplicate_append {a : α} {l l' : List α} (h : a ∈ l) (h' : a ∈ l') : (l ++ l').Duplicate a :=
  List.duplicate_iff_sublist.mpr ((List.singleton_sublist.mpr h).append (List.singleton_sublist.mpr h'))

/-- Where a list with repeated values has the first repeated one. -/
theorem exists_repeat_of_not_nodup {f : α → β} {l : List α} (h : ¬(l.map f).Nodup) :
    ∃ before a after, l = before ++ a :: after ∧ (before.map f).Nodup ∧ f a ∈ before.map f := by
  induction l using List.reverseRecOn with
  | nil => exact absurd List.nodup_nil h
  | append_singleton l a ih =>
      by_cases hl : (l.map f).Nodup
      · refine ⟨l, a, [], rfl, hl, ?_⟩
        by_contra hnew
        rw [List.map_append, List.map_singleton] at h
        exact h (hl.append (List.nodup_singleton _) (List.disjoint_singleton.mpr hnew))
      · obtain ⟨before, first, after, rfl, hbefore, hfirst⟩ := ih hl
        exact ⟨before, first, after ++ [a], by rw [List.append_assoc, List.cons_append], hbefore, hfirst⟩

/-- Every element has its counterpart. -/
theorem forall₂_exists_right {R : α → β → Prop} {as : List α} {bs : List β} (h : List.Forall₂ R as bs)
    {a : α} (ha : a ∈ as) : ∃ b ∈ bs, R a b := by
  induction h with
  | nil => cases ha
  | cons hab _ ih =>
      rcases List.mem_cons.mp ha with rfl | ha
      · exact ⟨_, List.mem_cons_self, hab⟩
      · obtain ⟨b, hb, hr⟩ := ih ha
        exact ⟨b, List.mem_cons_of_mem _ hb, hr⟩

theorem forall₂_exists_left {R : α → β → Prop} {as : List α} {bs : List β} (h : List.Forall₂ R as bs)
    {b : β} (hb : b ∈ bs) : ∃ a ∈ as, R a b :=
  forall₂_exists_right (List.Forall₂.flip h) hb

theorem rel_imp {R S : α → β → Prop} (h : ∀ a b, R a b → S a b) {o : Option α} {p : Option β}
    (hr : Option.Rel R o p) : Option.Rel S o p := by
  cases hr with
  | some hr => exact .some (h _ _ hr)
  | none => exact .none

theorem rel_some_right {R : α → β → Prop} {o : Option α} {b : β} (h : Option.Rel R o (some b)) :
    ∃ a, o = some a ∧ R a b := by
  cases h with
  | some h => exact ⟨_, rfl, h⟩

/-- What is filtered before a partial map can as well be filtered after it. -/
theorem filterMap_filter_of {f : α → Option β} {p : α → Bool} {q : β → Bool}
    (h : ∀ a b, f a = some b → p a = q b) (l : List α) :
    (l.filter p).filterMap f = (l.filterMap f).filter q := by
  rw [List.filterMap_filter, List.filter_filterMap]
  refine List.filterMap_congr fun a _ => ?_
  cases hf : f a with
  | none => simp
  | some b =>
      rw [h a b hf, Option.filter_some]

/-- A partial map without repeated values tells apart what it is defined on. -/
theorem eq_of_filterMap_nodup {f : α → Option β} {l : List α} (h : (l.filterMap f).Nodup) {a a' : α} {b : β}
    (ha : a ∈ l) (ha' : a' ∈ l) (hb : f a = some b) (hb' : f a' = some b) : a = a' := by
  induction l with
  | nil => cases ha
  | cons x l ih =>
      cases hx : f x with
      | none =>
          rw [List.filterMap_cons_none hx] at h
          have hne : ∀ y, f y = some b → y ∈ x :: l → y ∈ l := by
            intro y hy hm
            refine (List.mem_cons.mp hm).resolve_left ?_
            rintro rfl
            rw [hx] at hy
            cases hy
          exact ih h (hne a hb ha) (hne a' hb' ha')
      | some v =>
          rw [List.filterMap_cons_some hx, List.nodup_cons] at h
          have hv : ∀ y ∈ l, f y ≠ some v := fun y hy he => h.1 (List.mem_filterMap.mpr ⟨y, hy, he⟩)
          rcases List.mem_cons.mp ha with rfl | hm
          · rcases List.mem_cons.mp ha' with rfl | hm'
            · rfl
            · exact absurd (hb'.trans (hb.symm.trans hx)) (hv a' hm')
          · rcases List.mem_cons.mp ha' with rfl | hm'
            · exact absurd (hb.trans (hb'.symm.trans hx)) (hv a hm)
            · exact ih h.2 hm hm'

/-- What a part of a list does not contain, is found after that part. -/
theorem prefix_of_append_eq {xs ys pre post : List α} {x : α} (h : xs ++ ys = pre ++ x :: post)
    (hx : x ∉ xs) : xs <+: pre := by
  rcases List.append_eq_append_iff.mp h with ⟨as, hpre, -⟩ | ⟨as, hxs, hys⟩
  · exact ⟨as, hpre.symm⟩
  · cases as with
    | nil => exact ⟨[], by rw [hxs, List.append_nil, List.append_nil]⟩
    | cons a as =>
        obtain ⟨rfl, -⟩ := List.cons_eq_cons.mp hys
        exact absurd (hxs ▸ List.mem_append_right pre List.mem_cons_self) hx

section

variable {p : α → Bool} {front rest l : List α}

/-- A search takes the part that passes a test, if what is behind it begins with something that does not. -/
theorem takeWhile_append_stop (hfront : ∀ a ∈ front, p a = true) (hrest : ∀ a ∈ rest.head?, p a = false) :
    (front ++ rest).takeWhile p = front := by
  rw [List.takeWhile_append_of_pos hfront]
  cases rest with
  | nil => rw [List.takeWhile_nil, List.append_nil]
  | cons a rest =>
      have ha : p a = false := hrest a rfl
      rw [List.takeWhile_cons_of_neg (by simp [ha]), List.append_nil]

/-- It leaves what is behind that part. -/
theorem dropWhile_append_stop (hfront : ∀ a ∈ front, p a = true) (hrest : ∀ a ∈ rest.head?, p a = false) :
    (front ++ rest).dropWhile p = rest := by
  have hboth := List.takeWhile_append_dropWhile (p := p) (l := front ++ rest)
  rw [takeWhile_append_stop hfront hrest] at hboth
  exact List.append_cancel_left hboth

/-- A search stops at something that does not pass the test. -/
theorem stop_of_mem_head? {a : α} (h : a ∈ (l.dropWhile p).head?) : p a = false := by
  have hstop := List.head?_dropWhile_not p l
  rw [Option.mem_def.mp h] at hstop
  simpa using hstop

end

/-! ## Results -/

section

variable {ε : Type} {x : Except ε α}

theorem map_eq_ok_iff {f : α → β} {b : β} : x.map f = .ok b ↔ ∃ a, x = .ok a ∧ f a = b := by
  cases x <;> simp [Except.map]

theorem bind_eq_ok_iff {f : α → Except ε β} {b : β} : x.bind f = .ok b ↔ ∃ a, x = .ok a ∧ f a = .ok b := by
  cases x <;> simp [Except.bind]

theorem bind_eq_error_iff {f : α → Except ε β} {e : ε} :
    x.bind f = .error e ↔ x = .error e ∨ ∃ a, x = .ok a ∧ f a = .error e := by
  cases x <;> simp [Except.bind]

end

end ApiReconciler
