import ApiReconciler.Proofs.Members
import ApiReconciler.Validation.Lenient

/-!
# `ApiReconciler.Proofs.Checked` — readers and what they read again

A reader accepts more than a writer writes: bytes for texts, words for truth values, members that are left out.
What it makes of them is nevertheless a value that a writer can write and that it reads as itself again. That is
said of a reader and a writer by `Checked.Restores`, together with what holds of all values that were read, and
it is put together from the parts as the readers are.

## Contents
- `Checked.seq_eq_passed`, `Checked.required_eq_passed`, `Checked.optional_eq_passed`: what has passed.
- `Checked.Restores`: everything that is read is read again from what is written of it.
- `Checked.restores_text`, `Checked.restores_mapping`, `Checked.Restores.each`: readers of fields and lists.
-/

namespace ApiReconciler

namespace Checked

variable {α β : Type}

/-! ## What has passed -/

theorem seq_eq_passed {f : Checked (α → β)} {x : Checked α} {v : β} (h : f <*> x = .passed v) :
    ∃ (g : α → β) (a : α), f = .passed g ∧ x = .passed a ∧ v = g a := by
  cases f with
  | passed g =>
      cases x with
      | passed a => exact ⟨g, a, rfl, rfl, (Checked.passed.inj h).symm⟩
      | failed issues => cases h
  | failed issues =>
      cases x with
      | passed a => cases h
      | failed others => cases h

theorem map_eq_passed {f : α → β} {x : Checked α} {v : β} (h : f <$> x = .passed v) :
    ∃ a, x = .passed a ∧ v = f a := by
  cases x with
  | passed a => exact ⟨a, rfl, (Checked.passed.inj h).symm⟩
  | failed issues => cases h

theorem under_eq_passed {place : Step} {x : Checked α} {v : α} : x.under place = .passed v ↔ x = .passed v := by
  cases x with
  | passed a => exact Iff.rfl
  | failed issues => exact iff_of_false (fun h => by cases h) (fun h => by cases h)

section

variable {ms : Object} {name : String} {default a : α} {v : Value} {read : Value → Checked α}

theorem required_eq_passed :
    required ms name read = .passed a ↔ ∃ v, ms.get? name = some v ∧ read v = .passed a := by
  unfold required
  rw [under_eq_passed]
  cases hget : ms.get? name with
  | none =>
      refine iff_of_false (fun h => by cases h) ?_
      rintro ⟨v, hv, -⟩
      cases hv
  | some v =>
      constructor
      · intro h
        exact ⟨v, rfl, h⟩
      · rintro ⟨w, hw, h⟩
        rw [Option.some.inj hw]
        exact h

theorem optional_eq_passed : optional ms name default read = .passed a ↔
    (ms.get? name = none ∧ a = default) ∨ ∃ v, ms.get? name = some v ∧ read v = .passed a := by
  unfold optional
  cases hget : ms.get? name with
  | none =>
      constructor
      · intro h
        exact .inl ⟨rfl, (Checked.passed.inj h).symm⟩
      · rintro (⟨-, rfl⟩ | ⟨v, hv, -⟩)
        · rfl
        · cases hv
  | some v =>
      show under _ (read v) = _ ↔ _
      rw [under_eq_passed]
      constructor
      · intro h
        exact .inr ⟨v, rfl, h⟩
      · rintro (⟨hnone, -⟩ | ⟨w, hw, h⟩)
        · cases hnone
        · rw [Option.some.inj hw]
          exact h

theorem required_of_get? (h : ms.get? name = some v) (hread : read v = .passed a) :
    required ms name read = .passed a := required_eq_passed.mpr ⟨v, h, hread⟩

theorem optional_of_get? (h : ms.get? name = some v) (hread : read v = .passed a) :
    optional ms name default read = .passed a := optional_eq_passed.mpr (.inr ⟨v, h, hread⟩)

/-- What holds of the default and of all that is read holds of a field with a default. -/
theorem optional_holds {P : α → Prop} (h : optional ms name default read = .passed a) (hdefault : P default)
    (hread : ∀ v a, read v = .passed a → P a) : P a := by
  rcases optional_eq_passed.mp h with ⟨-, rfl⟩ | ⟨v, -, hv⟩
  · exact hdefault
  · exact hread v a hv

end

/-! ## Reading again -/

/-- All that a reader reads has a property, and whatever has it is read again from what is written of it. -/
structure Restores (read : Value → Checked α) (write : α → Value) (P : α → Prop) : Prop where
  holds : ∀ v a, read v = .passed a → P a
  back : ∀ a, P a → read (write a) = .passed a

theorem restores_text : Restores text Value.text fun _ => True where
  holds _ _ _ := trivial
  back _ _ := rfl

theorem restores_optionalText : Restores optionalText Value.optionalText fun _ => True where
  holds _ _ _ := trivial
  back s _ := by
    cases s with
    | none => rfl
    | some s => rfl

theorem restores_boolean : Restores boolean Value.bool fun _ => True where
  holds _ _ _ := trivial
  back _ _ := rfl

section

variable {read : Value → Checked α} {write : α → Value} {P : α → Prop}

theorem Restores.eachFrom_holds (h : Restores read write P) {vs : List Value} {n : Nat} {as : List α}
    (hread : eachFrom read n vs = .passed as) : ∀ a ∈ as, P a := by
  induction vs generalizing n as with
  | nil =>
      obtain rfl := Checked.passed.inj hread
      intro a ha
      exact absurd ha List.not_mem_nil
  | cons v vs ih =>
      obtain ⟨_, rest, hfirst, hrest, rfl⟩ := seq_eq_passed hread
      obtain ⟨a, ha, rfl⟩ := map_eq_passed hfirst
      intro b hb
      rcases List.mem_cons.mp hb with rfl | hb
      · exact h.holds v b (under_eq_passed.mp ha)
      · exact ih hrest b hb

theorem Restores.eachFrom_back (h : Restores read write P) {as : List α} (has : ∀ a ∈ as, P a) (n : Nat) :
    eachFrom read n (as.map write) = .passed as := by
  induction as generalizing n with
  | nil => rfl
  | cons a as ih =>
      obtain ⟨ha, has⟩ := List.forall_mem_cons.mp has
      rw [List.map_cons, eachFrom, h.back a ha, ih has (n + 1)]
      rfl

/-- **Lists are read again** if their elements are. -/
theorem Restores.each (h : Restores read write P) :
    Restores (each read) (fun as => .list (as.map write)) fun as => ∀ a ∈ as, P a where
  holds v as hread := by
    cases v with
    | list vs => exact h.eachFrom_holds hread
    | scalar s => cases hread
    | object ms => cases hread
  back as has := h.eachFrom_back has 0

end

/-! ## Mappings -/

/-- The names of a mapping that passes are texts. -/
theorem mappingMembers_texts {ms ns : List (Scalar × Value)} (h : mappingMembers ms = .passed ns) :
    ∀ m ∈ ns, ∃ name, m.1 = .text name := by
  induction ms generalizing ns with
  | nil =>
      obtain rfl := Checked.passed.inj h
      intro m hm
      exact absurd hm List.not_mem_nil
  | cons m ms ih =>
      obtain ⟨k, v⟩ := m
      obtain ⟨_, rest, hkey, hrest, rfl⟩ := seq_eq_passed h
      obtain ⟨k', hk', rfl⟩ := map_eq_passed hkey
      obtain ⟨name, -, rfl⟩ := map_eq_passed (under_eq_passed.mp (under_eq_passed.mp hk'))
      intro n hn
      rcases List.mem_cons.mp hn with rfl | hn
      · exact ⟨name, rfl⟩
      · exact ih hrest n hn

theorem mappingMembers_of_texts {ms : Object} (h : ∀ m ∈ ms, ∃ name, m.1 = .text name) :
    mappingMembers ms = .passed ms := by
  induction ms with
  | nil => rfl
  | cons m ms ih =>
      obtain ⟨⟨name, hname⟩, htail⟩ := List.forall_mem_cons.mp h
      obtain ⟨k, v⟩ := m
      obtain rfl : k = .text name := hname
      rw [mappingMembers, ih htail]
      rfl

/-- **Mappings are read again**: they have become records. -/
theorem restores_mapping : Restores mapping Value.object Object.IsRecord where
  holds v ms hread := by
    cases v with
    | object given =>
        obtain ⟨ns, hns, rfl⟩ := map_eq_passed hread
        exact Object.isRecord_ofList (mappingMembers_texts hns)
    | scalar s => cases hread
    | list vs => cases hread
  back ms hms := by
    show map Object.ofList (mappingMembers ms) = .passed ms
    rw [mappingMembers_of_texts hms.texts]
    show Checked.passed (Object.ofList ms) = .passed ms
    rw [hms.ofList]

end Checked

end ApiReconciler
