import ApiReconciler.Proofs.Json.Numbers
import ApiReconciler.Proofs.Lists

/-!
# `ApiReconciler.Proofs.Json.Documents` — what was read can be written and read again

A document goes through several texts: it is read from the export of an API, written into the reference and
read from there again. `RoundTrip` says what comes back of values without floats. Here nothing is said of
what comes back, only that something does, and that holds of all values that a text denotes and of all that a
reply can hold: scalars of every kind, as long as an integer is not too long and a float belongs to the format.

Reading gives such values because the numeral of a number is not longer than the digits it was read from,
because rounding stays in the format, and because collecting members gives each name once. That is one
induction on the nesting of the text, over values, elements and members together.

## Contents
- `Value.Portable`: values whose texts can be read; `Value.Portable.isWritable`.
- `Value.Denotable`: values that texts denote; `Value.Denotable.portable`.
- `parseChars_denotable`, `parse_portable`: **what is read is denotable**, so it can be written and read again.
- `exists_denotes`: **the text of a portable value denotes a value**; `exists_denotes_object`: that of a record
  denotes a record with the same names.
-/

namespace ApiReconciler

open Digits

/-! ## Portable values -/

/-- A scalar whose text can be read. -/
def Scalar.Portable : Scalar → Prop
  | .int n => (decimal n.natAbs).length ≤ maxIntegerDigits
  | .float x => x.InFormat
  | _ => True

/-- A value whose text can be read: its scalars can, and its objects are records. -/
inductive Value.Portable : Value → Prop
  | scalar {s : Scalar} (h : s.Portable) : Portable (.scalar s)
  | list {xs : List Value} (elements : ∀ x ∈ xs, Portable x) : Portable (.list xs)
  | object {ms : Object} (record : ms.IsRecord) (members : ∀ m ∈ ms, Portable m.2) : Portable (.object ms)

namespace Value

theorem areWritable_iff {xs : List Value} : areWritable xs = true ↔ ∀ x ∈ xs, x.isWritable = true := by
  induction xs with
  | nil => exact iff_of_true rfl (List.forall_mem_nil _)
  | cons x xs ih => rw [areWritable, Bool.and_eq_true, ih, List.forall_mem_cons]

theorem membersAreWritable_iff {ms : Object} :
    membersAreWritable ms = true ↔ ∀ m ∈ ms, m.1.isWritable = true ∧ m.2.isWritable = true := by
  induction ms with
  | nil => exact iff_of_true rfl (List.forall_mem_nil _)
  | cons m ms ih => rw [membersAreWritable, Bool.and_eq_true, Bool.and_eq_true, ih, List.forall_mem_cons]

/-- The names of a record can always be written, so only its values count. -/
theorem isWritable_object_iff {ms : Object} (h : ms.IsRecord) :
    isWritable (.object ms) = true ↔ ∀ m ∈ ms, m.2.isWritable = true := by
  rw [isWritable, membersAreWritable_iff]
  refine forall₂_congr fun m hm => ?_
  obtain ⟨name, hname⟩ := h.texts m hm
  rw [hname]
  exact and_iff_right rfl

/-- A portable value can be written. -/
theorem Portable.isWritable {v : Value} (h : v.Portable) : v.isWritable = true := by
  induction h with
  | @scalar s hs =>
      cases s with
      | int n => exact decide_eq_true hs
      | _ => rfl
  | list _ ih => exact areWritable_iff.mpr ih
  | object hrecord _ ih => exact (isWritable_object_iff hrecord).mpr ih

end Value

/-! ## Denotable values -/

/-- A scalar that a text can denote. -/
inductive Scalar.Denotable : Scalar → Prop
  | null : Denotable .null
  | bool (b : Bool) : Denotable (.bool b)
  | int {n : Int} (length : (decimal n.natAbs).length ≤ maxIntegerDigits) : Denotable (.int n)
  | float {x : Double} (format : x.InFormat) : Denotable (.float x)
  | text (s : String) : Denotable (.text s)

/-- A value that a text can denote. -/
inductive Value.Denotable : Value → Prop
  | scalar {s : Scalar} (h : s.Denotable) : Denotable (.scalar s)
  | list {xs : List Value} (elements : ∀ x ∈ xs, Denotable x) : Denotable (.list xs)
  | object {ms : Object} (record : ms.IsRecord) (members : ∀ m ∈ ms, Denotable m.2) : Denotable (.object ms)

/-- **The text of a denotable value can be read.** -/
theorem Value.Denotable.portable {v : Value} (h : v.Denotable) : v.Portable := by
  induction h with
  | scalar hs =>
      refine .scalar ?_
      cases hs with
      | int hlength => exact hlength
      | float hformat => exact hformat
      | _ => trivial
  | list _ ih => exact .list ih
  | object hrecord _ ih => exact .object hrecord ih

/-! ## Integers that are read -/

namespace Digits

theorem digitValue?_lt {c : Char} (hc : isDigit c = true) : (digitValue? c).getD 0 < 10 := by
  have hbounds : '0' ≤ c ∧ c ≤ '9' := by
    rw [isDigit, Bool.and_eq_true] at hc
    exact ⟨of_decide_eq_true hc.1, of_decide_eq_true hc.2⟩
  have hle : c.toNat ≤ '9'.toNat := hbounds.2
  have hnine : '9'.toNat = '0'.toNat + 9 := rfl
  unfold digitValue?
  rw [if_pos hbounds, Option.getD_some]
  omega

/-- Digits denote a number below the power of ten with as many zeros. -/
theorem ofDigitsFrom_lt {cs : List Char} (h : ∀ c ∈ cs, isDigit c = true) (acc : Nat) :
    ofDigitsFrom 10 acc cs < (acc + 1) * 10 ^ cs.length := by
  induction cs generalizing acc with
  | nil => exact Nat.lt_of_lt_of_eq (Nat.lt_succ_self acc) (Nat.mul_one _).symm
  | cons c cs ih =>
      obtain ⟨hc, hcs⟩ := List.forall_mem_cons.mp h
      have hvalue := digitValue?_lt hc
      have hhead : acc * 10 + (digitValue? c).getD 0 + 1 ≤ (acc + 1) * 10 := by omega
      calc ofDigitsFrom 10 acc (c :: cs)
          = ofDigitsFrom 10 (acc * 10 + (digitValue? c).getD 0) cs := rfl
        _ < (acc * 10 + (digitValue? c).getD 0 + 1) * 10 ^ cs.length := ih hcs _
        _ ≤ (acc + 1) * 10 * 10 ^ cs.length := Nat.mul_le_mul_right _ hhead
        _ = (acc + 1) * 10 ^ (c :: cs).length := by
            rw [List.length_cons, Nat.pow_succ, Nat.mul_assoc, Nat.mul_comm 10]

/-- The numeral of a number is not longer than digits that denote it. -/
theorem length_decimal_ofDecimal {cs : List Char} (h : ∀ c ∈ cs, isDigit c = true) (hne : cs ≠ []) :
    (decimal (ofDecimal cs)).length ≤ cs.length := by
  have hlt := ofDigitsFrom_lt h 0
  rw [Nat.zero_add, Nat.one_mul] at hlt
  exact (Nat.length_toDigits_le_iff (by decide) (List.length_pos_iff.mpr hne)).mpr hlt

end Digits

namespace Json

theorem wholePart_digits (cs : List Char) : ∀ c ∈ (wholePart cs).1, isDigit c = true := by
  unfold wholePart
  split
  · exact List.forall_mem_singleton.mpr rfl
  · exact fun c hc => List.mem_takeWhile_imp hc

section

variable {cs rest : List Char} {v : Value}

/-- A number that is read is an integer that is not too long, or a float of the format. -/
theorem readUnsigned_denotable {negative : Bool} (h : readUnsigned negative cs = .ok (v, rest)) :
    v.Denotable := by
  have hdigits := wholePart_digits cs
  unfold readUnsigned at h
  split at h
  · cases h
  next whole more hne hwhole =>
    rw [hwhole] at hdigits
    have hlength : (decimal (ofDecimal whole)).length ≤ whole.length :=
      length_decimal_ofDecimal hdigits hne
    have habs : ∀ n : Nat, (if negative = true then -(n : Int) else n).natAbs = n := by
      intro n
      split_ifs
      · rw [Int.natAbs_neg, Int.natAbs_natCast]
      · exact Int.natAbs_natCast n
    dsimp only at h
    split at h
    · split at h
      · cases h
      next hlong =>
        obtain ⟨rfl, -⟩ := Prod.mk.inj (Except.ok.inj h)
        refine .scalar (.int ?_)
        rw [habs]
        exact hlength.trans (Nat.not_lt.mp hlong)
    · obtain ⟨rfl, -⟩ := Prod.mk.inj (Except.ok.inj h)
      exact .scalar (.float (Double.ofDecimal_inFormat _ _ _))

theorem readAtom_denotable (h : readAtom cs = .ok (v, rest)) : v.Denotable := by
  unfold readAtom at h
  split at h
  · next r hword =>
    obtain ⟨w, hw, htake⟩ := List.exists_of_findSome?_eq_some hword
    obtain ⟨more, -, rfl⟩ := Option.map_eq_some_iff.mp htake
    obtain ⟨rfl, -⟩ := Prod.mk.inj (Except.ok.inj h)
    have hwords : ∀ w ∈ words, w.2.Denotable := by
      simp only [words, List.forall_mem_cons]
      exact ⟨.scalar .null, .scalar (.bool true), .scalar (.bool false), .scalar (.float trivial),
        .scalar (.float trivial), .scalar (.float trivial), List.forall_mem_nil _⟩
    exact hwords w hw
  · unfold readNumber at h
    split at h
    · exact readUnsigned_denotable h
    · exact readUnsigned_denotable h

end

/-! ## Documents that are read -/

/-- Members with text names and values that are denoted. -/
def DenotableMembers (ms : List (Scalar × Value)) : Prop :=
  ∀ m ∈ ms, (∃ name, m.1 = .text name) ∧ m.2.Denotable

end Json

/-- Collecting members keeps what each of them has, and gives each name once. -/
theorem Object.ofList_denotable {ms : List (Scalar × Value)} (h : Json.DenotableMembers ms) :
    (Value.object (Object.ofList ms)).Denotable := by
  have hfold : ∀ (ns : List (Scalar × Value)) (before : Object), Json.DenotableMembers ns →
      before.IsRecord → (∀ m ∈ before, m.2.Denotable) →
      (ns.foldl (fun o m => Object.set m.1 m.2 o) before).IsRecord ∧
        ∀ m ∈ ns.foldl (fun o m => Object.set m.1 m.2 o) before, m.2.Denotable := by
    intro ns
    induction ns with
    | nil => exact fun before _ hrecord hbefore => ⟨hrecord, hbefore⟩
    | cons n ns ih =>
        intro before hns hrecord hbefore
        obtain ⟨⟨⟨name, hname⟩, hvalue⟩, hrest⟩ := List.forall_mem_cons.mp hns
        rw [List.foldl_cons, hname]
        refine ih _ hrest (hrecord.set name n.2) fun m hm => ?_
        rcases Object.mem_set hm with rfl | hold
        · exact hvalue
        · exact hbefore m hold
  obtain ⟨hrecord, hmembers⟩ := hfold ms [] h ⟨List.forall_mem_nil _, List.nodup_nil⟩ (List.forall_mem_nil _)
  exact .object hrecord hmembers

namespace Json

/-- What the readers give with a bound on the nesting is denotable. -/
structure ReadsDenotable (fuel : Nat) : Prop where
  value : ∀ {cs v rest}, readValue fuel cs = .ok (v, rest) → v.Denotable
  elements : ∀ {cs vs rest}, readElements fuel cs = .ok (vs, rest) → ∀ v ∈ vs, v.Denotable
  members : ∀ {cs ms rest}, readMembers fuel cs = .ok (ms, rest) → DenotableMembers ms

section

variable {fuel : Nat} {cs rest : List Char}

theorem readValue_denotable (hread : ReadsDenotable fuel) {v : Value}
    (h : readValue (fuel + 1) cs = .ok (v, rest)) : v.Denotable := by
  unfold readValue at h
  split at h
  -- a text
  · obtain ⟨r, -, hr⟩ := map_eq_ok_iff.mp h
    obtain ⟨rfl, -⟩ := Prod.mk.inj hr
    exact .scalar (.text _)
  -- a list, without elements or with some
  · split at h
    · obtain ⟨rfl, -⟩ := Prod.mk.inj (Except.ok.inj h)
      exact .list (List.forall_mem_nil _)
    · obtain ⟨r, hr, hv⟩ := map_eq_ok_iff.mp h
      obtain ⟨rfl, -⟩ := Prod.mk.inj hv
      exact .list (hread.elements hr)
  -- an object, without members or with some
  · split at h
    · obtain ⟨rfl, -⟩ := Prod.mk.inj (Except.ok.inj h)
      exact Object.ofList_denotable (List.forall_mem_nil _)
    · obtain ⟨r, hr, hv⟩ := map_eq_ok_iff.mp h
      obtain ⟨rfl, -⟩ := Prod.mk.inj hv
      exact Object.ofList_denotable (hread.members hr)
  · exact readAtom_denotable h

theorem readElements_denotable (hread : ReadsDenotable fuel) {vs : List Value}
    (h : readElements (fuel + 1) cs = .ok (vs, rest)) : ∀ v ∈ vs, v.Denotable := by
  unfold readElements at h
  split at h
  · cases h
  · next v more hv =>
      split at h
      · obtain ⟨rfl, -⟩ := Prod.mk.inj (Except.ok.inj h)
        exact List.forall_mem_singleton.mpr (hread.value hv)
      · obtain ⟨r, hr, hvs⟩ := map_eq_ok_iff.mp h
        obtain ⟨rfl, -⟩ := Prod.mk.inj hvs
        exact List.forall_mem_cons.mpr ⟨hread.value hv, hread.elements hr⟩
      · cases h

theorem readMembers_denotable (hread : ReadsDenotable fuel) {ms : List (Scalar × Value)}
    (h : readMembers (fuel + 1) cs = .ok (ms, rest)) : DenotableMembers ms := by
  unfold readMembers at h
  split at h
  case h_2 => cases h
  split at h
  case h_1 => cases h
  next key more _ =>
    split at h
    case h_2 => cases h
    split at h
    case h_1 => cases h
    next v more' hv =>
      have hmember : (∃ name, Scalar.text key = .text name) ∧ v.Denotable := ⟨⟨key, rfl⟩, hread.value hv⟩
      split at h
      · obtain ⟨rfl, -⟩ := Prod.mk.inj (Except.ok.inj h)
        exact List.forall_mem_singleton.mpr hmember
      · obtain ⟨r, hr, hms⟩ := map_eq_ok_iff.mp h
        obtain ⟨rfl, -⟩ := Prod.mk.inj hms
        exact List.forall_mem_cons.mpr ⟨hmember, hread.members hr⟩
      · cases h

end

/-- **What is read is denotable**, at every level of nesting. -/
theorem readsDenotable (fuel : Nat) : ReadsDenotable fuel := by
  induction fuel with
  | zero =>
      refine ⟨fun h => ?_, fun h => ?_, fun h => ?_⟩
      · rw [readValue] at h
        cases h
      · rw [readElements] at h
        cases h
      · rw [readMembers] at h
        cases h
  | succ fuel ih => exact ⟨readValue_denotable ih, readElements_denotable ih, readMembers_denotable ih⟩

/-- **What a text denotes is denotable.** -/
theorem parseChars_denotable {cs : List Char} {v : Value} (h : parseChars cs = .ok v) : v.Denotable := by
  unfold parseChars at h
  split at h
  · cases h
  · next w rest hread =>
    split_ifs at h
    rw [← Except.ok.inj h]
    exact (readsDenotable _).value hread

/-- So it can be written and read again. -/
theorem parse_portable {text : String} {v : Value} (h : parse text = .ok v) : v.Portable :=
  (parseChars_denotable h).portable

/-! ## Texts that are read -/

/-- A text denotes one value only. -/
theorem Denotes.unique {cs : List Char} {v w : Value} (hv : Denotes cs v) (hw : Denotes cs w) : v = w := by
  have hread := (hv.reads cs.length [] (Nat.le_refl _) .nil).symm.trans
    (hw.reads cs.length [] (Nat.le_refl _) .nil)
  exact (Prod.mk.inj (Except.ok.inj hread)).1

theorem exists_denotes_scalar {s : Scalar} (h : s.Portable) : ∃ w, Denotes (scalarChars s) w := by
  have hdisplay : ∃ w, Denotes (quotedChars s.display) w := by
    have htext := denotes_text (String.ofList s.display)
    rw [String.toList_ofList] at htext
    exact ⟨_, htext⟩
  cases s with
  | null => exact ⟨_, denotes_null⟩
  | bool b => exact ⟨_, denotes_bool b⟩
  | int n => exact ⟨_, denotes_int h⟩
  | float x => exact exists_denotes_float h
  | text s => exact ⟨_, denotes_text s⟩
  -- the others are written as texts
  | date d => exact hdisplay
  | moment m => exact hdisplay
  | bytes bs => exact hdisplay
  | stream bs => exact hdisplay

theorem exists_forall₂_denotes {xs : List Value} (h : ∀ x ∈ xs, ∃ w, Denotes (compactChars x) w) :
    ∃ ws, List.Forall₂ Denotes (compactList xs) ws := by
  induction xs with
  | nil => exact ⟨[], .nil⟩
  | cons x xs ih =>
      obtain ⟨⟨w, hw⟩, hxs⟩ := List.forall_mem_cons.mp h
      obtain ⟨ws, hws⟩ := ih hxs
      exact ⟨w :: ws, .cons hw hws⟩

/-- A member that is read has the name of the member that was written, and a value that its text denotes. -/
def ComesBackAs (m n : Scalar × Value) : Prop := m.1 = n.1 ∧ Denotes (compactChars m.2) n.2

theorem exists_forall₂_members {ms : Object} (hrecord : ms.IsRecord)
    (h : ∀ m ∈ ms, ∃ w, Denotes (compactChars m.2) w) :
    ∃ ns, List.Forall₂ DenotesMember (compactMembers ms) ns ∧ List.Forall₂ ComesBackAs ms ns := by
  induction ms with
  | nil => exact ⟨[], .nil, .nil⟩
  | cons m ms ih =>
      obtain ⟨⟨w, hw⟩, hms⟩ := List.forall_mem_cons.mp h
      obtain ⟨ns, hdenotes, hback⟩ := ih hrecord.tail hms
      obtain ⟨name, hname⟩ := hrecord.texts m List.mem_cons_self
      obtain ⟨k, v⟩ := m
      subst hname
      exact ⟨(.text name, w) :: ns, .cons (.intro name hw) hdenotes, .cons ⟨rfl, hw⟩ hback⟩

/-- Members that come back have the same names. -/
theorem map_fst_of_comesBackAs {ms ns : Object} (h : List.Forall₂ ComesBackAs ms ns) :
    ns.map Prod.fst = ms.map Prod.fst := by
  induction h with
  | nil => rfl
  | cons hm _ ih => rw [List.map_cons, List.map_cons, ih, hm.1]

/-- A member that comes back is found under its name. -/
theorem get?_of_comesBackAs {ms ns : Object} (h : List.Forall₂ ComesBackAs ms ns) {name : String} {v : Value}
    (hv : ms.get? name = some v) : ∃ w, ns.get? name = some w ∧ Denotes (compactChars v) w := by
  induction h with
  | nil => cases hv
  | @cons m n ms ns hm _ ih =>
      obtain ⟨k, w⟩ := m
      obtain ⟨l, u⟩ := n
      obtain ⟨rfl, hdenotes⟩ : k = l ∧ Denotes (compactChars w) u := hm
      rw [Object.get?_cons] at hv ⊢
      split_ifs at hv ⊢
      · obtain rfl := Option.some.inj hv
        exact ⟨u, rfl, hdenotes⟩
      · exact ih hv

end Json

/-- What has the names of a record is one. -/
theorem Object.IsRecord.of_names {ms ns : Object} (h : ms.IsRecord)
    (hnames : ns.map Prod.fst = ms.map Prod.fst) : ns.IsRecord where
  texts := by
    intro n hn
    have hmem : n.1 ∈ ms.map Prod.fst := hnames ▸ List.mem_map_of_mem hn
    obtain ⟨m, hm, hname⟩ := List.mem_map.mp hmem
    rw [← hname]
    exact h.texts m hm
  distinct := hnames ▸ h.distinct

namespace Json

/-- **The text of a record denotes a record** with the same names, if the texts of its values can be read. -/
theorem exists_denotes_members {ms : Object} (hrecord : ms.IsRecord)
    (h : ∀ m ∈ ms, ∃ w, Denotes (compactChars m.2) w) :
    ∃ ns, Denotes (compactChars (.object ms)) (.object ns) ∧ List.Forall₂ ComesBackAs ms ns := by
  obtain ⟨ns, hdenotes, hback⟩ := exists_forall₂_members hrecord h
  exact ⟨ns, denotes_object hdenotes (hrecord.of_names (map_fst_of_comesBackAs hback)), hback⟩

/-- **The text of a portable value denotes a value.** -/
theorem exists_denotes {v : Value} (h : v.Portable) : ∃ w, Denotes (compactChars v) w := by
  induction h with
  | scalar hs => exact exists_denotes_scalar hs
  | list _ ih =>
      obtain ⟨ws, hws⟩ := exists_forall₂_denotes ih
      exact ⟨_, denotes_list hws⟩
  | object hrecord _ ih =>
      obtain ⟨ns, hns, -⟩ := exists_denotes_members hrecord ih
      exact ⟨_, hns⟩

/-- **The text of a portable object denotes an object** in which every name is found again; what is found
under it is denoted by the text of the value. -/
theorem exists_denotes_object {ms : Object} (h : (Value.object ms).Portable) :
    ∃ ns, Denotes (compactChars (.object ms)) (.object ns) ∧
      ∀ name v, ms.get? name = some v → ∃ w, Object.get? name ns = some w ∧ Denotes (compactChars v) w := by
  cases h with
  | object hrecord hmembers =>
      obtain ⟨ns, hns, hback⟩ := exists_denotes_members hrecord fun m hm => exists_denotes (hmembers m hm)
      exact ⟨ns, hns, fun _ _ => get?_of_comesBackAs hback⟩

end Json

end ApiReconciler
