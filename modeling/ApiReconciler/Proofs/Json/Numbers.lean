import ApiReconciler.Proofs.Json.RoundTrip
import ApiReconciler.Proofs.Number.Shortest

/-!
# `ApiReconciler.Proofs.Json.Numbers` — the texts of floats are read

The text of a finite float is put together from digits in one of five ways: positional with the point in
front of, between or behind the digits, and scientific with one digit or more. What the reader needs is the
same in all of them: a whole part without leading zeros, and behind it a fraction, an exponent or both. So
the ways of writing are brought into this form (`FloatText`), and reading is proved of the form.

The digits start with another one than zero, since those of the shortest decimal do.

## Contents
- `FloatText`: the form of a float's text; `readUnsigned_floatText`: what it is read as.
- `floatText_magnitude`: the text of a finite magnitude has this form.
- `exists_denotes_float`: **the text of a float denotes a value**.
-/

namespace ApiReconciler

open Digits

namespace Json

/-! ## The parts of a number -/

/-- The text of a fraction, with its digits: nothing, or a point and at least one digit. -/
inductive Fraction : List Char → List Char → Prop
  | none : Fraction [] []
  | some {d : Char} {ds : List Char} (all : ∀ c ∈ d :: ds, isDigit c = true) :
      Fraction ('.' :: d :: ds) (d :: ds)

/-- The text of an exponent, with its value: nothing, or a mark, a sign and digits. -/
inductive Exponent : List Char → Option Int → Prop
  | none : Exponent [] none
  | some (e : Int) : Exponent (Double.exponentChars e) (some e)

theorem fractionPart_append {cs ds rest : List Char} (h : Fraction cs ds)
    (hdigit : rest.takeWhile isDigit = []) (hpoint : fractionPart rest = ([], rest)) :
    fractionPart (cs ++ rest) = (ds, rest) := by
  cases h with
  | none => exact hpoint
  | @some d ds hall =>
      obtain ⟨htake, hdrop⟩ := digits_append hall hdigit
      rw [List.cons_append, fractionPart, htake]
      exact congrArg (Prod.mk _) hdrop

/-- The digits of an exponent are those of its magnitude, behind a zero if there is only one. -/
theorem ofDecimal_padded (width n : Nat) : ofDecimal (padded width n) = n := by
  unfold padded zeroFilled ofDecimal
  rw [ofDigits_replicate_zero]
  exact ofDecimal_decimal n

theorem mem_padded (width n : Nat) {c : Char} (hc : c ∈ padded width n) : isDigit c = true := by
  rcases List.mem_append.mp hc with hzero | hdigit
  · rw [List.eq_of_mem_replicate hzero]
    rfl
  · exact mem_decimal hdigit

theorem padded_ne_nil (width n : Nat) : padded width n ≠ [] :=
  List.append_ne_nil_of_right_ne_nil _ Nat.toDigits_ne_nil

/-- An exponent is its mark, perhaps a sign, and the digits as far as they go. -/
theorem exponentPart_of_sign {c : Char} {cs ds rest : List Char} {negative : Bool} (hmark : c = 'e' ∨ c = 'E')
    (hsign : Double.takeSign cs = (negative, ds ++ rest)) (hne : ds ≠ []) (hall : ∀ d ∈ ds, isDigit d = true)
    (hrest : rest.takeWhile isDigit = []) :
    exponentPart (c :: cs) = (some (if negative then -(ofDecimal ds : Int) else ofDecimal ds), rest) := by
  obtain ⟨htake, hdrop⟩ := digits_append hall hrest
  rw [exponentPart, if_pos hmark, hsign]
  dsimp only
  rw [htake, hdrop]
  split
  · exact absurd rfl hne
  · rfl

theorem exponentPart_append {cs rest : List Char} {e : Option Int} (h : Exponent cs e) (hrest : Ends rest) :
    exponentPart (cs ++ rest) = (e, rest) := by
  cases h with
  | none => cases hrest <;> rfl
  | some e =>
      have hstop : rest.takeWhile isDigit = [] := by cases hrest <;> rfl
      have hsign : Double.takeSign ((if e < 0 then '-' else '+') :: padded 2 e.natAbs ++ rest) =
          (decide (e < 0), padded 2 e.natAbs ++ rest) := by
        split_ifs with he
        · rw [decide_eq_true he]
          rfl
        · rw [decide_eq_false he]
          rfl
      have hvalue : (if decide (e < 0) = true then -(ofDecimal (padded 2 e.natAbs) : Int)
          else ofDecimal (padded 2 e.natAbs)) = e := by
        rw [ofDecimal_padded]
        split_ifs with he
        · have := of_decide_eq_true he
          omega
        · have : ¬e < 0 := fun hneg => he (decide_eq_true hneg)
          omega
      unfold Double.exponentChars
      rw [List.cons_append, exponentPart_of_sign (.inl rfl) hsign (padded_ne_nil 2 e.natAbs)
        (fun _ => mem_padded 2 e.natAbs) hstop, hvalue]

/-! ## The form of a float's text -/

/-- A text of a float: a whole part, and behind it a fraction, an exponent or both. -/
inductive FloatText : List Char → Prop
  | intro {whole fraction digits exponent : List Char} {e : Option Int} (hwhole : Whole whole)
      (hfraction : Fraction fraction digits) (hexponent : Exponent exponent e)
      (given : ¬(digits = [] ∧ e = none)) : FloatText (whole ++ (fraction ++ exponent))

/-- Digits on both sides of a point. -/
theorem FloatText.point {whole digits : List Char} (hwhole : Whole whole) (hne : digits ≠ [])
    (hall : ∀ c ∈ digits, isDigit c = true) : FloatText (whole ++ '.' :: digits) := by
  obtain ⟨d, ds, rfl⟩ := List.exists_cons_of_ne_nil hne
  have htext := FloatText.intro hwhole (.some hall) .none (fun hnil => hne hnil.1)
  rwa [List.append_nil] at htext

/-- A number with a fraction, an exponent or both is read as a float. -/
theorem readUnsigned_of_parts (negative : Bool) {cs whole digits rest₁ rest₂ rest : List Char} {e : Option Int}
    (hfirst : wholePart cs = (whole, rest₁)) (hne : whole ≠ []) (hsecond : fractionPart rest₁ = (digits, rest₂))
    (hthird : exponentPart rest₂ = (e, rest)) (given : ¬(digits = [] ∧ e = none)) :
    readUnsigned negative cs = .ok (.float (Double.ofDecimal negative (ofDecimal (whole ++ digits))
      (e.getD 0 - digits.length)), rest) := by
  obtain ⟨c, ds, rfl⟩ := List.exists_cons_of_ne_nil hne
  unfold readUnsigned
  rw [hfirst]
  dsimp only
  rw [hsecond]
  dsimp only
  rw [hthird]
  dsimp only
  rw [if_neg given]

/-- **A text of this form is read as a float.** -/
theorem readUnsigned_floatText (negative : Bool) {cs : List Char} (h : FloatText cs) :
    ∃ x, ∀ rest, Ends rest → readUnsigned negative (cs ++ rest) = .ok (.float x, rest) := by
  obtain @⟨whole, fraction, digits, exponent, e, hwhole, hfraction, hexponent, hgiven⟩ := h
  refine ⟨Double.ofDecimal negative (ofDecimal (whole ++ digits)) (e.getD 0 - digits.length),
    fun rest hrest => ?_⟩
  -- an exponent starts with no digit and no point, and neither does what stands behind a number
  have hbehind : (exponent ++ rest).takeWhile isDigit = [] ∧
      fractionPart (exponent ++ rest) = ([], exponent ++ rest) := by
    cases hexponent with
    | none => cases hrest <;> exact ⟨rfl, rfl⟩
    | some e => exact ⟨rfl, rfl⟩
  have hstop : (fraction ++ (exponent ++ rest)).takeWhile isDigit = [] := by
    cases hfraction with
    | none => exact hbehind.1
    | some _ => rfl
  have hfirst := wholePart_append hwhole hstop
  have hsecond := fractionPart_append hfraction hbehind.1 hbehind.2
  have hthird := exponentPart_append hexponent hrest
  rw [List.append_assoc, List.append_assoc]
  exact readUnsigned_of_parts negative hfirst hwhole.ne_nil hsecond hthird hgiven

end Json

/-! ## Written floats -/

namespace Double

open Json

/-- Of digits that do not start with a zero, the first one stays when the zeros at the end are dropped. -/
theorem trimZeros_cons {c : Char} (cs : List Char) (hc : c ≠ '0') :
    ∃ ds, (trimZeros (c :: cs)).1 = c :: ds ∧ ∀ d ∈ ds, d ∈ cs := by
  have hstart := List.takeWhile_prefix (l := (c :: cs).reverse) (· = '0')
  have hshort : ((c :: cs).reverse.takeWhile (· = '0')).length ≠ (c :: cs).reverse.length := by
    intro hall
    have hzero := List.takeWhile_eq_self_iff.mp (hstart.eq_of_length hall) c
      (List.mem_reverse.mpr List.mem_cons_self)
    exact hc (of_decide_eq_true hzero)
  have hlength := hstart.length_le
  rw [List.length_reverse] at hlength hshort
  unfold trimZeros
  dsimp only
  generalize ((c :: cs).reverse.takeWhile (· = '0')).length = zeros at hlength hshort
  obtain ⟨k, hk⟩ : ∃ k, (c :: cs).length - zeros = k + 1 := ⟨(c :: cs).length - zeros - 1, by omega⟩
  refine ⟨cs.take k, ?_, fun _ => List.mem_of_mem_take⟩
  rw [hk, List.take_succ_cons]

theorem isDigit_of_mem_replicate {k : Nat} {d : Char} (h : d ∈ List.replicate k '0') : isDigit d = true := by
  rw [List.eq_of_mem_replicate h]
  rfl

section

variable {c : Char} {cs : List Char}

/-- Digits with a point between them, behind them or in front of them. -/
theorem floatText_positional (hc : c ≠ '0') (h : ∀ d ∈ c :: cs, isDigit d = true) (point : Int) :
    FloatText (positional (c :: cs) point) := by
  match point with
  | .ofNat 0 => exact .point .zero (List.cons_ne_nil _ _) h
  | .ofNat (p + 1) =>
      change FloatText (if p + 1 < (c :: cs).length then _ else _)
      split_ifs with hp
      · -- the point stands between the digits, so there are some on both sides
        have hfront : ∀ d ∈ (c :: cs).take (p + 1), isDigit d = true :=
          fun d hd => h d (List.mem_of_mem_take hd)
        have hback : ∀ d ∈ (c :: cs).drop (p + 1), isDigit d = true :=
          fun d hd => h d (List.mem_of_mem_drop hd)
        refine .point (.digits hc hfront) (fun hnil => ?_) hback
        exact Nat.not_lt.mpr (List.drop_eq_nil_iff.mp hnil) hp
      · have hfront : ∀ d ∈ c :: cs ++ List.replicate (p + 1 - (c :: cs).length) '0', isDigit d = true :=
          List.forall_mem_append.mpr ⟨h, fun _ => isDigit_of_mem_replicate⟩
        exact .point (.digits hc hfront) (List.cons_ne_nil '0' [])
          fun _ => isDigit_of_mem_replicate (k := 1)
  | .negSucc k =>
      have hback : ∀ d ∈ List.replicate (k + 1) '0' ++ c :: cs, isDigit d = true :=
        List.forall_mem_append.mpr ⟨fun _ => isDigit_of_mem_replicate, h⟩
      exact .point .zero (List.append_ne_nil_of_right_ne_nil _ (List.cons_ne_nil _ _)) hback

/-- A digit, the others behind a point, and an exponent. -/
theorem floatText_scientific (hc : c ≠ '0') (h : ∀ d ∈ c :: cs, isDigit d = true) (e : Int) :
    FloatText (scientific .json (c :: cs) e) := by
  have hwhole : Whole [c] := .digits hc fun d hd => h d (List.mem_cons.mpr (.inl (List.mem_singleton.mp hd)))
  have hexponent : ∀ {ds : List Char}, ¬(ds = [] ∧ some e = none) := fun hnone => nomatch hnone.2
  cases cs with
  | nil => exact .intro hwhole .none (.some e) hexponent
  | cons d ds =>
      exact .intro hwhole (.some fun x hx => h x (List.mem_cons_of_mem c hx)) (.some e) hexponent

end

/-- **The text of a finite magnitude** has the form of a float's text. -/
theorem floatText_magnitude {m : Nat} (hm : m < 2 ^ 53) (e : Int) : FloatText (magnitude .json m e) := by
  unfold magnitude
  split_ifs with hzero
  · exact .point .zero (List.cons_ne_nil '0' []) fun _ => isDigit_of_mem_replicate (k := 1)
  · have hpos := Shortest.decimal_pos (Nat.pos_of_ne_zero hzero) hm e
    generalize Shortest.decimal m e = digits at hpos
    obtain ⟨c, cs, hcs, hc⟩ := (decimal_eq_zero_or digits.1).resolve_left (Nat.ne_of_gt hpos)
    obtain ⟨ds, hds, hmem⟩ := trimZeros_cons cs hc
    have hdigits : ∀ d ∈ c :: ds, isDigit d = true := by
      intro d hd
      refine mem_decimal (n := digits.1) ?_
      rw [hcs]
      exact List.mem_cons.mpr ((List.mem_cons.mp hd).imp id (hmem d))
    dsimp only
    rw [hcs, hds]
    split_ifs
    · exact floatText_positional hc hdigits _
    · exact floatText_scientific hc hdigits _

end Double

namespace Json

/-- A text of a float, with or without a sign, denotes a value. -/
theorem exists_denotes_floatText (negative : Bool) {cs : List Char} (h : FloatText cs) :
    ∃ v, Denotes (if negative then '-' :: cs else cs) v := by
  obtain ⟨x, hread⟩ := readUnsigned_floatText negative h
  obtain @⟨whole, fraction, digits, exponent, e, hwhole, -, -, -⟩ := h
  obtain ⟨c, ds, rfl, hc⟩ := hwhole.head
  exact ⟨.float x, denotes_of_readUnsigned negative hc hread⟩

/-- **The text of a float of the format denotes a value**, also that of one that is not finite. -/
theorem exists_denotes_float {x : Double} (h : x.InFormat) : ∃ v, Denotes (x.writtenChars .json) v := by
  cases x with
  | nan =>
      exact ⟨_, denotes_of_readAtom (c := 'N') (by decide) (by decide) (by decide) (by decide) (by decide)
        fun _ _ => rfl⟩
  | infinite negative =>
      cases negative with
      | false =>
          exact ⟨_, denotes_of_readAtom (c := 'I') (by decide) (by decide) (by decide) (by decide)
            (by decide) fun _ _ => rfl⟩
      | true =>
          exact ⟨_, denotes_of_readAtom (c := '-') (by decide) (by decide) (by decide) (by decide)
            (by decide) fun _ _ => rfl⟩
  | finite negative m e => exact exists_denotes_floatText negative (Double.floatText_magnitude h e)

end Json

end ApiReconciler
