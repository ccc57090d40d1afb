import ApiReconciler.Proofs.Json.Documents
import ApiReconciler.Proofs.Text
import ApiReconciler.Reference

/-!
# `ApiReconciler.Proofs.Identifier` — bare identifiers as references

The gateway's identifiers are made of lower-case letters and digits. A reference that is such an identifier is
first read as JSON, and only if it is none, taken as it stands. Most identifiers are no JSON: one that starts
with a letter starts no number, and one that starts with a digit mostly goes on behind the number. Some are,
and then the identifier has to be got back from the value. Digits without a zero in front are an integer, whose
numeral they are. The words for truth values and null name no API. What is left are digits with an `e` and
further digits behind them: this is a number in scientific notation, of which no identifier is got back.

## Contents
- `isIdentifierChar` and what such characters are not.
- `Json.Exponential`: identifiers that are numbers in scientific notation.
- `Json.parseChars_identifier`: what an identifier is read as, if it is read as anything.
- `bare_identifier_parsed_iff`: **the identifiers that are recovered**.
-/

namespace ApiReconciler

open Digits

/-- A lower-case letter or a digit. -/
def isIdentifierChar (c : Char) : Bool := ('a' ≤ c && c ≤ 'z') || isDigit c

/-! ## Characters -/

theorem toNat_of_identifierChar {c : Char} (hc : isIdentifierChar c = true) :
    (48 ≤ c.toNat ∧ c.toNat ≤ 57) ∨ (97 ≤ c.toNat ∧ c.toNat ≤ 122) := by
  simp only [isIdentifierChar, isDigit, Bool.or_eq_true, Bool.and_eq_true, decide_eq_true_eq] at hc
  rcases hc with ⟨hlow, hhigh⟩ | ⟨hlow, hhigh⟩
  · exact .inr ⟨hlow, hhigh⟩
  · exact .inl ⟨hlow, hhigh⟩

theorem ne_of_identifierChar {c d : Char} (hc : isIdentifierChar c = true) (hd : isIdentifierChar d = false) :
    c ≠ d := by
  intro h
  rw [h, hd] at hc
  cases hc

theorem isBlank_of_identifierChar {c : Char} (hc : isIdentifierChar c = true) : Text.isBlank c = false := by
  have hbounds := toNat_of_identifierChar hc
  rw [Bool.eq_false_iff]
  intro hblank
  simp only [Text.isBlank, Bool.or_eq_true, Bool.and_eq_true, decide_eq_true_eq] at hblank
  omega

theorem isSpace_of_identifierChar {c : Char} (hc : isIdentifierChar c = true) : Json.isSpace c = false := by
  have hne : ∀ d, isIdentifierChar d = false → decide (c = d) = false :=
    fun d hd => decide_eq_false (ne_of_identifierChar hc hd)
  unfold Json.isSpace
  rw [hne ' ' (by decide), hne '\t' (by decide), hne '\n' (by decide), hne '\r' (by decide)]
  rfl

theorem isDelimiter_of_identifierChar {c : Char} (hc : isIdentifierChar c = true) :
    Reference.isDelimiter c = false := by
  have hne : ∀ d, isIdentifierChar d = false → decide (c = d) = false :=
    fun d hd => decide_eq_false (ne_of_identifierChar hc hd)
  unfold Reference.isDelimiter
  rw [hne ' ' (by decide), hne '\x7b' (by decide), hne '\x7d' (by decide), hne '[' (by decide),
    hne ']' (by decide), hne '"' (by decide), hne '\'' (by decide)]
  rfl

namespace Json

section

variable {cs rest : List Char} {v : Value}

theorem skipSpace_identifier (h : ∀ c ∈ cs, isIdentifierChar c = true) : skipSpace cs = cs := by
  cases cs with
  | nil => rfl
  | cons c cs =>
      have hspace := isSpace_of_identifierChar (h c List.mem_cons_self)
      unfold skipSpace
      rw [List.dropWhile_cons_of_neg (by simp [hspace])]

/-! ## Numbers among identifiers -/

/-- A number with an exponent, and with neither a fraction nor a sign. -/
inductive Exponential : List Char → Prop
  | intro {whole exponent : List Char} (hwhole : Whole whole) (given : exponent ≠ [])
      (digits : ∀ c ∈ exponent, isDigit c = true) : Exponential (whole ++ 'e' :: exponent)

theorem Whole.isDigit (h : Whole cs) : ∀ c ∈ cs, isDigit c = true := by
  cases h with
  | zero => simp [Digits.isDigit]
  | digits _ hall => exact hall

/-- Such a number consists of digits and the mark. -/
theorem Exponential.mem (h : Exponential cs) {c : Char} (hc : c ∈ cs) : c = 'e' ∨ isDigit c = true := by
  cases h with
  | intro hwhole _ hdigits =>
      rcases List.mem_append.mp hc with hfront | hback
      · exact .inr (hwhole.isDigit c hfront)
      · rcases List.mem_cons.mp hback with hmark | hexponent
        · exact .inl hmark
        · exact .inr (hdigits c hexponent)

/-- What is split off as the whole part is one, if it is anything. -/
theorem wholePart_eq {whole : List Char} (h : wholePart cs = (whole, rest)) :
    cs = whole ++ rest ∧ (whole ≠ [] → Whole whole) := by
  unfold wholePart at h
  split at h
  · next more =>
      obtain ⟨rfl, rfl⟩ := Prod.mk.inj h
      exact ⟨rfl, fun _ => .zero⟩
  · next hzero =>
      obtain ⟨rfl, rfl⟩ := Prod.mk.inj h
      refine ⟨List.takeWhile_append_dropWhile.symm, fun hne => ?_⟩
      have hdigits : ∀ c ∈ cs.takeWhile Digits.isDigit, Digits.isDigit c = true :=
        fun c hc => List.mem_takeWhile_imp hc
      cases cs with
      | nil => exact absurd rfl hne
      | cons c cs =>
          have hc : c ≠ '0' := fun he => hzero cs (by rw [he])
          by_cases hd : Digits.isDigit c = true
          · rw [List.takeWhile_cons_of_pos hd] at hdigits ⊢
            exact .digits hc hdigits
          · rw [List.takeWhile_cons_of_neg hd] at hne
            exact absurd rfl hne

theorem fractionPart_identifier (h : ∀ c ∈ cs, isIdentifierChar c = true) : fractionPart cs = ([], cs) := by
  unfold fractionPart
  split
  · have hpoint := h '.' List.mem_cons_self
    cases hpoint
  · rfl

/-- An exponent without a sign. -/
theorem exponentPart_digits {ds : List Char} (hne : ds ≠ []) (hall : ∀ c ∈ ds, Digits.isDigit c = true)
    (hrest : rest.takeWhile Digits.isDigit = []) :
    exponentPart ('e' :: ds ++ rest) = (some (ofDecimal ds : Int), rest) := by
  have hsign : Double.takeSign (ds ++ rest) = (false, ds ++ rest) := by
    obtain ⟨d, more, rfl⟩ := List.exists_cons_of_ne_nil hne
    have hd := hall d List.mem_cons_self
    unfold Double.takeSign
    split
    · next h => exact absurd (List.cons.inj h).1 (ne_of_isDigit hd rfl)
    · next h => exact absurd (List.cons.inj h).1 (ne_of_isDigit hd rfl)
    · rfl
  exact exponentPart_of_sign (.inl rfl) hsign hne hall hrest

/-- An exponent at the front of an identifier has no sign. -/
theorem exponentPart_identifier (h : ∀ c ∈ cs, isIdentifierChar c = true) :
    exponentPart cs = (none, cs) ∨
      ∃ e exponent more, exponentPart cs = (some e, more) ∧ cs = 'e' :: exponent ++ more ∧ exponent ≠ [] ∧
        ∀ c ∈ exponent, Digits.isDigit c = true := by
  cases cs with
  | nil => exact .inl rfl
  | cons c cs =>
      obtain ⟨hc, hcs⟩ := List.forall_mem_cons.mp h
      by_cases hmark : c = 'e'
      · subst hmark
        have htaken : ∀ d ∈ cs.takeWhile Digits.isDigit, Digits.isDigit d = true :=
          fun d hd => List.mem_takeWhile_imp hd
        by_cases hne : cs.takeWhile Digits.isDigit = []
        · left
          have hsign : (Double.takeSign cs).2.takeWhile Digits.isDigit = [] := by
            unfold Double.takeSign
            split
            · cases hcs '-' List.mem_cons_self
            · cases hcs '+' List.mem_cons_self
            · exact hne
          simp only [exponentPart, true_or, if_true, hsign]
        · right
          have hstop : (cs.dropWhile Digits.isDigit).takeWhile Digits.isDigit = [] := by
            rw [List.takeWhile_eq_nil_iff]
            intro hlength
            exact List.dropWhile_get_zero_not _ _ hlength
          have hexponent := exponentPart_digits hne htaken hstop
          have hsplit : 'e' :: cs = 'e' :: cs.takeWhile Digits.isDigit ++ cs.dropWhile Digits.isDigit := by
            rw [List.cons_append, List.takeWhile_append_dropWhile]
          rw [← hsplit] at hexponent
          exact ⟨_, _, _, hexponent, hsplit, hne, htaken⟩
      · left
        have hcapital : c ≠ 'E' := ne_of_identifierChar hc (by decide)
        rw [exponentPart, if_neg fun hor => hor.elim hmark hcapital]

/-- An identifier that is a number is an integer or a number with an exponent. -/
theorem readUnsigned_identifier (h : ∀ c ∈ cs, isIdentifierChar c = true)
    (hread : readUnsigned false cs = .ok (v, rest)) (hend : skipSpace rest = []) :
    (Whole cs ∧ v = .int (ofDecimal cs)) ∨ (Exponential cs ∧ ∃ x, v = .float x) := by
  unfold readUnsigned at hread
  split at hread
  · cases hread
  next whole more hne hwhole =>
    obtain ⟨rfl, hdigits⟩ := wholePart_eq hwhole
    have hgiven : whole ≠ [] := fun hnil => hne (by rw [hnil])
    have hmore : ∀ c ∈ more, isIdentifierChar c = true := fun c hc => h c (List.mem_append_right _ hc)
    rw [fractionPart_identifier hmore] at hread
    dsimp only at hread
    obtain hexponent | ⟨e, exponent, behind, hexponent, rfl, hsome, hall⟩ := exponentPart_identifier hmore
    · rw [hexponent] at hread
      simp only [true_and, if_true] at hread
      split at hread
      · cases hread
      · obtain ⟨rfl, rfl⟩ := Prod.mk.inj (Except.ok.inj hread)
        rw [skipSpace_identifier hmore] at hend
        subst hend
        left
        rw [List.append_nil]
        exact ⟨hdigits hgiven, rfl⟩
    · rw [hexponent] at hread
      simp only [reduceCtorEq, and_false, if_false] at hread
      obtain ⟨rfl, rfl⟩ := Prod.mk.inj (Except.ok.inj hread)
      rw [skipSpace_identifier fun c hc => hmore c (List.mem_append_right _ hc)] at hend
      subst hend
      right
      rw [List.append_nil]
      exact ⟨.intro (hdigits hgiven) hsome hall, _, rfl⟩

/-- The words for truth values and null, which are identifiers as well. -/
def literals : List (List Char) := ["true".toList, "false".toList, "null".toList]

/-- An identifier that is none of the words is read as a number, if at all. -/
theorem readAtom_identifier (h : ∀ c ∈ cs, isIdentifierChar c = true) (hword : cs ∉ literals)
    (hread : readAtom cs = .ok (v, rest)) (hend : skipSpace rest = []) :
    readUnsigned false cs = .ok (v, rest) := by
  unfold readAtom at hread
  split at hread
  · next r hfound =>
      obtain ⟨w, hw, htake⟩ := List.exists_of_findSome?_eq_some hfound
      obtain ⟨more, hmore, rfl⟩ := Option.map_eq_some_iff.mp htake
      obtain ⟨rfl, rfl⟩ := Prod.mk.inj (Except.ok.inj hread)
      unfold takeWord? at hmore
      split_ifs at hmore with hprefix
      have hcs : cs = w.1.toList ++ more := by
        obtain ⟨behind, hbehind⟩ := List.isPrefixOf_iff_prefix.mp hprefix
        rw [← Option.some.inj hmore, ← hbehind, List.drop_left]
      have hnil : more = [] := by
        rw [← skipSpace_identifier fun c hc => h c (hcs ▸ List.mem_append_right _ hc)]
        exact hend
      rw [hnil, List.append_nil] at hcs
      -- three of the words are excluded, and the others have characters that an identifier has not
      have hcapital : ∀ c, c ∈ cs → isIdentifierChar c = false → False := by
        intro c hc hno
        rw [h c hc] at hno
        cases hno
      simp only [words, List.mem_cons, List.not_mem_nil, or_false] at hw
      rcases hw with rfl | rfl | rfl | rfl | rfl | rfl
      · exact absurd (by rw [hcs]; decide) hword
      · exact absurd (by rw [hcs]; decide) hword
      · exact absurd (by rw [hcs]; decide) hword
      · exact (hcapital 'N' (by rw [hcs]; decide) (by decide)).elim
      · exact (hcapital 'I' (by rw [hcs]; decide) (by decide)).elim
      · exact (hcapital '-' (by rw [hcs]; decide) (by decide)).elim
  · unfold readNumber at hread
    split at hread
    · cases h '-' List.mem_cons_self
    · exact hread

/-- **What an identifier is read as**, if it is read as anything: an integer whose digits it consists of, or a
float. -/
theorem parseChars_identifier (h : ∀ c ∈ cs, isIdentifierChar c = true) (hword : cs ∉ literals)
    (hparse : parseChars cs = .ok v) :
    (Whole cs ∧ v = .int (ofDecimal cs)) ∨ (Exponential cs ∧ ∃ x, v = .float x) := by
  unfold parseChars at hparse
  rw [skipSpace_identifier h] at hparse
  split at hparse
  · cases hparse
  next w rest hread =>
    split_ifs at hparse with hend
    obtain rfl := Except.ok.inj hparse
    have hatom : readAtom cs = .ok (w, rest) := by
      unfold readValue at hread
      split at hread
      · cases h '"' List.mem_cons_self
      · cases h '[' List.mem_cons_self
      · cases h '\x7b' List.mem_cons_self
      · exact hread
    exact readUnsigned_identifier h (readAtom_identifier h hword hatom hend) hend

/-- Digits, the mark and digits are read as a float. -/
theorem Exponential.parseChars (h : Exponential cs) : ∃ x, parseChars cs = .ok (.float x) := by
  cases h with
  | @intro whole exponent hwhole hgiven hall =>
      obtain ⟨x, hread⟩ : ∃ x, ∀ behind, Ends behind →
          readUnsigned false (whole ++ 'e' :: exponent ++ behind) = .ok (.float x, behind) := by
        refine ⟨Double.ofDecimal false (ofDecimal whole) (ofDecimal exponent), fun behind hbehind => ?_⟩
        have hstop : behind.takeWhile Digits.isDigit = [] := by cases hbehind <;> rfl
        have hfirst : wholePart (whole ++ ('e' :: exponent ++ behind)) = (whole, 'e' :: exponent ++ behind) :=
          wholePart_append hwhole rfl
        have hsecond : fractionPart ('e' :: exponent ++ behind) = ([], 'e' :: exponent ++ behind) := rfl
        have hthird := exponentPart_digits hgiven hall hstop
        have hfloat := readUnsigned_of_parts false hfirst hwhole.ne_nil hsecond hthird fun h => by cases h.2
        rw [List.append_assoc, hfloat]
        simp
      obtain ⟨c, ds, rfl, hc⟩ := hwhole.head
      exact ⟨x, (denotes_of_readUnsigned false hc hread).parseChars⟩

/-- The integer that digits are read as has them as its numeral. -/
theorem Whole.signed (h : Whole cs) : signed (ofDecimal cs) = cs := by
  cases h with
  | zero => rfl
  | digits hzero hall => exact decimal_ofDecimal hzero hall

end

end Json

/-! ## Identifiers as references -/

section

variable {s : String}

/-- **The identifiers that are recovered.** A text of lower-case letters and digits that is none of the words
for truth values and null is the reference to the API it names, and nothing else is known of the API, unless
the text consists of digits without a zero in front, an `e` and digits: such a text is no reference at all. -/
theorem bare_identifier_parsed_iff (hne : s ≠ "") (hchars : ∀ c ∈ s.toList, isIdentifierChar c = true)
    (hword : s ∉ ["true", "false", "null"]) :
    (Reference.parse s = .ok ⟨s, []⟩ ↔ ¬Json.Exponential s.toList) ∧
      (Json.Exponential s.toList → Reference.parse s = .error (.noApi (Reference.excerpt s.toList))) := by
  have htrim : Text.trimChars s.toList = s.toList :=
    Text.trimChars_eq_self fun c hc => isBlank_of_identifierChar (hchars c hc)
  have hnil : s.toList ≠ [] := fun h => hne (String.toList_eq_nil_iff.mp h)
  have hliteral : s.toList ∉ Json.literals := by
    intro hmem
    simp only [Json.literals, List.mem_cons, String.toList_inj, List.not_mem_nil, or_false] at hmem
    exact hword (by simpa using hmem)
  have hexponential : Json.Exponential s.toList →
      Reference.parse s = .error (.noApi (Reference.excerpt s.toList)) := by
    intro he
    obtain ⟨x, hx⟩ := he.parseChars
    unfold Reference.parse Reference.parseChars
    rw [htrim, if_neg hnil, hx]
    rfl
  refine ⟨⟨fun hparse he => ?_, fun hplain => ?_⟩, hexponential⟩
  · rw [hexponential he] at hparse
    cases hparse
  · unfold Reference.parse Reference.parseChars
    rw [htrim, if_neg hnil]
    cases hjson : Json.parseChars s.toList with
    | error e =>
        have hany : s.toList.any Reference.isDelimiter = false := by
          rw [List.any_eq_false]
          intro c hc
          rw [isDelimiter_of_identifierChar (hchars c hc)]
          decide
        simp [hany]
    | ok v =>
        obtain ⟨hwhole, rfl⟩ | ⟨he, -⟩ := Json.parseChars_identifier hchars hliteral hjson
        · simp [Reference.head, Reference.ofValue?, hwhole.signed]
        · exact absurd he hplain

end

/-- An identifier that starts like a number with an exponent. -/
theorem mixedIdentifier_parsed :
    (∀ c ∈ "12e5x07q".toList, isIdentifierChar c = true) ∧ "12e5x07q" ∉ ["true", "false", "null"] ∧
      Reference.parse "12e5x07q" = .ok ⟨"12e5x07q", []⟩ := by
  have hchars : ∀ c ∈ "12e5x07q".toList, isIdentifierChar c = true := by simp [isIdentifierChar, isDigit]
  have hword : "12e5x07q" ∉ ["true", "false", "null"] := by decide
  obtain ⟨hiff, -⟩ := bare_identifier_parsed_iff (by decide) hchars hword
  refine ⟨hchars, hword, hiff.mpr fun he => ?_⟩
  have hletter := he.mem (c := 'x') (by simp)
  exact absurd hletter (by decide)

/-- An identifier that is a number with an exponent, and no reference. -/
theorem exponentialIdentifier_lost :
    "4832157e09" ≠ "" ∧ (∀ c ∈ "4832157e09".toList, isIdentifierChar c = true) ∧
      "4832157e09" ∉ ["true", "false", "null"] ∧
        Reference.parse "4832157e09" = .error (.noApi "4832157e09") := by
  have hwhole : Json.Whole ['4', '8', '3', '2', '1', '5', '7'] := .digits (by decide) (by simp [isDigit])
  have he : Json.Exponential (['4', '8', '3', '2', '1', '5', '7'] ++ 'e' :: ['0', '9']) :=
    .intro hwhole (by decide) (by simp [isDigit])
  obtain ⟨x, hx⟩ := he.parseChars
  have hjson : Json.parseChars "4832157e09".toList = .ok (.float x) := hx
  have htrim : Text.trimChars "4832157e09".toList = "4832157e09".toList := rfl
  refine ⟨by decide, by simp [isIdentifierChar, isDigit], by decide, ?_⟩
  unfold Reference.parse Reference.parseChars
  rw [htrim, hjson]
  rfl

end ApiReconciler
