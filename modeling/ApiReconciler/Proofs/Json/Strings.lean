import Mathlib.Tactic.SplitIfs
import ApiReconciler.Json.Writer
import ApiReconciler.Proofs.Digits

/-!
# `ApiReconciler.Proofs.Json.Strings` — JSON strings are read back

A character is written as itself, as a one-letter escape, as the escape of one UTF-16 unit or as those of
two. What is read first decides between the four, and reading stops exactly where the written form ends
(`readChar_charText`). A character is never half of a pair, so an escape of one unit is never taken for the
first of two. A string ends at the first quotation mark that is not escaped, and no written character
starts with one.

## Contents
- `WrittenAs`, `charText_writtenAs`: the four ways in which a character is written.
- `readChar_charText`: a written character is read back, whatever follows.
- `readString_quotedChars`: a written string is read back, whatever follows.
- `printable_quotedChars`: what is written is printable ASCII.
-/

namespace ApiReconciler.Json

open Digits

/-! ## Units -/

theorem readUnit_hexPadded {n : Nat} (hn : n < 0x10000) (rest : List Char) :
    readUnit (hexPadded 4 n ++ rest) = some (n, rest) := by
  obtain ⟨a, b, c, d, habcd, hdigits, hvalue⟩ := hexPadded_four hn
  rw [habcd] at hdigits hvalue ⊢
  simp only [List.mem_cons, List.not_mem_nil, or_false, forall_eq_or_imp, forall_eq] at hdigits
  obtain ⟨ha, hb, hc, hd⟩ := hdigits
  simp only [List.cons_append, List.nil_append, readUnit, ha, hb, hc, hd, Bool.and_self, if_true, hvalue]

theorem readChar_unitEscape {n : Nat} (hn : n < 0x10000) (rest : List Char) :
    readChar (unitEscape n ++ rest) = pairUnits n rest := by
  unfold unitEscape
  rw [List.cons_append, List.cons_append, readChar, readUnit_hexPadded hn]

/-- The numbers of characters leave out those of the units that form pairs. -/
theorem toNat_range (c : Char) : c.toNat < 0xD800 ∨ 0xDFFF < c.toNat ∧ c.toNat < 0x110000 := c.valid

/-- The number of a character is half of no pair. -/
theorem not_high_toNat (c : Char) : isHighUnit c.toNat = false := by
  have hrange := toNat_range c
  unfold isHighUnit
  simp only [Bool.and_eq_false_imp, decide_eq_true_eq, decide_eq_false_iff_not]
  omega

/-- The escape of one unit ends there, whatever follows. -/
theorem pairUnits_toNat (c : Char) (rest : List Char) : pairUnits c.toNat rest = some (c, rest) := by
  have hchar : Text.ofCodePoint c.toNat = c := by
    rw [Text.ofCodePoint, if_pos (toNat_range c)]
    exact Char.ofNat_toNat c
  unfold pairUnits
  split
  · rw [not_high_toNat, hchar]
    rfl
  · rw [hchar]

/-- The two units of a character denote it together. -/
theorem pairUnits_pair {n : Nat} (hn : n < 0x100000) (rest : List Char) :
    pairUnits (0xD800 + n / 0x400) (unitEscape (0xDC00 + n % 0x400) ++ rest) =
      some (Char.ofNat (0x10000 + n), rest) := by
  have hhigh : isHighUnit (0xD800 + n / 0x400) = true := by
    unfold isHighUnit
    simp only [Bool.and_eq_true, decide_eq_true_eq]
    omega
  have hlow : isLowUnit (0xDC00 + n % 0x400) = true := by
    unfold isLowUnit
    simp only [Bool.and_eq_true, decide_eq_true_eq]
    omega
  have hsum : 0x10000 + (0xD800 + n / 0x400 - 0xD800) * 0x400 + (0xDC00 + n % 0x400 - 0xDC00) =
      0x10000 + n := by omega
  unfold unitEscape
  rw [List.cons_append, List.cons_append, pairUnits, if_pos hhigh, readUnit_hexPadded (by omega)]
  simp only [hlow, if_true, hsum]

/-! ## Characters -/

theorem readChar_unescaped {c : Char} (hc : c ≠ '\\') (hprintable : 0x20 ≤ c.toNat) (rest : List Char) :
    readChar (c :: rest) = some (c, rest) := by
  have hallowed : ¬(c.toNat < 0x20 ∨ c = '\\') := by
    rintro (hcontrol | hescape)
    · omega
    · exact hc hescape
  unfold readChar
  split
  · next h => exact absurd (List.cons.inj h).1 hc
  · next h => exact absurd (List.cons.inj h).1 hc
  · next h =>
      obtain ⟨rfl, rfl⟩ := List.cons.inj h
      rw [if_neg hallowed]
  · next h => cases h

/-- The four ways in which a character is written. -/
inductive WrittenAs (c : Char) : List Char → Prop
  | escape {d : Char} (simple : simpleEscape? d = some c) (letter : d ≠ 'u')
      (printable : 0x20 ≤ d.toNat ∧ d.toNat ≤ 0x7E) : WrittenAs c ['\\', d]
  | itself (noQuote : c ≠ '"') (noEscape : c ≠ '\\')
      (printable : 0x20 ≤ c.toNat ∧ c.toNat ≤ 0x7E) : WrittenAs c [c]
  | unit (basic : c.toNat < 0x10000) : WrittenAs c (unitEscape c.toNat)
  | pair {n : Nat} (bound : n < 0x100000) (number : 0x10000 + n = c.toNat) :
      WrittenAs c (unitEscape (0xD800 + n / 0x400) ++ unitEscape (0xDC00 + n % 0x400))

theorem charText_writtenAs (c : Char) : WrittenAs c (charText c) := by
  unfold charText
  split_ifs with hquote hbackslash hline hreturn htab hfeed hback hprintable hbasic
  · exact .escape (by rw [hquote]; rfl) (by decide) (by decide)
  · exact .escape (by rw [hbackslash]; rfl) (by decide) (by decide)
  · exact .escape (by rw [hline]; rfl) (by decide) (by decide)
  · exact .escape (by rw [hreturn]; rfl) (by decide) (by decide)
  · exact .escape (by rw [htab]; rfl) (by decide) (by decide)
  · obtain rfl : c = '\x0C' := Char.toNat_inj.mp hfeed
    exact .escape rfl (by decide) (by decide)
  · obtain rfl : c = '\x08' := Char.toNat_inj.mp hback
    exact .escape rfl (by decide) (by decide)
  · exact .itself hquote hbackslash hprintable
  · exact .unit hbasic
  -- behind the basic plane there are `0x100000` numbers, which is what two halves can hold
  · have hrange := toNat_range c
    exact .pair (by omega) (by omega)

/-- **A written character is read back**, and reading stops where it ends. -/
theorem readChar_charText (c : Char) (rest : List Char) :
    readChar (charText c ++ rest) = some (c, rest) := by
  have hways := charText_writtenAs c
  generalize charText c = cs at hways
  cases hways with
  | @escape d hsimple hletter _ =>
      -- only a `u` behind the backslash would announce a unit
      change readChar ('\\' :: d :: rest) = _
      unfold readChar
      split
      · next h => exact absurd (List.cons.inj (List.cons.inj h).2).1 hletter
      · next h =>
          obtain ⟨rfl, rfl⟩ := List.cons.inj (List.cons.inj h).2
          rw [hsimple]
          rfl
      · next hne h => exact absurd (List.cons.inj h).2.symm (hne d rest (List.cons.inj h).1.symm)
      · next h => cases h
  | itself _ hescape hprintable => exact readChar_unescaped hescape hprintable.1 rest
  | unit hbasic => rw [readChar_unitEscape hbasic, pairUnits_toNat]
  | pair hbound hnumber =>
      -- the first unit is a high half, so the second one is read together with it
      rw [List.append_assoc, readChar_unitEscape (by omega), pairUnits_pair hbound, hnumber,
        Char.ofNat_toNat]

/-- What is written of a character does not start with a quotation mark. -/
theorem charText_head (c : Char) : ∃ d ds, charText c = d :: ds ∧ d ≠ '"' := by
  have hways := charText_writtenAs c
  generalize charText c = cs at hways
  cases hways with
  | escape => exact ⟨_, _, rfl, by decide⟩
  | itself hquote => exact ⟨_, _, rfl, hquote⟩
  | unit => exact ⟨_, _, rfl, by decide⟩
  | pair => exact ⟨_, _, rfl, by decide⟩

/-! ## Printable text -/

/-- A text of printable ASCII characters. -/
def Printable (cs : List Char) : Prop := ∀ c ∈ cs, 0x20 ≤ c.toNat ∧ c.toNat ≤ 0x7E

instance : DecidablePred Printable := List.decidableBAll _

theorem Printable.append {xs ys : List Char} (hx : Printable xs) (hy : Printable ys) :
    Printable (xs ++ ys) := fun c hc => (List.mem_append.mp hc).elim (hx c) (hy c)

theorem Printable.cons {c : Char} {cs : List Char} (hc : 0x20 ≤ c.toNat ∧ c.toNat ≤ 0x7E)
    (hcs : Printable cs) : Printable (c :: cs) := List.forall_mem_cons.mpr ⟨hc, hcs⟩

theorem printable_toDigits {base : Nat} (hbase : 1 < base) (hbound : base ≤ 16) (n : Nat) :
    Printable (Nat.toDigits base n) := by
  have hdigits : ∀ d < 16, 0x20 ≤ d.digitChar.toNat ∧ d.digitChar.toNat ≤ 0x7E := by decide
  intro c hc
  obtain ⟨d, hd, rfl⟩ := mem_toDigits hbase hc
  exact hdigits d (Nat.lt_of_lt_of_le hd hbound)

theorem printable_unitEscape (n : Nat) : Printable (unitEscape n) := by
  have hzeros : Printable (List.replicate (4 - (Nat.toDigits 16 n).length) '0') := by
    intro c hc
    rw [List.eq_of_mem_replicate hc]
    decide
  exact .cons (by decide) (.cons (by decide)
    (hzeros.append (printable_toDigits (by decide) (by decide) n)))

theorem printable_charText (c : Char) : Printable (charText c) := by
  have hways := charText_writtenAs c
  generalize charText c = cs at hways
  cases hways with
  | escape _ _ hprintable => exact .cons (by decide) (List.forall_mem_singleton.mpr hprintable)
  | itself _ _ hprintable => exact List.forall_mem_singleton.mpr hprintable
  | unit => exact printable_unitEscape _
  | pair => exact (printable_unitEscape _).append (printable_unitEscape _)

theorem printable_quotedChars (cs : List Char) : Printable (quotedChars cs) := by
  have hchars : Printable (cs.flatMap charText) := by
    intro d hd
    obtain ⟨c, -, hc⟩ := List.mem_flatMap.mp hd
    exact printable_charText c d hc
  exact (Printable.cons (by decide) hchars).append (.cons (by decide) (List.forall_mem_nil _))

/-! ## Strings -/

/-- The characters of a string are read up to the quotation mark that ends it. -/
theorem readStringFrom_flatMap (cs rest : List Char) {fuel : Nat} (hfuel : cs.length < fuel) :
    readStringFrom fuel (cs.flatMap charText ++ '"' :: rest) = .ok (cs, rest) := by
  induction cs generalizing fuel with
  | nil =>
      obtain ⟨fuel, rfl⟩ := Nat.exists_eq_add_of_lt hfuel
      rw [readStringFrom.eq_def]
      rfl
  | cons c cs ih =>
      obtain ⟨k, rfl⟩ : ∃ k, fuel = k + 1 := ⟨fuel - 1, by omega⟩
      obtain ⟨d, ds, hd, hquote⟩ := charText_head c
      have hhead : readChar (charText c ++ (cs.flatMap charText ++ '"' :: rest)) =
          some (c, cs.flatMap charText ++ '"' :: rest) := readChar_charText c _
      have htail : readStringFrom k (cs.flatMap charText ++ '"' :: rest) = .ok (cs, rest) :=
        ih (Nat.lt_of_succ_lt_succ hfuel)
      -- the reader looks for the closing mark first, and no character is written with one in front
      rw [List.flatMap_cons, List.append_assoc]
      rw [hd, List.cons_append] at hhead ⊢
      unfold readStringFrom
      split
      · next h => exact absurd (List.cons.inj h).1 hquote
      · rw [hhead]
        simp only [htail, Except.map]

theorem quotedChars_append (cs rest : List Char) :
    quotedChars cs ++ rest = '"' :: (cs.flatMap charText ++ '"' :: rest) := by
  unfold quotedChars
  rw [List.cons_append, List.cons_append, List.append_assoc, List.singleton_append]

/-- **A written string is read back**, and reading stops where it ends. -/
theorem readString_quotedChars (s : String) (rest : List Char) :
    readString (s.toList.flatMap charText ++ '"' :: rest) = .ok (s, rest) := by
  have hlength : ∀ cs : List Char, cs.length ≤ (cs.flatMap charText).length := by
    intro cs
    induction cs with
    | nil => exact Nat.le_refl _
    | cons c cs ih =>
        obtain ⟨d, ds, hd, -⟩ := charText_head c
        rw [List.flatMap_cons, hd, List.length_append, List.length_cons, List.length_cons]
        omega
  have hfuel : s.toList.length < (s.toList.flatMap charText ++ '"' :: rest).length + 1 := by
    have hchars := hlength s.toList
    rw [List.length_append, List.length_cons]
    omega
  unfold readString
  rw [readStringFrom_flatMap s.toList rest hfuel]
  simp only [Except.map, String.ofList_toList]

end ApiReconciler.Json
