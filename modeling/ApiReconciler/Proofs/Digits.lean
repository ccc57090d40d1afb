import ApiReconciler.Digits

/-!
# `ApiReconciler.Proofs.Digits` — numerals are read back

A numeral is written digit by digit from the front and read the same way, so reading undoes writing. The
induction is on the number: dropping the last digit of its numeral divides it by the base.

## Contents
- `ofDigits_toDigits`: reading undoes writing, in every base up to sixteen.
- `mem_decimal`, `decimal_eq_zero_or`: the characters of decimal numerals, which have no zero in front.
- `decimal_ofDecimal`: writing undoes reading, if there is no zero in front.
- `hexPadded_four`: a number below `0x10000` in exactly four hexadecimal digits.
-/

namespace ApiReconciler.Digits

/-! ## Digits -/

theorem digitValue?_digitChar : ∀ d < 16, digitValue? d.digitChar = some d := by decide

theorem isHexDigit_digitChar : ∀ d < 16, isHexDigit d.digitChar = true := by decide

theorem isDigit_digitChar : ∀ d < 10, isDigit d.digitChar = true := by decide

section

variable {base : Nat} {n : Nat}

/-- Every character of a numeral is a digit of the base. -/
theorem mem_toDigits (hbase : 1 < base) {c : Char} (hc : c ∈ Nat.toDigits base n) :
    ∃ d < base, c = d.digitChar := by
  induction n using Nat.strongRecOn with
  | ind n ih =>
      -- the numeral is one digit, or that of `n / base` and a last digit
      by_cases hn : n < base
      · rw [Nat.toDigits_of_lt_base hn] at hc
        exact ⟨n, hn, List.mem_singleton.mp hc⟩
      · have hle : base ≤ n := Nat.le_of_not_lt hn
        rw [Nat.toDigits_of_base_le hbase hle, List.mem_append] at hc
        rcases hc with hfront | hlast
        · exact ih (n / base) (Nat.div_lt_self (by omega) hbase) hfront
        · exact ⟨n % base, Nat.mod_lt n (by omega), List.mem_singleton.mp hlast⟩

/-! ## Reading -/

theorem ofDigitsFrom_append (acc : Nat) (xs ys : List Char) :
    ofDigitsFrom base acc (xs ++ ys) = ofDigitsFrom base (ofDigitsFrom base acc xs) ys := by
  induction xs generalizing acc with
  | nil => rfl
  | cons c xs ih => exact ih _

/-- A last digit multiplies what is in front of it by the base. -/
theorem ofDigits_concat {d : Nat} (hd : d < 16) (cs : List Char) :
    ofDigits base (cs ++ [d.digitChar]) = ofDigits base cs * base + d := by
  unfold ofDigits
  rw [ofDigitsFrom_append]
  simp only [ofDigitsFrom, digitValue?_digitChar d hd, Option.getD_some]

/-- Zeros in front do not count. -/
theorem ofDigits_replicate_zero (k : Nat) (cs : List Char) :
    ofDigits base (List.replicate k '0' ++ cs) = ofDigits base cs := by
  induction k with
  | zero => rfl
  | succ k ih =>
      have hzero : 0 * base + (digitValue? '0').getD 0 = 0 := by
        rw [Nat.zero_mul]
        rfl
      rw [List.replicate_succ, List.cons_append, ← ih]
      unfold ofDigits
      rw [ofDigitsFrom, hzero]

/-- **Reading a numeral undoes writing it.** -/
theorem ofDigits_toDigits (hbase : 1 < base) (hbound : base ≤ 16) (n : Nat) :
    ofDigits base (Nat.toDigits base n) = n := by
  induction n using Nat.strongRecOn with
  | ind n ih =>
      by_cases hn : n < base
      · have hsingle : ofDigits base ([] ++ [n.digitChar]) = ofDigits base [] * base + n :=
          ofDigits_concat (by omega) []
        have hnone : ofDigits base [] = 0 := rfl
        rw [hnone, Nat.zero_mul, Nat.zero_add] at hsingle
        rw [Nat.toDigits_of_lt_base hn]
        exact hsingle
      · have hmod : n % base < 16 := Nat.lt_of_lt_of_le (Nat.mod_lt n (by omega)) hbound
        have hfront := ih (n / base) (Nat.div_lt_self (by omega) hbase)
        rw [Nat.toDigits_of_base_le hbase (Nat.le_of_not_lt hn), ofDigits_concat hmod, hfront]
        exact Nat.div_add_mod' n base

end

/-! ## Decimal numerals -/

theorem ofDecimal_decimal (n : Nat) : ofDecimal (decimal n) = n :=
  ofDigits_toDigits (by decide) (by decide) n

theorem mem_decimal {n : Nat} {c : Char} (hc : c ∈ decimal n) : isDigit c = true := by
  obtain ⟨d, hd, rfl⟩ := mem_toDigits (by decide) hc
  exact isDigit_digitChar d hd

/-- A decimal numeral is a zero alone, or it starts with another digit. -/
theorem decimal_eq_zero_or (n : Nat) : n = 0 ∨ ∃ c cs, decimal n = c :: cs ∧ c ≠ '0' := by
  induction n using Nat.strongRecOn with
  | ind n ih =>
      by_cases hn : n < 10
      · have hsmall : ∀ d < 10, d = 0 ∨ d.digitChar ≠ '0' := by decide
        refine (hsmall n hn).imp id fun hne => ⟨n.digitChar, [], ?_, hne⟩
        exact Nat.toDigits_of_lt_base hn
      -- the first digit of a longer numeral is the first one of `n / 10`, which is not zero
      · right
        have hle : 10 ≤ n := Nat.le_of_not_lt hn
        rcases ih (n / 10) (Nat.div_lt_self (by omega) (by decide)) with hzero | ⟨c, cs, hcs, hne⟩
        · omega
        · refine ⟨c, cs ++ [(n % 10).digitChar], ?_, hne⟩
          unfold decimal at hcs ⊢
          rw [Nat.toDigits_of_base_le (by decide) hle, hcs]
          rfl

/-! ## Numerals of numbers that were read -/

/-- A decimal digit is the digit character of its value. -/
theorem exists_digitChar {c : Char} (hc : isDigit c = true) : ∃ d < 10, c = d.digitChar := by
  have hbounds : 48 ≤ c.toNat ∧ c.toNat < 58 := by
    simp only [isDigit, Bool.and_eq_true, decide_eq_true_eq] at hc
    have hlow : '0'.toNat ≤ c.toNat := hc.1
    have hhigh : c.toNat ≤ '9'.toNat := hc.2
    have hzero : '0'.toNat = 48 := rfl
    have hnine : '9'.toNat = 57 := rfl
    omega
  have hall : ∀ d < 10, Char.ofNat (48 + d) = d.digitChar := by decide
  refine ⟨c.toNat - 48, by omega, ?_⟩
  have hsum : 48 + (c.toNat - 48) = c.toNat := by omega
  have hchar := hall (c.toNat - 48) (by omega)
  rw [hsum, Char.ofNat_toNat] at hchar
  exact hchar

/-- Digits that are read on from a number other than zero stand behind its numeral. -/
theorem decimal_ofDigitsFrom {cs : List Char} (h : ∀ c ∈ cs, isDigit c = true) {acc : Nat} (hacc : 0 < acc) :
    decimal (ofDigitsFrom 10 acc cs) = decimal acc ++ cs := by
  induction cs generalizing acc with
  | nil => simp [ofDigitsFrom]
  | cons c cs ih =>
      obtain ⟨hc, hcs⟩ := List.forall_mem_cons.mp h
      obtain ⟨d, hd, rfl⟩ := exists_digitChar hc
      have hvalue : digitValue? d.digitChar = some d := digitValue?_digitChar d (by omega)
      have hlast : decimal (acc * 10 + d) = decimal acc ++ [d.digitChar] := by
        have happend := Nat.toDigits_append_toDigits (b := 10) (n := acc) (d := d) (by decide) hacc hd
        rw [Nat.toDigits_of_lt_base hd, Nat.mul_comm] at happend
        exact happend.symm
      have hpos : 0 < acc * 10 + d := by omega
      simp only [ofDigitsFrom, hvalue, Option.getD_some]
      rw [ih hcs hpos, hlast, List.append_assoc]
      rfl

/-- **Writing undoes reading** a decimal numeral that has no zero in front. -/
theorem decimal_ofDecimal {c : Char} {cs : List Char} (hzero : c ≠ '0') (h : ∀ d ∈ c :: cs, isDigit d = true) :
    decimal (ofDecimal (c :: cs)) = c :: cs := by
  obtain ⟨hc, hcs⟩ := List.forall_mem_cons.mp h
  obtain ⟨d, hd, rfl⟩ := exists_digitChar hc
  have hpos : 0 < d := by
    refine Nat.pos_of_ne_zero fun hd0 => hzero ?_
    rw [hd0]
    rfl
  have hvalue : digitValue? d.digitChar = some d := digitValue?_digitChar d (by omega)
  have hfrom : ofDecimal (d.digitChar :: cs) = ofDigitsFrom 10 d cs := by
    simp [ofDecimal, ofDigits, ofDigitsFrom, hvalue]
  rw [hfrom, decimal_ofDigitsFrom hcs hpos]
  unfold decimal
  rw [Nat.toDigits_of_lt_base hd]
  rfl

/-! ## Hexadecimal numerals of a fixed width -/

/-- A number below `0x10000` takes exactly four hexadecimal digits. -/
theorem hexPadded_four {n : Nat} (hn : n < 0x10000) :
    ∃ a b c d, hexPadded 4 n = [a, b, c, d] ∧ (∀ x ∈ hexPadded 4 n, isHexDigit x = true) ∧
      ofDigits 16 (hexPadded 4 n) = n := by
  have hlength : (hexPadded 4 n).length = 4 := by
    have hshort : (Nat.toDigits 16 n).length ≤ 4 :=
      (Nat.length_toDigits_le_iff (by decide) (by decide)).mpr hn
    unfold hexPadded zeroFilled
    rw [List.length_append, List.length_replicate]
    omega
  have hdigits : ∀ x ∈ hexPadded 4 n, isHexDigit x = true := by
    intro x hx
    rcases List.mem_append.mp hx with hzero | hmem
    · rw [List.eq_of_mem_replicate hzero]
      decide
    · obtain ⟨d, hd, rfl⟩ := mem_toDigits (by decide) hmem
      exact isHexDigit_digitChar d hd
  have hvalue : ofDigits 16 (hexPadded 4 n) = n := by
    unfold hexPadded zeroFilled
    rw [ofDigits_replicate_zero]
    exact ofDigits_toDigits (by decide) (by decide) n
  obtain ⟨a, b, c, d, habcd⟩ : ∃ a b c d, hexPadded 4 n = [a, b, c, d] := by
    match hexPadded 4 n, hlength with
    | [a, b, c, d], _ => exact ⟨a, b, c, d, rfl⟩
  exact ⟨a, b, c, d, habcd, hdigits, hvalue⟩

end ApiReconciler.Digits
