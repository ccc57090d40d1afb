import Mathlib
import ApiReconciler.Number.Shortest

/-!
# `ApiReconciler.Proofs.Number.Shortest` — seventeen digits always suffice

The search for the shortest decimal tries grids of up to seventeen digits and gives up behind them, so the
text of a number has digits only if one of these grids has a hit. The grid of seventeen digits always has:
its points are less than a rounding interval apart, because the significand of a number of the format is
below `2 ^ 53`, and the nearest of them lies in the interval. At the least significand of a binade, where the
interval reaches only half as far down, the significand is a power of two and the bound is still met.

Quotients of natural numbers are compared as rational numbers, in which powers of two and of ten have
exponents of either sign.

## Contents
- `Double.InFormat`: numbers of the format; `Double.ofDecimal_inFormat`: rounding gives nothing else.
- `Shortest.decimal_pos`: **seventeen digits suffice**, so the digits of a number other than zero are those
  of a number other than zero.
-/

namespace ApiReconciler

/-- The number that a quotient of natural numbers stands for. -/
def ratio (q : Nat × Nat) : ℚ := q.1 / q.2

/-- Quotients are compared by cross multiplication. -/
theorem ratio_le_ratio {p q : Nat × Nat} (hp : 0 < p.2) (hq : 0 < q.2) :
    ratio p ≤ ratio q ↔ p.1 * q.2 ≤ q.1 * p.2 := by
  have hp' : (0 : ℚ) < p.2 := Nat.cast_pos.mpr hp
  have hq' : (0 : ℚ) < q.2 := Nat.cast_pos.mpr hq
  unfold ratio
  rw [div_le_div_iff₀ hp' hq']
  exact_mod_cast Iff.rfl

theorem ratio_lt_ratio {p q : Nat × Nat} (hp : 0 < p.2) (hq : 0 < q.2) :
    ratio p < ratio q ↔ p.1 * q.2 < q.1 * p.2 := by
  rw [← not_le, ratio_le_ratio hq hp, not_le]

namespace Double

/-- A number of the format: the significand of a finite one is below `2 ^ 53`. -/
def InFormat : Double → Prop
  | .finite _ m _ => m < 2 ^ 53
  | _ => True

/-! ## Rounding to an integer -/

/-- Rounded division is off by half a unit at most. -/
theorem roundDiv_near (num : Nat) {den : Nat} (hden : 0 < den) :
    2 * num ≤ 2 * (roundDiv num den * den) + den ∧ 2 * (roundDiv num den * den) ≤ 2 * num + den := by
  have hdiv := Nat.div_add_mod num den
  have hmod := Nat.mod_lt num hden
  have hcomm : den * (num / den) = num / den * den := Nat.mul_comm _ _
  have hsucc : (num / den + 1) * den = num / den * den + den := Nat.succ_mul _ _
  simp only [roundDiv]
  split_ifs with hbelow habove heven
  · omega
  · omega
  · omega
  · omega

/-! ## Powers of two -/

theorem scale2_pos (num : Nat) {den : Nat} (hden : 0 < den) (e : Int) : 0 < (scale2 num den e).2 := by
  cases e with
  | ofNat k => exact hden
  | negSucc k => exact Nat.mul_pos hden (Nat.pow_pos (by decide))

theorem ratio_scale2 (num den : Nat) (e : Int) :
    ratio (scale2 num den e) = ratio (num, den) * 2 ^ e := by
  cases e with
  | ofNat k =>
      simp only [ratio, scale2, Nat.pow_eq, Nat.cast_mul, Nat.cast_pow, Nat.cast_ofNat, Int.ofNat_eq_natCast,
        zpow_natCast]
      ring
  | negSucc k =>
      simp only [ratio, scale2, Nat.pow_eq, Nat.cast_mul, Nat.cast_pow, Nat.cast_ofNat, zpow_negSucc]
      rw [div_mul_eq_div_div, div_eq_mul_inv _ ((2 : ℚ) ^ (k + 1))]

theorem ratio_scale2_one (e : Int) : ratio (scale2 1 1 e) = 2 ^ e := by
  rw [ratio_scale2]
  simp [ratio]

/-- A positive quotient is below the power of two that follows its logarithm. -/
theorem ratio_lt_floorLog2 (num : Nat) {den : Nat} (hden : 0 < den) :
    ratio (num, den) < 2 ^ (floorLog2 num den + 1) := by
  have htwo : (2 : ℚ) ≠ 0 := by norm_num
  have hden' : (0 : ℚ) < den := Nat.cast_pos.mpr hden
  simp only [floorLog2]
  split_ifs with h
  · have hnum : (num : ℚ) < 2 ^ ((Nat.log2 num : Int) + 1) := by
      exact_mod_cast Nat.lt_log2_self (n := num)
    have hlow : (2 : ℚ) ^ (Nat.log2 den : Int) ≤ den := by
      exact_mod_cast Nat.log2_self_le (Nat.pos_iff_ne_zero.mp hden)
    have hexp : ((Nat.log2 num : Int) - Nat.log2 den + 1) = (Nat.log2 num : Int) + 1 - Nat.log2 den := by
      ring
    have hpow : (0 : ℚ) < 2 ^ (Nat.log2 den : Int) := by positivity
    rw [hexp, zpow_sub₀ htwo, ratio, div_lt_div_iff₀ hden' hpow]
    calc (num : ℚ) * 2 ^ (Nat.log2 den : Int)
        < 2 ^ ((Nat.log2 num : Int) + 1) * 2 ^ (Nat.log2 den : Int) := by gcongr
      _ ≤ 2 ^ ((Nat.log2 num : Int) + 1) * den := by gcongr
  · rw [Int.sub_add_cancel, ← ratio_scale2_one]
    exact (ratio_lt_ratio hden (scale2_pos 1 Nat.one_pos _)).mpr (not_le.mp h)

/-! ## Rounding to a number of the format -/

theorem zero_inFormat (negative : Bool) : (zero negative).InFormat := Nat.pow_pos (by decide)

/-- **Rounding a quotient gives a number of the format.** -/
theorem ofQuotient_inFormat (negative : Bool) (num : Nat) {den : Nat} (hden : 0 < den) :
    (ofQuotient negative num den).InFormat := by
  simp only [ofQuotient]
  split
  · exact zero_inFormat negative
  generalize he : max (floorLog2 num den - 52) leastExponent = e
  -- with this exponent the quotient is below `2 ^ 53`, so rounding takes it to `2 ^ 53` at most
  have hscaled : ratio (scale2 num den (-e)) < ratio (2 ^ 53, 1) := by
    have hle : floorLog2 num den + 1 + -e ≤ 53 := by omega
    calc ratio (scale2 num den (-e)) = ratio (num, den) * 2 ^ (-e) := ratio_scale2 num den (-e)
      _ < 2 ^ (floorLog2 num den + 1) * 2 ^ (-e) := by
          have := ratio_lt_floorLog2 num hden
          gcongr
      _ = 2 ^ (floorLog2 num den + 1 + -e) := (zpow_add₀ (by norm_num) _ _).symm
      _ ≤ 2 ^ (53 : Int) := zpow_le_zpow_right₀ (by norm_num) hle
      _ = ratio (2 ^ 53, 1) := by norm_num [ratio]
  have hpos := scale2_pos num hden (-e)
  rw [ratio_lt_ratio hpos Nat.one_pos] at hscaled
  generalize scale2 num den (-e) = s at hscaled hpos
  have hrounded : roundDiv s.1 s.2 ≤ 2 ^ 53 := by
    have hnear := (roundDiv_near s.1 hpos).2
    by_contra hmore
    have hproduct : (2 ^ 53 + 1) * s.2 ≤ roundDiv s.1 s.2 * s.2 := Nat.mul_le_mul_right _ (not_le.mp hmore)
    omega
  split_ifs with hzero htop
  · exact zero_inFormat negative
  · trivial
  · exact (by decide : 2 ^ 52 < 2 ^ 53)
  · trivial
  · exact Nat.lt_of_le_of_ne hrounded htop

theorem ofDecimal_inFormat (negative : Bool) (digits : Nat) (exponent : Int) :
    (ofDecimal negative digits exponent).InFormat := by
  simp only [ofDecimal]
  split_ifs
  · exact zero_inFormat negative
  · trivial
  · exact zero_inFormat negative
  · split
    · exact ofQuotient_inFormat negative _ Nat.one_pos
    · exact ofQuotient_inFormat negative _ (Nat.pow_pos (by decide))

end Double

namespace Shortest

open Double

/-! ## Powers of ten -/

theorem scale10_pos (g : Int) : 0 < (scale10 g).1 ∧ 0 < (scale10 g).2 := by
  cases g with
  | ofNat k => exact ⟨Nat.pow_pos (by decide), Nat.one_pos⟩
  | negSucc k => exact ⟨Nat.one_pos, Nat.pow_pos (by decide)⟩

theorem ratio_scale10 (g : Int) : ratio (scale10 g) = 10 ^ g := by
  cases g with
  | ofNat k => simp [ratio, scale10]
  | negSucc k => simp [ratio, scale10, zpow_negSucc]

/-- A number other than zero is at least the power of ten with one digit less, and below that with as many
digits. -/
theorem decimalLength_bounds {n : Nat} (hn : 0 < n) :
    (10 : ℚ) ^ ((decimalLength n : Int) - 1) ≤ n ∧ (n : ℚ) < 10 ^ (decimalLength n : Int) := by
  have hpos : 0 < decimalLength n := List.length_pos_iff.mpr Nat.toDigits_ne_nil
  constructor
  · have hexp : ((decimalLength n : Int) - 1) = ((decimalLength n - 1 : Nat) : Int) := by omega
    rw [hexp, zpow_natCast]
    rcases Nat.eq_zero_or_pos (decimalLength n - 1) with hone | hmore
    · rw [hone, pow_zero]
      exact_mod_cast hn
    · have hle := (Nat.length_toDigits_le_iff (b := 10) (n := n) (by decide) hmore).not.mp
        (show ¬decimalLength n ≤ decimalLength n - 1 by omega)
      exact_mod_cast not_lt.mp hle
  · have hlt := (Nat.length_toDigits_le_iff (b := 10) (n := n) (by decide) hpos).mp (Nat.le_refl _)
    exact_mod_cast hlt

/-- The power of ten of the logarithm is not above a positive quotient. -/
theorem floorLog10_le {num den : Nat} (hnum : 0 < num) (hden : 0 < den) :
    10 ^ floorLog10 num den ≤ ratio (num, den) := by
  have hten : (10 : ℚ) ≠ 0 := by norm_num
  simp only [floorLog10]
  split_ifs with h
  · rw [← ratio_scale10]
    exact (ratio_le_ratio (scale10_pos _).2 hden).mpr h
  · have hden' : (0 : ℚ) < den := Nat.cast_pos.mpr hden
    have hexp : (decimalLength num : Int) - decimalLength den - 1 =
        (decimalLength num : Int) - 1 - decimalLength den := by ring
    rw [hexp, zpow_sub₀ hten, ratio]
    have hnum' := (decimalLength_bounds hnum).1
    have hden'' := (decimalLength_bounds hden).2.le
    gcongr

/-! ## Hits -/

/-- A hit lies in the interval. -/
theorem holds_of_hit? {i : Interval} {g : Int} {c : Nat} (h : hit? i g = some c) : i.holds c g = true := by
  simp only [hit?] at h
  generalize roundDiv _ _ = near at h
  generalize (if near = _ then _ else _) = far at h
  split_ifs at h with hnear hfar
  · rwa [← Option.some.inj h]
  · rwa [← Option.some.inj h]

/-- Zero does not lie in the interval of another number. -/
theorem not_holds_zero {m : Nat} (hm : 0 < m) (e g : Int) : (interval m e).holds 0 g = false := by
  have hlow : 0 < (interval m e).low := by
    simp only [interval]
    split_ifs <;> omega
  have hunit : 0 < (scale2 1 1 (interval m e).exponent).1 := by
    cases (interval m e).exponent with
    | ofNat k => exact Nat.mul_pos Nat.one_pos (Nat.pow_pos (by decide))
    | negSucc k => exact Nat.one_pos
  have hpositive := Nat.mul_pos (Nat.mul_pos hlow hunit) (scale10_pos g).2
  simp only [Interval.holds, Nat.zero_mul]
  split_ifs
  · rw [Bool.and_eq_false_iff]
    exact .inl (decide_eq_false (Nat.not_le.mpr hpositive))
  · rw [Bool.and_eq_false_iff]
    exact .inl (decide_eq_false (Nat.not_lt_zero _))

/-- Sixteen digits behind the first one, the grid is finer than the half of the interval on each side. -/
theorem grid_lt {m : Nat} (hm : 0 < m) (hbound : m < 2 ^ 53) (e : Int) {k : Int}
    (hk : 10 ^ k ≤ ratio (scale2 (4 * m) 1 (e - 2))) :
    10 ^ (k - 16) < 2 * ((4 * m - (interval m e).low : Nat) : ℚ) * 2 ^ (e - 2) := by
  have hpow : (0 : ℚ) < 2 ^ (e - 2) := by positivity
  have hfour : (m : ℚ) * 4 < 2 * ((4 * m - (interval m e).low : Nat) : ℚ) * 10 ^ (16 : Int) := by
    have hnat : m * 4 < 2 * (4 * m - (interval m e).low) * 10 ^ 16 := by
      simp only [interval]
      split_ifs with hleast
      · have hm52 : m = 2 ^ 52 := hleast.1
        omega
      · omega
    exact_mod_cast hnat
  rw [ratio_scale2] at hk
  rw [zpow_sub₀ (by norm_num), div_lt_iff₀ (by positivity)]
  calc (10 : ℚ) ^ k ≤ ratio (4 * m, 1) * 2 ^ (e - 2) := hk
    _ = (m : ℚ) * 4 * 2 ^ (e - 2) := by simp [ratio, mul_comm]
    _ < 2 * ((4 * m - (interval m e).low : Nat) : ℚ) * 10 ^ (16 : Int) * 2 ^ (e - 2) := by gcongr
    _ = 2 * ((4 * m - (interval m e).low : Nat) : ℚ) * 2 ^ (e - 2) * 10 ^ (16 : Int) := by ring

/-- What is nearest to a value, in steps that are less than twice as far apart as the value is from its lower
bound, lies between the bounds. -/
theorem nearest_between {low value unit step near : Nat} (hlow : low ≤ value) (hvalue : value ≤ low + 2)
    (hstep : step < 2 * (value - low) * unit)
    (hnear : 2 * (value * unit) ≤ 2 * (near * step) + step ∧ 2 * (near * step) ≤ 2 * (value * unit) + step) :
    low * unit < near * step ∧ near * step < (value + 2) * unit := by
  obtain ⟨d, rfl⟩ := Nat.exists_eq_add_of_le hlow
  have hd : d * unit ≤ 2 * unit := Nat.mul_le_mul_right _ (by omega)
  have hsub : low + d - low = d := by omega
  rw [hsub, Nat.mul_assoc] at hstep
  rw [Nat.add_mul] at hnear ⊢
  rw [Nat.add_mul]
  omega

/-- A grid that is fine enough has a hit: its point that is nearest to the value. -/
theorem hit?_isSome (m : Nat) {e g : Int}
    (hfine : 10 ^ g < 2 * ((4 * m - (interval m e).low : Nat) : ℚ) * 2 ^ (e - 2)) :
    (hit? (interval m e) g).isSome = true := by
  have hunit := scale2_pos 1 Nat.one_pos (e - 2)
  have hgrid := scale10_pos g
  -- the distances are multiples of the unit and of the grid, so they are compared as natural numbers
  have hstep : (scale2 1 1 (e - 2)).2 * (scale10 g).1 <
      2 * (4 * m - (interval m e).low) * ((scale2 1 1 (e - 2)).1 * (scale10 g).2) := by
    rw [← ratio_scale10, ← ratio_scale2_one] at hfine
    rw [Nat.mul_comm, ← Nat.mul_assoc]
    refine (ratio_lt_ratio (q := (2 * (4 * m - (interval m e).low) * (scale2 1 1 (e - 2)).1, _))
      hgrid.2 hunit).mp (hfine.trans_eq ?_)
    simp only [ratio, Nat.cast_mul, Nat.cast_ofNat, mul_div_assoc]
  have hends : (interval m e).low ≤ 4 * m ∧ 4 * m ≤ (interval m e).low + 2 := by
    simp only [interval]
    split_ifs <;> omega
  have hnear := roundDiv_near (4 * m * ((scale2 1 1 (e - 2)).1 * (scale10 g).2))
    (Nat.mul_pos hunit hgrid.1)
  have hbetween := nearest_between hends.1 hends.2 hstep hnear
  have hholds : (interval m e).holds
      (roundDiv (4 * m * ((scale2 1 1 (e - 2)).1 * (scale10 g).2))
        ((scale2 1 1 (e - 2)).2 * (scale10 g).1)) g = true := by
    generalize roundDiv _ _ = near at hbetween
    rw [Nat.mul_comm (scale2 1 1 (e - 2)).2, ← Nat.mul_assoc, ← Nat.mul_assoc, ← Nat.mul_assoc] at hbetween
    simp only [Interval.holds]
    split_ifs
    · exact Bool.and_eq_true_iff.mpr ⟨decide_eq_true hbetween.1.le, decide_eq_true hbetween.2.le⟩
    · exact Bool.and_eq_true_iff.mpr ⟨decide_eq_true hbetween.1, decide_eq_true hbetween.2⟩
  rw [← Nat.mul_assoc] at hholds
  have hfirst : hit? (interval m e) g = some _ := if_pos hholds
  rw [hfirst]
  rfl

/-! ## The search -/

/-- A search finds a hit, which is no zero, if there is one to be found. -/
theorem search_pos {m : Nat} (hm : 0 < m) {e k : Int} {fuel n : Nat} (last : Nat) (hn : n ≤ last)
    (hlast : last < n + fuel) (h : (hit? (interval m e) (k - last + 1)).isSome = true) :
    0 < (search (interval m e) k fuel n).1 := by
  induction fuel generalizing n with
  | zero => omega
  | succ fuel ih =>
      rw [search]
      split
      · next c hc =>
          have hholds := holds_of_hit? hc
          refine Nat.pos_of_ne_zero ?_
          rintro rfl
          rw [not_holds_zero hm] at hholds
          cases hholds
      · next hnone =>
          have hlater : n ≠ last := by
            rintro rfl
            rw [hnone] at h
            cases h
          exact ih (by omega) (by omega)

/-- **Seventeen digits suffice** for a number of the format other than zero: its digits are found. -/
theorem decimal_pos {m : Nat} (hm : 0 < m) (hbound : m < 2 ^ 53) (e : Int) : 0 < (decimal m e).1 := by
  have hvalue : 0 < (scale2 (4 * m) 1 (e - 2)).1 := by
    cases e - 2 with
    | ofNat k => exact Nat.mul_pos (by omega) (Nat.pow_pos (by decide))
    | negSucc k => exact Nat.mul_pos (by decide) hm
  have hk := floorLog10_le hvalue (scale2_pos (4 * m) Nat.one_pos (e - 2))
  have hhit := hit?_isSome m (grid_lt hm hbound e hk)
  unfold decimal
  rw [if_neg (Nat.ne_of_gt hm)]
  refine search_pos hm 17 (by decide) (by decide) ?_
  have hgrid : floorLog10 (scale2 (4 * m) 1 (e - 2)).1 (scale2 (4 * m) 1 (e - 2)).2 - (17 : Nat) + 1 =
      floorLog10 (scale2 (4 * m) 1 (e - 2)).1 (scale2 (4 * m) 1 (e - 2)).2 - 16 := by
    omega
  change (hit? (interval m e)
    (floorLog10 (scale2 (4 * m) 1 (e - 2)).1 (scale2 (4 * m) 1 (e - 2)).2 - (17 : Nat) + 1)).isSome = true
  rw [hgrid]
  exact hhit

end Shortest

end ApiReconciler
