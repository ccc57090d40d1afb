/-!
# `ApiReconciler.Digits` — numerals

Reading and writing of natural numbers in a base, and of integers in base ten. Numerals are lists
of characters, most significant digit first.

## Contents
- `digitValue?`, `isDigit`: the value of a digit character.
- `ofDigits`: the number a list of digits denotes in a base.
- `decimal`, `padded`, `signed`: the written forms used throughout; `maxIntegerDigits`: their limit.
-/

namespace ApiReconciler.Digits

/-- An ASCII decimal digit. -/
def isDigit (c : Char) : Bool := '0' ≤ c && c ≤ '9'

/-- The value of an ASCII letter or digit as a digit of a base up to thirty-six. -/
def digitValue? (c : Char) : Option Nat :=
  if '0' ≤ c ∧ c ≤ '9' then some (c.toNat - '0'.toNat)
  else if 'a' ≤ c ∧ c ≤ 'z' then some (c.toNat - 'a'.toNat + 10)
  else if 'A' ≤ c ∧ c ≤ 'Z' then some (c.toNat - 'A'.toNat + 10)
  else none

/-- A hexadecimal digit. -/
def isHexDigit (c : Char) : Bool := (digitValue? c).any (· < 16)

/-- The number that digits denote in a base, continuing from `acc`; characters that are no digits
of the base count as zero. -/
def ofDigitsFrom (base acc : Nat) : List Char → Nat
  | [] => acc
  | c :: cs => ofDigitsFrom base (acc * base + (digitValue? c).getD 0) cs

/-- The number that digits denote in a base. -/
def ofDigits (base : Nat) (cs : List Char) : Nat := ofDigitsFrom base 0 cs

/-- The number that decimal digits denote. -/
def ofDecimal (cs : List Char) : Nat := ofDigits 10 cs

/-- The decimal digits of a number, without leading zeros. -/
def decimal (n : Nat) : List Char := Nat.toDigits 10 n

/-- The digits filled up with leading zeros to a width. -/
def zeroFilled (width : Nat) (cs : List Char) : List Char :=
  List.replicate (width - cs.length) '0' ++ cs

/-- The decimal digits of a number, with leading zeros up to a width. -/
def padded (width n : Nat) : List Char := zeroFilled width (decimal n)

/-- Lower-case hexadecimal digits with leading zeros up to a width. -/
def hexPadded (width n : Nat) : List Char := zeroFilled width (Nat.toDigits 16 n)

/-- The decimal form of an integer: a minus sign before the digits of a negative one. -/
def signed : Int → List Char
  | .ofNat n => decimal n
  | .negSucc n => '-' :: decimal (n + 1)

/-- The greatest number of digits of an integer that is read or written in base ten. -/
def maxIntegerDigits : Nat := 4300

end ApiReconciler.Digits
