/-!
# `ApiReconciler.Text.Base64` — bytes as texts in base 64

Four digits of six bits stand for three bytes. The last group is filled up with padding.

## Contents
- `ofBase64?`: the bytes of a text; characters that are neither digits nor padding do not count.
- `base64`, `base64Lines`: the digits of bytes, on one line and on several.
-/

namespace ApiReconciler.Text

/-- The padding of the last group. -/
def padding : Char := '='

/-- The value of a digit. -/
def sextet? (c : Char) : Option Nat :=
  if 'A' ≤ c ∧ c ≤ 'Z' then some (c.toNat - 65)
  else if 'a' ≤ c ∧ c ≤ 'z' then some (c.toNat - 71)
  else if '0' ≤ c ∧ c ≤ '9' then some (c.toNat + 4)
  else if c = '+' then some 62
  else if c = '/' then some 63
  else none

/-- The digit of a value. -/
def sextetChar (n : Nat) : Char :=
  if n < 26 then Char.ofNat (n + 65)
  else if n < 52 then Char.ofNat (n + 71)
  else if n < 62 then Char.ofNat (n - 4)
  else if n = 62 then '+'
  else '/'

/-- The byte that ends with the digit at a position of its group, behind a digit. -/
def byteAt (position before digit : Nat) : List UInt8 :=
  match position with
  | 1 => [UInt8.ofNat (before * 4 + digit / 16)]
  | 2 => [UInt8.ofNat (before % 16 * 16 + digit / 4)]
  | 3 => [UInt8.ofNat (before % 4 * 64 + digit)]
  | _ => []

/-- The bytes from a place on: `position` digits of the present group stand before it, the last of
them `before`, with `pads` paddings behind it. The text ends with the padding that fills a group. -/
def ofBase64From? : Nat → Nat → Nat → List Char → Option (List UInt8)
  | position, _, _, [] => if position = 0 then some [] else none
  | position, before, pads, c :: cs =>
    if c = padding then
      let pads := if 2 ≤ position then pads + 1 else pads
      if 2 ≤ position ∧ 4 ≤ position + pads then some []
      else ofBase64From? position before pads cs
    else
      match sextet? c with
      | none => ofBase64From? position before pads cs
      | some digit =>
        (ofBase64From? ((position + 1) % 4) digit 0 cs).map (byteAt position before digit ++ ·)

/-- The bytes of a text in base 64. -/
def ofBase64? (cs : List Char) : Option (List UInt8) := ofBase64From? 0 0 0 cs

/-- The digits of bytes. -/
def base64 : List UInt8 → List Char
  | a :: b :: c :: rest =>
    let n := a.toNat * 65536 + b.toNat * 256 + c.toNat
    [sextetChar (n / 262144), sextetChar (n / 4096 % 64), sextetChar (n / 64 % 64),
      sextetChar (n % 64)] ++ base64 rest
  | [a, b] =>
    let n := a.toNat * 1024 + b.toNat * 4
    [sextetChar (n / 4096), sextetChar (n / 64 % 64), sextetChar (n % 64), padding]
  | [a] => [sextetChar (a.toNat / 4), sextetChar (a.toNat % 4 * 16), padding, padding]
  | [] => []

/-- The number of bytes on a line. -/
def bytesPerLine : Nat := 57

/-- The digits of bytes on lines of their own, with a bound on the number of lines. -/
def base64LinesFrom : Nat → List UInt8 → List (List Char)
  | 0, _ => []
  | fuel + 1, bs =>
    if bs = [] then []
    else base64 (bs.take bytesPerLine) :: base64LinesFrom fuel (bs.drop bytesPerLine)

/-- The digits of bytes on lines. -/
def base64Lines (bs : List UInt8) : List (List Char) := base64LinesFrom bs.length bs

end ApiReconciler.Text
