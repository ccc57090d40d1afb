import ApiReconciler.Digits
import ApiReconciler.Number.Shortest

/-!
# `ApiReconciler.Number.Written` — the texts of floating-point numbers

## Contents
- `FloatStyle`: the decisions in which written forms differ, with the styles `plain`, `json` and
  `yaml`; `Double.written`: the text in a style.
- `Double.ofLiteral?`: the number a decimal literal denotes.

The digits are the fewest that read back. They are positional while the decimal exponent lies from
`-4` to `15`, with `.0` after an integer, and scientific with at least two exponent digits outside.
-/

namespace ApiReconciler

open Digits

/-- What differs between written forms: the words for values that have no digits, and whether a
single digit is followed by `.0` before an exponent. -/
structure FloatStyle where
  nan : String
  infinity : String
  negativeInfinity : String
  pointBeforeExponent : Bool

/-- The style of texts and messages. -/
def FloatStyle.plain : FloatStyle := ⟨"nan", "inf", "-inf", false⟩

/-- The style of JSON documents. -/
def FloatStyle.json : FloatStyle := ⟨"NaN", "Infinity", "-Infinity", false⟩

/-- The style of YAML documents, whose floats need a point. -/
def FloatStyle.yaml : FloatStyle := ⟨".nan", ".inf", "-.inf", true⟩

namespace Double

/-- Digits without the zeros at the end, with how many were dropped. -/
def trimZeros (cs : List Char) : List Char × Nat :=
  let zeros := cs.reverse.takeWhile (· = '0')
  (cs.take (cs.length - zeros.length), zeros.length)

/-- An exponent with its sign and at least two digits. -/
def exponentChars (e : Int) : List Char :=
  'e' :: (if e < 0 then '-' else '+') :: padded 2 e.natAbs

/-- Positional digits, the point standing after `point` of them. -/
def positional (ds : List Char) (point : Int) : List Char :=
  match point with
  | .ofNat 0 => '0' :: '.' :: ds
  | .ofNat p =>
    if p < ds.length then ds.take p ++ '.' :: ds.drop p
    else ds ++ List.replicate (p - ds.length) '0' ++ ['.', '0']
  | .negSucc k => '0' :: '.' :: List.replicate (k + 1) '0' ++ ds

/-- One digit, the others after a point, and the exponent. -/
def scientific (style : FloatStyle) (ds : List Char) (e : Int) : List Char :=
  match ds with
  | [] => []
  | [d] => d :: (if style.pointBeforeExponent then ['.', '0'] else []) ++ exponentChars e
  | d :: rest => d :: '.' :: rest ++ exponentChars e

/-- The digits of a finite magnitude in a style. -/
def magnitude (style : FloatStyle) (m : Nat) (e : Int) : List Char :=
  if m = 0 then ['0', '.', '0']
  else
    let (c, g) := Shortest.decimal m e
    let (ds, dropped) := trimZeros (decimal c)
    let leading : Int := ds.length + dropped + g - 1
    if -4 ≤ leading ∧ leading < 16 then positional ds (leading + 1)
    else scientific style ds leading

/-- The text of a number in a style. -/
def writtenChars (style : FloatStyle) : Double → List Char
  | .nan => style.nan.toList
  | .infinite false => style.infinity.toList
  | .infinite true => style.negativeInfinity.toList
  | .finite s m e => if s then '-' :: magnitude style m e else magnitude style m e

/-- The text of a number in a style. -/
def written (style : FloatStyle) (x : Double) : String := String.ofList (x.writtenChars style)

/-! ## Reading -/

/-- A sign at the front. -/
def takeSign : List Char → Bool × List Char
  | '-' :: cs => (true, cs)
  | '+' :: cs => (false, cs)
  | cs => (false, cs)

/-- The exponent of a literal: absent, or a mark, an optional sign and digits up to the end. -/
def exponentOf? : List Char → Option Int
  | [] => some 0
  | c :: cs =>
    if c = 'e' ∨ c = 'E' then
      let (negative, ds) := takeSign cs
      if ds ≠ [] ∧ ds.all isDigit then
        some (if negative then -(Digits.ofDecimal ds : Int) else Digits.ofDecimal ds)
      else none
    else none

/-- An unsigned decimal literal: digits, an optional point and fraction, an optional exponent. -/
def ofUnsigned? (negative : Bool) (cs : List Char) : Option Double := do
  let whole := cs.takeWhile isDigit
  let rest := cs.dropWhile isDigit
  let (fraction, tail) := match rest with
    | '.' :: more => (more.takeWhile isDigit, more.dropWhile isDigit)
    | more => ([], more)
  if whole = [] ∧ fraction = [] then none
  else do
    let e ← exponentOf? tail
    some (Double.ofDecimal negative (Digits.ofDecimal (whole ++ fraction)) (e - fraction.length))

/-- The number that a decimal literal denotes; `inf` and `nan` name the values without digits. -/
def ofLiteral? (text : String) : Option Double :=
  let (negative, cs) := takeSign text.toList
  if cs = "inf".toList then some (.infinite negative)
  else if cs = "nan".toList then some .nan
  else ofUnsigned? negative cs

end Double

end ApiReconciler
