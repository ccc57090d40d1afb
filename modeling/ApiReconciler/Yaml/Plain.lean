import ApiReconciler.Number.Written
import ApiReconciler.Text.Base64
import ApiReconciler.Value.Basic
import ApiReconciler.Yaml.Error

/-!
# `ApiReconciler.Yaml.Plain` — what plain scalars mean

A scalar without quotes that looks like a truth value, a number, a date, a moment or null is one;
every other is a text. A tag may also ask for a kind of which the text does not have the form. Then the document
is at fault, whatever the error is that a constructor of that kind would run into; this is an idealisation.

## Contents
- `Kind`, `Kind.ofPlain`: what a plain scalar looks like.
- `Kind.read`: the value of a scalar of a kind.
-/

namespace ApiReconciler.Yaml

open Digits

/-- What a scalar is. `merge` and `default` are marks that have a meaning as keys only, and nothing
looks like `binary` without saying so. -/
inductive Kind
  | null
  | bool
  | int
  | float
  | timestamp
  | binary
  | text
  | merge
  | default
deriving DecidableEq, Repr

/-! ## Shapes -/

/-- A decimal digit or an underscore. -/
def isDigitOrMark (c : Char) : Bool := isDigit c || c = '_'

/-- Whether a text starts with a digit. -/
def startsWithDigit (cs : List Char) : Bool := cs.head?.any isDigit

/-- Without a sign. -/
def dropSign (cs : List Char) : List Char := (Double.takeSign cs).2

/-- A group of a number in base sixty at the front, with the rest: a colon and one or two digits,
of two the first below six. -/
def sixtiethAt? : List Char → Option (List Char)
  | ':' :: a :: b :: rest =>
    if isDigit a then
      if '0' ≤ a ∧ a ≤ '5' ∧ isDigit b then some rest else some (b :: rest)
    else none
  | [':', a] => if isDigit a then some [] else none
  | _ => none

/-- The rest behind as many groups as there are. -/
def afterSixtieths : Nat → List Char → List Char
  | 0, cs => cs
  | fuel + 1, cs =>
    match sixtiethAt? cs with
    | some rest => afterSixtieths fuel rest
    | none => cs

/-- What follows the digits of a number, when groups in base sixty follow them. -/
def afterSexagesimal? (cs : List Char) : Option (List Char) :=
  let rest := cs.dropWhile isDigitOrMark
  let tail := afterSixtieths rest.length rest
  if tail.length < rest.length then some tail else none

/-- An integer without its sign. -/
def isUnsignedInt (cs : List Char) : Bool :=
  match cs with
  | '0' :: 'b' :: ds => ds ≠ [] && ds.all fun c => c = '0' || c = '1' || c = '_'
  | '0' :: 'x' :: ds => ds ≠ [] && ds.all fun c => isHexDigit c || c = '_'
  | ['0'] => true
  | '0' :: ds => ds.all fun c => ('0' ≤ c && c ≤ '7') || c = '_'
  | _ => startsWithDigit cs && (cs.all isDigitOrMark || afterSexagesimal? cs = some [])

/-- The exponent of a number: absent, or a mark, a sign and digits. -/
def isExponent (cs : List Char) : Bool :=
  match cs with
  | [] => true
  | e :: s :: ds =>
    (e = 'e' || e = 'E') && (s = '+' || s = '-') && ds ≠ [] && ds.all isDigit
  | _ => false

/-- A point with what may follow it in a number. -/
def isFraction (cs : List Char) : Bool :=
  match cs with
  | '.' :: rest => isExponent (rest.dropWhile isDigitOrMark)
  | _ => false

/-- A number with a point, without its sign. -/
def isUnsignedFloat (cs : List Char) : Bool :=
  startsWithDigit cs &&
    (isFraction (cs.dropWhile isDigitOrMark) ||
      (match afterSexagesimal? cs with
        | some ('.' :: rest) => rest.all isDigitOrMark
        | _ => false))

/-- A number that starts with its point. -/
def isBareFraction (cs : List Char) : Bool :=
  match cs with
  | '.' :: rest => startsWithDigit rest && isFraction cs
  | _ => false

/-- A number with a point, an infinity, or the mark for what is no number. -/
def isFloat (cs : List Char) : Bool :=
  isUnsignedFloat (dropSign cs) || isBareFraction cs ||
    [".inf", ".Inf", ".INF"].contains (String.ofList (dropSign cs)) ||
    [".nan", ".NaN", ".NAN"].contains (String.ofList cs)

/-! ## Dates and moments -/

/-- The parts of a date or a moment. -/
structure Timestamp where
  date : Date
  time : Option (Nat × Nat × Nat × Nat × Option Int)
deriving Repr

/-- One or two digits at the front, as many as there are. -/
def shortNumberAt? (cs : List Char) : Option (Nat × List Char) :=
  let ds := (cs.take 2).takeWhile isDigit
  if ds = [] then none else some (ofDecimal ds, cs.drop ds.length)

/-- The distance from universal time at the end of a moment, if any. -/
def zoneOf? (cs : List Char) : Option (Option Int) :=
  match cs.dropWhile fun c => c = ' ' || c = '\t' with
  | [] => if cs = [] then some none else none
  | ['Z'] => some (some 0)
  | s :: rest =>
    if s = '+' ∨ s = '-' then do
      let (hours, rest) ← shortNumberAt? rest
      let minutes ← match rest with
        | [] => some 0
        | ':' :: rest =>
          match takeNumber? 2 rest with
          | some (n, []) => some n
          | _ => none
        | _ => none
      let seconds : Int := (hours * 3600 + minutes * 60 : Nat)
      some (some (if s = '-' then -seconds else seconds))
    else none

/-- The time of day of a moment, behind its date. -/
def timeOf? (cs : List Char) : Option (Nat × Nat × Nat × Nat × Option Int) := do
  let cs ← match cs with
    | 'T' :: rest => some rest
    | 't' :: rest => some rest
    | c :: rest =>
      if c = ' ' ∨ c = '\t' then some (rest.dropWhile fun c => c = ' ' || c = '\t') else none
    | [] => none
  let (hour, cs) ← shortNumberAt? cs
  let cs ← takeChar? ':' cs
  let (minute, cs) ← takeNumber? 2 cs
  let cs ← takeChar? ':' cs
  let (second, cs) ← takeNumber? 2 cs
  let (micro, cs) := match cs with
    | '.' :: rest => (microOfDigits (rest.takeWhile isDigit), rest.dropWhile isDigit)
    | cs => (0, cs)
  let zone ← zoneOf? cs
  some (hour, minute, second, micro, zone)

/-- A date alone, with two digits for month and day, or a date with a time. -/
def timestamp? (cs : List Char) : Option Timestamp :=
  match Date.take? cs with
  | some (date, []) => some ⟨date, none⟩
  | _ => do
    let (year, cs) ← takeNumber? 4 cs
    let cs ← takeChar? '-' cs
    let (month, cs) ← shortNumberAt? cs
    let cs ← takeChar? '-' cs
    let (day, cs) ← shortNumberAt? cs
    let time ← timeOf? cs
    some ⟨⟨year, month, day⟩, some time⟩

/-! ## Kinds -/

/-- The words for truth values. -/
def boolWords : List String :=
  ["yes", "Yes", "YES", "no", "No", "NO", "true", "True", "TRUE", "false", "False", "FALSE",
    "on", "On", "ON", "off", "Off", "OFF"]

/-- The words for null. -/
def nullWords : List String := ["", "~", "null", "Null", "NULL"]

/-- What a plain scalar looks like. -/
def Kind.ofPlain (cs : List Char) : Kind :=
  let word := String.ofList cs
  if boolWords.contains word then .bool
  else if isFloat cs then .float
  else if isUnsignedInt (dropSign cs) then .int
  else if word = "<<" then .merge
  else if nullWords.contains word then .null
  else if (timestamp? cs).isSome then .timestamp
  else if word = "=" then .default
  else .text

/-! ## Values -/

/-- The integer that digits denote in a base. -/
def intOfDigits (base : Nat) (ds : List Char) : Except Error Nat :=
  if ds = [] ∨ !ds.all (fun c => (digitValue? c).any (· < base)) then
    .error (.numeral base (String.ofList ds))
  else if base = 10 ∧ maxIntegerDigits < ds.length then .error (.longNumeral ds.length)
  else .ok (ofDigits base ds)

/-- The texts between colons. -/
def splitColons : List Char → List (List Char)
  | [] => [[]]
  | ':' :: cs => [] :: splitColons cs
  | c :: cs =>
    match splitColons cs with
    | part :: parts => (c :: part) :: parts
    | [] => [[c]]

/-- The integer that groups in base sixty denote. -/
def intOfSixtieths : Nat → List (List Char) → Except Error Nat
  | acc, [] => .ok acc
  | acc, part :: parts =>
    match intOfDigits 10 part with
    | .error e => .error e
    | .ok n => intOfSixtieths (60 * acc + n) parts

/-- The integer that an unsigned text without underscores denotes. -/
def natOf (cs : List Char) : Except Error Nat :=
  match cs with
  | '0' :: 'b' :: ds => intOfDigits 2 ds
  | '0' :: 'x' :: ds => intOfDigits 16 ds
  | '0' :: d :: ds => intOfDigits 8 ('0' :: d :: ds)
  | cs => if cs.contains ':' then intOfSixtieths 0 (splitColons cs) else intOfDigits 10 cs

/-- The integer that a text denotes. -/
def intOf (cs : List Char) : Except Error Int :=
  let (negative, ds) := Double.takeSign (cs.filter (· ≠ '_'))
  (natOf ds).map fun n => if negative then -(n : Int) else n

/-- The number that groups in base sixty denote, the last group first, each group counting for
`unit`. -/
def floatOfSixtieths : Double → Int → List (List Char) → Option Double
  | acc, _, [] => some acc
  | acc, unit, part :: parts =>
    match Double.ofLiteral? (String.ofList part) with
    | none => none
    | some x => floatOfSixtieths (acc.add (x.mul (Double.ofInt unit))) (60 * unit) parts

/-- The number that an unsigned text in lower case without underscores denotes. -/
def unsignedFloatOf? (cs : List Char) : Option Double :=
  if cs = ".inf".toList then some (.infinite false)
  else if cs = ".nan".toList then some .nan
  else if cs.contains ':' then
    floatOfSixtieths (Double.zero false) 1 (splitColons cs).reverse
  else Double.ofLiteral? (String.ofList cs)

/-- The number that a text denotes. -/
def floatOf (cs : List Char) : Except Error Double :=
  let plain := (cs.filter (· ≠ '_')).map Char.toLower
  let (negative, ds) := Double.takeSign plain
  match unsignedFloatOf? ds with
  | some x => .ok (if negative then x.neg else x)
  | none => .error (.float (String.ofList ds))

/-- The date or the moment that a text denotes; an impossible zone is found first. -/
def timestampOf (cs : List Char) : Except Error Scalar :=
  match timestamp? cs with
  | none => .error .malformed
  | some ⟨date, none⟩ =>
    match date.check with
    | some e => .error (.calendar e)
    | none => .ok (.date date)
  | some ⟨date, some (hour, minute, second, micro, zone)⟩ =>
    let m : Moment := ⟨date, hour, minute, second, micro, zone⟩
    match (zone.bind checkOffset).or m.check with
    | some e => .error (.calendar e)
    | none => .ok (.moment m)

/-- Whether a word stands for truth. -/
def boolOf (cs : List Char) : Except Error Bool :=
  let word := String.ofList (cs.map Char.toLower)
  if ["yes", "true", "on"].contains word then .ok true
  else if ["no", "false", "off"].contains word then .ok false
  else .error .malformed

/-- The bytes that a text in base 64 denotes. -/
def bytesOf (cs : List Char) : Except Error (List UInt8) :=
  match if cs.all (fun c => c.toNat < 128) then Text.ofBase64? cs else none with
  | some bs => .ok bs
  | none => .error .malformed

/-- The value of a scalar of a kind. -/
def Kind.read (k : Kind) (cs : List Char) : Except Error Scalar :=
  match k with
  | .null => .ok .null
  | .bool => (boolOf cs).map .bool
  | .int => (intOf cs).map .int
  | .float => (floatOf cs).map .float
  | .timestamp => timestampOf cs
  | .binary => (bytesOf cs).map .bytes
  | .text => .ok (.text (String.ofList cs))
  | .merge => .error .malformed
  | .default => .error .malformed

end ApiReconciler.Yaml
