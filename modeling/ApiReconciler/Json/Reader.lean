import ApiReconciler.Number.Written
import ApiReconciler.Text.Utf8
import ApiReconciler.Value.Basic

/-!
# `ApiReconciler.Json.Reader` — values of JSON texts

A reader of JSON that keeps the order of members, integers of any size and the words `NaN`,
`Infinity` and `-Infinity`. Every reading function returns what it read and the rest of the text.

Values may be nested to any depth: the recursion limit of an interpreter is not part of the model, neither for
reading nor for writing. Nor are texts with half a surrogate pair in them (`Text.ofCodePoint`).

## Contents
- `Json.Error`: a text that is no JSON, or an integer with more digits than are read or written.
- `Json.readNumber`, `Json.readString`, `Json.readValue`: the parts of the grammar. Nesting is
  bounded by the length of the text, which `readValue` takes as its first argument.
- `Json.parse`: the value of a whole text.
-/

namespace ApiReconciler.Json

open Digits

/-- Why a text denotes no value, or a value has no text. Of an integer that is too long, the number of
digits is known when it was to be read. -/
inductive Error
  | malformed
  | integerTooLong (digits : Option Nat)
deriving DecidableEq, Repr

/-- The blanks between the parts of a text. -/
def isSpace (c : Char) : Bool := c = ' ' || c = '\t' || c = '\n' || c = '\r'

/-- Without the blanks at the front. -/
def skipSpace (cs : List Char) : List Char := cs.dropWhile isSpace

/-! ## Numbers -/

/-- The digits of an integer at the front: a zero alone, or digits that start with another one. -/
def wholePart : List Char → List Char × List Char
  | '0' :: cs => (['0'], cs)
  | cs => (cs.takeWhile isDigit, cs.dropWhile isDigit)

/-- A fraction at the front: a point and at least one digit. -/
def fractionPart : List Char → List Char × List Char
  | '.' :: cs =>
    match cs.takeWhile isDigit with
    | [] => ([], '.' :: cs)
    | ds => (ds, cs.dropWhile isDigit)
  | cs => ([], cs)

/-- An exponent at the front: a mark, an optional sign and at least one digit. -/
def exponentPart : List Char → Option Int × List Char
  | c :: cs =>
    if c = 'e' ∨ c = 'E' then
      let (negative, ds) := Double.takeSign cs
      match ds.takeWhile isDigit with
      | [] => (none, c :: cs)
      | es =>
        (some (if negative then -(Digits.ofDecimal es : Int) else Digits.ofDecimal es),
          ds.dropWhile isDigit)
    else (none, c :: cs)
  | [] => (none, [])

/-- A number without its sign at the front. -/
def readUnsigned (negative : Bool) (cs : List Char) : Except Error (Value × List Char) :=
  match wholePart cs with
  | ([], _) => .error .malformed
  | (whole, rest) =>
    match fractionPart rest with
    | (fraction, rest) =>
      match exponentPart rest with
      | (exponent, rest) =>
        if fraction = [] ∧ exponent = none then
          if maxIntegerDigits < whole.length then .error (.integerTooLong (some whole.length))
          else
            let n : Int := Digits.ofDecimal whole
            .ok (.int (if negative then -n else n), rest)
        else
          .ok (.float (Double.ofDecimal negative (Digits.ofDecimal (whole ++ fraction))
            (exponent.getD 0 - fraction.length)), rest)

/-- A number at the front. -/
def readNumber : List Char → Except Error (Value × List Char)
  | '-' :: cs => readUnsigned true cs
  | cs => readUnsigned false cs

/-! ## Strings -/

/-- Four hexadecimal digits at the front. -/
def readUnit : List Char → Option (Nat × List Char)
  | a :: b :: c :: d :: cs =>
    if isHexDigit a && isHexDigit b && isHexDigit c && isHexDigit d then
      some (ofDigits 16 [a, b, c, d], cs)
    else none
  | _ => none

/-- The first half of a pair of UTF-16 units. -/
def isHighUnit (n : Nat) : Bool := 0xD800 ≤ n && n ≤ 0xDBFF

/-- The second half of a pair of UTF-16 units. -/
def isLowUnit (n : Nat) : Bool := 0xDC00 ≤ n && n ≤ 0xDFFF

/-- The characters of an escape by units, whose first one was read, and the rest. Two units that
form a pair denote one character. -/
def pairUnits (first : Nat) (cs : List Char) : Option (Char × List Char) :=
  match cs with
  | '\\' :: 'u' :: rest =>
    if isHighUnit first then
      match readUnit rest with
      | none => none
      | some (second, more) =>
        if isLowUnit second then
          some (Char.ofNat (0x10000 + (first - 0xD800) * 0x400 + (second - 0xDC00)), more)
        else some (Text.ofCodePoint first, cs)
    else some (Text.ofCodePoint first, cs)
  | _ => some (Text.ofCodePoint first, cs)

/-- The character that a one-letter escape stands for. -/
def simpleEscape? (c : Char) : Option Char :=
  if c = '"' ∨ c = '\\' ∨ c = '/' then some c
  else if c = 'b' then some '\x08'
  else if c = 'f' then some '\x0C'
  else if c = 'n' then some '\n'
  else if c = 'r' then some '\r'
  else if c = 't' then some '\t'
  else none

/-- One character of a string, escaped or not, and the rest. Control characters have to be
escaped. -/
def readChar : List Char → Option (Char × List Char)
  | '\\' :: 'u' :: cs =>
    match readUnit cs with
    | none => none
    | some (n, rest) => pairUnits n rest
  | '\\' :: c :: cs => (simpleEscape? c).map fun d => (d, cs)
  | c :: cs => if c.toNat < 0x20 ∨ c = '\\' then none else some (c, cs)
  | [] => none

/-- The characters up to the closing quotation mark, and the rest after it. -/
def readStringFrom : Nat → List Char → Except Error (List Char × List Char)
  | 0, _ => .error .malformed
  | fuel + 1, cs =>
    match cs with
    | '"' :: rest => .ok ([], rest)
    | _ =>
      match readChar cs with
      | none => .error .malformed
      | some (c, rest) => (readStringFrom fuel rest).map fun r => (c :: r.1, r.2)

/-- A string whose opening quotation mark was read. -/
def readString (cs : List Char) : Except Error (String × List Char) :=
  (readStringFrom (cs.length + 1) cs).map fun r => (String.ofList r.1, r.2)

/-! ## Values -/

/-- A word at the front, with the rest. -/
def takeWord? (word : String) (cs : List Char) : Option (List Char) :=
  if word.toList.isPrefixOf cs then some (cs.drop word.toList.length) else none

/-- The words that denote values. -/
def words : List (String × Value) :=
  [("null", .null), ("true", .bool true), ("false", .bool false), ("NaN", .float .nan),
    ("Infinity", .float (.infinite false)), ("-Infinity", .float (.infinite true))]

/-- A word or a number at the front. -/
def readAtom (cs : List Char) : Except Error (Value × List Char) :=
  match words.findSome? (fun w => (takeWord? w.1 cs).map fun rest => (w.2, rest)) with
  | some r => .ok r
  | none => readNumber cs

mutual

/-- A value at the front. -/
def readValue : Nat → List Char → Except Error (Value × List Char)
  | 0, _ => .error .malformed
  | fuel + 1, cs =>
    match cs with
    | '"' :: rest => (readString rest).map fun r => (.text r.1, r.2)
    | '[' :: rest =>
      match skipSpace rest with
      | ']' :: more => .ok (.list [], more)
      | start => (readElements fuel start).map fun r => (.list r.1, r.2)
    | '\x7b' :: rest =>
      match skipSpace rest with
      | '\x7d' :: more => .ok (.object [], more)
      | start => (readMembers fuel start).map fun r => (.object (Object.ofList r.1), r.2)
    | _ => readAtom cs

/-- The elements of a list up to the closing bracket. -/
def readElements : Nat → List Char → Except Error (List Value × List Char)
  | 0, _ => .error .malformed
  | fuel + 1, cs =>
    match readValue fuel cs with
    | .error e => .error e
    | .ok (v, rest) =>
      match skipSpace rest with
      | ']' :: more => .ok ([v], more)
      | ',' :: more => (readElements fuel (skipSpace more)).map fun r => (v :: r.1, r.2)
      | _ => .error .malformed

/-- The members of an object up to the closing bracket. -/
def readMembers : Nat → List Char → Except Error (List (Scalar × Value) × List Char)
  | 0, _ => .error .malformed
  | fuel + 1, cs =>
    match cs with
    | '"' :: rest =>
      match readString rest with
      | .error e => .error e
      | .ok (key, rest) =>
        match skipSpace rest with
        | ':' :: rest =>
          match readValue fuel (skipSpace rest) with
          | .error e => .error e
          | .ok (v, rest) =>
            match skipSpace rest with
            | '\x7d' :: more => .ok ([(.text key, v)], more)
            | ',' :: more =>
              (readMembers fuel (skipSpace more)).map fun r => ((.text key, v) :: r.1, r.2)
            | _ => .error .malformed
        | _ => .error .malformed
    | _ => .error .malformed

end

/-- The value of a text that holds nothing else but blanks. -/
def parseChars (cs : List Char) : Except Error Value :=
  match readValue (cs.length + 1) (skipSpace cs) with
  | .error e => .error e
  | .ok (v, rest) => if skipSpace rest = [] then .ok v else .error .malformed

/-- The value of a text that holds nothing else but blanks. -/
def parse (text : String) : Except Error Value := parseChars text.toList

end ApiReconciler.Json
