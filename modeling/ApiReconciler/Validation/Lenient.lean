import ApiReconciler.Number.Written
import ApiReconciler.Text.Utf8
import ApiReconciler.Validation.Checked

/-!
# `ApiReconciler.Validation.Lenient` — lenient reading of fields

The conversions that a field accepts. Texts are taken as they are and never made from numbers;
integers are also read from integral numbers and from numerals, truth values from words.

## Contents
- `Checked.text`, `Checked.optionalText`, `Checked.integer`, `Checked.boolean`, `Checked.mapping`.
- `Numeral.read?`: the integer that a numeral denotes.
-/

namespace ApiReconciler

/-! ## Numerals -/

namespace Numeral

open Digits

/-- A blank around a numeral. -/
def isSpace (c : Char) : Bool :=
  let n := c.toNat
  (0x9 ≤ n && n ≤ 0xD) || n = 0x20 || n = 0x85 || n = 0xA0 || n = 0x1680 ||
    (0x2000 ≤ n && n ≤ 0x200A) || n = 0x2028 || n = 0x2029 || n = 0x202F || n = 0x205F ||
    n = 0x3000

/-- Without the blanks at both ends. -/
def trim (cs : List Char) : List Char :=
  ((cs.dropWhile isSpace).reverse.dropWhile isSpace).reverse

/-- Without a plus sign, which no minus sign may follow. -/
def dropPlus : List Char → Option (List Char)
  | '+' :: '-' :: _ => none
  | '+' :: cs => some cs
  | cs => some cs

/-- Without leading zeros and single underscores among them, `last` being the character before the
rest; one character is kept when nothing else follows, or when a point follows. -/
def dropZerosFrom (last : Char) : List Char → Option (List Char)
  | [] => some [last]
  | c :: cs =>
    if c = '0' then dropZerosFrom c cs
    else if c = '_' then (if last = '_' then none else dropZerosFrom c cs)
    else if isDigit c then some (c :: cs)
    else if c = '.' then some (last :: c :: cs)
    else none

/-- Without leading zeros; a numeral has to start with a digit or a minus sign. -/
def dropZeros : List Char → Option (List Char)
  | [] => none
  | '0' :: cs => dropZerosFrom '0' cs
  | c :: cs => if isDigit c ∨ c = '-' then some (c :: cs) else none

/-- Without a point and the zeros that follow it up to the end; anything else after a point is
kept. -/
def dropFraction (cs : List Char) : List Char :=
  match cs.dropWhile (· ≠ '.') with
  | '.' :: fraction =>
    if fraction ≠ [] ∧ fraction.all (· = '0') then cs.takeWhile (· ≠ '.') else cs
  | _ => cs

/-- Two underscores in a row. -/
def hasDoubleUnderscore : List Char → Bool
  | '_' :: '_' :: _ => true
  | _ :: cs => hasDoubleUnderscore cs
  | [] => false

/-- Without underscores, when they stand one by one and not at the ends. -/
def dropUnderscores (cs : List Char) : List Char :=
  if cs.head? = some '_' ∨ cs.getLast? = some '_' ∨ hasDoubleUnderscore cs then cs
  else cs.filter (· ≠ '_')

/-- Digits without a leading zero, or a zero alone. -/
def natural? (cs : List Char) : Option Nat :=
  if cs ≠ [] ∧ cs.all isDigit ∧ (cs = ['0'] ∨ cs.head? ≠ some '0') then some (ofDecimal cs)
  else none

/-- An optional minus sign and digits. -/
def plain? : List Char → Option Int
  | '-' :: cs => (natural? cs).map fun n => -(n : Int)
  | cs => (natural? cs).map fun n => (n : Int)

/-- The integer that a numeral denotes: blanks around it, a plus sign, leading zeros, a fraction of
zeros and single underscores are allowed. -/
def read? (cs : List Char) : Option Int :=
  match plain? cs with
  | some n => some n
  | none => do
    let cs ← dropPlus (trim cs)
    let cs ← dropZeros cs
    plain? (dropUnderscores (dropFraction cs))

end Numeral

namespace Checked

/-! ## Scalars -/

/-- A text; bytes are decoded. -/
def text : Value → Checked String
  | .scalar (.text s) => .passed s
  | .scalar (.bytes bs) =>
    match Text.ofUtf8? bs with
    | some s => .passed s
    | none => fault .undecodableText
  | _ => fault .notText

/-- A text or null. -/
def optionalText : Value → Checked (Option String)
  | .null => .passed none
  | v => map some (text v)

/-- The greatest number of bytes of a numeral. -/
def maxNumeralSize : Nat := 4300

/-- An integer from a numeral. -/
def integerOfText (s : String) : Checked Int :=
  if maxNumeralSize < s.utf8ByteSize then fault .oversizedInteger
  else match Numeral.read? s.toList with
    | some n => .passed n
    | none => fault .unreadableInteger

/-- The least number above all 64-bit integers. -/
def integerBound : Int := 9223372036854775808

/-- An integer from a floating-point number, which has to be integral and within 64 bits. -/
def integerOfFloat (x : Double) : Checked Int :=
  match x with
  | .finite _ _ _ =>
    match x.integer? with
    | none => fault .fractionalInteger
    | some n => if -integerBound < n ∧ n < integerBound then .passed n else fault .oversizedInteger
  | _ => fault .infiniteInteger

/-- An integer. -/
def integer : Value → Checked Int
  | .scalar (.int n) => .passed n
  | .scalar (.bool b) => .passed (if b then 1 else 0)
  | .scalar (.float x) => integerOfFloat x
  | .scalar (.text s) => integerOfText s
  | .scalar (.bytes bs) =>
    match Text.ofUtf8? bs with
    | some s => integerOfText s
    | none => fault .unreadableInteger
  | _ => fault .notInteger

/-- The words for a truth value. -/
def truthWords : List (String × Bool) :=
  [("0", false), ("off", false), ("f", false), ("false", false), ("n", false), ("no", false),
    ("1", true), ("on", true), ("t", true), ("true", true), ("y", true), ("yes", true)]

/-- A truth value from a word in any case. -/
def booleanOfText (s : String) : Checked Bool :=
  match truthWords.lookup (String.ofList (s.toList.map Char.toLower)) with
  | some b => .passed b
  | none => fault .unreadableBoolean

/-- A truth value from zero or one. -/
def booleanOfInteger (n : Int) : Checked Bool :=
  if n = 0 then .passed false else if n = 1 then .passed true else fault .unreadableBoolean

/-- A truth value. -/
def boolean : Value → Checked Bool
  | .scalar (.bool b) => .passed b
  | .scalar (.int n) =>
    if -integerBound ≤ n ∧ n < integerBound then booleanOfInteger n else fault .notBoolean
  | .scalar (.float x) =>
    match integerOfFloat x with
    | .passed n => booleanOfInteger n
    | .failed _ => fault .notBoolean
  | .scalar (.text s) => booleanOfText s
  | .scalar (.bytes bs) =>
    match Text.ofUtf8? bs with
    | some s => booleanOfText s
    | none => fault .unreadableBoolean
  | _ => fault .notBoolean

/-! ## Mappings -/

/-- The step to a member with a key of any kind. -/
def stepOfKey : Scalar → Step
  | .text s => .field s
  | .int n => .index n
  | .bool b => .index (if b then 1 else 0)
  | .float x => .field (x.written .plain)
  | .null => .field "None"
  | .date d => .field d.iso
  | .moment m => .field (m.isoWith ' ')
  | .bytes _ => .field "[key]"
  | .stream _ => .field "[key]"

/-- The key of a member, which has to be a text. -/
def key (k : Scalar) : Checked Scalar :=
  under (stepOfKey k) (under (.field "[key]") (map Scalar.text (text (.scalar k))))

/-- The members of a mapping, whose keys have to be texts. -/
def mappingMembers : List (Scalar × Value) → Checked (List (Scalar × Value))
  | [] => .passed []
  | (k, v) :: ms => seq (map (fun k' rest => (k', v) :: rest) (key k)) (mappingMembers ms)

/-- A mapping with texts as keys. -/
def mapping : Value → Checked Object
  | .object ms => map Object.ofList (mappingMembers ms)
  | _ => fault .notMapping

end Checked

end ApiReconciler
