import ApiReconciler.Value.Display
import ApiReconciler.Yaml.Cursor
import ApiReconciler.Yaml.Plain

/-!
# `ApiReconciler.Yaml.Writer` — values as YAML documents

Collections are written as blocks, with the members in their order, and empty ones in brackets.
Texts stand without quotes where they mean themselves, in single quotes where they can, and in
double quotes otherwise. Lines that grow longer than the width are folded at the next single space.

## Contents
- `Style.ofText`: how a text is quoted.
- `scalarChars`: a scalar, folded; `written`: a document; `written?`: the same, unless an integer in the
  value is too long to be written.
-/

namespace ApiReconciler.Yaml

/-! ## Styles -/

/-- How a scalar is quoted. -/
inductive Style
  | plain
  | single
  | double
deriving DecidableEq, Repr

/-- A character that may only stand in double quotes. -/
def isSpecial (c : Char) : Bool := c ≠ '\n' && !(' ' ≤ c && c ≤ '~')

/-- Whether a character has a meaning at the front of a scalar, by what follows it. -/
def hasMeaningAtFront (c : Char) (following : Option Char) : Bool :=
  "#,[]\x7b\x7d&*!|>'\"%@\x60".toList.contains c ||
    ((c = '?' || c = ':' || c = '-') && endsWord following)

/-- Whether a character has a meaning inside a scalar, by its neighbours. -/
def hasMeaningInside (before c : Char) (following : Option Char) : Bool :=
  (c = ':' && endsWord following) || (c = '#' && endsWord (some before))

/-- Whether any character behind the first one has a meaning. -/
def hasInnerMeaning : List Char → Bool
  | a :: b :: rest => hasMeaningInside a b rest.head? || hasInnerMeaning (b :: rest)
  | _ => false

/-- Whether a text would be taken for something else without quotes. -/
def hasMeaning (cs : List Char) : Bool :=
  match cs with
  | [] => false
  | c :: rest =>
    "---".toList.isPrefixOf cs || "...".toList.isPrefixOf cs ||
      hasMeaningAtFront c rest.head? || hasInnerMeaning cs

/-- A space or a line break. -/
def isEdge (c : Char) : Bool := c = ' ' || c = '\n'

/-- A pair of neighbours somewhere in a text. -/
def hasPair (a b : Char) : List Char → Bool
  | x :: y :: rest => (x = a && y = b) || hasPair a b (y :: rest)
  | _ => false

/-- Whether a text may stand in single quotes. -/
def allowsSingle (cs : List Char) : Bool :=
  !(cs.any isSpecial || hasPair ' ' '\n' cs || hasPair '\n' ' ' cs)

/-- Whether a scalar may stand without quotes. -/
def allowsPlain (cs : List Char) : Bool :=
  allowsSingle cs && !cs.contains '\n' && !cs.head?.any isEdge && !cs.getLast?.any isEdge &&
    !hasMeaning cs

/-- How a text is quoted. -/
def Style.ofText (cs : List Char) : Style :=
  if Kind.ofPlain cs = .text ∧ allowsPlain cs then .plain
  else if allowsSingle cs then .single
  else .double

/-! ## Folding -/

/-- The width beyond which lines are folded. -/
def width : Nat := 80

/-- The end of a line with the indentation of the next one. -/
def newLine (indent : Nat) : List Char := '\n' :: List.replicate indent ' '

/-- The characters of a plain scalar from a column on, `before` being the one before them. -/
def plainFrom (split : Bool) (indent : Nat) : Nat → Option Char → List Char → List Char
  | _, _, [] => []
  | column, before, c :: rest =>
    if split ∧ c = ' ' ∧ before ≠ some ' ' ∧ rest.head? ≠ some ' ' ∧ width < column then
      newLine indent ++ plainFrom split indent indent none rest
    else c :: plainFrom split indent (column + 1) (some c) rest

/-- The characters of a scalar in single quotes; a quote is doubled, and so is the first of several
line breaks. -/
def singleFrom (split : Bool) (indent : Nat) : Nat → Option Char → List Char → List Char
  | _, _, [] => []
  | column, before, c :: rest =>
    if c = '\n' then
      let first := if before = some '\n' then [] else ['\n']
      if rest.head? = some '\n' then first ++ '\n' :: singleFrom split indent 0 (some c) rest
      else first ++ newLine indent ++ singleFrom split indent indent (some c) rest
    else if c = '\'' then '\'' :: '\'' :: singleFrom split indent (column + 2) (some c) rest
    else if split ∧ c = ' ' ∧ before.isSome ∧ before ≠ some ' ' ∧ rest ≠ [] ∧
        rest.head? ≠ some ' ' ∧ width < column then
      newLine indent ++ singleFrom split indent indent (some c) rest
    else c :: singleFrom split indent (column + 1) (some c) rest

/-- The letter of a simple escape. -/
def escapeLetter? (c : Char) : Option Char :=
  [('\x00', '0'), ('\x07', 'a'), ('\x08', 'b'), ('\t', 't'), ('\n', 'n'), ('\x0b', 'v'),
    ('\x0c', 'f'), ('\r', 'r'), ('\x1b', 'e'), ('"', '"'), ('\\', '\\'), ('\u0085', 'N'),
    ('\u00a0', '_'), ('\u2028', 'L'), ('\u2029', 'P')].lookup c

/-- Upper-case hexadecimal digits. -/
def upperHex (digits n : Nat) : List Char := (Digits.hexPadded digits n).map Char.toUpper

/-- The escape of a character, if it needs one. -/
def escapeOf? (c : Char) : Option (List Char) :=
  match escapeLetter? c with
  | some letter => some ['\\', letter]
  | none =>
    if ' ' ≤ c ∧ c ≤ '~' then none
    else if c.toNat ≤ 0xFF then some ('\\' :: 'x' :: upperHex 2 c.toNat)
    else if c.toNat ≤ 0xFFFF then some ('\\' :: 'u' :: upperHex 4 c.toNat)
    else some ('\\' :: 'U' :: upperHex 8 c.toNat)

/-- The end of a line in double quotes; a space at the front of the next line is escaped. -/
def doubleBreak (indent : Nat) (spaceFollows : Bool) : List Char :=
  '\\' :: newLine indent ++ (if spaceFollows then ['\\'] else [])

/-- The characters of a scalar in double quotes. Lines end before a space, or beside an escape. -/
def doubleFrom (split : Bool) (indent : Nat) : Nat → Bool → Bool → List Char → List Char
  | _, _, _, [] => []
  | column, isFirst, behindEscape, c :: rest =>
    let canSplit := split && !isFirst && rest ≠ []
    match escapeOf? c with
    | some e =>
      let column := column + e.length
      if canSplit ∧ width < column - 1 then
        let spaceFollows : Bool := rest.head? = some ' '
        e ++ doubleBreak indent spaceFollows ++
          doubleFrom split indent (indent + if spaceFollows then 1 else 0) false true rest
      else e ++ doubleFrom split indent column false true rest
    | none =>
      if canSplit ∧ (c = ' ' ∨ behindEscape) ∧ width < column then
        doubleBreak indent (c = ' ') ++
          c :: doubleFrom split indent (indent + if c = ' ' then 2 else 1) false false rest
      else c :: doubleFrom split indent (column + 1) false false rest

/-! ## Scalars -/

/-- A scalar without quotes. -/
def Scalar.plainChars : Scalar → List Char
  | .null => "null".toList
  | .bool true => "true".toList
  | .bool false => "false".toList
  | .float x => x.writtenChars .yaml
  | s => s.display

/-- How a scalar is quoted; only texts may need quotes. -/
def styleOf : Scalar → Style
  | .text s => Style.ofText s.toList
  | _ => .plain

/-- Bytes with their tag, as a block. -/
def binaryChars (indent : Nat) (bs : List UInt8) : List Char :=
  "!!binary ".toList ++
    (if bs = [] then ['"', '"']
      else '|' :: (Text.base64Lines bs).flatMap fun line => newLine indent ++ line)

/-- A scalar that is not bytes, from a column on; further lines are indented. -/
def textChars (split : Bool) (indent column : Nat) (s : Scalar) : List Char :=
  match styleOf s with
  | .plain => plainFrom split indent column none (Scalar.plainChars s)
  | .single => '\'' :: singleFrom split indent (column + 1) none (Scalar.plainChars s) ++ ['\'']
  | .double =>
    '"' :: doubleFrom split indent (column + 1) true false (Scalar.plainChars s) ++ ['"']

/-- A scalar from a column on; further lines are indented. -/
def scalarChars (split : Bool) (indent column : Nat) (s : Scalar) : List Char :=
  match s with
  | .bytes bs => binaryChars indent bs
  | s => textChars split indent column s

/-! ## Keys -/

/-- The length of the name of a scalar's tag. -/
def tagLength : Scalar → Nat
  | .null => 6
  | .bool _ => 6
  | .int _ => 5
  | .float _ => 7
  | .text _ => 5
  | .date _ => 11
  | .moment _ => 11
  | .bytes _ => 8
  | .stream _ => 8

/-- A character that ends a line where a scalar is written. -/
def isLineEnd (c : Char) : Bool := isBreak c && c ≠ '\r'

/-- Whether a key can stand before its colon on one line. -/
def isSimpleKey (s : Scalar) : Bool :=
  let cs := Scalar.plainChars s
  cs ≠ [] && !cs.any isLineEnd && tagLength s + cs.length < 128

/-! ## Documents -/

/-- Parts with line ends between them. -/
def joinLines (indent : Nat) : List (List Char) → List Char
  | [] => []
  | [x] => x
  | x :: xs => x ++ newLine indent ++ joinLines indent xs

mutual

/-- The lines of a collection at an indentation; the first one starts where it stands. -/
def blockChars (indent : Nat) : Value → List Char
  | .scalar s => scalarChars true (indent + 2) indent s
  | .list xs => joinLines indent (itemLines indent xs)
  | .object ms => joinLines indent (memberLines indent ms)

/-- What stands behind a dash, a question mark or a colon of its own at an indentation. -/
def inlineChars (indent : Nat) : Value → List Char
  | .scalar s => scalarChars true (indent + 2) (indent + 2) s
  | .list [] => ['[', ']']
  | .object [] => ['\x7b', '\x7d']
  | .list xs => joinLines (indent + 2) (itemLines (indent + 2) xs)
  | .object ms => joinLines (indent + 2) (memberLines (indent + 2) ms)

/-- The items of a list. -/
def itemLines (indent : Nat) : List Value → List (List Char)
  | [] => []
  | x :: xs => ('-' :: ' ' :: inlineChars indent x) :: itemLines indent xs

/-- What stands behind a key that ends at a column. -/
def behindKey (indent column : Nat) : Value → List Char
  | .scalar s => ' ' :: scalarChars true (indent + 2) (column + 1) s
  | .list [] => [' ', '[', ']']
  | .object [] => [' ', '\x7b', '\x7d']
  | .list xs => newLine indent ++ joinLines indent (itemLines indent xs)
  | .object ms => newLine (indent + 2) ++ joinLines (indent + 2) (memberLines (indent + 2) ms)

/-- The members of an object. -/
def memberLines (indent : Nat) : List (Scalar × Value) → List (List Char)
  | [] => []
  | (k, v) :: ms =>
    (if isSimpleKey k then
      let key := scalarChars false (indent + 2) indent k
      key ++ ':' :: behindKey indent (indent + key.length + 1) v
    else
      '?' :: ' ' :: scalarChars true (indent + 2) (indent + 2) k ++ newLine indent ++
        ':' :: ' ' :: inlineChars indent v) :: memberLines indent ms

end

/-- A value as a document. -/
def written (v : Value) : String :=
  String.ofList ((match v with
    | .list [] => ['[', ']']
    | .object [] => ['\x7b', '\x7d']
    | v => blockChars 0 v) ++ ['\n'])

/-- A value as a document, if it can be written. -/
def written? (v : Value) : Option String := if v.isWritable then some (written v) else none

end ApiReconciler.Yaml
