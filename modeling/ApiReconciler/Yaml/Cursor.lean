import ApiReconciler.Digits

/-!
# `ApiReconciler.Yaml.Cursor` — a place in a document

## Contents
- `Cursor`: the text that follows a place, with its line and column.
- `Cursor.advance`, `Cursor.skip`, `Cursor.span`: moving on; `Cursor.lineBreak?`: over the end of a
  line.
- `isBreak`, `endsLine`, `endsWord`: what ends lines and words.
-/

namespace ApiReconciler.Yaml

/-! ## Characters -/

/-- A character that ends a line. -/
def isBreak (c : Char) : Bool :=
  c = '\n' || c = '\r' || c = '\u0085' || c = '\u2028' || c = '\u2029'

/-- A blank inside a line. -/
def isBlank (c : Char) : Bool := c = ' ' || c = '\t'

/-- The end of a line or of the text. -/
def endsLine (c : Option Char) : Bool := c.all isBreak

/-- The end of a word: a space, the end of a line, or the end of the text. -/
def endsSpaced (c : Option Char) : Bool := c.all fun c => c = ' ' || isBreak c

/-- The end of a word, where a tab counts too. -/
def endsWord (c : Option Char) : Bool := c.all fun c => isBlank c || isBreak c

/-- A character of names of anchors and handles. -/
def isNameChar (c : Char) : Bool := c.isAlphanum || c = '-' || c = '_'

/-- A character that a document may contain. -/
def isAllowed (c : Char) : Bool :=
  let n := c.toNat
  n = 0x9 || n = 0xA || n = 0xD || (0x20 ≤ n && n ≤ 0x7E) || n = 0x85 ||
    (0xA0 ≤ n && n ≤ 0xFFFD) || 0x10000 ≤ n

/-! ## Cursors -/

/-- A place in a text. The byte order mark takes no column. -/
structure Cursor where
  rest : List Char
  index : Nat
  line : Nat
  column : Nat
deriving Repr

namespace Cursor

/-- The front of a text. -/
def start (cs : List Char) : Cursor := ⟨cs, 0, 0, 0⟩

/-- The character at a distance. -/
def peek (c : Cursor) (n : Nat) : Option Char := c.rest[n]?

/-- The character at the place. -/
def head (c : Cursor) : Option Char := c.rest.head?

/-- Whether a given character is at the place. -/
def isAt (c : Cursor) (x : Char) : Bool := c.head = some x

/-- Behind the character at the place. -/
def advance (c : Cursor) : Cursor :=
  match c.rest with
  | [] => c
  | x :: rest =>
    if isBreak x && (x ≠ '\r' || rest.head? ≠ some '\n') then ⟨rest, c.index + 1, c.line + 1, 0⟩
    else ⟨rest, c.index + 1, c.line, if x = '\uFEFF' then c.column else c.column + 1⟩

/-- Behind a number of characters. -/
def skip (c : Cursor) : Nat → Cursor
  | 0 => c
  | n + 1 => c.advance.skip n

/-- The characters at the place that satisfy a condition, and the place behind them. -/
def span (c : Cursor) (p : Char → Bool) : List Char × Cursor :=
  let front := c.rest.takeWhile p
  (front, c.skip front.length)

/-- Behind the characters that satisfy a condition. -/
def skipWhile (c : Cursor) (p : Char → Bool) : Cursor := (c.span p).2

/-- Behind the spaces. -/
def skipSpaces (c : Cursor) : Cursor := c.skipWhile (· = ' ')

/-- Over the end of a line, with the character that stands for it. -/
def lineBreak? (c : Cursor) : Option (Char × Cursor) :=
  match c.rest with
  | '\r' :: '\n' :: _ => some ('\n', c.skip 2)
  | x :: _ =>
    if x = '\u2028' ∨ x = '\u2029' then some (x, c.advance)
    else if isBreak x then some ('\n', c.advance)
    else none
  | [] => none

/-- Over the end of a line, if there is one. -/
def skipBreak (c : Cursor) : Cursor :=
  match c.lineBreak? with
  | some (_, c) => c
  | none => c

/-- Whether a marker between documents is at the place: three equal characters as a word. -/
def isMarker (c : Cursor) (x : Char) : Bool :=
  c.rest.take 3 = [x, x, x] && endsWord (c.peek 3)

/-- Whether any marker between documents is at the place. -/
def isAnyMarker (c : Cursor) : Bool := c.isMarker '-' || c.isMarker '.'

/-- Over a comment and the end of the line; nothing else may stand before it. -/
def finishLine? (c : Cursor) : Option Cursor :=
  let c := c.skipSpaces
  let c := if c.isAt '#' then c.skipWhile fun x => !isBreak x else c
  if endsLine c.head then some c.skipBreak else none

end Cursor

end ApiReconciler.Yaml
