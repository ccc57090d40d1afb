import ApiReconciler.Text.Utf8
import ApiReconciler.Yaml.Cursor

/-!
# `ApiReconciler.Yaml.Scalar` — the texts of scalars

## Contents
- `Cursor.quotedScalar?`: a scalar in single or double quotes.
- `Cursor.plainScalar`: a scalar without quotes.
- `Cursor.blockScalar?`: a literal or folded block.

Lines are folded: a single line break becomes a space, and further ones stay.
-/

namespace ApiReconciler.Yaml.Cursor

open Digits

/-! ## Folding -/

/-- The text of a line break with the breaks that follow it. -/
def foldBreaks (first : Char) (breaks : List Char) : List Char :=
  if first ≠ '\n' then first :: breaks
  else if breaks = [] then [' ']
  else breaks

/-! ## Quoted scalars -/

/-- The character of a simple escape. -/
def escaped? (c : Char) : Option Char :=
  [('0', '\x00'), ('a', '\x07'), ('b', '\x08'), ('t', '\t'), ('\t', '\t'), ('n', '\n'),
    ('v', '\x0b'), ('f', '\x0c'), ('r', '\r'), ('e', '\x1b'), (' ', ' '), ('"', '"'),
    ('\\', '\\'), ('/', '/'), ('N', '\u0085'), ('_', '\u00a0'), ('L', '\u2028'),
    ('P', '\u2029')].lookup c

/-- The number of digits of a numeric escape. -/
def escapeWidth? (c : Char) : Option Nat := [('x', 2), ('u', 4), ('U', 8)].lookup c

/-- The line breaks inside a quoted scalar, with the blanks around them skipped; a marker between
documents may not stand there. -/
def quotedBreaks? : Nat → Cursor → Option (List Char × Cursor)
  | 0, _ => none
  | fuel + 1, c =>
    if c.isAnyMarker then none
    else
      let c := c.skipWhile isBlank
      match c.lineBreak? with
      | none => some ([], c)
      | some (b, c) => (quotedBreaks? fuel c).map fun r => (b :: r.1, r.2)

/-- The blanks inside a quoted scalar, folded when a line ends. -/
def quotedBlanks? (fuel : Nat) (c : Cursor) : Option (List Char × Cursor) :=
  let (blanks, c) := c.span isBlank
  match c.head with
  | none => none
  | some _ =>
    match c.lineBreak? with
    | none => some (blanks, c)
    | some (b, c) => (quotedBreaks? fuel c).map fun r => (foldBreaks b r.1, r.2)

/-- An escape in double quotes, behind its backslash. -/
def quotedEscape? (fuel : Nat) (c : Cursor) : Option (List Char × Cursor) :=
  match c.head with
  | none => none
  | some x =>
    match escaped? x, escapeWidth? x with
    | some y, _ => some ([y], c.advance)
    | none, some width =>
      let digits := c.advance.rest.take width
      if digits.length = width ∧ digits.all isHexDigit ∧ ofDigits 16 digits ≤ 0x10FFFF then
        some ([Text.ofCodePoint (ofDigits 16 digits)], c.advance.skip width)
      else none
    | none, none =>
      match c.lineBreak? with
      | none => none
      | some (_, c) => quotedBreaks? fuel c

/-- The text of a quoted scalar up to its closing quote, with the place behind it. -/
def quotedText? (quote : Char) : Nat → Cursor → Option (List Char × Cursor)
  | 0, _ => none
  | fuel + 1, c =>
    let continued (r : List Char × Cursor) : Option (List Char × Cursor) :=
      (quotedText? quote fuel r.2).map fun s => (r.1 ++ s.1, s.2)
    match c.head with
    | none => none
    | some x =>
      if x = quote then
        if quote = '\'' ∧ c.peek 1 = some '\'' then continued ([x], c.skip 2)
        else some ([], c.advance)
      else if x = '\\' ∧ quote = '"' then (quotedEscape? fuel c.advance).bind continued
      else if isBlank x ∨ isBreak x then (quotedBlanks? fuel c).bind continued
      else continued ([x], c.advance)

/-- A quoted scalar: its text and the place behind it. -/
def quotedScalar? (c : Cursor) : Option (List Char × Cursor) := do
  let quote ← c.head
  quotedText? quote (c.rest.length + 1) c.advance

/-! ## Plain scalars -/

/-- A plain scalar with the place behind it. `breaksLine` tells whether the lines that were looked
at go beyond its own. -/
structure Plain where
  text : List Char
  after : Cursor
  breaksLine : Bool
deriving Repr

/-- The characters that end a plain scalar inside brackets. -/
def isFlowIndicator (c : Char) : Bool :=
  c = ',' || c = '?' || c = '[' || c = ']' || c = '\x7b' || c = '\x7d'

/-- Whether a colon ends a plain scalar, by the character that follows it. -/
def colonEnds (inFlow : Bool) (following : Option Char) : Bool :=
  endsWord following ||
    (inFlow && following.any fun c =>
      c = ',' || c = '[' || c = ']' || c = '\x7b' || c = '\x7d')

/-- A word of a plain scalar. -/
def plainWord (inFlow : Bool) : List Char → List Char
  | [] => []
  | x :: rest =>
    if isBlank x || isBreak x || (x = ':' && colonEnds inFlow rest.head?) ||
        (inFlow && isFlowIndicator x) then []
    else x :: plainWord inFlow rest

/-- The breaks between the lines of a plain scalar, none when a marker between documents follows
one of them. -/
def plainBreaks? : Nat → Cursor → Option (List Char × Cursor)
  | 0, c => some ([], c)
  | fuel + 1, c =>
    let c := c.skipSpaces
    match c.lineBreak? with
    | none => some ([], c)
    | some (b, c) =>
      if c.isAnyMarker then none
      else (plainBreaks? fuel c).map fun r => (b :: r.1, r.2)

/-- What stands between two words of a plain scalar; empty when the scalar ends here. -/
def plainBlanks (c : Cursor) : Plain :=
  let (blanks, c) := c.span (· = ' ')
  match c.lineBreak? with
  | none => ⟨blanks, c, false⟩
  | some (b, c) =>
    if c.isAnyMarker then ⟨[], c, true⟩
    else match plainBreaks? c.rest.length c with
      | none => ⟨[], c, true⟩
      | some (breaks, c) => ⟨foldBreaks b breaks, c, true⟩

/-- The words of a plain scalar, from the blanks before the next one. -/
def plainWords (inFlow : Bool) (indent : Int) : Nat → List Char → Bool → Cursor → Plain
  | 0, _, breaksLine, c => ⟨[], c, breaksLine⟩
  | fuel + 1, blanks, breaksLine, c =>
    if c.isAt '#' then ⟨[], c, breaksLine⟩
    else
      let word := plainWord inFlow c.rest
      if word = [] then ⟨[], c, breaksLine⟩
      else
        let between := plainBlanks (c.skip word.length)
        let front := blanks ++ word
        if between.text = [] ∨ between.after.isAt '#' ∨
            (!inFlow ∧ (between.after.column : Int) < indent) then
          ⟨front, between.after, between.breaksLine⟩
        else
          let rest := plainWords inFlow indent fuel between.text between.breaksLine between.after
          { rest with text := front ++ rest.text }

/-- A plain scalar. Outside brackets its further lines are indented at least by `indent`. -/
def plainScalar (c : Cursor) (inFlow : Bool) (indent : Int) : Plain :=
  plainWords inFlow indent (c.rest.length + 1) [] false c

/-! ## Block scalars -/

/-- What becomes of the line breaks at the end of a block. -/
inductive Chomping
  | strip
  | clip
  | keep
deriving DecidableEq, Repr

/-- The chomping that a sign asks for. -/
def chompingOf? : Option Char → Option Chomping
  | some '-' => some .strip
  | some '+' => some .keep
  | _ => none

/-- The indentation that a digit asks for; zero is none. -/
def incrementOf? : Option Char → Option Nat
  | some c => if isDigit c then digitValue? c else none
  | none => none

/-- The indicators of a block: chomping and indentation, in either order. -/
def blockIndicators? (c : Cursor) : Option (Chomping × Option Nat × Cursor) :=
  let (chomping, increment, c) :=
    match chompingOf? c.head, incrementOf? c.head with
    | some ch, _ =>
      match incrementOf? c.advance.head with
      | some n => (ch, some n, c.skip 2)
      | none => (ch, none, c.advance)
    | none, some n =>
      match chompingOf? c.advance.head with
      | some ch => (ch, some n, c.skip 2)
      | none => (.clip, some n, c.advance)
    | none, none => (.clip, none, c)
  if increment = some 0 ∨ !endsSpaced c.head then none else some (chomping, increment, c)

/-- The empty lines at the front of a block and the greatest indentation among them. -/
def leadingBreaks : Nat → Cursor → Nat → List Char × Nat × Cursor
  | 0, c, widest => ([], widest, c)
  | fuel + 1, c, widest =>
    let c := c.skipSpaces
    let widest := max widest c.column
    match c.lineBreak? with
    | none => ([], widest, c)
    | some (b, c) =>
      let (breaks, widest, c) := leadingBreaks fuel c widest
      (b :: breaks, widest, c)

/-- Behind at most the spaces of an indentation. -/
def skipIndent (c : Cursor) (indent : Nat) : Cursor :=
  c.skip ((c.rest.take (indent - c.column)).takeWhile (· = ' ')).length

/-- The empty lines inside a block. -/
def blockBreaks (indent : Nat) : Nat → Cursor → List Char × Cursor
  | 0, c => ([], c)
  | fuel + 1, c =>
    let c := c.skipIndent indent
    match c.lineBreak? with
    | none => ([], c)
    | some (b, c) =>
      let (breaks, c) := blockBreaks indent fuel c
      (b :: breaks, c)

/-- What stands between two lines of a block. -/
def blockJoint (folded : Bool) (lineBreak : List Char) (breaks : List Char) (isText : Bool) :
    List Char :=
  if folded ∧ lineBreak = ['\n'] ∧ isText then (if breaks = [] then [' '] else [])
  else lineBreak

/-- The end of a block. -/
def blockEnd (chomping : Chomping) (lineBreak breaks : List Char) : List Char :=
  match chomping with
  | .strip => []
  | .clip => lineBreak
  | .keep => lineBreak ++ breaks

/-- The lines of a block, from the empty lines before the next one. -/
def blockLines (folded : Bool) (chomping : Chomping) (indent : Nat) :
    Nat → List Char → List Char → Cursor → List Char × Cursor
  | 0, lineBreak, breaks, c => (blockEnd chomping lineBreak breaks, c)
  | fuel + 1, lineBreak, breaks, c =>
    if c.column = indent ∧ c.head.isSome then
      let startsWithText := c.head.any fun x => !isBlank x
      let (line, c) := c.span fun x => !isBreak x
      let (ending, c) := match c.lineBreak? with
        | some (b, c) => ([b], c)
        | none => ([], c)
      let (following, c) := blockBreaks indent c.rest.length c
      let joint :=
        if c.column = indent ∧ c.head.isSome then
          blockJoint folded ending following (startsWithText && c.head.any fun x => !isBlank x)
        else []
      let (rest, c) := blockLines folded chomping indent fuel ending following c
      (breaks ++ line ++ joint ++ rest, c)
    else (blockEnd chomping lineBreak breaks, c)

/-- A block scalar behind its indicator, inside a block that is indented by `outer`. -/
def blockScalar? (c : Cursor) (folded : Bool) (outer : Int) : Option (List Char × Cursor) := do
  let (chomping, increment, c) ← c.blockIndicators?
  let c ← c.finishLine?
  let least := (max (outer + 1) 1).toNat
  match increment with
  | some n =>
    let indent := least + n - 1
    let (breaks, c) := blockBreaks indent c.rest.length c
    some (blockLines folded chomping indent (c.rest.length + 1) [] breaks c)
  | none =>
    let (breaks, widest, c) := leadingBreaks (c.rest.length + 1) c 0
    some (blockLines folded chomping (max least widest) (c.rest.length + 1) [] breaks c)

end ApiReconciler.Yaml.Cursor
