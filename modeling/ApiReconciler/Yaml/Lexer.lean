import ApiReconciler.Yaml.Token

/-!
# `ApiReconciler.Yaml.Lexer` — the tokens of a text

Blocks follow from indentation, so the lexer keeps the columns of the blocks it is in. A key is
recognized only by the colon behind it; its token is then put in front of it, together with the
start of a mapping where one begins.

## Contents
- `Lexer`: what is known at a place of the text; `Lexer.step`: one token more.
- `tokens?`: the tokens of a text, none when it is malformed.
-/

namespace ApiReconciler.Yaml

/-- A place where a key may have started, with the number of tokens before it. A key that is
required has to be followed by a colon. -/
structure Candidate where
  before : Nat
  isRequired : Bool
  index : Nat
  line : Nat
  column : Nat
deriving Repr

/-- What is known at a place of the text. The tokens stand in reverse order, `indents` are the
columns of the outer blocks, `depth` counts the open brackets, and `candidates` are the places where
keys may have started, by depth. -/
structure Lexer where
  cursor : Cursor
  tokens : List Token
  count : Nat
  indent : Int
  indents : List Int
  depth : Nat
  keyAllowed : Bool
  candidates : List (Nat × Candidate)
deriving Repr

namespace Lexer

/-- The lexer at the front of a text. -/
def start (cs : List Char) : Lexer := ⟨Cursor.start cs, [], 0, -1, [], 0, true, []⟩

/-- With a token more. -/
def push (s : Lexer) (t : Token) : Lexer := { s with tokens := t :: s.tokens, count := s.count + 1 }

/-- Behind a number of characters. -/
def skip (s : Lexer) (n : Nat) : Lexer := { s with cursor := s.cursor.skip n }

/-- Whether the place is inside brackets. -/
def inFlow (s : Lexer) : Bool := s.depth ≠ 0

/-- The column of the place. -/
def column (s : Lexer) : Int := s.cursor.column

/-- With a token inserted behind the first `n` ones. -/
def insertAt (s : Lexer) (n : Nat) (t : Token) : Lexer :=
  let later := s.count - n
  { s with tokens := s.tokens.take later ++ t :: s.tokens.drop later, count := s.count + 1 }

/-! ## Candidates -/

/-- The greatest length of a key that is not marked as one. -/
def maxKeyLength : Nat := 1024

/-- Without the candidates that a line end or their length rules out; none when one of them is
required. -/
def dropStale? (s : Lexer) : Option Lexer :=
  let isStale (k : Nat × Candidate) : Bool :=
    k.2.line ≠ s.cursor.line || maxKeyLength < s.cursor.index - k.2.index
  if s.candidates.any fun k => isStale k && k.2.isRequired then none
  else some { s with candidates := s.candidates.filter fun k => !isStale k }

/-- Without the candidate of the present depth; none when it is required. -/
def dropCandidate? (s : Lexer) : Option Lexer :=
  match s.candidates.lookup s.depth with
  | none => some s
  | some k =>
    if k.isRequired then none
    else some { s with candidates := s.candidates.filter fun k => k.1 ≠ s.depth }

/-- With a candidate at the place, if a key may start here. -/
def noteCandidate? (s : Lexer) : Option Lexer :=
  if s.keyAllowed then
    s.dropCandidate?.map fun t =>
      let k : Candidate :=
        ⟨t.count, !t.inFlow && t.indent = t.column, t.cursor.index, t.cursor.line, t.cursor.column⟩
      { t with candidates := (t.depth, k) :: t.candidates }
  else some s

/-! ## Indentation -/

/-- The ends of blocks for the outer columns that are greater than a column. -/
def closeBlocks (column : Int) : List Int → Int → List Int × Int × Nat
  | [], indent => ([], indent, 0)
  | outer :: rest, indent =>
    if column < indent then
      let (indents, indent, n) := closeBlocks column rest outer
      (indents, indent, n + 1)
    else (outer :: rest, indent, 0)

/-- With the blocks closed that are indented more than a column. Brackets keep blocks open. -/
def unwind (s : Lexer) (column : Int) : Lexer :=
  if s.inFlow then s
  else
    let (indents, indent, n) := closeBlocks column s.indents s.indent
    { s with
      indents := indents
      indent := indent
      tokens := List.replicate n .blockEnd ++ s.tokens
      count := s.count + n }

/-- With a block opened at a column, if it is indented more than the present one; its start is put
behind the first `n` tokens. -/
def openBlock (s : Lexer) (column : Int) (n : Nat) (t : Token) : Lexer :=
  if s.inFlow then s
  else if s.indent < column then
    ({ s with indents := s.indent :: s.indents, indent := column } : Lexer).insertAt n t
  else s

/-! ## Tokens -/

/-- With a token that ends all blocks. -/
def pushTopLevel? (s : Lexer) (read : Lexer → Option (Token × Cursor)) : Option Lexer := do
  let s ← (s.unwind (-1)).dropCandidate?
  let (t, c) ← read s
  some { s.push t with cursor := c, keyAllowed := false }

/-- With an opening bracket. -/
def openBracket? (s : Lexer) (t : Token) : Option Lexer :=
  s.noteCandidate?.map fun s =>
    { (s.push t).skip 1 with depth := s.depth + 1, keyAllowed := true }

/-- With a closing bracket, which has to have an opening one. -/
def closeBracket? (s : Lexer) (t : Token) : Option Lexer := do
  let s ← s.dropCandidate?
  if s.depth = 0 then none
  else some { (s.push t).skip 1 with depth := s.depth - 1, keyAllowed := false }

/-- With a comma. -/
def pushComma? (s : Lexer) : Option Lexer :=
  s.dropCandidate?.map fun s => { (s.push .comma).skip 1 with keyAllowed := true }

/-- With an indicator that may open a block of its own. -/
def pushIndicator? (s : Lexer) (opening indicator : Token) (keyAllowed : Bool) : Option Lexer :=
  if !s.inFlow && !s.keyAllowed then none
  else
    ((s.openBlock s.column s.count opening).dropCandidate?).map fun s =>
      { (s.push indicator).skip 1 with keyAllowed := keyAllowed }

/-- With the colon behind a key. -/
def pushValue? (s : Lexer) : Option Lexer :=
  match s.candidates.lookup s.depth with
  | some k =>
    let s := { s with candidates := s.candidates.filter fun k => k.1 ≠ s.depth }
    let s := (s.insertAt k.before .key).openBlock k.column k.before .mappingStart
    some { (s.push .value).skip 1 with keyAllowed := false }
  | none => s.pushIndicator? .mappingStart .value (!s.inFlow)

/-- With a token at which a key may start. -/
def pushNode? (s : Lexer) (read : Cursor → Option (Token × Cursor)) : Option Lexer := do
  let s ← s.noteCandidate?
  let (t, c) ← read s.cursor
  some { s.push t with cursor := c, keyAllowed := false }

/-- With a plain scalar; a key may start behind it on a further line. -/
def pushPlain? (s : Lexer) : Option Lexer :=
  s.noteCandidate?.map fun s =>
    let p := s.cursor.plainScalar s.inFlow (s.indent + 1)
    { s.push (.scalar p.text true) with cursor := p.after, keyAllowed := p.breaksLine }

/-- With a block scalar. -/
def pushBlock? (s : Lexer) (folded : Bool) : Option Lexer := do
  let s ← s.dropCandidate?
  let (text, c) ← s.cursor.advance.blockScalar? folded s.indent
  some { s.push (.scalar text false) with cursor := c, keyAllowed := true }

/-! ## Steps -/

/-- Behind spaces, comments and line ends. A key may start on a further line outside brackets. -/
def skipBlanks : Nat → Lexer → Lexer
  | 0, s => s
  | fuel + 1, s =>
    let c := s.cursor.skipSpaces
    let c := if c.isAt '#' then c.skipWhile fun x => !isBreak x else c
    match c.lineBreak? with
    | none => { s with cursor := c }
    | some (_, c) =>
      skipBlanks fuel { s with cursor := c, keyAllowed := s.keyAllowed || !s.inFlow }

/-- Whether an indicator stands at the place: inside brackets always, elsewhere as a word. -/
def isIndicator (s : Lexer) : Bool := s.inFlow || endsWord (s.cursor.peek 1)

/-- Whether a plain scalar may start with a character. -/
def startsPlain (s : Lexer) (x : Char) : Bool :=
  let continues := !endsWord (s.cursor.peek 1)
  if x = '-' then continues
  else if x = '?' ∨ x = ':' then continues && !s.inFlow
  else !(isBlank x || isBreak x || ",[]\x7b\x7d#&*!|>'\"%@\x60".toList.contains x)

/-- The tag at a cursor as a token. -/
def readTag (c : Cursor) : Option (Token × Cursor) := c.tag?.map fun r => (.tag r.1, r.2)

/-- The quoted scalar at a cursor as a token. -/
def readQuoted (c : Cursor) : Option (Token × Cursor) :=
  c.quotedScalar?.map fun r => (.scalar r.1 false, r.2)

/-- The anchor at a cursor as a token. -/
def readAnchor (token : List Char → Token) (c : Cursor) : Option (Token × Cursor) :=
  c.advance.anchorName?.map fun r => (token r.1, r.2)

/-- The marker at the place as a token. -/
def readMarker (t : Token) (s : Lexer) : Option (Token × Cursor) := some (t, s.cursor.skip 3)

/-- The directive at the place as a token. -/
def readDirective (s : Lexer) : Option (Token × Cursor) :=
  s.cursor.directive?.map fun r => (.directive r.1, r.2)

/-- With the token that starts with a character. -/
def pushToken? (s : Lexer) (x : Char) : Option Lexer :=
  if s.column = 0 ∧ x = '%' then s.pushTopLevel? readDirective
  else if s.column = 0 ∧ s.cursor.isMarker '-' then s.pushTopLevel? (readMarker .documentStart)
  else if s.column = 0 ∧ s.cursor.isMarker '.' then s.pushTopLevel? (readMarker .documentEnd)
  else match x with
    | '[' => s.openBracket? .openList
    | '\x7b' => s.openBracket? .openMapping
    | ']' => s.closeBracket? .closeList
    | '\x7d' => s.closeBracket? .closeMapping
    | ',' => s.pushComma?
    | '*' => s.pushNode? (readAnchor .alias)
    | '&' => s.pushNode? (readAnchor .anchor)
    | '!' => s.pushNode? readTag
    | '\'' => s.pushNode? readQuoted
    | '"' => s.pushNode? readQuoted
    | _ =>
      if x = '-' ∧ endsWord (s.cursor.peek 1) then
        s.pushIndicator? .sequenceStart .dash true
      else if x = '?' ∧ s.isIndicator then s.pushIndicator? .mappingStart .key (!s.inFlow)
      else if x = ':' ∧ s.isIndicator then s.pushValue?
      else if x = '|' ∧ !s.inFlow then s.pushBlock? false
      else if x = '>' ∧ !s.inFlow then s.pushBlock? true
      else if s.startsPlain x then s.pushPlain?
      else none

/-- One token more; `false` at the end of the text. -/
def step (s : Lexer) : Option (Lexer × Bool) := do
  let s := skipBlanks (s.cursor.rest.length + 1) s
  let s ← s.dropStale?
  let s := s.unwind s.column
  match s.cursor.head with
  | none =>
    let s ← (s.unwind (-1)).dropCandidate?
    some (s, false)
  | some x => (s.pushToken? x).map fun s => (s, true)

/-- All tokens from a place on. -/
def run : Nat → Lexer → Option (List Token)
  | 0, _ => none
  | fuel + 1, s =>
    match s.step with
    | none => none
    | some (s, true) => run fuel s
    | some (s, false) => some s.tokens.reverse

end Lexer

/-- Without a byte order mark at the front. -/
def Cursor.skipMark (c : Cursor) : Cursor := if c.isAt '\uFEFF' then c.advance else c

/-- The tokens of a text. -/
def tokens? (cs : List Char) : Option (List Token) :=
  if cs.all isAllowed then
    let s := Lexer.start cs
    Lexer.run (cs.length + 2) { s with cursor := s.cursor.skipMark }
  else none

end ApiReconciler.Yaml
