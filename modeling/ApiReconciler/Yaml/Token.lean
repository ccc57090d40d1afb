import ApiReconciler.Yaml.Scalar

/-!
# `ApiReconciler.Yaml.Token` — tokens of a document

## Contents
- `Token`: what a document consists of. Blocks are marked by their starts and ends, and keys by a
  token before them.
- `Cursor.anchorName?`, `Cursor.tag?`, `Cursor.directive?`: the readers of tokens with names.
-/

namespace ApiReconciler.Yaml

/-- A tag: a handle, unless the tag is given in full, and what follows it. -/
structure Tag where
  handle : Option (List Char)
  suffix : List Char
deriving DecidableEq, Repr

/-- A directive before a document. Others than these two are skipped. -/
inductive Directive
  | version (major : Nat)
  | handle (name target : List Char)
  | other
deriving DecidableEq, Repr

/-- A token. -/
inductive Token
  | directive (d : Directive)
  | documentStart
  | documentEnd
  | sequenceStart
  | mappingStart
  | blockEnd
  | openList
  | closeList
  | openMapping
  | closeMapping
  | dash
  | comma
  | key
  | value
  | alias (name : List Char)
  | anchor (name : List Char)
  | tag (t : Tag)
  | scalar (text : List Char) (isPlain : Bool)
deriving DecidableEq, Repr

namespace Cursor

/-! ## Anchors and aliases -/

/-- What may follow the name of an anchor. -/
def endsAnchor (c : Option Char) : Bool :=
  endsWord c || c.any fun x =>
    x = '?' || x = ':' || x = ',' || x = ']' || x = '\x7d' || x = '%' || x = '@' || x = '\x60'

/-- The name of an anchor or an alias, behind its indicator. -/
def anchorName? (c : Cursor) : Option (List Char × Cursor) :=
  let (name, c) := c.span isNameChar
  if name ≠ [] ∧ endsAnchor c.head then some (name, c) else none

/-! ## Tags -/

/-- A character of the text of a tag; a percent sign starts an escape. -/
def isTagChar (c : Char) : Bool :=
  c.isAlphanum || "-;/?:@&=+$,_.!~*'()[]".toList.contains c

/-- The bytes of the escapes at the place. -/
def tagEscapes? : Nat → Cursor → Option (List UInt8 × Cursor)
  | 0, _ => none
  | fuel + 1, c =>
    if c.isAt '%' then
      match c.peek 1, c.peek 2 with
      | some a, some b =>
        if Digits.isHexDigit a ∧ Digits.isHexDigit b then
          (tagEscapes? fuel (c.skip 3)).map fun r =>
            (UInt8.ofNat (Digits.ofDigits 16 [a, b]) :: r.1, r.2)
        else none
      | _, _ => none
    else some ([], c)

/-- The text of a tag. -/
def tagText? : Nat → Cursor → Option (List Char × Cursor)
  | 0, _ => none
  | fuel + 1, c =>
    match c.head with
    | none => some ([], c)
    | some x =>
      if x = '%' then do
        let (bytes, c) ← tagEscapes? (c.rest.length + 1) c
        let text ← String.fromUTF8? ⟨bytes.toArray⟩
        let (rest, c) ← tagText? fuel c
        some (text.toList ++ rest, c)
      else if isTagChar x then (tagText? fuel c.advance).map fun r => (x :: r.1, r.2)
      else some ([], c)

/-- The text of a tag, which is not empty. -/
def tagSuffix? (c : Cursor) : Option (List Char × Cursor) := do
  let (text, after) ← tagText? (c.rest.length + 1) c
  if text = [] then none else some (text, after)

/-- A handle: a mark alone, or a name between two marks. -/
def tagHandle? (c : Cursor) : Option (List Char × Cursor) :=
  if !c.isAt '!' then none
  else if c.peek 1 = some ' ' then some (['!'], c.advance)
  else
    let (name, after) := c.advance.span isNameChar
    if after.isAt '!' then some ('!' :: name ++ ['!'], after.advance) else none

/-- Whether a second mark follows in the same word, so that the tag starts with a handle. -/
def hasHandle (c : Cursor) : Bool :=
  (c.advance.rest.takeWhile fun x => !(x = ' ' || isBreak x)).contains '!'

/-- A tag. -/
def tag? (c : Cursor) : Option (Tag × Cursor) := do
  let (t, c) ←
    if c.peek 1 = some '<' then do
      let (suffix, c) ← (c.skip 2).tagSuffix?
      if c.isAt '>' then some (Tag.mk none suffix, c.advance) else none
    else if endsWord (c.peek 1) then some (Tag.mk none ['!'], c.advance)
    else do
      let (handle, c) ← if c.hasHandle then c.tagHandle? else some (['!'], c.advance)
      let (suffix, c) ← c.tagSuffix?
      some (Tag.mk (some handle) suffix, c)
  if endsSpaced c.head then some (t, c) else none

/-! ## Directives -/

/-- A number in decimal digits. -/
def number? (c : Cursor) : Option (Nat × Cursor) :=
  let (digits, c) := c.span Digits.isDigit
  if digits = [] then none else some (Digits.ofDecimal digits, c)

/-- The version that a directive names. -/
def version? (c : Cursor) : Option (Directive × Cursor) := do
  let (major, c) ← c.skipSpaces.number?
  if !c.isAt '.' then none
  else do
    let (_, c) ← c.advance.number?
    if endsSpaced c.head then some (.version major, c) else none

/-- The handle that a directive introduces, with what it stands for. -/
def handleDirective? (c : Cursor) : Option (Directive × Cursor) := do
  let (name, c) ← c.skipSpaces.tagHandle?
  if !c.isAt ' ' then none
  else do
    let (target, c) ← c.skipSpaces.tagSuffix?
    if endsSpaced c.head then some (.handle name target, c) else none

/-- A directive with its line. -/
def directive? (c : Cursor) : Option (Directive × Cursor) := do
  let (name, c) := c.advance.span isNameChar
  if name = [] ∨ !endsSpaced c.head then none
  else do
    let (d, c) ←
      if name = "YAML".toList then c.version?
      else if name = "TAG".toList then c.handleDirective?
      else some (.other, c.skipWhile fun x => !isBreak x)
    let c ← c.finishLine?
    some (d, c)

end Cursor

end ApiReconciler.Yaml
