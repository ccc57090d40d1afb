import ApiReconciler.Text.Blank
import ApiReconciler.Text.CellWidth

/-!
# `ApiReconciler.Table` — tables on a terminal

A table with a title, a row of headings under heavy rules and rows of texts under light ones. Every
cell has a space on both sides. A table that is too wide is narrowed at its widest columns, and the
texts in them are wrapped between words; a word that does not fit is cut.

## Contents
- `Table`, with `Table.columnWidths` and `Table.lines`.
-/

namespace ApiReconciler

open Text

/-- A table. -/
structure Table where
  title : List Char
  headings : List (List Char)
  rows : List (List (List Char))
deriving Repr

namespace Table

/-! ## Lines of texts -/

/-- The lines of a text. -/
def textLines : List Char → List (List Char)
  | [] => [[]]
  | '\n' :: cs => [] :: textLines cs
  | c :: cs =>
    match textLines cs with
    | line :: lines => (c :: line) :: lines
    | [] => [[c]]

/-- The words of a line, each with the blanks behind it; the first one also has those before. -/
def wordsFrom : Nat → List Char → List (List Char)
  | 0, _ => []
  | fuel + 1, cs =>
    let lead := cs.takeWhile isBlank
    let core := (cs.drop lead.length).takeWhile fun c => !isBlank c
    if core = [] then []
    else
      let tail := (cs.drop (lead.length + core.length)).takeWhile isBlank
      let word := lead ++ core ++ tail
      word :: wordsFrom fuel (cs.drop word.length)

/-- The words of a line. -/
def words (cs : List Char) : List (List Char) := wordsFrom (cs.length + 1) cs

/-- Words gathered into lines of a width; `used` cells of the present line are taken. -/
def gather (width : Nat) : Nat → List Char → List (List Char) → List (List Char)
  | _, line, [] => [line]
  | used, line, word :: rest =>
    if textWidth (dropEndWhile isBlank word) ≤ width - used ∨ used = 0 ∨ line = [] then
      let fits : Bool := textWidth (dropEndWhile isBlank word) ≤ width - used
      gather width (if fits then used + textWidth word else used) (line ++ word) rest
    else line :: gather width (textWidth word) word rest

/-- Without the blanks at the end that go beyond a width. -/
def cropBlanks (width : Nat) (cs : List Char) : List Char :=
  let blanks := cs.length - (dropEndWhile isBlank cs).length
  cs.take (cs.length - min blanks (cs.length - width))

/-- The front of a text within a number of cells. -/
def takeCells : Nat → List Char → List Char
  | _, [] => []
  | n, c :: cs => if cellWidth c ≤ n then c :: takeCells (n - cellWidth c) cs else []

/-- Filled up with spaces to a width. -/
def pad (width : Nat) (cs : List Char) : List Char :=
  cs ++ List.replicate (width - textWidth cs) ' '

/-- Cut to a width, with a mark where something is missing. -/
def cut (width : Nat) (cs : List Char) : List Char :=
  if textWidth cs ≤ width then cs else pad (width - 1) (takeCells (width - 1) cs) ++ ['…']

/-- The lines of a cell, all of one width. -/
def cellLines (width : Nat) (cs : List Char) : List (List Char) :=
  (textLines cs).flatMap fun line =>
    (gather width 0 [] (words line)).map fun l => pad width (cut width (cropBlanks width l))

/-! ## Widths -/

/-- The cells of a column. -/
def column (t : Table) (n : Nat) : List (List Char) :=
  (t.headings :: t.rows).map fun row => (row[n]?).getD []

/-- The width of a text with a space on both sides. -/
def paddedWidth (cs : List Char) : Nat :=
  (((textLines cs).map textWidth).foldl max 0) + 2

/-- The widths that the cells ask for. -/
def naturalWidths (t : Table) (limit : Nat) : List Nat :=
  (List.range t.headings.length).map fun n =>
    min limit (((t.column n).map paddedWidth).foldl max 0)

/-- A quotient rounded to the nearest number, half to the even one. -/
def roundedQuotient (n d : Nat) : Nat :=
  let q := n / d
  let r := 2 * (n % d)
  if r < d then q else if d < r then q + 1 else if q % 2 = 0 then q else q + 1

/-- Widths reduced by `excess` in all, by at most `most` each, evenly among the chosen ones, of
which `count` are left. -/
def reduce (most : Nat) : Nat → Nat → List (Nat × Bool) → List Nat
  | _, _, [] => []
  | excess, count, (w, chosen) :: rest =>
    if chosen ∧ 0 < count then
      let part := min most (roundedQuotient excess count)
      (w - part) :: reduce most (excess - part) (count - 1) rest
    else w :: reduce most excess count rest

/-- The sum of widths. -/
def total (widths : List Nat) : Nat := widths.foldl (· + ·) 0

/-- The greatest width below the greatest one. -/
def secondWidth (widths : List Nat) : Nat :=
  (widths.filter (· ≠ widths.foldl max 0)).foldl max 0

/-- Widths narrowed from the widest ones down until they fit a limit. -/
def narrow (limit : Nat) : Nat → List Nat → List Nat
  | 0, widths => widths
  | fuel + 1, widths =>
    let excess := total widths - limit
    let widest := widths.foldl max 0
    let difference := widest - secondWidth widths
    if excess = 0 ∨ difference = 0 then widths
    else
      narrow limit fuel
        (reduce (min excess difference) excess (widths.count widest)
          (widths.map fun w => (w, w = widest)))

/-- Widths narrowed evenly, when nothing else helps. -/
def narrowEvenly (limit : Nat) (widths : List Nat) : List Nat :=
  let rec go (excess count : Nat) : List Nat → List Nat
    | [] => []
    | w :: rest =>
      let part := min w (roundedQuotient excess count)
      (w - part) :: go (excess - part) (count - 1) rest
  if total widths ≤ limit then widths else go (total widths - limit) widths.length widths

/-- The widths of the columns on a terminal of a given width. -/
def columnWidths (t : Table) (terminal : Nat) : List Nat :=
  let limit := terminal - (t.headings.length + 1)
  let widths := t.naturalWidths limit
  narrowEvenly limit (narrow limit (total widths + 1) widths)

/-! ## Drawing -/

/-- Parts between rules. -/
def between (left middle right : Char) : List (List Char) → List Char
  | [] => [left, right]
  | x :: xs => left :: x ++ xs.flatMap (fun y => middle :: y) ++ [right]

/-- A horizontal rule. -/
def rule (widths : List Nat) (left line middle right : Char) : List Char :=
  between left middle right (widths.map fun w => List.replicate w line)

/-- The lines of a row of cells. -/
def rowLines (widths : List Nat) (bar : Char) (row : List (List Char)) : List (List Char) :=
  let cells := (widths.zip row).map fun c => cellLines (c.1 - 2) c.2
  let height := (cells.map List.length).foldl max 1
  (List.range height).map fun n =>
    between bar bar bar ((widths.zip cells).map fun c =>
      ' ' :: ((c.2[n]?).getD (List.replicate (c.1 - 2) ' ')) ++ [' '])

/-- The title in the middle of a width. -/
def titleLine (width : Nat) (title : List Char) : List Char :=
  let text := cut width (trimChars title)
  pad width (List.replicate ((width - textWidth text) / 2) ' ' ++ text)

/-- The lines of a table on a terminal of a given width. -/
def lines (t : Table) (terminal : Nat) : List (List Char) :=
  let widths := t.columnWidths terminal
  let width := total widths + t.headings.length + 1
  [titleLine width t.title, rule widths '┏' '━' '┳' '┓'] ++ rowLines widths '┃' t.headings ++
    [rule widths '┡' '━' '╇' '┩'] ++ t.rows.flatMap (rowLines widths '│') ++
    [rule widths '└' '─' '┴' '┘']

end Table

end ApiReconciler
