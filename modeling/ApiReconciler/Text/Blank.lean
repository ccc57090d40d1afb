/-!
# `ApiReconciler.Text.Blank` — blank characters and trimming

## Contents
- `isBlank`: the characters that trimming removes, the Unicode spaces and the separators of lines
  and records.
- `trim`: a text without the blanks at both ends.
-/

namespace ApiReconciler.Text

/-- A space, a line or record separator, or a tabulator. -/
def isBlank (c : Char) : Bool :=
  let n := c.toNat
  (0x9 ≤ n && n ≤ 0xD) || (0x1C ≤ n && n ≤ 0x20) || n = 0x85 || n = 0xA0 || n = 0x1680 ||
    (0x2000 ≤ n && n ≤ 0x200A) || n = 0x2028 || n = 0x2029 || n = 0x202F || n = 0x205F ||
    n = 0x3000

/-- Without the characters of a class at the end. -/
def dropEndWhile (p : Char → Bool) (cs : List Char) : List Char :=
  (cs.reverse.dropWhile p).reverse

/-- Without the blanks at both ends. -/
def trimChars (cs : List Char) : List Char := dropEndWhile isBlank (cs.dropWhile isBlank)

/-- Without the blanks at both ends. -/
def trim (s : String) : String := String.ofList (trimChars s.toList)

end ApiReconciler.Text
