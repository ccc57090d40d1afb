import ApiReconciler.Text.CaseTable

/-!
# `ApiReconciler.Text.CaseMap` — lower and upper case

Case mappings of whole texts by the rules of Unicode: one character may become several, and a
capital sigma at the end of a word becomes the final form.

## Contents
- `Text.lower`, `Text.upper`, and their forms `lowerChars`, `upperChars` on characters.
- `endsWord`: where a capital sigma takes its final form.
-/

namespace ApiReconciler.Text

/-- The code point at the distance that a run assigns to `n`, if the run covers it. -/
def runImage? (n : Nat) (r : Nat × Nat × Nat × Int) : Option Nat :=
  if r.1 ≤ n ∧ n ≤ r.2.1 ∧ (n - r.1) % r.2.2.1 = 0 then some ((n : Int) + r.2.2.2).toNat else none

/-- The counterpart of a character in a table of runs; itself when there is none. -/
def image (runs : List (Nat × Nat × Nat × Int)) (c : Char) : Char :=
  match runs.findSome? (runImage? c.toNat) with
  | some n => Char.ofNat n
  | none => c

/-- Whether a table of ranges covers a character. -/
def covers (ranges : List (Nat × Nat)) (c : Char) : Bool :=
  ranges.any (fun r => r.1 ≤ c.toNat && c.toNat ≤ r.2)

/-- The first character that is not skipped takes part in case. -/
def meetsCased (cs : List Char) : Bool :=
  match cs.dropWhile (covers CaseTable.caseIgnorable) with
  | [] => false
  | c :: _ => covers CaseTable.cased c

/-- A capital sigma between `before`, read backwards, and `after` ends a word when a cased character
precedes it and none follows it, ignorable characters being skipped. -/
def endsWord (before after : List Char) : Bool := meetsCased before && !meetsCased after

/-- The lower case of one character between its neighbours. -/
def lowerChar (before : List Char) (c : Char) (after : List Char) : List Char :=
  if c.toNat < 0x80 then (if 'A' ≤ c ∧ c ≤ 'Z' then [Char.ofNat (c.toNat + 32)] else [c])
  else if c.toNat = 0x3A3 then
    (if endsWord before after then [Char.ofNat 0x3C2] else [Char.ofNat 0x3C3])
  else if c.toNat = 0x130 then ['i', Char.ofNat 0x307]
  else [image CaseTable.lowerRuns c]

/-- Lower case, `before` being the characters already passed, last one first. -/
def lowerFrom (before : List Char) : List Char → List Char
  | [] => []
  | c :: cs => lowerChar before c cs ++ lowerFrom (c :: before) cs

/-- Lower case. -/
def lowerChars (cs : List Char) : List Char := lowerFrom [] cs

/-- Lower case. -/
def lower (s : String) : String := String.ofList (lowerChars s.toList)

/-- The upper case of one character. -/
def upperChar (c : Char) : List Char :=
  if c.toNat < 0x80 then (if 'a' ≤ c ∧ c ≤ 'z' then [Char.ofNat (c.toNat - 32)] else [c])
  else match CaseTable.upperExpansions.lookup c.toNat with
    | some ns => ns.map Char.ofNat
    | none => [image CaseTable.upperRuns c]

/-- Upper case. -/
def upperChars (cs : List Char) : List Char := cs.flatMap upperChar

/-- Upper case. -/
def upper (s : String) : String := String.ofList (upperChars s.toList)

end ApiReconciler.Text
