/-!
# `ApiReconciler.Path` — names of files

A path as its root and its parts. Empty parts and single dots are dropped, double dots are kept,
since what they lead to depends on the files.

## Contents
- `Path`, read by `Path.ofText` and written by `Path.text`.
- `Path.parent`, `Path.join`, `Path.suffix`.
-/

namespace ApiReconciler

/-- A path. The root is empty, one slash, or exactly two slashes. -/
structure Path where
  root : String
  parts : List String
deriving DecidableEq, Repr

namespace Path

/-- The texts between the slashes. -/
def splitSlashes : List Char → List (List Char)
  | [] => [[]]
  | '/' :: cs => [] :: splitSlashes cs
  | c :: cs =>
    match splitSlashes cs with
    | part :: parts => (c :: part) :: parts
    | [] => [[c]]

/-- The root of a path. -/
def rootOf : List Char → String
  | '/' :: '/' :: '/' :: _ => "/"
  | '/' :: '/' :: _ => "//"
  | '/' :: _ => "/"
  | _ => ""

/-- Whether a part says something. -/
def isPart (part : List Char) : Bool := part ≠ [] && part ≠ ['.']

/-- The path that a text names. -/
def ofText (text : String) : Path :=
  { root := rootOf text.toList
    parts := ((splitSlashes text.toList).filter isPart).map String.ofList }

/-- The path as text; the path without root and parts is a dot. -/
def text (p : Path) : String :=
  if p.root = "" ∧ p.parts = [] then "." else p.root ++ "/".intercalate p.parts

/-- The path of the directory. -/
def parent (p : Path) : Path := { p with parts := p.parts.dropLast }

/-- A path continued by a text; one with a root starts anew. -/
def join (p : Path) (text : String) : Path :=
  let q := ofText text
  if q.root = "" then { p with parts := p.parts ++ q.parts } else q

/-- The last point of a name with what follows it; nothing when the point is at either end. -/
def suffixChars (name : List Char) : List Char :=
  let after := (name.reverse.takeWhile (· ≠ '.')).reverse
  if after = [] ∨ name.length ≤ after.length + 1 then [] else '.' :: after

/-- The suffix of the last part. -/
def suffix (p : Path) : String :=
  match p.parts.getLast? with
  | none => ""
  | some name => String.ofList (suffixChars name.toList)

end Path

end ApiReconciler
