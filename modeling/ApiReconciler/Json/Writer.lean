import ApiReconciler.Json.Reader
import ApiReconciler.Value.Display

/-!
# `ApiReconciler.Json.Writer` — JSON texts of values

Every text is ASCII: other characters are written as escapes of their UTF-16 units. Values that
JSON does not know, dates and bytes, are written as texts.

## Contents
- `Json.quoted`: a text as a JSON string.
- `Json.compact`: one line, `, ` and `: ` as separators; `Json.sorted`: the same with the members of
  every object in the order of their keys; `Json.indented`: one element per line.
- `Json.written`: the text on one line, unless an integer is too long to be written.
-/

namespace ApiReconciler

open Digits

/-- The members in the order of their keys' texts; the sort is stable. -/
def Object.insertSorted (m : Scalar × Value) : Object → Object
  | [] => [m]
  | n :: ns =>
    if String.ofList m.1.display < String.ofList n.1.display then m :: n :: ns
    else n :: insertSorted m ns

/-- The members in the order of their keys' texts. -/
def Object.sorted (ms : Object) : Object := ms.foldl (fun o m => Object.insertSorted m o) []

namespace Value

mutual

/-- The value with the members of every object in it in the order of their keys. -/
def sorted : Value → Value
  | .scalar s => .scalar s
  | .list xs => .list (sortedList xs)
  | .object ms => .object (Object.sorted (sortedMembers ms))

/-- The elements of a list, sorted inside. -/
def sortedList : List Value → List Value
  | [] => []
  | x :: xs => x.sorted :: sortedList xs

/-- The members of an object, sorted inside. -/
def sortedMembers : List (Scalar × Value) → List (Scalar × Value)
  | [] => []
  | (k, v) :: ms => (k, v.sorted) :: sortedMembers ms

end

end Value

namespace Json

/-- The escape of a UTF-16 unit. -/
def unitEscape (n : Nat) : List Char := '\\' :: 'u' :: hexPadded 4 n

/-- One character inside a JSON string. -/
def charText (c : Char) : List Char :=
  if c = '"' then ['\\', '"']
  else if c = '\\' then ['\\', '\\']
  else if c = '\n' then ['\\', 'n']
  else if c = '\r' then ['\\', 'r']
  else if c = '\t' then ['\\', 't']
  else if c.toNat = 0x0C then ['\\', 'f']
  else if c.toNat = 0x08 then ['\\', 'b']
  else if 0x20 ≤ c.toNat ∧ c.toNat ≤ 0x7E then [c]
  else if c.toNat < 0x10000 then unitEscape c.toNat
  else
    let n := c.toNat - 0x10000
    unitEscape (0xD800 + n / 0x400) ++ unitEscape (0xDC00 + n % 0x400)

/-- A text as a JSON string. -/
def quotedChars (cs : List Char) : List Char := '"' :: cs.flatMap charText ++ ['"']

/-- A text as a JSON string. -/
def quoted (s : String) : String := String.ofList (quotedChars s.toList)

/-- A scalar as a JSON text. -/
def scalarChars : Scalar → List Char
  | .null => "null".toList
  | .bool true => "true".toList
  | .bool false => "false".toList
  | .int n => signed n
  | .float x => x.writtenChars .json
  | .text s => quotedChars s.toList
  | s => quotedChars s.display

/-- A key as a JSON string. -/
def keyChars : Scalar → List Char
  | .text s => quotedChars s.toList
  | .null => quotedChars "null".toList
  | .bool true => quotedChars "true".toList
  | .bool false => quotedChars "false".toList
  | .float x => quotedChars (x.writtenChars .json)
  | s => quotedChars s.display

mutual

/-- A value on one line. -/
def compactChars : Value → List Char
  | .scalar s => scalarChars s
  | .list xs => '[' :: Value.commaSeparated (compactList xs) ++ [']']
  | .object ms => '\x7b' :: Value.commaSeparated (compactMembers ms) ++ ['\x7d']

/-- The elements of a list on one line. -/
def compactList : List Value → List (List Char)
  | [] => []
  | x :: xs => compactChars x :: compactList xs

/-- The members of an object on one line. -/
def compactMembers : List (Scalar × Value) → List (List Char)
  | [] => []
  | (k, v) :: ms => (keyChars k ++ ':' :: ' ' :: compactChars v) :: compactMembers ms

end

/-- A value on one line. -/
def compact (v : Value) : String := String.ofList (compactChars v)

/-- A value on one line, the members of every object in the order of their keys. -/
def sorted (v : Value) : String := compact v.sorted

/-- A value on one line, or why it cannot be written. -/
def written (v : Value) : Except Error String :=
  if v.isWritable then .ok (compact v) else .error (.integerTooLong none)

/-- A new line with an indentation of two spaces per level. -/
def newLine (level : Nat) : List Char := '\n' :: List.replicate (2 * level) ' '

/-- Parts on lines of their own, between brackets, the closing one a level further out. -/
def block (level : Nat) (opening closing : Char) (parts : List (List Char)) : List Char :=
  match parts with
  | [] => [opening, closing]
  | p :: ps =>
    opening :: newLine (level + 1) ++ p ++ ps.flatMap (fun q => ',' :: newLine (level + 1) ++ q) ++
      newLine level ++ [closing]

mutual

/-- A value with one element per line, standing at a level of indentation. -/
def indentedChars (level : Nat) : Value → List Char
  | .scalar s => scalarChars s
  | .list xs => block level '[' ']' (indentedList (level + 1) xs)
  | .object ms => block level '\x7b' '\x7d' (indentedMembers (level + 1) ms)

/-- The elements of a list at a level of indentation. -/
def indentedList (level : Nat) : List Value → List (List Char)
  | [] => []
  | x :: xs => indentedChars level x :: indentedList level xs

/-- The members of an object at a level of indentation. -/
def indentedMembers (level : Nat) : List (Scalar × Value) → List (List Char)
  | [] => []
  | (k, v) :: ms => (keyChars k ++ ':' :: ' ' :: indentedChars level v) :: indentedMembers level ms

end

/-- A value with one element per line. -/
def indented (v : Value) : String := String.ofList (indentedChars 0 v)

end Json

end ApiReconciler
