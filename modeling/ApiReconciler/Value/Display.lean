import ApiReconciler.Number.Written
import ApiReconciler.Text.Quoted
import ApiReconciler.Value.Basic

/-!
# `ApiReconciler.Value.Display` — values in messages and names

## Contents
- `Value.display`: a value as text. A text is shown as it is, unless it stands inside a list or an
  object, where it is quoted; so are dates and moments, which are written out there as what makes
  them.
- `Value.isWritable`: whether no integer in a value has too many digits for its decimal form;
  `Value.display?`: the text of a value that is so.
-/

namespace ApiReconciler

open Digits

/-- Parts with a comma and a space between them. -/
def Value.commaSeparated : List (List Char) → List Char
  | [] => []
  | [x] => x
  | x :: xs => x ++ ',' :: ' ' :: Value.commaSeparated xs

/-! ## Dates and moments inside others -/

/-- A date by its numbers. -/
def Date.shown (d : Date) : List Char :=
  "datetime.date(".toList ++ Value.commaSeparated ([d.year, d.month, d.day].map decimal) ++ [')']

/-- The numbers of a moment: those of its date, the hour, the minute, and the rest as far as it is
not zero. -/
def Moment.parts (m : Moment) : List Nat :=
  [m.date.year, m.date.month, m.date.day, m.hour, m.minute] ++
    (if m.micro ≠ 0 then [m.second, m.micro] else if m.second ≠ 0 then [m.second] else [])

/-- An offset by the distance that it is. -/
def shownOffset (seconds : Int) : List Char :=
  if seconds = 0 then "datetime.timezone.utc".toList
  else "datetime.timezone(".toList ++ (distanceText seconds).toList ++ [')']

/-- A moment by its numbers and its offset. -/
def Moment.shown (m : Moment) : List Char :=
  let zone := match m.offset with
    | none => []
    | some s => ["tzinfo=".toList ++ shownOffset s]
  "datetime.datetime(".toList ++ Value.commaSeparated (m.parts.map decimal ++ zone) ++ [')']

/-! ## Values as texts -/

/-- A scalar inside a list or an object. -/
def Scalar.shown : Scalar → List Char
  | .null => "None".toList
  | .bool true => "True".toList
  | .bool false => "False".toList
  | .int n => signed n
  | .float x => x.writtenChars .plain
  | .text s => Text.quotedChars s.toList
  | .date d => d.shown
  | .moment m => m.shown
  | .bytes bs => Text.quotedBytes bs
  | .stream bs => Text.quotedBytes bs

/-- A scalar on its own. -/
def Scalar.display : Scalar → List Char
  | .text s => s.toList
  | .date d => d.isoChars
  | .moment m => m.date.isoChars ++ ' ' :: m.timeChars
  | s => s.shown

namespace Value

mutual

/-- A value inside a list or an object. -/
def shown : Value → List Char
  | .scalar s => s.shown
  | .list xs => '[' :: commaSeparated (shownList xs) ++ [']']
  | .object ms => '\x7b' :: commaSeparated (shownMembers ms) ++ ['\x7d']

/-- The elements of a list. -/
def shownList : List Value → List (List Char)
  | [] => []
  | x :: xs => x.shown :: shownList xs

/-- The members of an object. -/
def shownMembers : List (Scalar × Value) → List (List Char)
  | [] => []
  | (k, v) :: ms => (k.shown ++ ':' :: ' ' :: v.shown) :: shownMembers ms

end

/-- A value as text. -/
def display : Value → String
  | .scalar s => String.ofList s.display
  | v => String.ofList v.shown

end Value

/-! ## Values without a text -/

/-- Whether a scalar is no integer with too many digits. -/
def Scalar.isWritable : Scalar → Bool
  | .int n => (decimal n.natAbs).length ≤ maxIntegerDigits
  | _ => true

namespace Value

mutual

/-- Whether no integer in a value has too many digits. -/
def isWritable : Value → Bool
  | .scalar s => s.isWritable
  | .list xs => areWritable xs
  | .object ms => membersAreWritable ms

/-- Whether no integer in the elements of a list has too many digits. -/
def areWritable : List Value → Bool
  | [] => true
  | x :: xs => x.isWritable && areWritable xs

/-- Whether no integer in the members of an object has too many digits. -/
def membersAreWritable : List (Scalar × Value) → Bool
  | [] => true
  | (k, v) :: ms => k.isWritable && v.isWritable && membersAreWritable ms

end

/-- A value as text, if it can be written. -/
def display? (v : Value) : Option String := if v.isWritable then some v.display else none

end Value

end ApiReconciler
