import ApiReconciler.Digits

/-!
# `ApiReconciler.Calendar` — dates and moments

Calendar dates and moments of the proleptic Gregorian calendar with microseconds and an optional
offset from universal time, and their ISO 8601 texts.

## Contents
- `Date`, `Moment`: the values; `CalendarError`: why numbers denote none.
- `Date.check`, `Moment.check`: the first reason, in order of significance.
- `Date.iso`, `Moment.iso`: written forms; `Moment.ofIso?`: the reader of moments.
-/

namespace ApiReconciler

open Digits

/-- A calendar date. -/
structure Date where
  year : Nat
  month : Nat
  day : Nat
deriving DecidableEq, Repr

/-- A date with a time of day; `offset` is the distance from universal time in seconds, absent for
a moment without a zone. -/
structure Moment where
  date : Date
  hour : Nat
  minute : Nat
  second : Nat
  micro : Nat
  offset : Option Int
deriving DecidableEq, Repr

/-- Why numbers do not denote a date or a moment. -/
inductive CalendarError
  | year (given : Nat)
  | month
  | day
  | hour
  | minute
  | second
  | offset (seconds : Int)
deriving DecidableEq, Repr

/-- A distance in time as the days before it and the seconds of the day; what is zero is left
out. -/
def distanceText (seconds : Int) : String :=
  let days := seconds / 86400
  let rest := seconds % 86400
  let daysText := if days = 0 then [] else "days=".toList ++ signed days
  let joint := if days = 0 ∨ rest = 0 then [] else ", ".toList
  let restText := if rest = 0 then [] else "seconds=".toList ++ signed rest
  String.ofList ("datetime.timedelta(".toList ++ daysText ++ joint ++ restText ++ [')'])

/-- The reason in words. -/
def CalendarError.message : CalendarError → String
  | .year n => s!"year {n} is out of range"
  | .month => "month must be in 1..12"
  | .day => "day is out of range for month"
  | .hour => "hour must be in 0..23"
  | .minute => "minute must be in 0..59"
  | .second => "second must be in 0..59"
  | .offset seconds =>
    "offset must be a timedelta strictly between -timedelta(hours=24) and timedelta(hours=24), not " ++
      distanceText seconds

/-! ## Validity -/

/-- Every fourth year is a leap year, save centuries not divisible by four hundred. -/
def isLeap (year : Nat) : Bool := year % 4 = 0 && (year % 100 ≠ 0 || year % 400 = 0)

/-- The number of days of a month of a year. -/
def daysIn (year month : Nat) : Nat :=
  if month = 2 then (if isLeap year then 29 else 28)
  else if month ∈ [4, 6, 9, 11] then 30 else 31

/-- The first reason why a date is none, if any. -/
def Date.check (d : Date) : Option CalendarError :=
  if d.year = 0 ∨ 9999 < d.year then some (.year d.year)
  else if d.month = 0 ∨ 12 < d.month then some .month
  else if d.day = 0 ∨ daysIn d.year d.month < d.day then some .day
  else none

/-- An offset has to stay below a day in both directions. -/
def checkOffset (seconds : Int) : Option CalendarError :=
  if 86400 ≤ seconds.natAbs then some (.offset seconds) else none

/-- The first reason why a moment is none, if any. -/
def Moment.check (m : Moment) : Option CalendarError :=
  match m.date.check with
  | some e => some e
  | none =>
    if 23 < m.hour then some .hour
    else if 59 < m.minute then some .minute
    else if 59 < m.second then some .second
    else m.offset.bind checkOffset

/-! ## Written forms -/

/-- `YYYY-MM-DD`. -/
def Date.isoChars (d : Date) : List Char :=
  padded 4 d.year ++ '-' :: padded 2 d.month ++ '-' :: padded 2 d.day

/-- `YYYY-MM-DD`. -/
def Date.iso (d : Date) : String := String.ofList d.isoChars

/-- An offset as a sign, hours, minutes and, only when there are any, seconds. -/
def offsetChars (seconds : Int) : List Char :=
  let n := seconds.natAbs
  (if seconds < 0 then '-' else '+') :: padded 2 (n / 3600) ++ ':' :: padded 2 (n / 60 % 60) ++
    (if n % 60 = 0 then [] else ':' :: padded 2 (n % 60))

/-- The time of day; microseconds are written only when there are any. -/
def Moment.timeChars (m : Moment) : List Char :=
  padded 2 m.hour ++ ':' :: padded 2 m.minute ++ ':' :: padded 2 m.second ++
    (if m.micro = 0 then [] else '.' :: padded 6 m.micro) ++
    (match m.offset with | none => [] | some s => offsetChars s)

/-- The ISO 8601 text of a moment with a given character between date and time. -/
def Moment.isoWith (separator : Char) (m : Moment) : String :=
  String.ofList (m.date.isoChars ++ separator :: m.timeChars)

/-- The ISO 8601 text of a moment. -/
def Moment.iso (m : Moment) : String := m.isoWith 'T'

/-! ## Reading -/

/-- A fixed number of digits at the front, with the rest. -/
def takeNumber? (width : Nat) (cs : List Char) : Option (Nat × List Char) :=
  let front := cs.take width
  if front.length = width ∧ front.all isDigit then some (ofDecimal front, cs.drop width) else none

/-- A given character at the front, with the rest. -/
def takeChar? (c : Char) : List Char → Option (List Char)
  | [] => none
  | d :: cs => if d = c then some cs else none

/-- A fraction of a second in digits, as microseconds: further digits are dropped. -/
def microOfDigits (cs : List Char) : Nat :=
  let front := cs.take 6
  ofDecimal front * Nat.pow 10 (6 - front.length)

/-- `YYYY-MM-DD` at the front, with the rest. -/
def Date.take? (cs : List Char) : Option (Date × List Char) := do
  let (year, cs) ← takeNumber? 4 cs
  let cs ← takeChar? '-' cs
  let (month, cs) ← takeNumber? 2 cs
  let cs ← takeChar? '-' cs
  let (day, cs) ← takeNumber? 2 cs
  some (⟨year, month, day⟩, cs)

/-- An offset that takes up all of the text: none, `Z`, or a signed distance. -/
def takeOffset? : List Char → Option (Option Int)
  | [] => some none
  | ['Z'] => some (some 0)
  | c :: cs =>
    if c = '+' ∨ c = '-' then do
      let (h, cs) ← takeNumber? 2 cs
      let cs ← takeChar? ':' cs
      let (m, cs) ← takeNumber? 2 cs
      let total : Nat := h * 3600 + m * 60
      match cs with
      | [] => some (some (if c = '-' then -(total : Int) else total))
      | ':' :: cs =>
        match takeNumber? 2 cs with
        | some (s, []) => some (some (if c = '-' then -((total + s : Nat) : Int) else (total + s : Nat)))
        | _ => none
      | _ => none
    else none

/-- The moment that an ISO 8601 text denotes. -/
def Moment.ofIso? (text : String) : Option Moment := do
  let (date, cs) ← Date.take? text.toList
  let (hour, cs) ← takeNumber? 2 (cs.drop 1)
  let cs ← takeChar? ':' cs
  let (minute, cs) ← takeNumber? 2 cs
  let cs ← takeChar? ':' cs
  let (second, cs) ← takeNumber? 2 cs
  let (micro, cs) := match cs with
    | '.' :: cs => (microOfDigits (cs.takeWhile isDigit), cs.dropWhile isDigit)
    | cs => (0, cs)
  let offset ← takeOffset? cs
  let m : Moment := ⟨date, hour, minute, second, micro, offset⟩
  if m.check.isNone then some m else none

end ApiReconciler
