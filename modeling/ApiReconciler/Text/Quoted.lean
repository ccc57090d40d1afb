import ApiReconciler.Digits
import ApiReconciler.Text.Printable

/-!
# `ApiReconciler.Text.Quoted` — quoted texts in messages

A text in quotes with everything unprintable escaped, as messages show a key or a name.

## Contents
- `quoteFor`: single quotes, unless the text has some and no double quotes.
- `quoted`: the text in these quotes; `quotedBytes` for bytes.
-/

namespace ApiReconciler.Text

open Digits

/-- The quotation mark for a text: double when it holds single ones only. -/
def quoteFor (cs : List Char) : Char :=
  if '\'' ∈ cs ∧ '"' ∉ cs then '"' else '\''

/-- A code point as an escape of two, four or eight hexadecimal digits. -/
def escapeCode (n : Nat) : List Char :=
  if n < 0x100 then '\\' :: 'x' :: hexPadded 2 n
  else if n < 0x10000 then '\\' :: 'u' :: hexPadded 4 n
  else '\\' :: 'U' :: hexPadded 8 n

/-- One character of a text in the given quotes. -/
def quotedChar (quote c : Char) : List Char :=
  if c = quote ∨ c = '\\' then ['\\', c]
  else if c = '\t' then ['\\', 't']
  else if c = '\n' then ['\\', 'n']
  else if c = '\r' then ['\\', 'r']
  else if isPrintable c then [c]
  else escapeCode c.toNat

/-- A text in quotes. -/
def quotedChars (cs : List Char) : List Char :=
  let q := quoteFor cs
  q :: cs.flatMap (quotedChar q) ++ [q]

/-- A text in quotes. -/
def quoted (s : String) : String := String.ofList (quotedChars s.toList)

/-- One byte in the given quotes; bytes outside ASCII are escaped. -/
def quotedByte (quote : Char) (b : UInt8) : List Char :=
  if b.toNat < 0x80 then quotedChar quote (Char.ofNat b.toNat) else escapeCode b.toNat

/-- Bytes in quotes, marked with a `b`. -/
def quotedBytes (bs : List UInt8) : List Char :=
  let q := quoteFor (bs.map fun b => Char.ofNat b.toNat)
  'b' :: q :: bs.flatMap (quotedByte q) ++ [q]

end ApiReconciler.Text
