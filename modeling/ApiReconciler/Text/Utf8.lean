/-!
# `ApiReconciler.Text.Utf8` — characters, bytes and line ends of texts

A text is made of characters, and half a surrogate pair is none. Texts with such a half are not part of the model:
all texts have bytes, and where an escape stands for half a pair, in JSON or in YAML, the character for what cannot
be shown takes its place.

## Contents
- `ofCodePoint`: the character of a code point.
- `utf8`, `ofUtf8?`: the bytes of a text and the text of bytes, if they encode one.
- `unifyLineEnds`: every line end becomes a line feed.
-/

namespace ApiReconciler.Text

/-- The character of a code point. Half a surrogate pair stands for no character and is replaced. -/
def ofCodePoint (n : Nat) : Char := if n.isValidChar then Char.ofNat n else '\uFFFD'

/-- The UTF-8 bytes of a text. -/
def utf8 (s : String) : List UInt8 := s.toUTF8.toList

/-- The text that bytes encode, if they are valid UTF-8. -/
def ofUtf8? (bs : List UInt8) : Option String := String.fromUTF8? ⟨bs.toArray⟩

/-- A carriage return, with a line feed after it or without one, becomes a line feed. -/
def unifyLineEndsChars : List Char → List Char
  | '\r' :: '\n' :: cs => '\n' :: unifyLineEndsChars cs
  | '\r' :: cs => '\n' :: unifyLineEndsChars cs
  | c :: cs => c :: unifyLineEndsChars cs
  | [] => []

/-- A carriage return, with a line feed after it or without one, becomes a line feed. -/
def unifyLineEnds (s : String) : String := String.ofList (unifyLineEndsChars s.toList)

end ApiReconciler.Text
