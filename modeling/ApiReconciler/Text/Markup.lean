import ApiReconciler.Text.Blank

/-!
# `ApiReconciler.Text.Markup` — texts with style tags

A tag in square brackets starts a style, a tag with a slash ends one. A backslash before a tag makes
it text.

## Contents
- `stripMarkup?`: the text without its tags, none when a tag ends a style that was not started.
-/

namespace ApiReconciler.Text

/-- A character that a tag may start with. -/
def startsTag (c : Char) : Bool :=
  ('a' ≤ c && c ≤ 'z') || c = '#' || c = '/' || c = '@'

/-- The inside of a tag behind its opening bracket, with the rest behind the closing one. -/
def tagAt? (cs : List Char) : Option (List Char × List Char) :=
  match cs with
  | [] => none
  | c :: rest =>
    let inside := rest.takeWhile fun x => x ≠ '[' && x ≠ ']'
    match rest.drop inside.length with
    | ']' :: after => if startsTag c then some (c :: inside, after) else none
    | _ => none

/-- The name of a style in a tag. -/
def styleName (inside : List Char) : List Char :=
  (trimChars (inside.takeWhile (· ≠ '='))).map Char.toLower

/-- The open styles after a tag. -/
def applyTag? (openStyles : List (List Char)) (inside : List Char) : Option (List (List Char)) :=
  match inside with
  | '/' :: name =>
    if styleName name = [] then
      match openStyles with
      | [] => none
      | _ :: rest => some rest
    else if openStyles.contains (styleName name) then some (openStyles.erase (styleName name))
    else none
  | name => some (styleName name :: openStyles)

/-- The text without tags, from a place on; `slashes` backslashes stand before the place. -/
def stripFrom? : Nat → List (List Char) → Nat → List Char → Option (List Char)
  | 0, _, _, _ => none
  | _, _, slashes, [] => some (List.replicate slashes '\\')
  | fuel + 1, openStyles, slashes, c :: cs =>
    if c = '\\' then stripFrom? fuel openStyles (slashes + 1) cs
    else
      match if c = '[' then tagAt? cs else none with
      | none =>
        (stripFrom? fuel openStyles 0 cs).map fun rest =>
          List.replicate (if c = '[' then slashes - 1 else slashes) '\\' ++ c :: rest
      | some (inside, after) =>
        let kept := List.replicate (slashes / 2) '\\'
        if slashes % 2 = 1 then
          (stripFrom? fuel openStyles 0 after).map fun rest =>
            kept ++ '[' :: inside ++ ']' :: rest
        else
          match applyTag? openStyles inside with
          | none => none
          | some openStyles =>
            (stripFrom? fuel openStyles 0 after).map fun rest => kept ++ rest

/-- The text without its tags. -/
def stripMarkup? (cs : List Char) : Option (List Char) :=
  if cs.contains '[' then stripFrom? (cs.length + 1) [] 0 cs else some cs

end ApiReconciler.Text
