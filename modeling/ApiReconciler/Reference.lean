import ApiReconciler.Json.Reader
import ApiReconciler.Json.Writer
import ApiReconciler.Text.Blank

/-!
# `ApiReconciler.Reference` — deployment references

The reference that the control plane keeps between reconciliations. It is written as the gateway's
object of the API in JSON, and read from this form, from a discovery artifact (a list that starts
with the object) and from a bare identifier.

## Contents
- `Reference`: an API with what else is known of it; `ReferenceError`: why a text is none.
- `Reference.toText`, `Reference.written`: the written form; `Reference.parse`: its reader.
- `artifactText`: the object of an API together with its exported document.
-/

namespace ApiReconciler

/-- A reference to a deployed API. -/
structure Reference where
  api : String
  metadata : Object
deriving Repr

/-- Why a text is no reference; the text is cut to its first eighty characters. -/
inductive ReferenceError
  | empty
  | unrecognized (excerpt : String)
  | noApi (excerpt : String)
deriving DecidableEq, Repr

/-- The reason in words. -/
def ReferenceError.message : ReferenceError → String
  | .empty => "Empty deployment reference"
  | .unrecognized excerpt => "Unrecognized deployment reference: " ++ excerpt
  | .noApi excerpt => "Deployment reference carries no API id: " ++ excerpt

/-- The members of a reply that describe the API, without those that describe the reply. -/
def apiMembers (reply : Object) : Object := reply.erase "ResponseMetadata"

namespace Reference

/-- The reference as an object. -/
def toValue (r : Reference) : Value := .object (r.metadata.set (.text "id") (.text r.api))

/-- The written form of a reference. -/
def toText (r : Reference) : String := Json.sorted r.toValue

/-- The written form of a reference, or why it has none. -/
def written (r : Reference) : Except Json.Error String := Json.written r.toValue.sorted

/-- The characters that a bare identifier does not contain. -/
def isDelimiter (c : Char) : Bool :=
  c = ' ' || c = '\x7b' || c = '\x7d' || c = '[' || c = ']' || c = '"' || c = '\''

/-- The first eighty characters. -/
def excerpt (cs : List Char) : String := String.ofList (cs.take 80)

/-- The value that names an API: the first element of a list, or the value itself. -/
def head : Value → Value
  | .list (v :: _) => v
  | v => v

/-- The reference that a value denotes: a text, an integer, or an object with an `id`. -/
def ofValue? : Value → Option Reference
  | .text s => if s = "" then none else some ⟨s, []⟩
  | .int n => some ⟨String.ofList (Digits.signed n), []⟩
  | .object ms =>
    match Object.get? "id" ms with
    | some (.text s) => if s = "" then none else some ⟨s, Object.erase "id" ms⟩
    | _ => none
  | _ => none

/-- The reference that a trimmed text denotes. -/
def parseChars (cs : List Char) : Except ReferenceError Reference :=
  if cs = [] then .error .empty
  else match Json.parseChars cs with
    | .error _ =>
      if cs.any isDelimiter then .error (.unrecognized (excerpt cs))
      else .ok ⟨String.ofList cs, []⟩
    | .ok v =>
      match ofValue? (head v) with
      | some r => .ok r
      | none => .error (.noApi (excerpt cs))

/-- The reference that a text denotes. -/
def parse (text : String) : Except ReferenceError Reference := parseChars (Text.trimChars text.toList)

end Reference

/-- An API's object and its exported document as one JSON list. -/
def artifactText (api : Object) (document : String) : Except Json.Error String :=
  (Json.parse document).bind fun v => Json.written (.list [.object (apiMembers api), v])

end ApiReconciler
