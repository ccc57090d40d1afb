import ApiReconciler.Value.Basic

/-!
# `ApiReconciler.Authorizer.Key` — the identity of an authorizer

An external authorizer is known by the function it invokes and the role it invokes it with, never
by its identifier on the gateway: identifiers are made anew, keys are not.

## Contents
- `AuthorizerKey`, with its `displayName` and its `uri` in a region.
- `AuthorizerKey.ofUri?`: the target of such a URI; `AuthorizerKey.ofAuthorizer?`: the key of an
  authorizer on the gateway, none for one with another kind of URI.
-/

namespace ApiReconciler

/-- An invocation target and the credential it is invoked with. -/
structure AuthorizerKey where
  target : String
  credential : String
deriving DecidableEq, Repr

namespace AuthorizerKey

/-- What follows the last occurrence of a character; everything when there is none. -/
def afterLast (c : Char) (cs : List Char) : List Char := (cs.reverse.takeWhile (· ≠ c)).reverse

/-- The name under which an authorizer is created. -/
def displayName (k : AuthorizerKey) : String :=
  String.ofList (afterLast ':' k.target.toList ++ '-' :: afterLast '/' k.credential.toList)

/-! ## URIs -/

/-- The text before the region. -/
def beforeRegion : List Char := "arn:aws:apigateway:".toList

/-- The text between region and target. -/
def beforeTarget : List Char := ":lambda:path/2015-03-31/functions/".toList

/-- The text after the target. -/
def afterTarget : List Char := "/invocations".toList

/-- The URI that invokes a target in a region. -/
def uriChars (region target : List Char) : List Char :=
  beforeRegion ++ region ++ beforeTarget ++ target ++ afterTarget

/-- The URI that invokes a key's target in a region. -/
def uri (region : String) (k : AuthorizerKey) : String :=
  String.ofList (uriChars region.toList k.target.toList)

/-- The text after a given beginning. -/
def dropFront? (front cs : List Char) : Option (List Char) :=
  if front.isPrefixOf cs then some (cs.drop front.length) else none

/-- The target of a URI at the front of a text; region and target are not empty. -/
def targetAt? (cs : List Char) : Option (List Char) := do
  let cs ← dropFront? beforeRegion cs
  let region := cs.takeWhile (· ≠ ':')
  let cs ← dropFront? beforeTarget (cs.dropWhile (· ≠ ':'))
  let target := cs.takeWhile (· ≠ '/')
  let _ ← dropFront? afterTarget (cs.dropWhile (· ≠ '/'))
  if region = [] ∨ target = [] then none else some target

/-- The target of the first URI in a text. -/
def targetIn? : List Char → Option (List Char)
  | [] => none
  | c :: cs =>
    match targetAt? (c :: cs) with
    | some t => some t
    | none => targetIn? cs

/-- The text of a member, empty when there is none. -/
def textMember (ms : Object) (name : String) : String :=
  (((ms.get? name).getD .null).text?).getD ""

/-- The key of an authorizer on the gateway. -/
def ofAuthorizer? (authorizer : Object) : Option AuthorizerKey :=
  match targetIn? (textMember authorizer "authorizerUri").toList with
  | none => none
  | some target =>
    let credential := textMember authorizer "authorizerCredentials"
    if credential = "" then none else some ⟨String.ofList target, credential⟩

end AuthorizerKey

end ApiReconciler
