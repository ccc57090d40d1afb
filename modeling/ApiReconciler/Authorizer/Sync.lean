import ApiReconciler.Gateway.Program

/-!
# `ApiReconciler.Authorizer.Sync` — authorizers made to match a definition

Authorizers that a definition asks for and the API lacks are created. On request, those that
nothing asks for any more are deleted, and so are further authorizers of one key. Creations come
before deletions, and the first failure ends the synchronization; what was done stays.

## Contents
- `existingAuthorizers`: the authorizers of an API that have keys.
- `synchronize`: the authorizers made to match; the outcome is a `Bindings`.
-/

namespace ApiReconciler

/-- An authorizer on the gateway: its key and its identifier. -/
abbrev Existing := AuthorizerKey × String

/-! ## Listing -/

/-- The authorizers with keys among listed ones; the others are left alone. -/
def managed : List Object → Program (List Existing)
  | [] => .done []
  | item :: items =>
    match AuthorizerKey.ofAuthorizer? item with
    | none => managed items
    | some key => do
      let id ← Program.textMember item "id"
      let existing ← managed items
      return (key, id) :: existing

/-- The authorizers with keys that are on an API. -/
def existingAuthorizers (api : String) : Program (List Existing) := do
  let items ← (Program.collect (.authorizers api)).relabel fun cause =>
    .authorizing (.listing api cause)
  managed items

/-! ## Existing authorizers by key -/

/-- Existing authorizers by key, the first of each key, and the further ones. -/
def partitionExisting : List Existing → ArrivalMap AuthorizerKey String → List Existing →
    ArrivalMap AuthorizerKey String × List Existing
  | [], ids, duplicates => (ids, duplicates)
  | (key, id) :: rest, ids, duplicates =>
    if ids.has key then partitionExisting rest ids (duplicates ++ [(key, id)])
    else partitionExisting rest (ids.set key id) duplicates

/-! ## Creation -/

/-- Where the identity of a caller is found. -/
def defaultIdentitySource : String := "method.request.header.Authorization"

/-- Creates the authorizer of a key and gives its identifier. -/
def createAuthorizer (api region : String) (key : AuthorizerKey) : Program String := do
  let reply ← (Program.perform (.createAuthorizer api
      ⟨key.displayName, key.uri region, key.credential, defaultIdentitySource⟩)).relabel
    fun cause => .authorizing (.creating key.displayName api cause)
  Program.textMember reply "id"

/-- Creates the authorizers of the keys that have none. -/
def createMissing (api region : String) : List AuthorizerKey → Bindings → Program Bindings
  | [], b => .done b
  | key :: keys, b =>
    if b.ids.has key then createMissing api region keys b
    else do
      let id ← createAuthorizer api region key
      createMissing api region keys
        { b with ids := b.ids.set key id, created := b.created ++ [key] }

/-! ## Deletion -/

/-- Deletes an authorizer. -/
def deleteAuthorizer (api id : String) : Program Unit := do
  let _ ← (Program.perform (.deleteAuthorizer api id)).relabel fun cause =>
    .authorizing (.deleting id api cause)

/-- The bindings after an authorizer was deleted. -/
def Bindings.withoutAuthorizer (b : Bindings) (a : Existing) : Bindings :=
  { b with
    ids := if b.ids.get? a.1 = some a.2 then b.ids.erase a.1 else b.ids
    deleted := b.deleted ++ [a.1] }

/-- Deletes authorizers, save one that a required key is bound to. -/
def deleteSuperfluous (api : String) (required : List AuthorizerKey) :
    List Existing → Bindings → Program Bindings
  | [], b => .done b
  | a :: rest, b =>
    if a.1 ∈ required ∧ b.ids.get? a.1 = some a.2 then deleteSuperfluous api required rest b
    else do
      deleteAuthorizer api a.2
      deleteSuperfluous api required rest (b.withoutAuthorizer a)

/-! ## Synchronization -/

/-- The keys that scopes ask for, each once, in the order of the scopes. -/
def requiredKeys (scopes : ArrivalMap Scope AuthorizerKey) : List AuthorizerKey :=
  scopes.values.eraseDups

/-- Makes the authorizers of an API match what a definition asks for. -/
def synchronize (api region : String) (d : Definition) (existing : List Existing) (prune : Bool) :
    Program Bindings := do
  let scopes ← Program.ofExcept (d.requiredAuthorizers.mapError PolicyFault.failure)
  let required := requiredKeys scopes
  let (ids, duplicates) := partitionExisting existing [] []
  let b ← createMissing api region required ⟨scopes, ids, [], []⟩
  let b ← if prune then
      deleteSuperfluous api required (duplicates ++ b.ids.filter fun a => a.1 ∉ required) b
    else pure b
  Program.log (.authorizersSynchronized api required.length b.created.length b.deleted.length)
  return b

end ApiReconciler
