import ApiReconciler.Value.Basic

/-!
# `ApiReconciler.Validation.Checked` — validation that reports every fault

## Contents
- `Issue`: a fault with the path to it. `Checked`: a value, or all issues in the order of the
  fields they belong to.
- `Checked.required`, `Checked.optional`, `Checked.each`: fields of an object, elements of a list.
-/

namespace ApiReconciler

/-- One step of the path to a fault. -/
inductive Step
  | field (name : String)
  | index (n : Int)
deriving DecidableEq, Repr

/-- What is wrong with a value. -/
inductive IssueKind
  | missing
  | notText
  | undecodableText
  | notInteger
  | unreadableInteger
  | fractionalInteger
  | oversizedInteger
  | infiniteInteger
  | notBoolean
  | unreadableBoolean
  | notList
  | notMapping
  | notRecord
deriving DecidableEq, Repr

/-- A fault and the path to it. -/
structure Issue where
  path : List Step
  kind : IssueKind
deriving DecidableEq, Repr

/-- A value that passed its checks, or the issues found. -/
inductive Checked (α : Type)
  | passed (value : α)
  | failed (issues : List Issue)
deriving Repr

namespace Checked

variable {α β : Type}

/-- The issues found. -/
def issues : Checked α → List Issue
  | .passed _ => []
  | .failed is => is

/-- The value, or the issues as an error. -/
def toExcept : Checked α → Except (List Issue) α
  | .passed a => .ok a
  | .failed is => .error is

/-- A function of the value. -/
def map (f : α → β) : Checked α → Checked β
  | .passed a => .passed (f a)
  | .failed is => .failed is

/-- A checked function of a checked value; the issues of both are kept in order. -/
def seq : Checked (α → β) → Checked α → Checked β
  | .passed f, .passed a => .passed (f a)
  | .passed _, .failed is => .failed is
  | .failed is, .passed _ => .failed is
  | .failed is, .failed js => .failed (is ++ js)

instance : Functor Checked := ⟨map, fun a => map (fun _ => a)⟩

instance : Applicative Checked where
  pure := .passed
  seq f x := seq f (x ())

/-- A single fault at the place itself. -/
def fault (kind : IssueKind) : Checked α := .failed [⟨[], kind⟩]

/-- The issues moved one step down. -/
def under (step : Step) : Checked α → Checked α
  | .passed a => .passed a
  | .failed is => .failed (is.map fun i => { i with path := step :: i.path })

/-- A field that has to be there. -/
def required (ms : Object) (name : String) (read : Value → Checked α) : Checked α :=
  under (.field name) (match ms.get? name with
    | none => fault .missing
    | some v => read v)

/-- A field with a default. -/
def optional (ms : Object) (name : String) (default : α) (read : Value → Checked α) : Checked α :=
  match ms.get? name with
  | none => .passed default
  | some v => under (.field name) (read v)

/-- The elements of a list, counted from `n`. -/
def eachFrom (read : Value → Checked α) (n : Nat) : List Value → Checked (List α)
  | [] => .passed []
  | v :: vs => seq (map List.cons (under (.index n) (read v))) (eachFrom read (n + 1) vs)

/-- The elements of a list. -/
def each (read : Value → Checked α) : Value → Checked (List α)
  | .list vs => eachFrom read 0 vs
  | _ => fault .notList

/-- A part that has to be an object. -/
def record (read : Object → Checked α) : Value → Checked α
  | .object ms => read ms
  | _ => fault .notRecord

end Checked

end ApiReconciler
