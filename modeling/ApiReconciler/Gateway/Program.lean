import ApiReconciler.Note

/-!
# `ApiReconciler.Gateway.Program` — programs over the gateway

A program is the tree of what it does: it makes a call and goes on with the answer, lists objects,
writes a note, ends with a result or fails. What the gateway answers is left to `Backend`, so that
one program runs against a real gateway, against a script of replies, or against a model.

## Contents
- `Program`, a monad; `Program.perform` and `Program.collect` fail when a call does.
- `Program.rescue`, `Program.relabel`, `Program.tolerate`: what is done about failures.
- `Backend`, `Program.run`: a program run with its events; `Outcome`: what is left at the end.
-/

namespace ApiReconciler

/-- A program over the gateway. -/
inductive Program (α : Type) : Type
  | done (value : α)
  | fail (failure : Failure)
  | note (n : Note) (rest : Program α)
  | call (c : Call) (rest : Answer → Program α)
  | list (l : Listing) (rest : Except CallFault (List Object) → Program α)

namespace Program

variable {α β : Type}

/-- A program followed by another one that depends on its result. -/
def bind (p : Program α) (f : α → Program β) : Program β :=
  match p with
  | .done a => f a
  | .fail e => .fail e
  | .note n rest => .note n (rest.bind f)
  | .call c rest => .call c fun a => (rest a).bind f
  | .list l rest => .list l fun r => (rest r).bind f

instance : Monad Program where
  pure := .done
  bind := bind

/-- A value or a failure as a program. -/
def ofExcept : Except Failure α → Program α
  | .ok a => .done a
  | .error e => .fail e

/-- A note on its own. -/
def log (n : Note) : Program Unit := .note n (.done ())

/-! ## Calls -/

/-- Makes a call and fails when it does. -/
def perform (c : Call) : Program Object :=
  .call c fun answer =>
    match answer with
    | .ok reply => .done reply
    | .error fault => .fail (.call ⟨c.operation.name, fault⟩)

/-- Lists objects and fails when a call for a page does. -/
def collect (l : Listing) : Program (List Object) :=
  .list l fun result =>
    match result with
    | .ok items => .done items
    | .error fault => .fail (.call ⟨l.operation.name, fault⟩)

/-- The text of a member that has to be there. -/
def textMember (ms : Object) (name : String) : Program String :=
  match ms.get? name with
  | none => .fail (.missingMember name)
  | some (.text s) => .done s
  | some _ => .fail (.malformedMember name)

/-! ## Failures -/

/-- A program whose failure is dealt with by another one. -/
def rescue (p : Program α) (handler : Failure → Program α) : Program α :=
  match p with
  | .done a => .done a
  | .fail e => handler e
  | .note n rest => .note n (rest.rescue handler)
  | .call c rest => .call c fun a => (rest a).rescue handler
  | .list l rest => .list l fun r => (rest r).rescue handler

/-- A program whose failed calls are dealt with by another one; other failures stand. -/
def rescueCall (p : Program α) (handler : CallFailure → Program α) : Program α :=
  p.rescue fun e =>
    match e with
    | .call f => handler f
    | e => .fail e

/-- A program whose failed calls are faults of a stage. -/
def relabel (p : Program α) (label : CallFailure → Failure) : Program α :=
  p.rescueCall fun f => .fail (label f)

/-- A program that gives a value when a call finds that what it addresses does not exist. -/
def tolerateMissing (p : Program α) (value : α) : Program α :=
  p.rescueCall fun f => if f.kind = .notFound then .done value else .fail (.call f)

end Program

/-! ## Runs -/

/-- What happens during a run, in order. A page is one call of a listing with the position it
starts from. -/
inductive Event
  | call (c : Call)
  | page (l : Listing) (position : Option Value)
  | note (n : Note)
deriving Repr

/-- The arguments of an event that is a call. A call for a page carries the position it starts from
beside the arguments of its listing. -/
def Event.arguments? : Event → Option (List (String × Value))
  | .call c => some c.arguments
  | .page l position => some (l.arguments ++ argument? "position" position)
  | .note _ => none

/-- What answers calls, with a state of its own. A listing makes as many calls as it has pages. -/
structure Backend (σ : Type) where
  answer : Call → σ → Answer × σ
  list : Listing → σ → Except CallFault (List Object) × List Event × σ

/-- The end of a run: its result, what happened, and the state it leaves. -/
structure Outcome (σ α : Type) where
  result : Except Failure α
  events : List Event
  state : σ

/-- The outcome with events before it. -/
def Outcome.after {σ α : Type} (events : List Event) (o : Outcome σ α) : Outcome σ α :=
  { o with events := events ++ o.events }

/-- A program run against a backend. -/
def Program.run {σ α : Type} (b : Backend σ) : Program α → σ → Outcome σ α
  | .done a, s => ⟨.ok a, [], s⟩
  | .fail e, s => ⟨.error e, [], s⟩
  | .note n rest, s => (rest.run b s).after [.note n]
  | .call c rest, s =>
    let (answer, s) := b.answer c s
    ((rest answer).run b s).after [.call c]
  | .list l rest, s =>
    let (result, events, s) := b.list l s
    ((rest result).run b s).after events

end ApiReconciler
