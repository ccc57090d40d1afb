import ApiReconciler.Gateway.Program

/-!
# `ApiReconciler.Gateway.Script` — scripted replies

A backend that answers from queues of replies, one for each operation. An empty queue gives the
reply without members.

A listing is made in one of two ways. A client with a paginator is asked for the pages of a listing
and makes all calls by itself; the items of each page are added as it comes. Without a paginator the
listing is a loop, whose calls carry the position that the page before them named. A fault ends
either one and takes what was collected with it.

## Contents
- `Script`, `Script.next`: the queues and their heads.
- `Script.taken`, `Script.extend`: the replies that a paginator takes, and what is made of each.
- `Script.Progress`, with one turn of the loop and all of them: `Progress.turn`, `Progress.run`.
- `Script.backend`: the backend, with or without a paginator.
-/

namespace ApiReconciler

/-- The replies that are still to come, by operation. -/
abbrev Script := Operation → List Answer

namespace Script

/-- Every call gets the reply without members. -/
def empty : Script := fun _ => []

/-- The script with the queue of an operation replaced. -/
def update (s : Script) (op : Operation) (answers : List Answer) : Script :=
  fun other => if other = op then answers else s other

/-- The next answer to an operation. -/
def next (s : Script) (op : Operation) : Answer × Script :=
  match s op with
  | [] => (Answer.empty, s)
  | a :: rest => (a, s.update op rest)

/-- The items of a page. -/
def items (page : Object) : List Object :=
  ((page.get? "items").getD (.list [])).elements.map Value.members

/-- The position of the page after a page, if it names one. -/
def following? (page : Object) : Option Value :=
  match page.get? "position" with
  | none => none
  | some v => if v.isTruthy then some v else none

/-! ## With a paginator -/

/-- The replies that a paginator takes from a queue: up to the first page that names no further
position, or the first fault. A queue that is used up gives a page without items. -/
def taken : List Answer → List Answer
  | [] => [Answer.empty]
  | .error fault :: _ => [.error fault]
  | .ok page :: rest => .ok page :: if (following? page).isSome then taken rest else []

/-- What was collected with the items of one more page. -/
def extend (collected : List Object) (answer : Answer) : Except CallFault (List Object) :=
  match answer with
  | .ok page => .ok (collected ++ items page)
  | .error fault => .error fault

/-! ## Without a paginator -/

/-- What a loop over pages holds before a call: the items so far, and the position that the call
carries. -/
structure Progress where
  collected : List Object
  position : Option Value

namespace Progress

/-- Before the first call. -/
def start : Progress := ⟨[], none⟩

/-- One turn of the loop: it ends, or goes on at the position that the page names. -/
def turn (p : Progress) : Answer → Except CallFault (List Object) ⊕ Progress
  | .error fault => .inl (.error fault)
  | .ok page =>
    match following? page with
    | none => .inl (.ok (p.collected ++ items page))
    | some next => .inr ⟨p.collected ++ items page, some next⟩

/-- The turns of the loop on a queue: what it ends with, the positions of its calls, and what is left
of the queue. -/
def run (p : Progress) :
    List Answer → Except CallFault (List Object) × List (Option Value) × List Answer
  | [] => (.ok (p.collected ++ items []), [p.position], [])
  | answer :: rest =>
    match p.turn answer with
    | .inl result => (result, [p.position], rest)
    | .inr next =>
      let (result, positions, rest) := next.run rest
      (result, p.position :: positions, rest)

end Progress

/-! ## The backend -/

/-- The backend that answers from a script, for a client with a paginator or without one. -/
def backend (paged : Bool) : Backend Script where
  answer c s := s.next c.operation
  list l s :=
    let queue := s l.operation
    if paged then
      let replies := taken queue
      (replies.foldlM extend [], replies.map fun _ => .page l none,
        s.update l.operation (queue.drop replies.length))
    else
      let (result, positions, rest) := Progress.start.run queue
      (result, positions.map (.page l), s.update l.operation rest)

end Script

end ApiReconciler
