import Mathlib
import ApiReconciler.Gateway.Program

/-!
# `ApiReconciler.Proofs.Gateway.Exchange` — what a run exchanges with the gateway

A run's events name the calls but not what came back, and most properties of a reconciliation are about
both: a call *succeeded*, an identifier was *obtained*. `Program.exchanges` records each call with its
answer and each listing with its result. It follows `Program.run` node by node, so the equations below
split a run, its exchanges and its final state at the same place.

## Contents
- `Request`, `Exchange`: what is asked, and what is asked together with the answer.
- `Program.exchanges`: the exchanges of a run, in order.
- `Program.Runs`, `Program.Completes`: runs from a state to a state, put together along the program.
- `Program.onEnd`: a program gone on from at its end, whether that is a result or a failure. Both `bind`
  and `rescue` are cases of it, so `run_onEnd` and `exchanges_onEnd` split the runs of either.
-/

namespace ApiReconciler

/-- What a program asks of the gateway: a call, or all pages of a listing. -/
inductive Request
  | call (c : Call)
  | list (l : Listing)
deriving DecidableEq, Repr

/-- The operation of a request. -/
def Request.operation : Request → Operation
  | .call c => c.operation
  | .list l => l.operation

/-- The API that a request addresses, if it addresses one. -/
def Request.api? : Request → Option String
  | .call c => c.api?
  | .list l => l.api?

/-- A request with what came back. -/
inductive Exchange
  | call (c : Call) (answer : Answer)
  | list (l : Listing) (result : Except CallFault (List Object))

/-- What was asked. -/
def Exchange.request : Exchange → Request
  | .call c _ => .call c
  | .list l _ => .list l

@[simp] theorem Exchange.request_call (c : Call) (a : Answer) :
    (Exchange.call c a).request = .call c := rfl

@[simp] theorem Exchange.request_list (l : Listing) (r : Except CallFault (List Object)) :
    (Exchange.list l r).request = .list l := rfl

/-- The identifier of an object, if it has one. -/
def textId? (item : Object) : Option String := (item.get? "id").bind Value.text?

theorem textId?_of_text {item : Object} {id : String} (h : item.get? "id" = some (.text id)) :
    textId? item = some id := by
  rw [textId?, h]; rfl

namespace Program

variable {σ α β : Type}

/-- The exchanges of a run, in order. -/
def exchanges (b : Backend σ) : Program α → σ → List Exchange
  | .done _, _ => []
  | .fail _, _ => []
  | .note _ rest, s => rest.exchanges b s
  | .call c rest, s =>
    let (answer, s) := b.answer c s
    .call c answer :: (rest answer).exchanges b s
  | .list l rest, s =>
    let (result, _, s) := b.list l s
    .list l result :: (rest result).exchanges b s

/-! ## The monad -/

@[simp] theorem bind_eq (p : Program α) (f : α → Program β) : p >>= f = p.bind f := rfl

@[simp] theorem pure_eq (a : α) : (pure a : Program α) = .done a := rfl

@[simp] theorem map_eq (f : α → β) (p : Program α) : f <$> p = p.bind fun a => .done (f a) := rfl

@[simp] theorem done_bind (a : α) (f : α → Program β) : (Program.done a).bind f = f a := rfl

@[simp] theorem fail_bind (e : Failure) (f : α → Program β) : (Program.fail e).bind f = .fail e := rfl

@[simp] theorem note_bind (n : Note) (p : Program α) (f : α → Program β) :
    (Program.note n p).bind f = .note n (p.bind f) := rfl

@[simp] theorem ofExcept_ok (a : α) : ofExcept (.ok a) = .done a := rfl

@[simp] theorem ofExcept_error (e : Failure) : (ofExcept (.error e) : Program α) = .fail e := rfl

/-- A member that is a text is there to be had. -/
theorem textMember_eq_done {ms : Object} {name v : String} (h : ms.get? name = some (.text v)) :
    textMember ms name = .done v := by
  unfold textMember
  rw [h]

theorem bind_assoc {γ : Type} (p : Program α) (f : α → Program β) (g : β → Program γ) :
    (p.bind f).bind g = p.bind fun a => (f a).bind g := by
  induction p with
  | done a => rfl
  | fail e => rfl
  | note n rest ih => exact congrArg (Program.note n) ih
  | call c rest ih => exact congrArg (Program.call c) (funext ih)
  | list l rest ih => exact congrArg (Program.list l) (funext ih)

/-! ## Runs of leaves -/

section

variable (b : Backend σ) (s : σ)

@[simp] theorem run_done (a : α) : (Program.done a).run b s = ⟨.ok a, [], s⟩ := rfl

@[simp] theorem run_fail (e : Failure) : (Program.fail e : Program α).run b s = ⟨.error e, [], s⟩ := rfl

@[simp] theorem run_note (n : Note) (p : Program α) :
    (Program.note n p).run b s = (p.run b s).after [.note n] := rfl

@[simp] theorem run_call (c : Call) (rest : Answer → Program α) :
    (Program.call c rest).run b s =
      ((rest (b.answer c s).1).run b (b.answer c s).2).after [.call c] := rfl

@[simp] theorem run_list (l : Listing) (rest : Except CallFault (List Object) → Program α) :
    (Program.list l rest).run b s =
      ((rest (b.list l s).1).run b (b.list l s).2.2).after (b.list l s).2.1 := rfl

@[simp] theorem exchanges_done (a : α) : (Program.done a).exchanges b s = [] := rfl

@[simp] theorem exchanges_fail (e : Failure) : (Program.fail e : Program α).exchanges b s = [] := rfl

@[simp] theorem exchanges_note (n : Note) (p : Program α) :
    (Program.note n p).exchanges b s = p.exchanges b s := rfl

@[simp] theorem exchanges_call (c : Call) (rest : Answer → Program α) :
    (Program.call c rest).exchanges b s =
      .call c (b.answer c s).1 :: (rest (b.answer c s).1).exchanges b (b.answer c s).2 := rfl

@[simp] theorem exchanges_list (l : Listing) (rest : Except CallFault (List Object) → Program α) :
    (Program.list l rest).exchanges b s =
      .list l (b.list l s).1 :: (rest (b.list l s).1).exchanges b (b.list l s).2.2 := rfl

end

@[simp] theorem result_after (events : List Event) (o : Outcome σ α) :
    (o.after events).result = o.result := rfl

@[simp] theorem state_after (events : List Event) (o : Outcome σ α) :
    (o.after events).state = o.state := rfl

@[simp] theorem events_after (events : List Event) (o : Outcome σ α) :
    (o.after events).events = events ++ o.events := rfl

theorem after_after (xs ys : List Event) (o : Outcome σ α) :
    (o.after ys).after xs = o.after (xs ++ ys) := by
  simp only [Outcome.after, List.append_assoc]

/-- A call of a run was answered in some state of the backend. -/
theorem answer_of_mem_exchanges {b : Backend σ} {p : Program α} {s : σ} {c : Call} {a : Answer}
    (h : .call c a ∈ p.exchanges b s) : ∃ s₀, (b.answer c s₀).1 = a := by
  induction p generalizing s with
  | done v => cases h
  | fail e => cases h
  | note n rest ih => exact ih h
  | call c' rest ih =>
      rcases List.mem_cons.mp h with he | h
      · injection he with hc ha
        exact ⟨s, by rw [hc, ha]⟩
      · exact ih _ h
  | list l rest ih =>
      rcases List.mem_cons.mp h with he | h
      · cases he
      · exact ih _ h

/-! ## One program after another

`bind` goes on from a result and `rescue` from a failure. `onEnd` goes on from both, and it is what the
inductions below are over: a fact about it is a fact about each of the two. -/

/-- A program gone on from at its end. -/
def onEnd (p : Program α) (f : Except Failure α → Program β) : Program β :=
  match p with
  | .done a => f (.ok a)
  | .fail e => f (.error e)
  | .note n rest => .note n (rest.onEnd f)
  | .call c rest => .call c fun a => (rest a).onEnd f
  | .list l rest => .list l fun r => (rest r).onEnd f

/-- How `bind` goes on: with the next program from a result, not at all from a failure. -/
def onResult (f : α → Program β) : Except Failure α → Program β
  | .ok a => f a
  | .error e => .fail e

/-- How `rescue` goes on: not at all from a result, with the handler from a failure. -/
def onFailure (handler : Failure → Program α) : Except Failure α → Program α
  | .ok a => .done a
  | .error e => handler e

theorem bind_eq_onEnd (p : Program α) (f : α → Program β) : p.bind f = p.onEnd (onResult f) := by
  induction p with
  | done a => rfl
  | fail e => rfl
  | note n rest ih => exact congrArg (Program.note n) ih
  | call c rest ih => exact congrArg (Program.call c) (funext ih)
  | list l rest ih => exact congrArg (Program.list l) (funext ih)

theorem rescue_eq_onEnd (p : Program α) (handler : Failure → Program α) :
    p.rescue handler = p.onEnd (onFailure handler) := by
  induction p with
  | done a => rfl
  | fail e => rfl
  | note n rest ih => exact congrArg (Program.note n) ih
  | call c rest ih => exact congrArg (Program.call c) (funext ih)
  | list l rest ih => exact congrArg (Program.list l) (funext ih)

/-- Going on twice is going on once, with what goes on from there. -/
theorem onEnd_onEnd {γ : Type} (p : Program α) (f : Except Failure α → Program β)
    (g : Except Failure β → Program γ) : (p.onEnd f).onEnd g = p.onEnd fun m => (f m).onEnd g := by
  induction p with
  | done a => rfl
  | fail e => rfl
  | note n rest ih => exact congrArg (Program.note n) ih
  | call c rest ih => exact congrArg (Program.call c) (funext ih)
  | list l rest ih => exact congrArg (Program.list l) (funext ih)

theorem ofExcept_onEnd (x : Except Failure α) (f : Except Failure α → Program β) :
    (ofExcept x).onEnd f = f x := by
  cases x <;> rfl

section

variable {b : Backend σ} {p : Program α} {s : σ}

/-- **A run splits at the end of its first program.** What follows runs from the state left there. -/
theorem run_onEnd (f : Except Failure α → Program β) :
    (p.onEnd f).run b s =
      ((f (p.run b s).result).run b (p.run b s).state).after (p.run b s).events := by
  induction p generalizing s with
  | done a => rfl
  | fail e => rfl
  | note n rest ih => simp only [onEnd, run_note, ih, after_after, result_after, state_after, events_after]
  | call c rest ih =>
      simp only [onEnd, run_call, ih, after_after, result_after, state_after, events_after]
  | list l rest ih =>
      simp only [onEnd, run_list, ih, after_after, result_after, state_after, events_after]

/-- The exchanges split where the run does. -/
theorem exchanges_onEnd (f : Except Failure α → Program β) :
    (p.onEnd f).exchanges b s =
      p.exchanges b s ++ (f (p.run b s).result).exchanges b (p.run b s).state := by
  induction p generalizing s with
  | done a => rfl
  | fail e => rfl
  | note n rest ih => exact ih
  | call c rest ih => exact congrArg (Exchange.call c (b.answer c s).1 :: ·) (ih _)
  | list l rest ih => exact congrArg (Exchange.list l (b.list l s).1 :: ·) (ih _)

end

/-! ## Runs from a state to a state -/

/-- The run from `s` exchanges `xs`, ends with `r` and leaves `s'`. -/
structure Runs (b : Backend σ) (p : Program α) (s : σ) (xs : List Exchange) (r : Except Failure α)
    (s' : σ) : Prop where
  result : (p.run b s).result = r
  state : (p.run b s).state = s'
  exchanges : p.exchanges b s = xs

section

variable {b : Backend σ} {p : Program α} {s s₁ s₂ : σ} {xs ys : List Exchange}

theorem runs_self (b : Backend σ) (p : Program α) (s : σ) :
    Runs b p s (p.exchanges b s) (p.run b s).result (p.run b s).state :=
  ⟨rfl, rfl, rfl⟩

theorem runs_done (a : α) : Runs b (.done a) s [] (.ok a) s := ⟨rfl, rfl, rfl⟩

theorem runs_fail (e : Failure) : Runs b (.fail e : Program α) s [] (.error e) s := ⟨rfl, rfl, rfl⟩

theorem Runs.note {n : Note} {r : Except Failure α} (h : Runs b p s xs r s₁) :
    Runs b (.note n p) s xs r s₁ :=
  ⟨h.result, h.state, h.exchanges⟩

theorem Runs.onEnd {f : Except Failure α → Program β} {m : Except Failure α} {r : Except Failure β}
    (hp : Runs b p s xs m s₁) (hf : Runs b (f m) s₁ ys r s₂) :
    Runs b (p.onEnd f) s (xs ++ ys) r s₂ := by
  obtain ⟨rfl, rfl, rfl⟩ := hp
  obtain ⟨rfl, rfl, rfl⟩ := hf
  constructor
  · rw [run_onEnd, result_after]
  · rw [run_onEnd, state_after]
  · rw [exchanges_onEnd]

/-- What follows a result runs from the state it was reached in. -/
theorem Runs.bind {f : α → Program β} {a : α} {r : Except Failure β}
    (hp : Runs b p s xs (.ok a) s₁) (hf : Runs b (f a) s₁ ys r s₂) :
    Runs b (p.bind f) s (xs ++ ys) r s₂ := by
  rw [bind_eq_onEnd]
  exact hp.onEnd hf

/-- Nothing follows a failure. -/
theorem Runs.bind_error {f : α → Program β} {e : Failure} (hp : Runs b p s xs (.error e) s₁) :
    Runs b (p.bind f) s xs (.error e) s₁ := by
  rw [bind_eq_onEnd, ← List.append_nil xs]
  exact hp.onEnd (runs_fail e)

/-- A handler has nothing to do after a success. -/
theorem Runs.rescue_ok {handler : Failure → Program α} {a : α} (hp : Runs b p s xs (.ok a) s₁) :
    Runs b (p.rescue handler) s xs (.ok a) s₁ := by
  rw [rescue_eq_onEnd, ← List.append_nil xs]
  exact hp.onEnd (runs_done a)

/-- The handler runs from the state in which the program failed. -/
theorem Runs.rescue_error {handler : Failure → Program α} {e : Failure} {r : Except Failure α}
    (hp : Runs b p s xs (.error e) s₁) (hh : Runs b (handler e) s₁ ys r s₂) :
    Runs b (p.rescue handler) s (xs ++ ys) r s₂ := by
  rw [rescue_eq_onEnd]
  exact hp.onEnd hh

theorem Runs.relabel_ok {label : CallFailure → Failure} {a : α} (hp : Runs b p s xs (.ok a) s₁) :
    Runs b (p.relabel label) s xs (.ok a) s₁ :=
  hp.rescue_ok

/-- A failed call is reported under its label. -/
theorem Runs.relabel_call {label : CallFailure → Failure} {f : CallFailure}
    (hp : Runs b p s xs (.error (.call f)) s₁) :
    Runs b (p.relabel label) s xs (.error (label f)) s₁ := by
  rw [← List.append_nil xs]
  exact hp.rescue_error (runs_fail (label f))

theorem runs_perform_ok {c : Call} {reply : Object} (h : b.answer c s = (.ok reply, s₁)) :
    Runs b (perform c) s [.call c (.ok reply)] (.ok reply) s₁ := by
  constructor <;> simp [perform, h]

theorem runs_perform_error {c : Call} {fault : CallFault} (h : b.answer c s = (.error fault, s₁)) :
    Runs b (perform c) s [.call c (.error fault)] (.error (.call ⟨c.operation.name, fault⟩)) s₁ := by
  constructor <;> simp [perform, h]

theorem runs_collect_ok {l : Listing} {items : List Object} {events : List Event}
    (h : b.list l s = (.ok items, events, s₁)) :
    Runs b (collect l) s [.list l (.ok items)] (.ok items) s₁ := by
  constructor <;> simp [collect, h]

theorem runs_textMember {ms : Object} {name v : String} (h : ms.get? name = some (.text v)) :
    Runs b (textMember ms name) s [] (.ok v) s := by
  rw [textMember_eq_done h]
  exact runs_done v

end

/-! ## Runs that succeed -/

/-- The run from `s` succeeds with `a` and leaves `s'`, whatever it exchanges. -/
def Completes (b : Backend σ) (p : Program α) (s : σ) (a : α) (s' : σ) : Prop :=
  ∃ xs, Runs b p s xs (.ok a) s'

section

variable {b : Backend σ} {p : Program α} {s s₁ s₂ : σ} {a : α}

theorem completes_done (a : α) : Completes b (.done a) s a s := ⟨[], runs_done a⟩

theorem Completes.note {n : Note} (h : Completes b p s a s₁) : Completes b (.note n p) s a s₁ :=
  h.imp fun _ hp => hp.note

theorem Completes.bind {f : α → Program β} {v : β} (hp : Completes b p s a s₁)
    (hf : Completes b (f a) s₁ v s₂) : Completes b (p.bind f) s v s₂ := by
  obtain ⟨xs, hp⟩ := hp
  obtain ⟨ys, hf⟩ := hf
  exact ⟨xs ++ ys, hp.bind hf⟩

theorem Completes.rescue {handler : Failure → Program α} (hp : Completes b p s a s₁) :
    Completes b (p.rescue handler) s a s₁ :=
  hp.imp fun _ hp => hp.rescue_ok

theorem Completes.relabel {label : CallFailure → Failure} (hp : Completes b p s a s₁) :
    Completes b (p.relabel label) s a s₁ :=
  hp.rescue

theorem completes_perform {c : Call} {reply : Object} (h : b.answer c s = (.ok reply, s₁)) :
    Completes b (perform c) s reply s₁ :=
  ⟨_, runs_perform_ok h⟩

theorem completes_collect {l : Listing} {items : List Object} {events : List Event}
    (h : b.list l s = (.ok items, events, s₁)) : Completes b (collect l) s items s₁ :=
  ⟨_, runs_collect_ok h⟩

theorem completes_textMember {ms : Object} {name v : String} (h : ms.get? name = some (.text v)) :
    Completes b (textMember ms name) s v s :=
  ⟨[], runs_textMember h⟩

end

end Program

end ApiReconciler
