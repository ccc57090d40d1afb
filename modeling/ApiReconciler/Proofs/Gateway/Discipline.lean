import ApiReconciler.Proofs.Gateway.Trace

/-!
# `ApiReconciler.Proofs.Gateway.Discipline` — what becomes of failed calls

A program that talks to the gateway deals with each failed call in one of two ways: it goes on, or it ends
at once with a failure that reports the call. Which one is a matter of the operation and of the failure,
not of the place in the program, and a `Discipline` says which.

`Program.Obeys D Q` says of a program that it keeps to a discipline and that its results satisfy `Q`. The
postcondition is there because a reply is used after it came: when it is known to carry an identifier,
reading the identifier is no source of failures. A stage turns the failed calls inside it into failures of
its own, so it is judged in two steps: inside, a call fails with itself (`Discipline.raw`), and the handler
turns that into what the discipline asks for (`Obeys.rescueCall`).

## Contents
- `Exchange.failure?`: the failed call of an exchange.
- `Discipline`, `Program.Obeys`, and a rule for each way in which programs are put together.
- `Discipline.Accounts`, `Obeys.accounts`: what keeping to a discipline says about every trace;
  `Obeys.post`, `Obeys.failure`: what it says about results and failures.
-/

namespace ApiReconciler

/-- The failed call of an exchange, if it was answered with a fault. -/
def Exchange.failure? : Exchange → Option CallFailure
  | .call c (.error fault) => some ⟨c.operation.name, fault⟩
  | .list l (.error fault) => some ⟨l.operation.name, fault⟩
  | .call _ (.ok _) => none
  | .list _ (.ok _) => none

/-- How a program deals with what it is answered. -/
structure Discipline where
  /-- What the gateway is assumed to answer. -/
  admits : Exchange → Prop
  /-- The failed calls that the program goes on from. -/
  tolerates : Operation → CallFailure → Prop
  /-- What a failed call that ends the program is reported as. -/
  reports : Operation → CallFailure → Failure → Prop
  /-- The failures that the program may end with although no call failed. -/
  allows : Failure → Prop

namespace Discipline

/-- The discipline inside a stage, where a failed call of one of its operations ends the program as it
is. -/
def raw (D : Discipline) (tolerates : Operation → CallFailure → Prop) (ops : List Operation) :
    Discipline where
  admits := D.admits
  tolerates := tolerates
  reports op f e := op ∈ ops ∧ e = .call f
  allows e := D.allows e ∧ ∀ f, e ≠ .call f

/-- No failed call is gone on from. -/
def nothing : Operation → CallFailure → Prop := fun _ _ => False

/-- A trace in which failed calls are dealt with as the discipline says: the first one that is not
tolerated is the end, and it is what is reported; there are no failures but these and the allowed ones. -/
structure Accounts {α : Type} (D : Discipline) (xs : List Exchange) (r : Except Failure α) : Prop where
  last : ∀ pre x post f, xs = pre ++ x :: post → x.failure? = some f →
    ¬D.tolerates x.request.operation f →
    post = [] ∧ ∃ e, r = .error e ∧ D.reports x.request.operation f e
  accounted : ∀ e, r = .error e → D.allows e ∨ ∃ pre x f, xs = pre ++ [x] ∧ x.failure? = some f ∧
    ¬D.tolerates x.request.operation f ∧ D.reports x.request.operation f e

variable {α : Type} {D : Discipline} {xs : List Exchange} {x : Exchange} {r : Except Failure α}

/-- The trace of a program that makes no call. -/
theorem accounts_nil (h : ∀ e, r = .error e → D.allows e) : D.Accounts [] r where
  last pre x post f hx := by simp at hx
  accounted e he := .inl (h e he)

/-- A call that is gone on from changes nothing. -/
theorem Accounts.cons (h : D.Accounts xs r)
    (hx : ∀ f, x.failure? = some f → D.tolerates x.request.operation f) : D.Accounts (x :: xs) r where
  last pre y post f he hf ht := by
    -- the failed call is the first one, which is gone on from, or one of those behind it
    cases pre with
    | nil =>
        obtain ⟨rfl, rfl⟩ := List.cons_eq_cons.mp he
        exact absurd (hx f hf) ht
    | cons z pre =>
        obtain ⟨rfl, rfl⟩ := List.cons_eq_cons.mp he
        exact h.last pre y post f rfl hf ht
  accounted e he := by
    refine (h.accounted e he).imp_right ?_
    rintro ⟨pre, y, f, rfl, hy⟩
    exact ⟨x :: pre, y, f, rfl, hy⟩

/-- A call that is not gone on from is the end. -/
theorem accounts_last {f : CallFailure} {e : Failure} (hx : x.failure? = some f)
    (ht : ¬D.tolerates x.request.operation f) (hr : D.reports x.request.operation f e) :
    D.Accounts [x] (.error e : Except Failure α) where
  last pre y post g he hg _ := by
    obtain ⟨rfl, rfl, rfl⟩ : pre = [] ∧ y = x ∧ post = [] := by
      cases pre with
      | nil =>
          obtain ⟨rfl, rfl⟩ := List.cons_eq_cons.mp he
          exact ⟨rfl, rfl, rfl⟩
      | cons z pre => simp at he
    rw [hx] at hg
    rw [← Option.some.inj hg]
    exact ⟨rfl, e, rfl, hr⟩
  accounted e' he := by
    rw [← Except.error.inj he]
    exact .inr ⟨[], x, f, rfl, hx, ht, hr⟩

end Discipline

namespace Program

variable {α β : Type} {D : Discipline} {Q : α → Prop} {R : β → Prop} {p : Program α}

/-- The program keeps to a discipline, and its results satisfy a postcondition. -/
inductive Obeys (D : Discipline) (Q : α → Prop) : Program α → Prop
  | done {a : α} (h : Q a) : Obeys D Q (.done a)
  | fail {e : Failure} (h : D.allows e) : Obeys D Q (.fail e)
  | note {n : Note} {rest : Program α} (h : Obeys D Q rest) : Obeys D Q (.note n rest)
  | call {c : Call} {rest : Answer → Program α}
    (hok : ∀ reply, D.admits (.call c (.ok reply)) → Obeys D Q (rest (.ok reply)))
    (hgo : ∀ fault, D.tolerates c.operation ⟨c.operation.name, fault⟩ → Obeys D Q (rest (.error fault)))
    (hend : ∀ fault, ¬D.tolerates c.operation ⟨c.operation.name, fault⟩ →
      ∃ e, rest (.error fault) = .fail e ∧ D.reports c.operation ⟨c.operation.name, fault⟩ e) :
    Obeys D Q (.call c rest)
  | list {l : Listing} {rest : Except CallFault (List Object) → Program α}
    (hok : ∀ items, D.admits (.list l (.ok items)) → Obeys D Q (rest (.ok items)))
    (hgo : ∀ fault, D.tolerates l.operation ⟨l.operation.name, fault⟩ → Obeys D Q (rest (.error fault)))
    (hend : ∀ fault, ¬D.tolerates l.operation ⟨l.operation.name, fault⟩ →
      ∃ e, rest (.error fault) = .fail e ∧ D.reports l.operation ⟨l.operation.name, fault⟩ e) :
    Obeys D Q (.list l rest)

/-- What follows a failed call, in a trace. -/
theorem accounts_failed {x : Exchange} {f : CallFailure} {rest : Program α} {ys : List Exchange}
    {r : Except Failure α} (hx : x.failure? = some f) (h : rest.Trace ys r)
    (hgo : D.tolerates x.request.operation f → D.Accounts ys r)
    (hend : ¬D.tolerates x.request.operation f →
      ∃ e, rest = .fail e ∧ D.reports x.request.operation f e) : D.Accounts (x :: ys) r := by
  by_cases ht : D.tolerates x.request.operation f
  · refine (hgo ht).cons fun g hg => ?_
    rw [hx] at hg
    rwa [← Option.some.inj hg]
  · obtain ⟨e, rfl, hr⟩ := hend ht
    obtain ⟨rfl, rfl⟩ := h
    exact Discipline.accounts_last hx ht hr

/-- **A program that keeps to a discipline accounts for every failed call**, in each of its traces that
the gateway answers as assumed. -/
theorem Obeys.accounts {xs : List Exchange} {r : Except Failure α} (hp : p.Obeys D Q)
    (hadmits : ∀ x ∈ xs, D.admits x) (h : p.Trace xs r) : D.Accounts xs r := by
  induction hp generalizing xs with
  | done _ =>
      obtain ⟨rfl, rfl⟩ := h
      exact Discipline.accounts_nil fun e h => by cases h
  | fail he =>
      obtain ⟨rfl, rfl⟩ := h
      refine Discipline.accounts_nil fun e h => ?_
      rwa [← Except.error.inj h]
  | note _ ih => exact ih hadmits h
  | call _ _ hend ihok ihgo =>
      obtain ⟨answer, ys, rfl, h⟩ := h
      obtain ⟨hx, hys⟩ := List.forall_mem_cons.mp hadmits
      cases answer with
      | ok reply => exact (ihok reply hx hys h).cons fun f hf => by cases hf
      | error fault => exact accounts_failed rfl h (fun ht => ihgo fault ht hys h) (hend fault)
  | list _ _ hend ihok ihgo =>
      obtain ⟨answer, ys, rfl, h⟩ := h
      obtain ⟨hx, hys⟩ := List.forall_mem_cons.mp hadmits
      cases answer with
      | ok items => exact (ihok items hx hys h).cons fun f hf => by cases hf
      | error fault => exact accounts_failed rfl h (fun ht => ihgo fault ht hys h) (hend fault)

/-- A result that follows a failed call: the call was gone on from. -/
theorem post_failed {op : Operation} {f : CallFailure} {rest : Program α} {ys : List Exchange} {a : α}
    (h : rest.Trace ys (.ok a)) (hgo : D.tolerates op f → Q a)
    (hend : ¬D.tolerates op f → ∃ e, rest = .fail e ∧ D.reports op f e) : Q a := by
  by_cases ht : D.tolerates op f
  · exact hgo ht
  · obtain ⟨e, rfl, -⟩ := hend ht
    cases h.2

/-- The results of such a program satisfy the postcondition. -/
theorem Obeys.post {xs : List Exchange} {a : α} (hp : p.Obeys D Q) (hadmits : ∀ x ∈ xs, D.admits x)
    (h : p.Trace xs (.ok a)) : Q a := by
  induction hp generalizing xs with
  | done ha => rwa [Except.ok.inj h.2]
  | fail _ => cases h.2
  | note _ ih => exact ih hadmits h
  | call _ _ hend ihok ihgo =>
      obtain ⟨answer, ys, rfl, h⟩ := h
      obtain ⟨hx, hys⟩ := List.forall_mem_cons.mp hadmits
      cases answer with
      | ok reply => exact ihok reply hx hys h
      | error fault => exact post_failed h (fun ht => ihgo fault ht hys h) (hend fault)
  | list _ _ hend ihok ihgo =>
      obtain ⟨answer, ys, rfl, h⟩ := h
      obtain ⟨hx, hys⟩ := List.forall_mem_cons.mp hadmits
      cases answer with
      | ok items => exact ihok items hx hys h
      | error fault => exact post_failed h (fun ht => ihgo fault ht hys h) (hend fault)

/-- What holds of the failures that a discipline allows, and of those that report calls, holds of every
failure that a program ends with. -/
theorem Obeys.failure {P : Failure → Prop} {xs : List Exchange} {e : Failure} (hp : p.Obeys D Q)
    (hadmits : ∀ x ∈ xs, D.admits x) (h : p.Trace xs (.error e)) (hallows : ∀ e, D.allows e → P e)
    (hreports : ∀ op f e, D.reports op f e → P e) : P e := by
  rcases (hp.accounts hadmits h).accounted e rfl with hallowed | ⟨_, x, f, -, -, -, hreported⟩
  · exact hallows e hallowed
  · exact hreports _ f e hreported

/-! ## Rules -/

theorem obeys_log {n : Note} {Q : Unit → Prop} (h : Q ()) : (log n).Obeys D Q := .note (.done h)

/-- What is decided without a call fails with the failure that the fault is made into. -/
theorem obeys_ofExcept_mapError {ε : Type} {x : Except ε α} {failure : ε → Failure}
    (hok : ∀ a, x = .ok a → Q a) (herror : ∀ fault, D.allows (failure fault)) :
    (ofExcept (x.mapError failure)).Obeys D Q := by
  cases x with
  | ok a => exact .done (hok a rfl)
  | error fault => exact .fail (herror fault)

/-- A member that is a text is read. Otherwise the failure has to be allowed. -/
theorem obeys_textMember {ms : Object} {name : String} {Q : String → Prop}
    (htext : ∀ s, ms.get? name = some (.text s) → Q s)
    (hno : (∀ s, ms.get? name ≠ some (.text s)) →
      D.allows (.missingMember name) ∧ D.allows (.malformedMember name)) :
    (textMember ms name).Obeys D Q := by
  unfold textMember
  split
  · next h => exact .fail (hno fun s hs => by rw [h] at hs; cases hs).1
  · next s h => exact .done (htext s h)
  · next v hv h =>
      refine .fail (hno fun s hs => ?_).2
      rw [h] at hs
      exact hv s (Option.some.inj hs)

/-- A call inside a stage. -/
theorem obeys_perform {t : Operation → CallFailure → Prop} {ops : List Operation} {c : Call}
    {Q : Object → Prop} (hop : ops.contains c.operation = true) (ht : ∀ f, ¬t c.operation f)
    (hok : ∀ reply, D.admits (.call c (.ok reply)) → Q reply) : (perform c).Obeys (D.raw t ops) Q :=
  .call (fun reply ha => .done (hok reply ha)) (fun _ h => absurd h (ht _))
    fun _ _ => ⟨_, rfl, List.contains_iff_mem.mp hop, rfl⟩

/-- A listing inside a stage. -/
theorem obeys_collect {t : Operation → CallFailure → Prop} {ops : List Operation} {l : Listing}
    {Q : List Object → Prop} (hop : ops.contains l.operation = true) (ht : ∀ f, ¬t l.operation f)
    (hok : ∀ items, D.admits (.list l (.ok items)) → Q items) : (collect l).Obeys (D.raw t ops) Q :=
  .list (fun items ha => .done (hok items ha)) (fun _ h => absurd h (ht _))
    fun _ _ => ⟨_, rfl, List.contains_iff_mem.mp hop, rfl⟩

theorem Obeys.bind {f : α → Program β} (hp : p.Obeys D Q) (hf : ∀ a, Q a → (f a).Obeys D R) :
    (p.bind f).Obeys D R := by
  induction hp with
  | done h => exact hf _ h
  | fail h => exact .fail h
  | note _ ih => exact .note ih
  | call _ _ hend ihok ihgo =>
      -- a failed call that ends the first program ends the whole: nothing is bound to a failure
      refine .call ihok ihgo fun fault ht => ?_
      obtain ⟨e, he, hr⟩ := hend fault ht
      exact ⟨e, by rw [he]; rfl, hr⟩
  | list _ _ hend ihok ihgo =>
      refine .list ihok ihgo fun fault ht => ?_
      obtain ⟨e, he, hr⟩ := hend fault ht
      exact ⟨e, by rw [he]; rfl, hr⟩

section

variable {t : Operation → CallFailure → Prop} {ops : List Operation} {handler : CallFailure → Program α}

/-- What a handler makes of a failed call, when inside the call is gone on from or a failure by itself. -/
theorem handled {op : Operation} {f : CallFailure} {rest : Program α}
    (ht : t op f → D.tolerates op f) (hinside : t op f → (rest.rescueCall handler).Obeys D Q)
    (hraw : ¬t op f → ∃ e, rest = .fail e ∧ op ∈ ops ∧ e = .call f)
    (hgo : op ∈ ops → ¬t op f → D.tolerates op f → (handler f).Obeys D Q)
    (hend : op ∈ ops → ¬D.tolerates op f → ∃ e, handler f = .fail e ∧ D.reports op f e) :
    (D.tolerates op f → (rest.rescueCall handler).Obeys D Q) ∧
      (¬D.tolerates op f → ∃ e, rest.rescueCall handler = .fail e ∧ D.reports op f e) := by
  by_cases hn : t op f
  · exact ⟨fun _ => hinside hn, fun hd => absurd (ht hn) hd⟩
  · obtain ⟨_, rfl, hop, rfl⟩ := hraw hn
    exact ⟨hgo hop hn, hend hop⟩

/-- **A handler of failed calls makes a stage out of what is inside.** What was gone on from inside still
is; each other failed call is gone on from if it is tolerated, and is reported otherwise. -/
theorem Obeys.rescueCall (t : Operation → CallFailure → Prop) (ops : List Operation)
    (hp : p.Obeys (D.raw t ops) Q) (ht : ∀ op f, t op f → D.tolerates op f)
    (hgo : ∀ op ∈ ops, ∀ f, ¬t op f → D.tolerates op f → (handler f).Obeys D Q)
    (hend : ∀ op ∈ ops, ∀ f, ¬D.tolerates op f → ∃ e, handler f = .fail e ∧ D.reports op f e) :
    (p.rescueCall handler).Obeys D Q := by
  induction hp with
  | done h => exact .done h
  | @fail e h =>
      -- what is allowed inside is not the failure of a call, so the handler lets it pass
      obtain ⟨hallowed, hne⟩ := h
      cases e <;> first | exact absurd rfl (hne _) | exact .fail hallowed
  | note _ ih => exact .note ih
  | call _ _ hraw ihok ihgo =>
      have hstep := fun fault => handled (ht _ _) (ihgo fault) (hraw fault) (fun hop => hgo _ hop _)
        fun hop => hend _ hop _
      exact .call ihok (fun fault => (hstep fault).1) fun fault => (hstep fault).2
  | list _ _ hraw ihok ihgo =>
      have hstep := fun fault => handled (ht _ _) (ihgo fault) (hraw fault) (fun hop => hgo _ hop _)
        fun hop => hend _ hop _
      exact .list ihok (fun fault => (hstep fault).1) fun fault => (hstep fault).2

end

/-- Labels make a stage out of what is inside, when each is what its call is to be reported as. -/
theorem Obeys.relabel (ops : List Operation) {label : CallFailure → Failure}
    (hp : p.Obeys (D.raw D.tolerates ops) Q) (hr : ∀ op ∈ ops, ∀ f, D.reports op f (label f)) :
    (p.relabel label).Obeys D Q :=
  hp.rescueCall D.tolerates ops (fun _ _ h => h) (fun _ _ _ hn h => absurd h hn)
    fun op hop f _ => ⟨_, rfl, hr op hop f⟩

end Program

end ApiReconciler
