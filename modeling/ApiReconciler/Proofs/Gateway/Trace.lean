import ApiReconciler.Proofs.Gateway.Exchange

/-!
# `ApiReconciler.Proofs.Gateway.Trace` — what a program may exchange, whatever is answered

A trace of a program is a list of exchanges it can go through together with the end it comes to. Every run
against every backend leaves one (`trace_run`), so a fact about all traces is a fact about all scripts of
replies. Traces come apart along the program (`trace_bind`, `trace_rescue`), which is how the properties
of the whole pipeline are reduced to those of its stages.

Which requests a program makes does not depend on where a trace ends. `Program.Asks P` says it of the
program itself: every request it can come to satisfies `P`.

## Contents
- `Program.Trace`, `trace_run`, `Trace.unique`, and the inversion lemmas of the combinators.
- `Program.Asks`, its rules, and `Asks.trace`: what holds of all requests of a program holds of every
  exchange of a trace. `Asks.preserves`: what they all preserve is an invariant of its runs.
-/

namespace ApiReconciler.Program

variable {σ α β : Type} {p : Program α} {xs : List Exchange}

/-- `p.Trace xs r`: the program can exchange `xs` with the gateway and then end with `r`. -/
def Trace : Program α → List Exchange → Except Failure α → Prop
  | .done a, xs, r => xs = [] ∧ r = .ok a
  | .fail e, xs, r => xs = [] ∧ r = .error e
  | .note _ rest, xs, r => rest.Trace xs r
  | .call c rest, xs, r => ∃ a ys, xs = .call c a :: ys ∧ (rest a).Trace ys r
  | .list l rest, xs, r => ∃ a ys, xs = .list l a :: ys ∧ (rest a).Trace ys r

/-- **A run leaves a trace.** -/
theorem trace_run (b : Backend σ) (p : Program α) (s : σ) :
    p.Trace (p.exchanges b s) (p.run b s).result := by
  induction p generalizing s with
  | done a => exact ⟨rfl, rfl⟩
  | fail e => exact ⟨rfl, rfl⟩
  | note n rest ih => exact ih s
  | call c rest ih => exact ⟨_, _, rfl, ih _ _⟩
  | list l rest ih => exact ⟨_, _, rfl, ih _ _⟩

theorem Runs.trace {b : Backend σ} {s s' : σ} {r : Except Failure α} (h : Runs b p s xs r s') :
    p.Trace xs r := by
  obtain ⟨rfl, -, rfl⟩ := h
  exact trace_run b p s

/-- What is exchanged determines how a program ends. -/
theorem Trace.unique {r r' : Except Failure α} (h : p.Trace xs r) (h' : p.Trace xs r') : r = r' := by
  induction p generalizing xs with
  | done a => exact h.2.trans h'.2.symm
  | fail e => exact h.2.trans h'.2.symm
  | note n rest ih => exact ih h h'
  | call c rest ih =>
      obtain ⟨a, ys, rfl, h⟩ := h
      obtain ⟨a', ys', he, h'⟩ := h'
      obtain ⟨hcall, rfl⟩ := List.cons_eq_cons.mp he
      cases hcall
      exact ih a h h'
  | list l rest ih =>
      obtain ⟨a, ys, rfl, h⟩ := h
      obtain ⟨a', ys', he, h'⟩ := h'
      obtain ⟨hlist, rfl⟩ := List.cons_eq_cons.mp he
      cases hlist
      exact ih a h h'

/-- How a program goes on matters only for the ends that it can come to. -/
theorem onEnd_congr {f g : Except Failure α → Program β} (h : ∀ xs m, p.Trace xs m → f m = g m) :
    p.onEnd f = p.onEnd g := by
  induction p with
  | done a => exact h [] _ ⟨rfl, rfl⟩
  | fail e => exact h [] _ ⟨rfl, rfl⟩
  | note n rest ih => exact congrArg (Program.note n) (ih h)
  | call c rest ih =>
      refine congrArg (Program.call c) (funext fun a => ih a fun xs m hp => ?_)
      exact h (.call c a :: xs) m ⟨a, xs, rfl, hp⟩
  | list l rest ih =>
      refine congrArg (Program.list l) (funext fun r => ih r fun xs m hp => ?_)
      exact h (.list l r :: xs) m ⟨r, xs, rfl, hp⟩

theorem bind_congr {f g : α → Program β} (h : ∀ xs a, p.Trace xs (.ok a) → f a = g a) :
    p.bind f = p.bind g := by
  rw [bind_eq_onEnd, bind_eq_onEnd]
  refine onEnd_congr fun xs m hp => ?_
  cases m with
  | ok a => exact h xs a hp
  | error e => rfl

/-! ## Inversion -/

@[simp] theorem trace_done {a : α} {r : Except Failure α} :
    (Program.done a).Trace xs r ↔ xs = [] ∧ r = .ok a := Iff.rfl

@[simp] theorem trace_fail {e : Failure} {r : Except Failure α} :
    (Program.fail e).Trace xs r ↔ xs = [] ∧ r = .error e := Iff.rfl

@[simp] theorem trace_note {n : Note} {r : Except Failure α} :
    (Program.note n p).Trace xs r ↔ p.Trace xs r := Iff.rfl

/-- A trace splits where its first program ends. -/
theorem trace_onEnd {f : Except Failure α → Program β} {r : Except Failure β} :
    (p.onEnd f).Trace xs r ↔
      ∃ m ys zs, xs = ys ++ zs ∧ p.Trace ys m ∧ (f m).Trace zs r := by
  induction p generalizing xs with
  | done a =>
      constructor
      · intro h
        exact ⟨.ok a, [], xs, rfl, ⟨rfl, rfl⟩, h⟩
      · rintro ⟨m, ys, zs, rfl, ⟨rfl, rfl⟩, h⟩
        exact h
  | fail e =>
      constructor
      · intro h
        exact ⟨.error e, [], xs, rfl, ⟨rfl, rfl⟩, h⟩
      · rintro ⟨m, ys, zs, rfl, ⟨rfl, rfl⟩, h⟩
        exact h
  | note n rest ih => exact ih
  | call c rest ih =>
      constructor
      · rintro ⟨a, ts, rfl, h⟩
        obtain ⟨m, ys, zs, rfl, hp, hf⟩ := (ih a).mp h
        exact ⟨m, .call c a :: ys, zs, rfl, ⟨a, ys, rfl, hp⟩, hf⟩
      · rintro ⟨m, ys, zs, rfl, ⟨a, us, rfl, hp⟩, hf⟩
        exact ⟨a, us ++ zs, rfl, (ih a).mpr ⟨m, us, zs, rfl, hp, hf⟩⟩
  | list l rest ih =>
      constructor
      · rintro ⟨a, ts, rfl, h⟩
        obtain ⟨m, ys, zs, rfl, hp, hf⟩ := (ih a).mp h
        exact ⟨m, .list l a :: ys, zs, rfl, ⟨a, ys, rfl, hp⟩, hf⟩
      · rintro ⟨m, ys, zs, rfl, ⟨a, us, rfl, hp⟩, hf⟩
        exact ⟨a, us ++ zs, rfl, (ih a).mpr ⟨m, us, zs, rfl, hp, hf⟩⟩

/-- Either the first program succeeds and the second goes on, or it fails and that is the end. -/
theorem trace_bind {f : α → Program β} {r : Except Failure β} :
    (p.bind f).Trace xs r ↔
      (∃ a ys zs, xs = ys ++ zs ∧ p.Trace ys (.ok a) ∧ (f a).Trace zs r) ∨
        ∃ e, r = .error e ∧ p.Trace xs (.error e) := by
  rw [bind_eq_onEnd, trace_onEnd]
  constructor
  · rintro ⟨m, ys, zs, rfl, hp, hf⟩
    cases m with
    | ok a => exact .inl ⟨a, ys, zs, rfl, hp, hf⟩
    | error e =>
        obtain ⟨rfl, rfl⟩ := hf
        exact .inr ⟨e, rfl, by rwa [List.append_nil]⟩
  · rintro (⟨a, ys, zs, rfl, hp, hf⟩ | ⟨e, rfl, hp⟩)
    · exact ⟨.ok a, ys, zs, rfl, hp, hf⟩
    · exact ⟨.error e, xs, [], (List.append_nil xs).symm, hp, rfl, rfl⟩

theorem trace_bind_ok {f : α → Program β} {v : β} :
    (p.bind f).Trace xs (.ok v) ↔
      ∃ a ys zs, xs = ys ++ zs ∧ p.Trace ys (.ok a) ∧ (f a).Trace zs (.ok v) := by
  rw [trace_bind]
  constructor
  · intro h
    refine h.resolve_right ?_
    rintro ⟨e, he, -⟩
    cases he
  · exact Or.inl

/-- Either the program succeeds, or it fails and the handler goes on. -/
theorem trace_rescue {handler : Failure → Program α} {r : Except Failure α} :
    (p.rescue handler).Trace xs r ↔
      (∃ a, r = .ok a ∧ p.Trace xs (.ok a)) ∨
        ∃ e ys zs, xs = ys ++ zs ∧ p.Trace ys (.error e) ∧ (handler e).Trace zs r := by
  rw [rescue_eq_onEnd, trace_onEnd]
  constructor
  · rintro ⟨m, ys, zs, rfl, hp, hf⟩
    cases m with
    | ok a =>
        obtain ⟨rfl, rfl⟩ := hf
        exact .inl ⟨a, rfl, by rwa [List.append_nil]⟩
    | error e => exact .inr ⟨e, ys, zs, rfl, hp, hf⟩
  · rintro (⟨a, rfl, hp⟩ | ⟨e, ys, zs, rfl, hp, hf⟩)
    · exact ⟨.ok a, xs, [], (List.append_nil xs).symm, hp, rfl, rfl⟩
    · exact ⟨.error e, ys, zs, rfl, hp, hf⟩

/-- Success, a failed call that the handler goes on from, or a failure that is no failed call. -/
theorem trace_rescueCall {handler : CallFailure → Program α} {r : Except Failure α} :
    (p.rescueCall handler).Trace xs r ↔
      (∃ a, r = .ok a ∧ p.Trace xs (.ok a)) ∨
        (∃ f ys zs, xs = ys ++ zs ∧ p.Trace ys (.error (.call f)) ∧ (handler f).Trace zs r) ∨
        ∃ e, (∀ f, e ≠ .call f) ∧ r = .error e ∧ p.Trace xs (.error e) := by
  rw [rescueCall, trace_rescue]
  refine or_congr Iff.rfl ?_
  constructor
  · -- there are many kinds of failures, but only two cases: a failed call, and all others
    rintro ⟨e, ys, zs, rfl, hp, hf⟩
    by_cases he : ∃ f, e = .call f
    · obtain ⟨f, rfl⟩ := he
      exact .inl ⟨f, ys, zs, rfl, hp, hf⟩
    · have hne : ∀ f, e ≠ .call f := fun f h => he ⟨f, h⟩
      obtain ⟨rfl, rfl⟩ : zs = [] ∧ r = .error e := by
        cases e <;> first | exact absurd rfl (hne _) | exact hf
      exact .inr ⟨e, hne, rfl, by rwa [List.append_nil]⟩
  · rintro (⟨f, ys, zs, rfl, hp, hf⟩ | ⟨e, hne, rfl, hp⟩)
    · exact ⟨.call f, ys, zs, rfl, hp, hf⟩
    · refine ⟨e, xs, [], (List.append_nil xs).symm, hp, ?_⟩
      cases e <;> first | exact absurd rfl (hne _) | exact ⟨rfl, rfl⟩

/-- Relabelled failures are still failures: a success is one of the program itself. -/
@[simp] theorem trace_relabel_ok {label : CallFailure → Failure} {a : α} :
    (p.relabel label).Trace xs (.ok a) ↔ p.Trace xs (.ok a) := by
  rw [relabel, trace_rescueCall]
  constructor
  · rintro (⟨a', h, hp⟩ | ⟨f, ys, zs, rfl, hp, hf⟩ | ⟨e, -, h, -⟩)
    · rwa [Except.ok.inj h]
    · cases hf.2
    · cases h
  · exact fun hp => .inl ⟨a, rfl, hp⟩

/-- A program that ends with the answer to one call has two ends: that for a reply and that for a fault. -/
theorem trace_call_iff {c : Call} {k : Except CallFault Object → Program α} {ended : Object → α}
    {failed : CallFault → Failure} {r : Except Failure α} (hreply : ∀ reply, k (.ok reply) = .done (ended reply))
    (hfault : ∀ fault, k (.error fault) = .fail (failed fault)) :
    (call c k).Trace xs r ↔
      (∃ reply, xs = [.call c (.ok reply)] ∧ r = .ok (ended reply)) ∨
        ∃ fault, xs = [.call c (.error fault)] ∧ r = .error (failed fault) := by
  constructor
  · rintro ⟨a, ys, rfl, h⟩
    cases a with
    | ok reply =>
        rw [hreply] at h
        obtain ⟨rfl, rfl⟩ := h
        exact .inl ⟨reply, rfl, rfl⟩
    | error fault =>
        rw [hfault] at h
        obtain ⟨rfl, rfl⟩ := h
        exact .inr ⟨fault, rfl, rfl⟩
  · rintro (⟨reply, rfl, rfl⟩ | ⟨fault, rfl, rfl⟩)
    · refine ⟨.ok reply, [], rfl, ?_⟩
      rw [hreply]
      exact ⟨rfl, rfl⟩
    · refine ⟨.error fault, [], rfl, ?_⟩
      rw [hfault]
      exact ⟨rfl, rfl⟩

theorem trace_perform {c : Call} {r : Except Failure Object} :
    (perform c).Trace xs r ↔
      (∃ reply, xs = [.call c (.ok reply)] ∧ r = .ok reply) ∨
        ∃ fault, xs = [.call c (.error fault)] ∧ r = .error (.call ⟨c.operation.name, fault⟩) :=
  trace_call_iff (fun _ => rfl) fun _ => rfl

@[simp] theorem trace_perform_ok {c : Call} {reply : Object} :
    (perform c).Trace xs (.ok reply) ↔ xs = [.call c (.ok reply)] := by
  simp [trace_perform]

@[simp] theorem trace_collect_ok {l : Listing} {items : List Object} :
    (collect l).Trace xs (.ok items) ↔ xs = [.list l (.ok items)] := by
  constructor
  · rintro ⟨a, ys, rfl, h⟩
    cases a with
    | ok found =>
        obtain ⟨rfl, h⟩ := h
        rw [Except.ok.inj h]
    | error fault => cases h.2
  · rintro rfl
    exact ⟨.ok items, [], rfl, rfl, rfl⟩

@[simp] theorem trace_textMember_ok {ms : Object} {name s : String} :
    (textMember ms name).Trace xs (.ok s) ↔ xs = [] ∧ ms.get? name = some (.text s) := by
  unfold textMember
  split
  · next h => rw [h]; simp
  · next h => rw [h]; simp [eq_comm]
  · next v hv h =>
      have hne : some v ≠ some (.text s) := fun he => hv s (Option.some.inj he)
      rw [h]; simp only [trace_fail, hne, and_false, reduceCtorEq]

@[simp] theorem trace_log {n : Note} {r : Except Failure Unit} :
    (log n).Trace xs r ↔ xs = [] ∧ r = .ok () := Iff.rfl

@[simp] theorem trace_ofExcept {x r : Except Failure α} :
    (ofExcept x).Trace xs r ↔ xs = [] ∧ r = x := by
  cases x <;> rfl

theorem trace_ofExcept_mapError_ok {ε : Type} {x : Except ε α} {f : ε → Failure} {a : α} :
    (ofExcept (x.mapError f)).Trace xs (.ok a) ↔ xs = [] ∧ x = .ok a := by
  cases x <;> simp [Except.mapError, eq_comm]

/-! ## Requests -/

/-- Every request that the program can come to satisfies `P`. -/
def Asks (P : Request → Prop) : Program α → Prop
  | .done _ => True
  | .fail _ => True
  | .note _ rest => rest.Asks P
  | .call c rest => P (.call c) ∧ ∀ a, (rest a).Asks P
  | .list l rest => P (.list l) ∧ ∀ r, (rest r).Asks P

variable {P Q : Request → Prop}

theorem Asks.trace {r : Except Failure α} (hp : p.Asks P) (h : p.Trace xs r) :
    ∀ x ∈ xs, P x.request := by
  induction p generalizing xs with
  | done a => simp [h.1]
  | fail e => simp [h.1]
  | note n rest ih => exact ih hp h
  | call c rest ih =>
      obtain ⟨a, ys, rfl, h⟩ := h
      intro x hx
      rcases List.mem_cons.mp hx with rfl | hx
      · exact hp.1
      · exact ih a (hp.2 a) h x hx
  | list l rest ih =>
      obtain ⟨a, ys, rfl, h⟩ := h
      intro x hx
      rcases List.mem_cons.mp hx with rfl | hx
      · exact hp.1
      · exact ih a (hp.2 a) h x hx

/-- What holds of all requests of a program holds of all exchanges of a run. -/
theorem Asks.exchanges {b : Backend σ} {s : σ} (hp : p.Asks P) :
    ∀ x ∈ p.exchanges b s, P x.request :=
  hp.trace (trace_run b p s)

/-- What every request of a program preserves is preserved by its runs. -/
theorem Asks.preserves {b : Backend σ} {I : σ → Prop} (hp : p.Asks P)
    (hcall : ∀ c s, P (.call c) → I s → I (b.answer c s).2)
    (hlist : ∀ l s, P (.list l) → I s → I (b.list l s).2.2) {s : σ} (hs : I s) : I (p.run b s).state := by
  induction p generalizing s with
  | done a => exact hs
  | fail e => exact hs
  | note n rest ih => exact ih hp hs
  | call c rest ih => exact ih _ (hp.2 _) (hcall c s hp.1 hs)
  | list l rest ih => exact ih _ (hp.2 _) (hlist l s hp.1 hs)

theorem Asks.and (hp : p.Asks P) (hq : p.Asks Q) : p.Asks fun q => P q ∧ Q q := by
  induction p with
  | done a => trivial
  | fail e => trivial
  | note n rest ih => exact ih hp hq
  | call c rest ih => exact ⟨⟨hp.1, hq.1⟩, fun a => ih a (hp.2 a) (hq.2 a)⟩
  | list l rest ih => exact ⟨⟨hp.1, hq.1⟩, fun r => ih r (hp.2 r) (hq.2 r)⟩

theorem Asks.mono (hp : p.Asks P) (h : ∀ q, P q → Q q) : p.Asks Q := by
  induction p with
  | done a => trivial
  | fail e => trivial
  | note n rest ih => exact ih hp
  | call c rest ih => exact ⟨h _ hp.1, fun a => ih a (hp.2 a)⟩
  | list l rest ih => exact ⟨h _ hp.1, fun r => ih r (hp.2 r)⟩

@[simp] theorem asks_done {a : α} : (Program.done a).Asks P := trivial

@[simp] theorem asks_fail {e : Failure} : (Program.fail e : Program α).Asks P := trivial

@[simp] theorem asks_note {n : Note} : (Program.note n p).Asks P ↔ p.Asks P := Iff.rfl

@[simp] theorem asks_log {n : Note} : (log n).Asks P := trivial

theorem asks_onEnd {f : Except Failure α → Program β} (hp : p.Asks P) (hf : ∀ m, (f m).Asks P) :
    (p.onEnd f).Asks P := by
  induction p with
  | done a => exact hf _
  | fail e => exact hf _
  | note n rest ih => exact ih hp
  | call c rest ih => exact ⟨hp.1, fun a => ih a (hp.2 a)⟩
  | list l rest ih => exact ⟨hp.1, fun r => ih r (hp.2 r)⟩

theorem asks_bind {f : α → Program β} (hp : p.Asks P) (hf : ∀ a, (f a).Asks P) :
    (p.bind f).Asks P := by
  rw [bind_eq_onEnd]
  refine asks_onEnd hp fun m => ?_
  cases m with
  | ok a => exact hf a
  | error e => trivial

theorem asks_rescue {handler : Failure → Program α} (hp : p.Asks P)
    (hh : ∀ e, (handler e).Asks P) : (p.rescue handler).Asks P := by
  rw [rescue_eq_onEnd]
  refine asks_onEnd hp fun m => ?_
  cases m with
  | ok a => trivial
  | error e => exact hh e

theorem asks_rescueCall {handler : CallFailure → Program α} (hp : p.Asks P)
    (hh : ∀ f, (handler f).Asks P) : (p.rescueCall handler).Asks P := by
  refine asks_rescue hp fun e => ?_
  cases e <;> first | exact hh _ | trivial

theorem asks_relabel {label : CallFailure → Failure} (hp : p.Asks P) : (p.relabel label).Asks P :=
  asks_rescueCall hp fun _ => trivial

@[simp] theorem asks_perform {c : Call} : (perform c).Asks P ↔ P (.call c) := by
  constructor
  · exact fun h => h.1
  · intro h
    refine ⟨h, fun a => ?_⟩
    cases a <;> trivial

@[simp] theorem asks_collect {l : Listing} : (collect l).Asks P ↔ P (.list l) := by
  constructor
  · exact fun h => h.1
  · intro h
    refine ⟨h, fun r => ?_⟩
    cases r <;> trivial

@[simp] theorem asks_textMember {ms : Object} {name : String} : (textMember ms name).Asks P := by
  unfold textMember
  split <;> trivial

@[simp] theorem asks_ofExcept {x : Except Failure α} : (ofExcept x).Asks P := by
  cases x <;> trivial

end ApiReconciler.Program
