import Mathlib
import ApiReconciler.Gateway.Script

/-!
# `ApiReconciler.Proofs.Gateway.Pages` — the pages of a scripted listing

A listing takes replies from the front of a queue, one for each page. Which ones it takes does not depend on
what is done with them (`Script.taken`), nor on whether a paginator takes them or a loop that carries the
position itself: both come to the same (`pages`, `foldlM_taken`, `Progress.run_eq`). So what a listing gives can
be said of these replies alone: all of their items in order if they are all pages (`pages_of_taken`), and
nothing but the fault if one of them is none (`pages_of_fault`). A fault ends the listing, so there is never
more than one and it is the last reply that is taken; that one of the two cases holds is `taken_cases`.
-/

namespace ApiReconciler.Script

/-- The items of the pages at the front of a queue, the positions the pages start from, and what is
left of the queue. -/
def pages (position : Option Value) :
    List Answer → Except CallFault (List Object) × List (Option Value) × List Answer
  | [] => (.ok [], [position], [])
  | .error fault :: rest => (.error fault, [position], rest)
  | .ok page :: rest =>
    match following? page with
    | none => (.ok (items page), [position], rest)
    | some p =>
      let (result, positions, rest) := pages (some p) rest
      (result.map (items page ++ ·), position :: positions, rest)

section

variable {page : Object} {next : Value} {position : Option Value} {queue : List Answer}

theorem taken_last (h : following? page = none) : taken (.ok page :: queue) = [.ok page] := by
  rw [taken, h]; rfl

theorem taken_next (h : following? page = some next) :
    taken (.ok page :: queue) = .ok page :: taken queue := by
  rw [taken, h]; rfl

theorem pages_last (h : following? page = none) :
    pages position (.ok page :: queue) = (.ok (items page), [position], queue) := by
  rw [pages, h]

theorem pages_next (h : following? page = some next) :
    pages position (.ok page :: queue) =
      ((pages (some next) queue).1.map (items page ++ ·), position :: (pages (some next) queue).2.1,
        (pages (some next) queue).2.2) := by
  rw [pages, h]

/-- **A listing without a fault gives all items of its pages in order.** -/
theorem pages_of_taken {ps : List Object} (htaken : taken queue = ps.map .ok) :
    (pages position queue).1 = .ok (ps.flatMap items) := by
  induction queue generalizing position ps with
  | nil =>
      obtain ⟨page, rfl, hpage⟩ := List.map_eq_singleton_iff.mp htaken.symm
      rw [Except.ok.inj hpage]
      rfl
  | cons answer rest ih =>
      cases answer with
      | error fault =>
          obtain ⟨page, -, hpage⟩ := List.map_eq_singleton_iff.mp htaken.symm
          cases hpage
      | ok page =>
          cases h : following? page with
          | none =>
              rw [taken_last h] at htaken
              obtain ⟨page', rfl, hpage⟩ := List.map_eq_singleton_iff.mp htaken.symm
              rw [pages_last h, Except.ok.inj hpage, List.flatMap_singleton]
          | some p =>
              rw [taken_next h] at htaken
              obtain ⟨page', ps, rfl, hpage, hrest⟩ := List.map_eq_cons_iff.mp htaken.symm
              rw [pages_next h, ih hrest.symm, Except.ok.inj hpage, List.flatMap_cons]
              rfl

/-- **A fault ends a listing and leaves it without items.** -/
theorem pages_of_fault {fault : CallFault} (htaken : .error fault ∈ taken queue) :
    (pages position queue).1 = .error fault := by
  induction queue generalizing position with
  | nil => cases List.mem_singleton.mp htaken
  | cons answer rest ih =>
      cases answer with
      | error fault' =>
          rw [Except.error.inj (List.mem_singleton.mp htaken)]
          rfl
      | ok page =>
          cases h : following? page with
          | none =>
              rw [taken_last h] at htaken
              cases List.mem_singleton.mp htaken
          | some p =>
              rw [taken_next h, List.mem_cons] at htaken
              rw [pages_next h, ih (htaken.resolve_left nofun)]
              rfl

/-- **A paginator and the pages it takes.** What was collected before stands in front. -/
theorem foldlM_taken (collected : List Object) (position : Option Value) (queue : List Answer) :
    (taken queue).foldlM extend collected = (pages position queue).1.map (collected ++ ·) := by
  induction queue generalizing collected position with
  | nil => rfl
  | cons answer rest ih =>
      cases answer with
      | error fault => rfl
      | ok page =>
          cases h : following? page with
          | none =>
              rw [taken_last h, pages_last h]
              rfl
          | some p =>
              have hstep : (taken (.ok page :: rest)).foldlM extend collected =
                  (taken rest).foldlM extend (collected ++ items page) := by
                rw [taken_next h]
                rfl
              rw [hstep, ih (collected ++ items page) (some p), pages_next h]
              cases (pages (some p) rest).1 <;> simp [Except.map]

/-- One turn of the loop adds a page to what was collected, and the loop ends where a paginator does. -/
theorem Progress.turn_ok (p : Progress) (page : Object) :
    p.turn (.ok page) = match following? page with
      | none => .inl (.ok (p.collected ++ items page))
      | some next => .inr ⟨p.collected ++ items page, some next⟩ := rfl

/-- **A loop and the pages it takes.** -/
theorem Progress.run_eq (p : Progress) (queue : List Answer) :
    p.run queue = ((pages p.position queue).1.map (p.collected ++ ·), (pages p.position queue).2) := by
  induction queue generalizing p with
  | nil => rfl
  | cons answer rest ih =>
      cases answer with
      | error fault => rfl
      | ok page =>
          cases h : following? page with
          | none =>
              rw [pages_last h]
              simp [run, turn_ok, h, Except.map]
          | some next =>
              rw [pages_next h]
              simp only [run, turn_ok, h, ih]
              cases (pages (some next) rest).1 <;> simp [Except.map]

end

/-- With a paginator or without one, a listing comes to the same. -/
theorem list_result (paged : Bool) (l : Listing) (s : Script) :
    ((backend paged).list l s).1 = (pages none (s l.operation)).1 := by
  have hempty : ∀ r : Except CallFault (List Object), r.map ([] ++ ·) = r := by
    intro r
    cases r <;> simp [Except.map]
  cases paged with
  | true => exact (foldlM_taken [] none _).trans (hempty _)
  | false => exact (congrArg Prod.fst (Progress.run_eq Progress.start _)).trans (hempty _)

/-- All replies that a listing takes are pages, or one of them is a fault. -/
theorem taken_cases (queue : List Answer) :
    (∃ ps : List Object, taken queue = ps.map .ok) ∨ ∃ fault, .error fault ∈ taken queue := by
  induction queue with
  | nil => exact .inl ⟨[[]], rfl⟩
  | cons answer rest ih =>
      cases answer with
      | error fault => exact .inr ⟨fault, List.mem_cons_self⟩
      | ok page =>
          cases h : following? page with
          | none => exact .inl ⟨[page], taken_last h⟩
          | some p =>
              rw [taken_next h]
              rcases ih with ⟨ps, hps⟩ | ⟨fault, hfault⟩
              · exact .inl ⟨page :: ps, by rw [hps, List.map_cons]⟩
              · exact .inr ⟨fault, List.mem_cons_of_mem _ hfault⟩

end ApiReconciler.Script
