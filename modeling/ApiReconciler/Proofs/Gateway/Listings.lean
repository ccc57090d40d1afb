import ApiReconciler.Proofs.Gateway.Exchange
import ApiReconciler.Proofs.Gateway.Pages

/-!
# `ApiReconciler.Proofs.Gateway.Listings` — a listing is the same with a paginator and without one

A client with a paginator and a loop that carries the position itself see the same queue of replies, and what
either of them does is settled by how the queue begins: with pages that name a further position, and behind
them the reply that closes the listing (`Paging`). Every queue begins so, since a queue that is used up goes on
with replies that have no members, and such a reply closes a listing (`exists_paging`). That is also why the
loop ends: each of its turns but the last takes a reply from the queue (`Paging.length_le`).

## Contents
- `Paging`: how a queue begins; `Paging.cons`: what is behind the first page.
- `Paging.pages`, `Paging.taken`: the pages of a queue that begins so.
- `given`, `paths_of_listing_agree`: both ways of listing, with their results and their calls.
-/

namespace ApiReconciler.Script

open Program

/-! ## How a queue begins -/

/-- The replies of a listing: pages that name a further position, and the reply that closes the listing, which
is a page that names none, or a fault. A queue that is used up gives a reply without members. -/
structure Paging (queue : List Answer) (front : List Object) (closing : Answer) : Prop where
  replies : front.map .ok ++ [closing] <+: queue ++ [Answer.empty]
  goesOn : ∀ page ∈ front, (following? page).isSome
  closes : ∀ page, closing = .ok page → following? page = none

section

variable {queue : List Answer} {page : Object} {front : List Object} {closing : Answer}

/-- Every queue begins with the replies of a listing. -/
theorem exists_paging (queue : List Answer) : ∃ front closing, Paging queue front closing := by
  induction queue with
  | nil =>
      refine ⟨[], Answer.empty, List.prefix_refl _, by simp, ?_⟩
      intro page hpage
      rw [← Except.ok.inj hpage]
      rfl
  | cons answer rest ih =>
      cases answer with
      | error fault => exact ⟨[], .error fault, by simp, by simp, nofun⟩
      | ok page =>
          cases h : following? page with
          | none =>
              refine ⟨[], .ok page, by simp, by simp, ?_⟩
              intro page' hpage
              rw [← Except.ok.inj hpage]
              exact h
          | some next =>
              obtain ⟨front, closing, hrest⟩ := ih
              refine ⟨page :: front, closing, ?_, ?_, hrest.closes⟩
              · simpa using hrest.replies
              · simpa [h] using hrest.goesOn

/-- A page that does not close a listing is a reply of the queue, and the listing goes on behind it. -/
theorem Paging.cons (h : Paging queue (page :: front) closing) :
    ∃ next rest, following? page = some next ∧ queue = .ok page :: rest ∧ Paging rest front closing := by
  obtain ⟨next, hnext⟩ := Option.isSome_iff_exists.mp (h.goesOn page List.mem_cons_self)
  have hreplies := h.replies
  cases queue with
  | nil =>
      -- one reply without members is no room for two
      have hlength := hreplies.length_le
      simp at hlength
  | cons answer rest =>
      simp only [List.map_cons, List.cons_append, List.cons_prefix_cons] at hreplies
      obtain ⟨rfl, hrest⟩ := hreplies
      exact ⟨next, rest, hnext, rfl, hrest, fun p hp => h.goesOn p (List.mem_cons_of_mem page hp), h.closes⟩

/-- A listing without further pages is closed by the next reply. -/
theorem Paging.nil (h : Paging queue [] closing) :
    (queue = [] ∧ closing = Answer.empty) ∨ ∃ rest, queue = closing :: rest := by
  have hreplies := h.replies
  cases queue with
  | nil => exact .inl ⟨rfl, by simpa using hreplies⟩
  | cons answer rest =>
      have hclosing : closing = answer := by simpa using hreplies
      exact .inr ⟨rest, by rw [hclosing]⟩

/-- **A listing needs at most one call more than there are replies.** -/
theorem Paging.length_le (h : Paging queue front closing) : front.length ≤ queue.length := by
  have hlength := h.replies.length_le
  simp only [List.length_append, List.length_map, List.length_singleton] at hlength
  omega

/-! ## Its pages -/

theorem Paging.taken (h : Paging queue front closing) : taken queue = front.map .ok ++ [closing] := by
  induction front generalizing queue with
  | nil =>
      rcases h.nil with ⟨rfl, rfl⟩ | ⟨rest, rfl⟩
      · rfl
      · cases closing with
        | error fault => rfl
        | ok page => exact taken_last (h.closes page rfl)
  | cons page front ih =>
      obtain ⟨next, rest, hnext, rfl, hrest⟩ := h.cons
      rw [taken_next hnext, ih hrest]
      rfl

/-- The items of the pages, the positions of their calls, and the replies behind them. -/
theorem Paging.pages (h : Paging queue front closing) (position : Option Value) :
    pages position queue =
      (closing.map fun page => (front ++ [page]).flatMap items, position :: front.map following?,
        queue.drop (front.length + 1)) := by
  induction front generalizing queue position with
  | nil =>
      rcases h.nil with ⟨rfl, rfl⟩ | ⟨rest, rfl⟩
      · rfl
      · cases closing with
        | error fault => rfl
        | ok page =>
            rw [pages_last (h.closes page rfl)]
            simp [Except.map]
  | cons page front ih =>
      obtain ⟨next, rest, hnext, rfl, hrest⟩ := h.cons
      rw [pages_next hnext, ih hrest]
      cases closing <;> simp [Except.map, hnext]

end

/-! ## Both ways -/

section

variable {σ : Type} {b : Backend σ} {l : Listing} {s : σ}

/-- Listing fails with the fault of its pages, and adds nothing to their calls. -/
theorem run_collect :
    (collect l).run b s = ⟨(b.list l s).1.mapError fun fault => .call ⟨l.operation.name, fault⟩,
      (b.list l s).2.1, (b.list l s).2.2⟩ := by
  rw [collect, run_list]
  cases (b.list l s).1 <;> simp [Outcome.after, Except.mapError]

end

/-- What a listing gives: all items of its pages in order, or the fault that closes it and no items. -/
def given (l : Listing) (front : List Object) : Answer → Except Failure (List Object)
  | .ok page => .ok ((front ++ [page]).flatMap items)
  | .error fault => .error (.call ⟨l.operation.name, fault⟩)

/-- The calls of a loop: each one but the first carries the position that the page before it names. -/
theorem arguments_positions {front : List Object} (l : Listing)
    (h : ∀ page ∈ front, (following? page).isSome) :
    ((none :: front.map following?).map (Event.page l)).map Event.arguments? =
      some l.arguments :: front.map fun page =>
        some (l.arguments ++ [("position", (page.get? "position").getD .null)]) := by
  have hfirst : (Event.page l none).arguments? = some l.arguments := by
    simp [Event.arguments?, argument?]
  have hnext : ∀ page ∈ front, (Event.page l (following? page)).arguments? =
      some (l.arguments ++ [("position", (page.get? "position").getD .null)]) := by
    intro page hpage
    have hposition := h page hpage
    unfold following? at hposition ⊢
    cases hv : page.get? "position" with
    | none => simp [hv] at hposition
    | some v =>
        have htruthy : v.isTruthy = true := by simpa [hv] using hposition
        simp [htruthy, Event.arguments?, argument?]
  simpa [hfirst] using hnext

/-- **Listing comes to the same with a paginator and without one, and collects everything.** Both ways take the
same replies from the queue, one for each call: pages that name a further position, and the reply that closes
the listing. If that is a page, the result is all items of all pages in order; if it is a fault, the listing
fails with it and gives no items. The calls of the loop carry the arguments of the listing, each but the first
one with the position of the page before it. There is at most one call more than there are replies. -/
theorem paths_of_listing_agree (l : Listing) (s : Script) :
    ∃ front closing, Paging (s l.operation) front closing ∧
      (∀ paged : Bool,
        ((collect l).run (backend paged) s).result = given l front closing ∧
          ((collect l).run (backend paged) s).events.length = front.length + 1 ∧
          ((collect l).run (backend paged) s).state =
            s.update l.operation ((s l.operation).drop (front.length + 1))) ∧
      ((collect l).run (backend false) s).events = (none :: front.map following?).map (.page l) ∧
      ((collect l).run (backend false) s).events.map Event.arguments? =
        some l.arguments :: front.map (fun page =>
          some (l.arguments ++ [("position", (page.get? "position").getD .null)])) ∧
      ((collect l).run (backend true) s).events = List.replicate (front.length + 1) (.page l none) ∧
      front.length ≤ (s l.operation).length := by
  obtain ⟨front, closing, h⟩ := exists_paging (s l.operation)
  have hloop : Progress.start.run (s l.operation) =
      ((pages none (s l.operation)).1.map ([] ++ ·), (pages none (s l.operation)).2) :=
    Progress.run_eq Progress.start _
  have hturns : ((backend false).list l s).2 = ((none :: front.map following?).map (.page l),
      s.update l.operation ((s l.operation).drop (front.length + 1))) := by
    simp [backend, hloop, h.pages]
  have hyields : ((backend true).list l s).2 = (List.replicate (front.length + 1) (.page l none),
      s.update l.operation ((s l.operation).drop (front.length + 1))) := by
    simp [backend, h.taken, List.map_const', List.replicate_succ']
  have hresult : ∀ paged, ((collect l).run (backend paged) s).result = given l front closing := by
    intro paged
    rw [run_collect, list_result, h.pages]
    cases closing <;> rfl
  refine ⟨front, closing, h, ?_, ?_, ?_, ?_, h.length_le⟩
  · intro paged
    refine ⟨hresult paged, ?_⟩
    cases paged with
    | true => simp [run_collect, hyields]
    | false => simp [run_collect, hturns]
  · rw [run_collect, hturns]
  · rw [run_collect, hturns]
    exact arguments_positions l h.goesOn
  · rw [run_collect, hyields]

end ApiReconciler.Script
