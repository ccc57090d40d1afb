import ApiReconciler.Proofs.Yaml.Written
import ApiReconciler.Yaml.Lexer

/-!
# `ApiReconciler.Proofs.Yaml.Cursor` — places in a text that has a line feed more

A document ends with a line feed. When another one follows, nothing changes for a reader that has not come to
the end: what it sees ahead is the same text, and the line feed that it stops before at the latest is still
there. So it moves on in the same way, which is said here of all the moves that readers are made of.

A reader that has come to the end has passed the last line feed. Then it stands at the front of a line, and the
line is a later one than that of any place it has come from.

## Contents
- `Cursor.more`: a place in the longer text; `Cursor.Inside`: the last line feed is still ahead.
- `Cursor.Leads`: one place is reached from another; `Inside.of_leads`, `Inside.over`: where one is then.
- `Inside.more_advance`, `Inside.more_skip`, `Inside.more_span`, `Inside.more_lineBreak?`: the moves.
-/

namespace ApiReconciler.Yaml

/-! ## Clear characters -/

section

variable {x : Char}

theorem isBreak_of_clear (h : isSpecial x = false) : isBreak x = decide (x = '\n') := by
  rcases isSpecial_eq_false.mp h with rfl | hprintable
  · rfl
  · have hbreaks : ∀ y, isBreak y = true → y = '\n' ∨ ¬(' ' ≤ y ∧ y ≤ '~') := by
      intro y hy
      unfold isBreak at hy
      simp only [Bool.or_eq_true, decide_eq_true_eq] at hy
      rcases hy with (((rfl | rfl) | rfl) | rfl) | rfl
      · exact .inl rfl
      all_goals exact .inr (by decide)
    by_cases hx : x = '\n'
    · subst hx
      rfl
    · rw [decide_eq_false hx, Bool.eq_false_iff]
      intro hbreak
      exact ((hbreaks x hbreak).resolve_left hx) hprintable

theorem ne_return_of_clear (h : isSpecial x = false) : x ≠ '\r' := by
  rintro rfl
  cases h

end

namespace Cursor

/-! ## Moving on -/

/-- A place is reached from another one. -/
def Leads (c d : Cursor) : Prop := ∃ n, d = c.skip n

section

variable {c d e : Cursor}

theorem skip_add (c : Cursor) (m n : Nat) : c.skip (m + n) = (c.skip m).skip n := by
  induction m generalizing c with
  | zero => rw [Nat.zero_add, skip]
  | succ m ih =>
      rw [Nat.succ_add, skip, skip]
      exact ih c.advance

theorem leads_refl (c : Cursor) : c.Leads c := ⟨0, rfl⟩

theorem leads_skip (c : Cursor) (n : Nat) : c.Leads (c.skip n) := ⟨n, rfl⟩

theorem leads_advance (c : Cursor) : c.Leads c.advance := ⟨1, rfl⟩

theorem leads_span (c : Cursor) (p : Char → Bool) : c.Leads (c.span p).2 := ⟨_, rfl⟩

theorem Leads.trans (h : c.Leads d) (h' : d.Leads e) : c.Leads e := by
  obtain ⟨m, rfl⟩ := h
  obtain ⟨n, rfl⟩ := h'
  exact ⟨m + n, (skip_add c m n).symm⟩

theorem leads_lineBreak? {b : Char} (h : c.lineBreak? = some (b, d)) : c.Leads d := by
  unfold lineBreak? at h
  split at h
  · obtain ⟨-, rfl⟩ := Prod.mk.inj (Option.some.inj h)
    exact leads_skip c 2
  · split_ifs at h
    · obtain ⟨-, rfl⟩ := Prod.mk.inj (Option.some.inj h)
      exact leads_advance c
    · obtain ⟨-, rfl⟩ := Prod.mk.inj (Option.some.inj h)
      exact leads_advance c
  · cases h

theorem rest_advance (c : Cursor) : c.advance.rest = c.rest.tail := by
  unfold advance
  split
  · next h => rw [h, List.tail_nil]
  · next x rest h =>
      rw [h, List.tail_cons]
      split <;> rfl

theorem rest_skip (c : Cursor) (n : Nat) : (c.skip n).rest = c.rest.drop n := by
  induction n generalizing c with
  | zero => rfl
  | succ n ih => rw [skip, ih, rest_advance, List.drop_tail]

/-- At the end of a text there is nothing to skip. -/
theorem skip_of_nil (h : c.rest = []) (n : Nat) : c.skip n = c := by
  induction n with
  | zero => rfl
  | succ n ih =>
      have hsame : c.advance = c := by rw [Cursor.advance, h]
      rw [Cursor.skip, hsame, ih]

theorem Leads.suffix (h : c.Leads d) : d.rest <:+ c.rest := by
  obtain ⟨n, rfl⟩ := h
  rw [rest_skip]
  exact List.drop_suffix n c.rest

theorem Leads.length_le (h : c.Leads d) : d.rest.length ≤ c.rest.length := h.suffix.length_le

theorem line_le_advance (c : Cursor) : c.line ≤ c.advance.line := by
  unfold advance
  split
  · exact Nat.le_refl _
  · split
    · exact Nat.le_succ _
    · exact Nat.le_refl _

/-- Moving on never leads back to an earlier line. -/
theorem Leads.line_le (h : c.Leads d) : c.line ≤ d.line := by
  obtain ⟨n, rfl⟩ := h
  induction n generalizing c with
  | zero => exact Nat.le_refl _
  | succ n ih => exact Nat.le_trans (line_le_advance c) ih

end

/-! ## Inside a text -/

/-- The text that follows a place is clear, and ends with a line feed. -/
structure Inside (c : Cursor) : Prop where
  clear : Clear c.rest
  ends : ∃ front, c.rest = front ++ ['\n']

/-- The same place in the text with one more line feed at its end. -/
def more (c : Cursor) : Cursor := { c with rest := c.rest ++ ['\n'] }

section

variable {c d : Cursor}

theorem Inside.exists_cons (h : c.Inside) : ∃ x r, c.rest = x :: r ∧ isSpecial x = false := by
  obtain ⟨front, hfront⟩ := h.ends
  cases front with
  | nil => exact ⟨'\n', [], hfront, rfl⟩
  | cons x front =>
      have hrest : c.rest = x :: (front ++ ['\n']) := hfront
      exact ⟨x, _, hrest, h.clear x (hrest ▸ List.mem_cons_self)⟩

theorem Inside.ne_nil (h : c.Inside) : c.rest ≠ [] := by
  obtain ⟨x, r, hrest, -⟩ := h.exists_cons
  rw [hrest]
  exact List.cons_ne_nil x r

theorem Inside.length_advance (h : c.Inside) : c.advance.rest.length < c.rest.length := by
  obtain ⟨x, r, hrest, -⟩ := h.exists_cons
  rw [rest_advance, hrest]
  exact Nat.lt_succ_self _

/-- A place that is reached from inside is inside, unless it is the end. -/
theorem Inside.of_leads (h : c.Inside) (hleads : c.Leads d) (hne : d.rest ≠ []) : d.Inside := by
  obtain ⟨before, hbefore⟩ := hleads.suffix
  obtain ⟨front, hfront⟩ := h.ends
  constructor
  · exact fun x hx => h.clear x (hbefore ▸ List.mem_append_right before hx)
  · refine ⟨d.rest.dropLast, ?_⟩
    have hlast : d.rest.getLast hne = '\n' := by
      have hsame : (before ++ d.rest).getLast? = (front ++ ['\n']).getLast? := by rw [hbefore, hfront]
      rw [List.getLast?_append_of_ne_nil _ hne, List.getLast?_concat, List.getLast?_eq_some_getLast hne] at hsame
      exact Option.some.inj hsame
    rw [← hlast, List.dropLast_append_getLast]

theorem Inside.between {e : Cursor} (h : c.Inside) (hleads : c.Leads e) (hrest : e.Leads d) (hd : d.Inside) :
    e.Inside := by
  refine h.of_leads hleads fun hnil => hd.ne_nil ?_
  have hsuffix := hrest.suffix
  rw [hnil] at hsuffix
  exact List.eq_nil_of_suffix_nil hsuffix

/-- Behind a character that is no line feed, one is still inside. -/
theorem Inside.advance (h : c.Inside) (hhead : c.head ≠ some '\n') : c.advance.Inside := by
  refine h.of_leads (leads_advance c) fun hnil => hhead ?_
  obtain ⟨front, hfront⟩ := h.ends
  rw [rest_advance, hfront] at hnil
  have hone : front = [] := by
    cases front with
    | nil => rfl
    | cons x front => exact absurd hnil (List.append_ne_nil_of_right_ne_nil _ (List.cons_ne_nil _ _))
  rw [hone] at hfront
  rw [head, hfront]
  rfl

theorem head_skip (c : Cursor) (n : Nat) : (c.skip n).head = c.peek n := by
  rw [head, rest_skip, List.head?_drop, peek]

theorem Inside.advance_cases (h : c.Inside) : c.advance.Inside ∨ c.advance.rest = [] := by
  by_cases hnil : c.advance.rest = []
  · exact .inr hnil
  · exact .inl (h.of_leads (leads_advance c) hnil)

theorem Inside.advance_of_head {x : Char} (h : c.Inside) (hhead : c.head = some x) (hx : x ≠ '\n') :
    c.advance.Inside := by
  refine h.advance fun hfeed => hx ?_
  rw [hhead] at hfeed
  exact Option.some.inj hfeed

theorem Inside.advance_of_isAt {x : Char} (h : c.Inside) (hat : c.isAt x = true) (hx : x ≠ '\n') :
    c.advance.Inside := h.advance_of_head (of_decide_eq_true hat) hx

/-- Behind characters that are no line feeds, one is still inside. -/
theorem Inside.skip {n : Nat} (h : c.Inside) (hpeek : ∀ m < n, ∃ x, c.peek m = some x ∧ x ≠ '\n') :
    (c.skip n).Inside := by
  induction n with
  | zero => exact h
  | succ n ih =>
      obtain ⟨x, hx, hne⟩ := hpeek n (Nat.lt_succ_self n)
      have hinside := ih fun m hm => hpeek m (Nat.lt_succ_of_lt hm)
      rw [skip_add c n 1]
      exact hinside.advance_of_head ((head_skip c n).trans hx) hne

/-- One is not at the end before the last line feed is passed, and then at the front of a later line. -/
theorem Inside.over (h : c.Inside) (hleads : c.Leads d) (hnil : d.rest = []) : d.column = 0 ∧ c.line < d.line := by
  obtain ⟨n, rfl⟩ := hleads
  induction n generalizing c with
  | zero => exact absurd hnil h.ne_nil
  | succ n ih =>
      obtain ⟨x, r, hrest, hx⟩ := h.exists_cons
      cases r with
      | nil =>
          -- the last character is a line feed, and there is nothing behind it to skip
          obtain ⟨front, hfront⟩ := h.ends
          obtain rfl : x = '\n' := by
            have hlast := congrArg List.getLast? (hrest.symm.trans hfront)
            rw [List.getLast?_concat] at hlast
            exact Option.some.inj hlast
          have hadvance : c.advance = ⟨[], c.index + 1, c.line + 1, 0⟩ := by
            rw [Cursor.advance, hrest]
            rfl
          rw [Cursor.skip, hadvance, skip_of_nil rfl]
          exact ⟨rfl, Nat.lt_succ_self _⟩
      | cons y r =>
          have hne : c.advance.rest ≠ [] := by
            rw [rest_advance, hrest]
            exact List.cons_ne_nil y r
          obtain ⟨hcolumn, hline⟩ := ih (h.of_leads (leads_advance c) hne) hnil
          exact ⟨hcolumn, Nat.lt_of_le_of_lt (line_le_advance c) hline⟩

/-! ## The same moves -/

@[simp] theorem Inside.more_head (h : c.Inside) : c.more.head = c.head := by
  obtain ⟨x, r, hrest, -⟩ := h.exists_cons
  simp only [head, more, hrest, List.cons_append, List.head?_cons]

@[simp] theorem Inside.more_isAt (h : c.Inside) (x : Char) : c.more.isAt x = c.isAt x := by
  rw [isAt, h.more_head, isAt]

theorem length_rest_more (c : Cursor) : c.more.rest.length = c.rest.length + 1 := by
  show (c.rest ++ ['\n']).length = _
  rw [List.length_append, List.length_singleton]

theorem more_peek {n : Nat} {x : Char} (h : c.peek n = some x) : c.more.peek n = some x := by
  unfold peek at h ⊢
  obtain ⟨hn, -⟩ := List.getElem?_eq_some_iff.mp h
  show (c.rest ++ ['\n'])[n]? = some x
  rw [List.getElem?_append_left hn, h]

theorem more_peek_iff {n : Nat} {x : Char} (hx : x ≠ '\n') : c.more.peek n = some x ↔ c.peek n = some x := by
  refine ⟨fun h => ?_, more_peek⟩
  have hrest : (c.rest ++ ['\n'])[n]? = some x := h
  by_cases hn : n < c.rest.length
  · rwa [List.getElem?_append_left hn] at hrest
  · rw [List.getElem?_append_right (Nat.le_of_not_lt hn), List.getElem?_singleton] at hrest
    split at hrest
    · exact absurd (Option.some.inj hrest).symm hx
    · cases hrest

/-- A word ends at the end of a text as it ends before a line feed. -/
@[simp] theorem endsWord_more_peek (c : Cursor) (n : Nat) : endsWord (c.more.peek n) = endsWord (c.peek n) := by
  show endsWord (c.rest ++ ['\n'])[n]? = endsWord c.rest[n]?
  rcases Nat.lt_trichotomy n c.rest.length with hlt | rfl | hgt
  · rw [List.getElem?_append_left hlt]
  · rw [List.getElem?_append_right (Nat.le_refl _), Nat.sub_self, List.getElem?_eq_none (Nat.le_refl _)]
    rfl
  · rw [List.getElem?_eq_none (Nat.le_of_lt hgt), List.getElem?_eq_none]
    rw [List.length_append, List.length_singleton]
    exact hgt

theorem Inside.more (h : c.Inside) : c.more.Inside where
  clear := h.clear.append (.cons rfl clear_nil)
  ends := ⟨c.rest, rfl⟩

@[simp] theorem Inside.more_advance (h : c.Inside) : c.more.advance = c.advance.more := by
  obtain ⟨x, r, hrest, hx⟩ := h.exists_cons
  have hreturn := ne_return_of_clear hx
  simp only [Cursor.advance, Cursor.more, hrest, List.cons_append, hreturn, ne_eq, not_false_eq_true, decide_true,
    Bool.true_or, Bool.and_true]
  split <;> rfl

theorem Inside.more_skip {n : Nat} (h : c.Inside) (hn : n ≤ c.rest.length) : c.more.skip n = (c.skip n).more := by
  induction n generalizing c with
  | zero => rfl
  | succ n ih =>
      rw [Cursor.skip, Cursor.skip, h.more_advance]
      cases n with
      | zero => rfl
      | succ n =>
          have hlength : n + 1 ≤ c.advance.rest.length := by
            rw [rest_advance, List.length_tail]
            omega
          refine ih (h.of_leads (leads_advance c) fun hnil => ?_) hlength
          rw [hnil] at hlength
          exact absurd hlength (Nat.not_succ_le_zero n)

theorem Inside.more_skip_inside {n : Nat} (h : c.Inside) (hn : (c.skip n).Inside) :
    c.more.skip n = (c.skip n).more := by
  refine h.more_skip (Nat.le_of_not_lt fun hlt => hn.ne_nil ?_)
  rw [rest_skip, List.drop_eq_nil_of_le (Nat.le_of_lt hlt)]

/-- A place in the longer text is reached as it is in the text. -/
theorem Leads.more (h : c.Leads d) (hc : c.Inside) : c.more.Leads d.more := by
  obtain ⟨n, rfl⟩ := h
  rcases Nat.le_total n c.rest.length with hn | hn
  · exact ⟨n, (hc.more_skip hn).symm⟩
  · obtain ⟨m, rfl⟩ := Nat.exists_eq_add_of_le hn
    have hnil : (c.skip c.rest.length).rest = [] := by rw [rest_skip, List.drop_length]
    rw [skip_add, skip_of_nil hnil]
    exact ⟨c.rest.length, (hc.more_skip (Nat.le_refl _)).symm⟩

/-! ### Over characters of a kind -/

section

variable {p : Char → Bool}

theorem takeWhile_more (c : Cursor) (hp : p '\n' = false) : c.more.rest.takeWhile p = c.rest.takeWhile p := by
  show (c.rest ++ ['\n']).takeWhile p = c.rest.takeWhile p
  rw [List.takeWhile_append, List.takeWhile_cons_of_neg (by rw [hp]; decide), List.append_nil]
  split
  · next hall => exact (List.takeWhile_prefix p).eq_of_length hall |>.symm
  · rfl

theorem rest_span (c : Cursor) (p : Char → Bool) : (c.span p).2.rest = c.rest.dropWhile p := by
  have hsplit : (c.rest.takeWhile p ++ c.rest.dropWhile p).drop (c.rest.takeWhile p).length = c.rest.dropWhile p :=
    List.drop_left
  rw [List.takeWhile_append_dropWhile] at hsplit
  rw [← hsplit]
  exact rest_skip c _

/-- A search for a kind that line feeds are not of ends inside. -/
theorem Inside.span (h : c.Inside) (hp : p '\n' = false) : (c.span p).2.Inside := by
  refine h.of_leads (leads_span c p) fun hnil => ?_
  rw [rest_span, List.dropWhile_eq_nil_iff] at hnil
  obtain ⟨front, hfront⟩ := h.ends
  have hlast := hnil '\n' (hfront ▸ List.mem_append_right _ List.mem_cons_self)
  rw [hp] at hlast
  cases hlast

theorem Inside.more_span (h : c.Inside) (hp : p '\n' = false) :
    c.more.span p = ((c.span p).1, (c.span p).2.more) := by
  have hlength : (c.rest.takeWhile p).length ≤ c.rest.length := (List.takeWhile_prefix p).length_le
  show (c.more.rest.takeWhile p, c.more.skip (c.more.rest.takeWhile p).length) = _
  rw [takeWhile_more c hp, h.more_skip hlength]
  rfl

theorem Inside.skipWhile (h : c.Inside) (hp : p '\n' = false) : (c.skipWhile p).Inside := h.span hp

theorem Inside.more_skipWhile (h : c.Inside) (hp : p '\n' = false) : c.more.skipWhile p = (c.skipWhile p).more :=
  congrArg Prod.snd (h.more_span hp)

end

theorem Inside.skipSpaces (h : c.Inside) : c.skipSpaces.Inside := h.span rfl

theorem Inside.more_skipSpaces (h : c.Inside) : c.more.skipSpaces = c.skipSpaces.more := h.more_skipWhile rfl

theorem leads_skipSpaces (c : Cursor) : c.Leads c.skipSpaces := leads_span c _

/-- Behind spaces, and behind a comment if there is one. -/
def skipComment (c : Cursor) : Cursor :=
  if c.skipSpaces.isAt '#' then c.skipSpaces.skipWhile fun x => !isBreak x else c.skipSpaces

theorem leads_skipComment (c : Cursor) : c.Leads c.skipComment := by
  unfold skipComment
  split
  · exact (leads_skipSpaces c).trans (leads_span _ _)
  · exact leads_skipSpaces c

theorem Inside.skipComment (h : c.Inside) : c.skipComment.Inside := by
  unfold Cursor.skipComment
  split
  · exact h.skipSpaces.skipWhile rfl
  · exact h.skipSpaces

theorem Inside.more_skipComment (h : c.Inside) : c.more.skipComment = c.skipComment.more := by
  unfold Cursor.skipComment
  rw [h.more_skipSpaces, h.skipSpaces.more_isAt, h.skipSpaces.more_skipWhile rfl]
  split <;> rfl

/-! ### Over the end of a line -/

/-- In a clear text, a line ends at a line feed only. -/
theorem Inside.lineBreak?_eq (h : c.Inside) :
    c.lineBreak? = if c.head = some '\n' then some ('\n', c.advance) else none := by
  obtain ⟨x, r, hrest, hx⟩ := h.exists_cons
  have hbreak := isBreak_of_clear hx
  have hreturn := ne_return_of_clear hx
  unfold lineBreak? head
  rw [hrest]
  split
  · next hcons => exact absurd (List.cons.inj hcons).1 hreturn
  · next y s _ hcons =>
      obtain ⟨rfl, -⟩ := List.cons.inj hcons
      have hother : ¬(x = '\u2028' ∨ x = '\u2029') := by
        rintro (rfl | rfl)
        · cases hx
        · cases hx
      rw [if_neg hother, hbreak, List.head?_cons]
      by_cases hfeed : x = '\n'
      · rw [decide_eq_true hfeed, if_pos rfl, if_pos (congrArg some hfeed)]
      · rw [decide_eq_false hfeed, if_neg Bool.false_ne_true, if_neg fun hsome => hfeed (Option.some.inj hsome)]
  · next hnil => cases hnil

theorem Inside.more_lineBreak? (h : c.Inside) :
    c.more.lineBreak? = c.lineBreak?.map fun r => (r.1, r.2.more) := by
  rw [h.more.lineBreak?_eq, h.lineBreak?_eq, h.more_head, h.more_advance]
  split <;> rfl

theorem finishLine?_eq (c : Cursor) :
    c.finishLine? = if endsLine c.skipComment.head then some c.skipComment.skipBreak else none := rfl

/-- The end of a line is passed by passing a line feed, here and in the longer text. -/
theorem Inside.of_finishLine? (h : c.Inside) (hline : c.finishLine? = some d) :
    c.skipComment.head = some '\n' ∧ d = c.skipComment.advance ∧ c.more.finishLine? = some d.more := by
  have hcomment := h.skipComment
  rw [finishLine?_eq] at hline ⊢
  rw [h.more_skipComment, hcomment.more_head]
  split at hline
  · next hends =>
      obtain ⟨x, r, hrest, hx⟩ := hcomment.exists_cons
      have hhead : c.skipComment.head = some '\n' := by
        rw [head, hrest] at hends ⊢
        have hbreak : isBreak x = true := hends
        rw [isBreak_of_clear hx] at hbreak
        exact congrArg some (of_decide_eq_true hbreak)
      have hskip : c.skipComment.skipBreak = c.skipComment.advance := by
        rw [skipBreak, hcomment.lineBreak?_eq, if_pos hhead]
      have hmore : c.skipComment.more.skipBreak = c.skipComment.advance.more := by
        rw [skipBreak, hcomment.more.lineBreak?_eq, hcomment.more_head, if_pos hhead, hcomment.more_advance]
      obtain rfl := Option.some.inj hline
      rw [if_pos hends, hskip, hmore]
      exact ⟨hhead, rfl, rfl⟩
  · cases hline

/-! ### Markers -/

theorem Inside.more_isMarker (h : c.Inside) {x : Char} (hx : x ≠ '\n') : c.more.isMarker x = c.isMarker x := by
  unfold isMarker
  rw [endsWord_more_peek]
  obtain ⟨front, hfront⟩ := h.ends
  have htake : (c.more.rest.take 3 = [x, x, x]) = (c.rest.take 3 = [x, x, x]) := by
    show ((c.rest ++ ['\n']).take 3 = _) = _
    rw [hfront]
    match front with
    | [] => simp [hx.symm]
    | [a] => simp [hx.symm]
    | [a, b] => simp [hx.symm]
    | a :: b :: d :: front => simp
  simp only [htake]

theorem Inside.more_isAnyMarker (h : c.Inside) : c.more.isAnyMarker = c.isAnyMarker := by
  rw [isAnyMarker, h.more_isMarker (by decide), h.more_isMarker (by decide), isAnyMarker]

/-! ## At the end of a text -/

theorem head_of_nil (h : c.rest = []) : c.head = none := by rw [head, h, List.head?_nil]

theorem span_of_nil (h : c.rest = []) (p : Char → Bool) : c.span p = ([], c) := by
  rw [Cursor.span, h]
  rfl

theorem skipSpaces_of_nil (h : c.rest = []) : c.skipSpaces = c := congrArg Prod.snd (span_of_nil h _)

theorem skipComment_of_nil (h : c.rest = []) : c.skipComment = c := by
  have hat : c.isAt '#' = false := by
    rw [isAt, head_of_nil h]
    rfl
  rw [Cursor.skipComment, skipSpaces_of_nil h, hat, if_neg Bool.false_ne_true]

theorem lineBreak?_of_nil (h : c.rest = []) : c.lineBreak? = none := by rw [lineBreak?, h]

theorem isAnyMarker_of_nil (h : c.rest = []) : c.isAnyMarker = false := by
  rw [isAnyMarker, isMarker, isMarker, h]
  rfl

/-- Behind the end of a text, a longer one has a line feed left. -/
theorem inside_more_of_nil (h : c.rest = []) : c.more.Inside where
  clear := by
    rw [more, h]
    exact .cons rfl clear_nil
  ends := ⟨[], by rw [more, h]⟩

theorem head_more_of_nil (h : c.rest = []) : c.more.head = some '\n' := by
  rw [head, more, h]
  rfl

theorem more_isAnyMarker (h : c.Inside ∨ c.rest = []) : c.more.isAnyMarker = c.isAnyMarker := by
  rcases h with h | h
  · exact h.more_isAnyMarker
  · rw [isAnyMarker_of_nil h, isAnyMarker, isMarker, isMarker, more, h]
    rfl

theorem rest_advance_more_of_nil (h : c.rest = []) : c.more.advance.rest = [] := by
  rw [rest_advance, more, h]
  rfl

end

end Cursor

end ApiReconciler.Yaml
