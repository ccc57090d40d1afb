import ApiReconciler.Proofs.Yaml.Cursor

/-!
# `ApiReconciler.Proofs.Yaml.Lines` — scalars that may come to the end of a text

A plain scalar and a block scalar end where a line does not go on with them, and to find that out they pass the
line feeds before it. Near the end of a text they may so pass the last one.

For a plain scalar this does no harm: the line feeds behind its last word are not part of it, however many they
are. A block scalar may keep the line feeds behind it, and then a longer text means a longer scalar. But its lines
are indented. If the last line of the text is not, and the scalar starts before that line, it ends before it too,
and never sees the end of the text.

## Contents
- `Along`: two readers at one place, or both at the end.
- `plainScalar_more`: plain scalars are the same in the longer text.
- `Near`, `LastLine`: places that are not behind the front of the last line.
- `blockScalar?_more`: block scalars that start before the last line are the same, and end before it.
-/

namespace ApiReconciler.Yaml.Cursor

/-- A reader and one of the longer text are at one place, or both at the end. -/
def Along (d d' : Cursor) : Prop := d.Inside ∧ d' = d.more ∨ d.rest = [] ∧ d'.rest = []

variable {c d : Cursor}

/-! ## Plain scalars -/

section

variable {inFlow : Bool} {fuel : Nat}

theorem colonEnds_feed (inFlow : Bool) : colonEnds inFlow none = true ∧ colonEnds inFlow (some '\n') = true :=
  ⟨rfl, rfl⟩

/-- A word ends at the end of the text as it ends before a line feed. -/
theorem plainWord_append (inFlow : Bool) (cs : List Char) :
    plainWord inFlow (cs ++ ['\n']) = plainWord inFlow cs := by
  induction cs with
  | nil => rfl
  | cons x cs ih =>
      have hcolon : colonEnds inFlow (cs ++ ['\n']).head? = colonEnds inFlow cs.head? := by
        cases cs with
        | nil => exact (colonEnds_feed inFlow).2.trans (colonEnds_feed inFlow).1.symm
        | cons y cs => rfl
      rw [List.cons_append, plainWord, plainWord, hcolon, ih]

theorem plainWord_more (c : Cursor) : plainWord inFlow c.more.rest = plainWord inFlow c.rest :=
  plainWord_append inFlow c.rest

theorem prefix_plainWord (inFlow : Bool) (cs : List Char) : plainWord inFlow cs <+: cs := by
  induction cs with
  | nil => exact List.prefix_refl []
  | cons x cs ih =>
      unfold plainWord
      split
      · exact List.nil_prefix
      · exact List.cons_prefix_cons.mpr ⟨rfl, ih⟩

theorem feed_not_mem_plainWord (inFlow : Bool) (cs : List Char) : '\n' ∉ plainWord inFlow cs := by
  induction cs with
  | nil => exact List.not_mem_nil
  | cons x cs ih =>
      unfold plainWord
      split
      · exact List.not_mem_nil
      · next hgoes =>
          refine List.not_mem_cons_of_ne_of_not_mem ?_ ih
          rintro rfl
          exact hgoes rfl

/-- Behind a word, one is still inside. -/
theorem Inside.skip_word (h : c.Inside) (inFlow : Bool) : (c.skip (plainWord inFlow c.rest).length).Inside := by
  refine h.skip fun m hm => ?_
  refine ⟨(plainWord inFlow c.rest)[m], ?_, ?_⟩
  · rw [peek, ← List.getElem?_eq_getElem hm]
    exact (List.prefix_iff_getElem?.mp (prefix_plainWord inFlow c.rest) m hm).trans
      (List.getElem?_eq_getElem hm).symm
  · intro hfeed
    exact feed_not_mem_plainWord inFlow c.rest (hfeed ▸ List.getElem_mem hm)

theorem plainBreaks?_of_nil (h : c.rest = []) (fuel : Nat) : plainBreaks? fuel c = some ([], c) := by
  cases fuel with
  | zero => rfl
  | succ fuel => rw [plainBreaks?, skipSpaces_of_nil h, lineBreak?_of_nil h]

/-- The breaks from a place inside: there are none, or there is a line feed and there are those behind it. -/
theorem Inside.plainBreaks?_succ (h : c.Inside) (fuel : Nat) :
    plainBreaks? (fuel + 1) c =
      if c.skipSpaces.head = some '\n' then
        if c.skipSpaces.advance.isAnyMarker then none
        else (plainBreaks? fuel c.skipSpaces.advance).map fun r => ('\n' :: r.1, r.2)
      else some ([], c.skipSpaces) := by
  rw [plainBreaks?, h.skipSpaces.lineBreak?_eq]
  by_cases hhead : c.skipSpaces.head = some '\n'
  · rw [if_pos hhead, if_pos hhead]
  · rw [if_neg hhead, if_neg hhead]

/-- How two readers of breaks in a plain scalar end, one of them in the longer text: both at a marker, at one
place with the same breaks, or at the end. -/
def BreaksAlong (c : Cursor) (r r' : Option (List Char × Cursor)) : Prop :=
  (c.Inside ∧ r = none ∧ r' = none) ∨
    ∃ cs d cs' d', r = some (cs, d) ∧ r' = some (cs', d') ∧ c.Leads d ∧ c.more.Leads d' ∧
      (d.Inside ∧ cs' = cs ∧ d' = d.more ∨ d.rest = [] ∧ d'.rest = [])

theorem plainBreaks?_more_of_nil (h : c.rest = []) (fuel : Nat) :
    BreaksAlong c (plainBreaks? fuel c) (plainBreaks? (fuel + 1) c.more) := by
  have hmore := inside_more_of_nil h
  have hspaces : c.more.skipSpaces = c.more := by
    rw [Cursor.skipSpaces, Cursor.skipWhile, Cursor.span, more, h]
    rfl
  have hover := rest_advance_more_of_nil h
  rw [plainBreaks?_of_nil h, hmore.plainBreaks?_succ, hspaces, if_pos (head_more_of_nil h), isAnyMarker_of_nil hover,
    if_neg Bool.false_ne_true, plainBreaks?_of_nil hover]
  exact .inr ⟨_, _, _, _, rfl, rfl, leads_refl c, leads_advance _, .inr ⟨h, hover⟩⟩

/-- The breaks in a plain scalar are the same ones when text follows them. -/
theorem plainBreaks?_more (hfuel : c.rest.length ≤ fuel) (hc : c.Inside ∨ c.rest = []) :
    BreaksAlong c (plainBreaks? fuel c) (plainBreaks? (fuel + 1) c.more) := by
  induction fuel generalizing c with
  | zero => exact plainBreaks?_more_of_nil (List.eq_nil_of_length_eq_zero (Nat.le_zero.mp hfuel)) 0
  | succ fuel ih =>
      rcases hc with hc | hnil
      · have hspaces := hc.skipSpaces
        have hfront := (leads_skipSpaces c).trans (leads_advance c.skipSpaces)
        rw [hc.plainBreaks?_succ, hc.more.plainBreaks?_succ, hc.more_skipSpaces, hspaces.more_head,
          hspaces.more_advance, more_isAnyMarker hspaces.advance_cases]
        split_ifs with hhead hmarker
        · exact .inl ⟨hc, rfl, rfl⟩
        · have hlength : c.skipSpaces.advance.rest.length ≤ fuel := by
            have hless := hspaces.length_advance
            have hspacesLength := (leads_skipSpaces c).length_le
            omega
          have hfrontMore : c.more.Leads c.skipSpaces.advance.more := by
            rw [← hspaces.more_advance, ← hc.more_skipSpaces]
            exact (leads_skipSpaces _).trans (leads_advance _)
          obtain ⟨-, hnone, hnoneMore⟩ | ⟨cs, d, cs', d', hsome, hmore, hleads, hleadsMore, halong⟩ :=
            ih hlength hspaces.advance_cases
          · rw [hnone, hnoneMore]
            exact .inl ⟨hc, rfl, rfl⟩
          · rw [hsome, hmore]
            refine .inr ⟨_, _, _, _, rfl, rfl, hfront.trans hleads, hfrontMore.trans hleadsMore, ?_⟩
            rcases halong with ⟨hd, rfl, rfl⟩ | hover
            · exact .inl ⟨hd, rfl, rfl⟩
            · exact .inr hover
        · refine .inr ⟨_, _, _, _, rfl, rfl, leads_skipSpaces c, ?_, .inl ⟨hspaces, rfl, rfl⟩⟩
          rw [← hc.more_skipSpaces]
          exact leads_skipSpaces _
      · exact plainBreaks?_more_of_nil hnil _

/-- What stands between two words of a plain scalar is the same when a word follows, and otherwise the readers are
both at the end, on a later line. -/
theorem plainBlanks_more (hc : c.Inside) :
    c.Leads (plainBlanks c).after ∧ c.more.Leads (plainBlanks c.more).after ∧
      ((plainBlanks c).after.Inside ∧
          plainBlanks c.more = { plainBlanks c with after := (plainBlanks c).after.more } ∨
        (plainBlanks c).after.rest = [] ∧ (plainBlanks c.more).after.rest = [] ∧
          (plainBlanks c).breaksLine = true ∧ (plainBlanks c.more).breaksLine = true) := by
  have hspaces := hc.span (p := (· = ' ')) rfl
  have hspan := hc.more_span (p := (· = ' ')) rfl
  have hfront := leads_span c (· = ' ')
  have hfrontMore : c.more.Leads (c.span (· = ' ')).2.more := by
    rw [← show (c.more.span (· = ' ')).2 = (c.span (· = ' ')).2.more from congrArg Prod.snd hspan]
    exact leads_span _ _
  generalize hr : c.span (· = ' ') = r at *
  obtain ⟨blanks, e⟩ := r
  unfold plainBlanks
  rw [hspan, hr]
  dsimp only at *
  rw [hspaces.more_lineBreak?, hspaces.lineBreak?_eq]
  by_cases hhead : e.head = some '\n'
  · rw [if_pos hhead]
    dsimp only [Option.map_some]
    have hadvanceMore : c.more.Leads e.advance.more := by
      rw [← hspaces.more_advance]
      exact hfrontMore.trans (leads_advance _)
    have hadvance := hfront.trans (leads_advance e)
    rw [more_isAnyMarker hspaces.advance_cases]
    split_ifs with hmarker
    · refine ⟨hadvance, hadvanceMore, .inl ⟨?_, rfl⟩⟩
      refine hspaces.advance_cases.resolve_right fun hnil => ?_
      rw [isAnyMarker_of_nil hnil] at hmarker
      cases hmarker
    · rw [length_rest_more]
      obtain ⟨hinside, hnone, hnoneMore⟩ | ⟨cs, d, cs', d', hsome, hmore, hleads, hleadsMore, halong⟩ :=
        plainBreaks?_more (Nat.le_refl e.advance.rest.length) hspaces.advance_cases
      · rw [hnone, hnoneMore]
        exact ⟨hadvance, hadvanceMore, .inl ⟨hinside, rfl⟩⟩
      · rw [hsome, hmore]
        refine ⟨hadvance.trans hleads, hadvanceMore.trans hleadsMore, ?_⟩
        rcases halong with ⟨hd, rfl, rfl⟩ | ⟨hnil, hnilMore⟩
        · exact .inl ⟨hd, rfl⟩
        · exact .inr ⟨hnil, hnilMore, rfl, rfl⟩
  · rw [if_neg hhead]
    exact ⟨hfront, hfrontMore, .inl ⟨hspaces, rfl⟩⟩

theorem plainWords_of_nil {indent : Int} {blanks : List Char} {breaksLine : Bool} (h : c.rest = []) (fuel : Nat) :
    plainWords inFlow indent fuel blanks breaksLine c = ⟨[], c, breaksLine⟩ := by
  cases fuel with
  | zero => rfl
  | succ fuel =>
      have hat : c.isAt '#' = false := by
        rw [isAt, head_of_nil h]
        rfl
      unfold plainWords
      rw [hat, if_neg Bool.false_ne_true, h]
      rfl

/-- A word with what stands behind it. -/
def wordEnd (inFlow : Bool) (c : Cursor) : Plain := plainBlanks (c.skip (plainWord inFlow c.rest).length)

/-- Whether a plain scalar ends behind the blanks after a word. -/
def endsBehind (inFlow : Bool) (indent : Int) (p : Plain) : Prop :=
  p.text = [] ∨ p.after.isAt '#' ∨ (!inFlow ∧ (p.after.column : Int) < indent)

instance (indent : Int) (p : Plain) : Decidable (endsBehind inFlow indent p) := by
  unfold endsBehind
  infer_instance

theorem plainWords_succ (indent : Int) (fuel : Nat) (blanks : List Char) (breaksLine : Bool) (c : Cursor) :
    plainWords inFlow indent (fuel + 1) blanks breaksLine c =
      if c.isAt '#' ∨ plainWord inFlow c.rest = [] then ⟨[], c, breaksLine⟩
      else if endsBehind inFlow indent (wordEnd inFlow c) then
        ⟨blanks ++ plainWord inFlow c.rest, (wordEnd inFlow c).after, (wordEnd inFlow c).breaksLine⟩
      else
        let rest := plainWords inFlow indent fuel (wordEnd inFlow c).text (wordEnd inFlow c).breaksLine
          (wordEnd inFlow c).after
        { rest with text := blanks ++ plainWord inFlow c.rest ++ rest.text } := by
  rw [plainWords]
  by_cases hat : c.isAt '#' = true
  · rw [if_pos hat, if_pos (Or.inl hat)]
  · by_cases hword : plainWord inFlow c.rest = []
    · rw [if_neg hat, if_pos (Or.inr hword)]
      exact if_pos hword
    · rw [if_neg hat, if_neg (not_or.mpr ⟨hat, hword⟩)]
      exact if_neg hword

/-- What stands behind a word is the same when a word follows, and otherwise the readers are both at the end, on a
later line. -/
theorem wordEnd_more (hc : c.Inside) (hword : plainWord inFlow c.rest ≠ []) :
    c.Leads (wordEnd inFlow c).after ∧ c.more.Leads (wordEnd inFlow c.more).after ∧
      (wordEnd inFlow c).after.rest.length < c.rest.length ∧
      ((wordEnd inFlow c).after.Inside ∧
          wordEnd inFlow c.more = { wordEnd inFlow c with after := (wordEnd inFlow c).after.more } ∨
        (wordEnd inFlow c).after.rest = [] ∧ (wordEnd inFlow c.more).after.rest = [] ∧
          (wordEnd inFlow c.more).breaksLine = (wordEnd inFlow c).breaksLine) := by
  have hprefix := (prefix_plainWord inFlow c.rest).length_le
  have hskip : c.more.skip (plainWord inFlow c.more.rest).length =
      (c.skip (plainWord inFlow c.rest).length).more := by
    rw [plainWord_more]
    exact hc.more_skip hprefix
  have hend : wordEnd inFlow c.more = plainBlanks (c.skip (plainWord inFlow c.rest).length).more := by
    rw [wordEnd, hskip]
  obtain ⟨hleads, hleadsMore, hbetween⟩ := plainBlanks_more (hc.skip_word inFlow)
  rw [hend]
  refine ⟨(leads_skip c _).trans hleads, ?_, ?_, ?_⟩
  · refine .trans ?_ hleadsMore
    rw [← hskip]
    exact leads_skip c.more _
  · have hrest := hleads.length_le
    rw [rest_skip, List.length_drop] at hrest
    have hpositive := List.length_pos_iff.mpr hword
    show (plainBlanks _).after.rest.length < _
    omega
  · exact hbetween.imp id fun ⟨hnil, hnilMore, hbreaks, hbreaksMore⟩ =>
      ⟨hnil, hnilMore, hbreaksMore.trans hbreaks.symm⟩

/-- Where a word is the last one before the end of the text, it is the last one of the scalar. -/
theorem plainWords_of_over {indent : Int} {blanks : List Char} {breaksLine : Bool}
    (hgoes : ¬(c.isAt '#' ∨ plainWord inFlow c.rest = [])) (h : (wordEnd inFlow c).after.rest = []) (fuel : Nat) :
    plainWords inFlow indent (fuel + 1) blanks breaksLine c =
      ⟨blanks ++ plainWord inFlow c.rest, (wordEnd inFlow c).after, (wordEnd inFlow c).breaksLine⟩ := by
  rw [plainWords_succ, if_neg hgoes, plainWords_of_nil h]
  split
  · rfl
  · simp only [List.append_nil]

/-- The words of a plain scalar are the same in the longer text. -/
theorem plainWords_more {indent : Int} {blanks : List Char} {breaksLine : Bool} {p p' : Plain}
    (hfuel : c.rest.length < fuel) (hc : c.Inside)
    (h : plainWords inFlow indent fuel blanks breaksLine c = p)
    (h' : plainWords inFlow indent (fuel + 1) blanks breaksLine c.more = p') :
    c.Leads p.after ∧ c.more.Leads p'.after ∧ p'.text = p.text ∧ p'.breaksLine = p.breaksLine ∧
      Along p.after p'.after := by
  induction fuel generalizing c blanks breaksLine p p' with
  | zero => exact absurd hfuel (Nat.not_lt_zero _)
  | succ fuel ih =>
      have hstops : (c.more.isAt '#' ∨ plainWord inFlow c.more.rest = []) ↔
          (c.isAt '#' ∨ plainWord inFlow c.rest = []) := by
        rw [hc.more_isAt, plainWord_more]
      by_cases hgoes : c.isAt '#' ∨ plainWord inFlow c.rest = []
      · rw [plainWords_succ, if_pos hgoes] at h
        rw [plainWords_succ, if_pos (hstops.mpr hgoes)] at h'
        subst h h'
        exact ⟨leads_refl c, leads_refl c.more, rfl, rfl, .inl ⟨hc, rfl⟩⟩
      · have hgoesMore := mt hstops.mp hgoes
        obtain ⟨hleads, hleadsMore, hless, ⟨hinside, hend⟩ | ⟨hnil, hnilMore, hbreaks⟩⟩ :=
          wordEnd_more hc (not_or.mp hgoes).2
        · have hends : endsBehind inFlow indent (wordEnd inFlow c.more) ↔
              endsBehind inFlow indent (wordEnd inFlow c) := by
            rw [hend]
            unfold endsBehind
            rw [hinside.more_isAt]
            rfl
          rw [plainWords_succ, if_neg hgoes] at h
          rw [plainWords_succ, if_neg hgoesMore, plainWord_more] at h'
          by_cases hbehind : endsBehind inFlow indent (wordEnd inFlow c)
          · rw [if_pos hbehind] at h
            rw [if_pos (hends.mpr hbehind)] at h'
            subst h h'
            rw [hend] at hleadsMore ⊢
            exact ⟨hleads, hleadsMore, rfl, rfl, .inl ⟨hinside, rfl⟩⟩
          · rw [if_neg hbehind] at h
            rw [if_neg (mt hends.mp hbehind), hend] at h'
            subst h h'
            obtain ⟨hrest, hrestMore, htext, hline, halong⟩ := ih (by omega) hinside rfl rfl
            rw [hend] at hleadsMore
            refine ⟨hleads.trans hrest, hleadsMore.trans hrestMore, ?_, hline, halong⟩
            exact congrArg (blanks ++ plainWord inFlow c.rest ++ ·) htext
        · rw [plainWords_of_over hgoes hnil] at h
          rw [plainWords_of_over hgoesMore hnilMore, plainWord_more] at h'
          subst h h'
          exact ⟨hleads, hleadsMore, rfl, hbreaks, .inr ⟨hnil, hnilMore⟩⟩

/-- A plain scalar is the same in the longer text. -/
theorem plainScalar_more (inFlow : Bool) (indent : Int) (hc : c.Inside) :
    c.Leads (c.plainScalar inFlow indent).after ∧ c.more.Leads (c.more.plainScalar inFlow indent).after ∧
      (c.more.plainScalar inFlow indent).text = (c.plainScalar inFlow indent).text ∧
      (c.more.plainScalar inFlow indent).breaksLine = (c.plainScalar inFlow indent).breaksLine ∧
      Along (c.plainScalar inFlow indent).after (c.more.plainScalar inFlow indent).after := by
  refine plainWords_more (Nat.lt_succ_self c.rest.length) hc rfl ?_
  rw [plainScalar, length_rest_more]

end

/-! ## The last line -/

/-- A line that starts with its text: it is not empty, and not indented. -/
def StartsText (line : List Char) : Prop := ∃ x r, line = x :: r ∧ x ≠ ' ' ∧ x ≠ '\n'

/-- The last line of a text comes behind the line of a place. -/
def Ahead (line : List Char) (c : Cursor) : Prop := '\n' :: line <:+ c.rest

/-- The last line of a text comes behind the line of a place, or the place is at its front. -/
def Near (line : List Char) (c : Cursor) : Prop := c.Ahead line ∨ c.rest = line ∧ c.column = 0

section

variable {line : List Char} {p : Char → Bool}

theorem StartsText.ne_nil (hline : StartsText line) : line ≠ [] := by
  obtain ⟨x, r, rfl, -⟩ := hline
  exact List.cons_ne_nil x r

/-- Behind characters of a line, the last line is as far ahead. -/
theorem Ahead.skip {n : Nat} (h : c.Ahead line) (hp : p '\n' = false) (hn : n ≤ (c.rest.takeWhile p).length) :
    (c.skip n).Ahead line := by
  obtain ⟨before, hbefore⟩ := h
  have htake : (c.rest.takeWhile p).length ≤ before.length := by
    rw [← hbefore, List.takeWhile_append, List.takeWhile_cons_of_neg (by rw [hp]; decide), List.append_nil]
    split
    · exact Nat.le_refl _
    · exact (List.takeWhile_prefix p).length_le
  refine ⟨before.drop n, ?_⟩
  rw [rest_skip, ← hbefore, List.drop_append_of_le_length (Nat.le_trans hn htake)]

theorem Ahead.span (h : c.Ahead line) (hp : p '\n' = false) : (c.span p).2.Ahead line := h.skip hp (Nat.le_refl _)

theorem Ahead.advance {x : Char} (h : c.Ahead line) (hhead : c.head = some x) (hx : x ≠ '\n') :
    c.advance.Ahead line := by
  refine h.skip (p := (· ≠ '\n')) (n := 1) rfl ?_
  obtain ⟨r, hrest⟩ := List.head?_eq_some_iff.mp hhead
  have htake : (x :: r).takeWhile (· ≠ '\n') = x :: r.takeWhile (· ≠ '\n') :=
    List.takeWhile_cons_of_pos (decide_eq_true hx)
  rw [hrest, htake, List.length_cons]
  exact Nat.le_add_left 1 _

/-- Behind any character before the last line, one is at the front of that line at the latest. -/
theorem Ahead.advance_near (h : c.Ahead line) : c.advance.Near line := by
  obtain ⟨before, hbefore⟩ := h
  cases before with
  | nil =>
      refine .inr ⟨?_, ?_⟩
      · rw [rest_advance, ← hbefore, List.nil_append, List.tail_cons]
      · unfold Cursor.advance
        rw [← hbefore]
        rfl
  | cons x before =>
      refine .inl ⟨before, ?_⟩
      rw [rest_advance, ← hbefore, List.cons_append, List.tail_cons]

theorem Near.ne_nil (hline : StartsText line) (h : c.Near line) : c.rest ≠ [] := by
  rintro hnil
  rcases h with h | ⟨hrest, -⟩
  · unfold Ahead at h
    rw [hnil] at h
    exact List.cons_ne_nil _ _ (List.suffix_nil.mp h)
  · exact hline.ne_nil (hrest ▸ hnil)

theorem Inside.of_near (hc : c.Inside) (hleads : c.Leads d) (hline : StartsText line) (h : d.Near line) : d.Inside :=
  hc.of_leads hleads (h.ne_nil hline)

/-- The last line is not behind the line feed before it when one is at another line feed. -/
theorem Near.advance_feed (hline : StartsText line) (h : c.Near line) (hhead : c.head = some '\n') :
    c.advance.Near line := by
  rcases h with h | ⟨hrest, -⟩
  · exact h.advance_near
  · obtain ⟨x, r, rfl, -, hfeed⟩ := hline
    rw [head, hrest] at hhead
    exact absurd (Option.some.inj hhead) hfeed

/-- The last line has no spaces at its front to skip. -/
theorem Near.skip_spaces {n : Nat} (hline : StartsText line) (h : c.Near line)
    (hn : n ≤ (c.rest.takeWhile (· = ' ')).length) : (c.skip n).Near line := by
  rcases h with h | ⟨hrest, hcolumn⟩
  · exact .inl (h.skip rfl hn)
  · obtain ⟨x, r, rfl, hspace, -⟩ := hline
    have htake : (x :: r).takeWhile (· = ' ') = [] :=
      List.takeWhile_cons_of_neg fun heq => hspace (of_decide_eq_true heq)
    rw [hrest, htake] at hn
    rw [Nat.le_zero.mp hn]
    exact .inr ⟨hrest, hcolumn⟩

theorem Near.skipSpaces (hline : StartsText line) (h : c.Near line) : c.skipSpaces.Near line :=
  h.skip_spaces hline (Nat.le_refl _)

theorem Ahead.skipComment (h : c.Ahead line) : c.skipComment.Ahead line := by
  unfold Cursor.skipComment
  split
  · exact (h.span rfl).span rfl
  · exact h.span rfl

/-! ## Block scalars -/

theorem exists_of_chompingOf? {o : Option Char} {chomping : Chomping} (h : chompingOf? o = some chomping) :
    ∃ x, o = some x ∧ x ≠ '\n' := by
  unfold chompingOf? at h
  split at h
  · exact ⟨_, rfl, by decide⟩
  · exact ⟨_, rfl, by decide⟩
  · cases h

theorem exists_of_incrementOf? {o : Option Char} {n : Nat} (h : incrementOf? o = some n) :
    ∃ x, o = some x ∧ x ≠ '\n' := by
  cases o with
  | none => cases h
  | some x =>
      refine ⟨x, rfl, ?_⟩
      rintro rfl
      cases h

/-- The indicators that stand at a place, with the place behind them. -/
def indicatorsAt (c : Cursor) : Chomping × Option Nat × Cursor :=
  match chompingOf? c.head, incrementOf? c.head with
  | some ch, _ =>
    match incrementOf? c.advance.head with
    | some n => (ch, some n, c.skip 2)
    | none => (ch, none, c.advance)
  | none, some n =>
    match chompingOf? c.advance.head with
    | some ch => (ch, some n, c.skip 2)
    | none => (.clip, some n, c.advance)
  | none, none => (.clip, none, c)

theorem blockIndicators?_eq (c : Cursor) :
    c.blockIndicators? =
      if c.indicatorsAt.2.1 = some 0 ∨ !endsSpaced c.indicatorsAt.2.2.head then none else some c.indicatorsAt := rfl

/-- Over a character of a line before the last one. -/
theorem Ahead.over (h : c.Ahead line) (hc : c.Inside) (hhead : ∃ x, c.head = some x ∧ x ≠ '\n') :
    c.advance.Ahead line ∧ c.advance.Inside := by
  obtain ⟨x, hx, hfeed⟩ := hhead
  exact ⟨h.advance hx hfeed, hc.advance_of_head hx hfeed⟩

theorem indicatorsAt_more (hc : c.Inside) (h : c.Ahead line) :
    c.Leads c.indicatorsAt.2.2 ∧ c.indicatorsAt.2.2.Ahead line ∧
      c.more.indicatorsAt = (c.indicatorsAt.1, c.indicatorsAt.2.1, c.indicatorsAt.2.2.more) := by
  have hone := leads_advance c
  have htwo : c.more.skip 2 = c.more.advance.advance := rfl
  unfold indicatorsAt
  rw [hc.more_head, htwo, hc.more_advance]
  cases hchomping : chompingOf? c.head with
  | some ch =>
      obtain ⟨hadvance, hinside⟩ := h.over hc (exists_of_chompingOf? hchomping)
      dsimp only
      rw [hinside.more_head, hinside.more_advance]
      cases hincrement : incrementOf? c.advance.head with
      | some n =>
          exact ⟨leads_skip c 2, (hadvance.over hinside (exists_of_incrementOf? hincrement)).1, rfl⟩
      | none => exact ⟨hone, hadvance, rfl⟩
  | none =>
      cases hincrement : incrementOf? c.head with
      | some n =>
          obtain ⟨hadvance, hinside⟩ := h.over hc (exists_of_incrementOf? hincrement)
          dsimp only
          rw [hinside.more_head, hinside.more_advance]
          cases hbehind : chompingOf? c.advance.head with
          | some ch => exact ⟨leads_skip c 2, (hadvance.over hinside (exists_of_chompingOf? hbehind)).1, rfl⟩
          | none => exact ⟨hone, hadvance, rfl⟩
      | none => exact ⟨leads_refl c, h, rfl⟩

/-- The empty lines at the front of a block end before the last line. -/
theorem leadingBreaks_more {fuel : Nat} (widest : Nat) {r : List Char × Nat × Cursor} (hline : StartsText line)
    (hfuel : c.rest.length < fuel) (hc : c.Inside) (hnear : c.Near line) (h : leadingBreaks fuel c widest = r) :
    c.Leads r.2.2 ∧ r.2.2.Near line ∧ leadingBreaks (fuel + 1) c.more widest = (r.1, r.2.1, r.2.2.more) := by
  induction fuel generalizing c widest r with
  | zero => exact absurd hfuel (Nat.not_lt_zero _)
  | succ fuel ih =>
      have hspaces := hc.skipSpaces
      have hnearSpaces := hnear.skipSpaces hline
      have hleads := leads_skipSpaces c
      rw [leadingBreaks, hspaces.lineBreak?_eq] at h
      rw [leadingBreaks, hc.more_skipSpaces, hspaces.more_lineBreak?, hspaces.lineBreak?_eq]
      by_cases hhead : c.skipSpaces.head = some '\n'
      · rw [if_pos hhead] at h ⊢
        subst h
        have hnext := hnearSpaces.advance_feed hline hhead
        have hleadsNext := hleads.trans (leads_advance c.skipSpaces)
        have hlength : c.skipSpaces.advance.rest.length < fuel := by
          have hless := hspaces.length_advance
          have hle := hleads.length_le
          omega
        obtain ⟨hrest, hnearRest, hmore⟩ := ih (max widest c.skipSpaces.column) hlength
          (hc.of_near hleadsNext hline hnext) hnext rfl
        refine ⟨hleadsNext.trans hrest, hnearRest, ?_⟩
        dsimp only [Option.map_some]
        rw [show c.skipSpaces.more.column = c.skipSpaces.column from rfl, hmore]
      · rw [if_neg hhead] at h ⊢
        subst h
        exact ⟨hleads, hnearSpaces, rfl⟩

theorem length_takeWhile_take_le (cs : List Char) (n : Nat) :
    ((cs.take n).takeWhile p).length ≤ (cs.takeWhile p).length := by
  conv_rhs => rw [← List.take_append_drop n cs, List.takeWhile_append]
  split
  · next hall =>
      rw [List.length_append, hall]
      exact Nat.le_add_right _ _
  · exact Nat.le_refl _

theorem takeWhile_take_feed (cs : List Char) (n : Nat) (hp : p '\n' = false) :
    ((cs ++ ['\n']).take n).takeWhile p = (cs.take n).takeWhile p := by
  rw [List.take_append]
  have hfeeds : ((['\n'].take (n - cs.length)).takeWhile p) = [] := by
    cases n - cs.length with
    | zero => rfl
    | succ k => exact List.takeWhile_cons_of_neg (by rw [hp]; decide)
  rw [List.takeWhile_append, hfeeds, List.append_nil]
  split
  · next hall => exact ((List.takeWhile_prefix p).eq_of_length hall).symm
  · rfl

theorem skipIndent_more (indent : Nat) (hline : StartsText line) (hc : c.Inside) (hnear : c.Near line) :
    c.Leads (c.skipIndent indent) ∧ (c.skipIndent indent).Near line ∧
      c.more.skipIndent indent = (c.skipIndent indent).more := by
  have hlength := length_takeWhile_take_le (p := (· = ' ')) c.rest (indent - c.column)
  refine ⟨leads_skip c _, hnear.skip_spaces hline hlength, ?_⟩
  show c.more.skip (((c.rest ++ ['\n']).take (indent - c.column)).takeWhile (· = ' ')).length = _
  rw [takeWhile_take_feed c.rest _ rfl, skipIndent]
  exact hc.more_skip (Nat.le_trans hlength (List.takeWhile_prefix _).length_le)

/-- The empty lines inside a block end before the last line. -/
theorem blockBreaks_more (indent : Nat) {fuel : Nat} {r : List Char × Cursor} (hline : StartsText line)
    (hfuel : c.rest.length ≤ fuel) (hc : c.Inside) (hnear : c.Near line) (h : blockBreaks indent fuel c = r) :
    c.Leads r.2 ∧ r.2.Near line ∧ blockBreaks indent (fuel + 1) c.more = (r.1, r.2.more) := by
  induction fuel generalizing c r with
  | zero => exact absurd (List.eq_nil_of_length_eq_zero (Nat.le_zero.mp hfuel)) hc.ne_nil
  | succ fuel ih =>
      obtain ⟨hleads, hnearIndent, hmoreIndent⟩ := skipIndent_more indent hline hc hnear
      have hindent := hc.of_near hleads hline hnearIndent
      rw [blockBreaks, hindent.lineBreak?_eq] at h
      rw [blockBreaks, hmoreIndent, hindent.more_lineBreak?, hindent.lineBreak?_eq]
      by_cases hhead : (c.skipIndent indent).head = some '\n'
      · rw [if_pos hhead] at h ⊢
        subst h
        have hnext := hnearIndent.advance_feed hline hhead
        have hleadsNext := hleads.trans (leads_advance (c.skipIndent indent))
        have hlength : (c.skipIndent indent).advance.rest.length ≤ fuel := by
          have hless := hindent.length_advance
          have hle := hleads.length_le
          omega
        obtain ⟨hrest, hnearRest, hmore⟩ := ih hlength (hc.of_near hleadsNext hline hnext) hnext rfl
        refine ⟨hleadsNext.trans hrest, hnearRest, ?_⟩
        dsimp only [Option.map_some]
        rw [hmore]
      · rw [if_neg hhead] at h ⊢
        subst h
        exact ⟨hleads, hnearIndent, rfl⟩

/-- The text of a line, with the place behind it. -/
def lineText (c : Cursor) : List Char × Cursor := c.span fun x => !isBreak x

theorem Inside.more_lineText (hc : c.Inside) : c.more.lineText = (c.lineText.1, c.lineText.2.more) := hc.more_span rfl

/-- Behind the text of a line, one is at a line feed. -/
theorem Inside.head_lineText (hc : c.Inside) : c.lineText.2.head = some '\n' := by
  have hend : c.lineText.2.Inside := hc.span rfl
  obtain ⟨x, r, hrest, hx⟩ := hend.exists_cons
  have hstop := List.head?_dropWhile_not (fun x => !isBreak x) c.rest
  rw [← rest_span, show (c.span _).2.rest = x :: r from hrest, List.head?_cons] at hstop
  have hbreak : isBreak x = true := by simpa using hstop
  rw [isBreak_of_clear hx] at hbreak
  rw [head, hrest, List.head?_cons, of_decide_eq_true hbreak]

/-- The empty lines behind the line of a block. -/
def breaksBehind (indent : Nat) (c : Cursor) : List Char × Cursor :=
  blockBreaks indent c.lineText.2.advance.rest.length c.lineText.2.advance

/-- A line before the last one, and the empty lines behind it, end before the last line. -/
theorem breaksBehind_more (indent : Nat) (hline : StartsText line) (hc : c.Inside) (hahead : c.Ahead line) :
    c.Leads (c.breaksBehind indent).2 ∧ (c.breaksBehind indent).2.Near line ∧
      (c.breaksBehind indent).2.rest.length < c.rest.length ∧
      c.more.breaksBehind indent = ((c.breaksBehind indent).1, (c.breaksBehind indent).2.more) := by
  have htext : c.lineText.2.Inside := hc.span rfl
  have hleadsText : c.Leads c.lineText.2 := leads_span c _
  have hnext : c.lineText.2.advance.Near line := (hahead.span rfl).advance_near
  have hleadsNext := hleadsText.trans (leads_advance c.lineText.2)
  obtain ⟨hleads, hnear, hmore⟩ :=
    blockBreaks_more indent hline (Nat.le_refl _) (hc.of_near hleadsNext hline hnext) hnext rfl
  refine ⟨hleadsNext.trans hleads, hnear, ?_, ?_⟩
  · have hless := htext.length_advance
    have hle := hleadsText.length_le
    have hleBreaks := hleads.length_le
    show (blockBreaks _ _ _).2.rest.length < _
    omega
  · rw [breaksBehind, hc.more_lineText]
    dsimp only
    rw [htext.more_advance, length_rest_more, hmore]
    rfl

/-- What stands between a line of a block and the empty lines behind it, if a further line follows them. -/
def jointBefore (folded : Bool) (indent : Nat) (startsWithText : Bool) (following : List Char × Cursor) :
    List Char :=
  if following.2.column = indent ∧ following.2.head.isSome then
    blockJoint folded ['\n'] following.1 (startsWithText && following.2.head.any fun x => !isBlank x)
  else []

theorem Inside.blockLines_succ {folded : Bool} {chomping : Chomping} {indent : Nat} (hc : c.Inside) (fuel : Nat)
    (lineBreak breaks : List Char) :
    blockLines folded chomping indent (fuel + 1) lineBreak breaks c =
      if c.column = indent then
        let following := c.breaksBehind indent
        let rest := blockLines folded chomping indent fuel ['\n'] following.1 following.2
        (breaks ++ c.lineText.1 ++ jointBefore folded indent (c.head.any fun x => !isBlank x) following ++ rest.1,
          rest.2)
      else (blockEnd chomping lineBreak breaks, c) := by
  have hend : c.lineText.2.Inside := hc.span rfl
  have hsome : c.head.isSome = true := by
    obtain ⟨x, r, hrest, -⟩ := hc.exists_cons
    rw [head, hrest]
    rfl
  rw [blockLines]
  by_cases hcolumn : c.column = indent
  · rw [if_pos hcolumn, if_pos ⟨hcolumn, hsome⟩]
    have hbreak := hend.lineBreak?_eq
    rw [if_pos hc.head_lineText] at hbreak
    unfold breaksBehind
    unfold lineText at hbreak ⊢
    generalize c.span (fun x => !isBreak x) = text at hbreak ⊢
    obtain ⟨text, e⟩ := text
    dsimp only at hbreak ⊢
    rw [hbreak]
    rfl
  · rw [if_neg hcolumn, if_neg fun hboth => hcolumn hboth.1]

/-- The lines of a block are indented, so they end before the last line. -/
theorem blockLines_more {folded : Bool} {chomping : Chomping} {indent fuel : Nat} (lineBreak breaks : List Char)
    {r : List Char × Cursor} (hline : StartsText line) (hindent : indent ≠ 0) (hfuel : c.rest.length < fuel)
    (hc : c.Inside) (hnear : c.Near line) (h : blockLines folded chomping indent fuel lineBreak breaks c = r) :
    c.Leads r.2 ∧ r.2.Near line ∧
      blockLines folded chomping indent (fuel + 1) lineBreak breaks c.more = (r.1, r.2.more) := by
  induction fuel generalizing c lineBreak breaks r with
  | zero => exact absurd hfuel (Nat.not_lt_zero _)
  | succ fuel ih =>
      rw [hc.blockLines_succ] at h
      rw [hc.more.blockLines_succ, show c.more.column = c.column from rfl]
      by_cases hcolumn : c.column = indent
      · rw [if_pos hcolumn] at h ⊢
        subst h
        -- a line of the block is indented, so it is not the last line of the text
        have hahead : c.Ahead line := hnear.resolve_right fun hlast => hindent (hcolumn.symm.trans hlast.2)
        obtain ⟨hleads, hnearNext, hless, hmore⟩ := breaksBehind_more indent hline hc hahead
        have hinside := hc.of_near hleads hline hnearNext
        obtain ⟨hleadsRest, hnearRest, hmoreRest⟩ :=
          ih ['\n'] (c.breaksBehind indent).1 (by omega) hinside hnearNext rfl
        refine ⟨hleads.trans hleadsRest, hnearRest, ?_⟩
        have hjoint : ∀ isText, jointBefore folded indent isText
            ((c.breaksBehind indent).1, (c.breaksBehind indent).2.more) =
              jointBefore folded indent isText (c.breaksBehind indent) := by
          intro isText
          unfold jointBefore
          rw [hinside.more_head]
          rfl
        rw [hmore]
        dsimp only
        rw [hmoreRest, hjoint, hc.more_head, hc.more_lineText]
      · rw [if_neg hcolumn] at h ⊢
        subst h
        exact ⟨leads_refl c, hnear, rfl⟩

/-- The text of a block behind its first line. -/
def blockText (folded : Bool) (outer : Int) (chomping : Chomping) (increment : Option Nat) (c : Cursor) :
    List Char × Cursor :=
  let least := (max (outer + 1) 1).toNat
  match increment with
  | some n =>
    let indent := least + n - 1
    let breaks := blockBreaks indent c.rest.length c
    blockLines folded chomping indent (breaks.2.rest.length + 1) [] breaks.1 breaks.2
  | none =>
    let front := leadingBreaks (c.rest.length + 1) c 0
    blockLines folded chomping (max least front.2.1) (front.2.2.rest.length + 1) [] front.1 front.2.2

theorem blockScalar?_eq (c : Cursor) (folded : Bool) (outer : Int) :
    c.blockScalar? folded outer = c.blockIndicators?.bind fun r =>
      r.2.2.finishLine?.map fun d => blockText folded outer r.1 r.2.1 d := by
  unfold blockScalar?
  cases c.blockIndicators? with
  | none => rfl
  | some r =>
      obtain ⟨chomping, increment, d⟩ := r
      show (d.finishLine?.bind _) = d.finishLine?.map _
      cases d.finishLine? with
      | none => rfl
      | some e =>
          cases increment with
          | none => rfl
          | some n => rfl

theorem blockText_more (folded : Bool) (outer : Int) (chomping : Chomping) {increment : Option Nat}
    (hline : StartsText line) (hincrement : increment ≠ some 0) (hc : c.Inside) (hnear : c.Near line) :
    c.Leads (blockText folded outer chomping increment c).2 ∧
      (blockText folded outer chomping increment c).2.Near line ∧
      blockText folded outer chomping increment c.more =
        ((blockText folded outer chomping increment c).1, (blockText folded outer chomping increment c).2.more) := by
  cases increment with
  | some n =>
      have hindent : (max (outer + 1) 1).toNat + n - 1 ≠ 0 := by
        have hn : n ≠ 0 := fun hzero => hincrement (congrArg some hzero)
        omega
      unfold blockText
      dsimp only
      obtain ⟨hleads, hnearBreaks, hmore⟩ :=
        blockBreaks_more ((max (outer + 1) 1).toNat + n - 1) hline (Nat.le_refl _) hc hnear rfl
      have hbreaks := hc.of_near hleads hline hnearBreaks
      rw [length_rest_more, hmore]
      dsimp only
      rw [length_rest_more]
      obtain ⟨hleadsLines, hlines⟩ :=
        blockLines_more _ _ hline hindent (Nat.lt_succ_self _) hbreaks hnearBreaks rfl
      exact ⟨hleads.trans hleadsLines, hlines⟩
  | none =>
      have hindent : ∀ widest, max (max (outer + 1) 1).toNat widest ≠ 0 := by
        intro widest
        omega
      unfold blockText
      dsimp only
      obtain ⟨hleads, hnearBreaks, hmore⟩ :=
        leadingBreaks_more 0 hline (Nat.lt_succ_self _) hc hnear rfl
      have hbreaks := hc.of_near hleads hline hnearBreaks
      rw [length_rest_more, hmore]
      dsimp only
      rw [length_rest_more]
      obtain ⟨hleadsLines, hlines⟩ :=
        blockLines_more _ _ hline (hindent _) (Nat.lt_succ_self _) hbreaks hnearBreaks rfl
      exact ⟨hleads.trans hleadsLines, hlines⟩

/-- A block scalar that starts before the last line ends before it, here and in the longer text. -/
theorem blockScalar?_more {folded : Bool} {outer : Int} {r : List Char × Cursor} (hline : StartsText line)
    (hc : c.Inside) (hahead : c.Ahead line) (h : c.blockScalar? folded outer = some r) :
    c.Leads r.2 ∧ r.2.Near line ∧ c.more.blockScalar? folded outer = some (r.1, r.2.more) := by
  rw [blockScalar?_eq, blockIndicators?_eq] at h
  rw [blockScalar?_eq, blockIndicators?_eq]
  obtain ⟨hleads, hindicators, hmore⟩ := indicatorsAt_more hc hahead
  have hinside := hc.of_near hleads hline (.inl hindicators)
  rw [hmore]
  dsimp only
  rw [hinside.more_head]
  split at h
  · cases h
  · next hproper =>
      rw [if_neg hproper]
      obtain ⟨d, hfinish, rfl⟩ := Option.map_eq_some_iff.mp h
      obtain ⟨-, rfl, hfinishMore⟩ := hinside.of_finishLine? hfinish
      have hnear := hindicators.skipComment.advance_near
      have hleadsLine := (leads_skipComment c.indicatorsAt.2.2).trans (leads_advance _)
      have hafter := hinside.of_near hleadsLine hline hnear
      obtain ⟨hleadsText, hnearText, hmoreText⟩ := blockText_more folded outer c.indicatorsAt.1 hline
        (fun hzero => hproper (.inl hzero)) hafter hnear
      refine ⟨hleads.trans (hleadsLine.trans hleadsText), hnearText, ?_⟩
      show (Cursor.finishLine? _).map _ = _
      rw [hfinishMore, Option.map_some, hmoreText]

end

end ApiReconciler.Yaml.Cursor
