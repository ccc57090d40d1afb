import ApiReconciler.Proofs.Yaml.Lines
import ApiReconciler.Proofs.Yaml.Tokens
import ApiReconciler.Yaml.Reader

/-!
# `ApiReconciler.Proofs.Yaml.BlankLine` — a blank line at the end of a document

A document that is printed as a line has an empty line behind it. That line changes nothing: the tokens of the
longer text are those of the document, and so it has the same value.

The lexers of the two texts run side by side. Either both are at one place inside, and then the next token is the
same for both, or both have come to the end. They need not come there together, since a plain scalar looks ahead
over the line feeds behind it, and a directive does not. But what is left is a line feed at most. And all keys that
may have started on the way are on earlier lines, so that none is still open for either of them.

A block scalar would see the difference. This is why the last line has to start with its text, and why no block
scalar may start in it.

## Contents
- `Lexer.Within`: a lexer inside a text; `Lexer.Over`: two lexers at the ends of their texts.
- `Lexer.Matches`: the lexers of the two texts, and `Follows`: what both do next.
- `pushToken?_follows`: one token; `step_more`, `run_more`: steps, and all tokens.
- `tokens?_append_feed`, `parseChars_append_feed`: a line feed more changes nothing.
-/

namespace ApiReconciler.Yaml

open Cursor

namespace Lexer

variable {s t u v : Lexer} {cs line : List Char}

/-! ## Lexers at one place of both texts -/

/-- The lexer at the same place of the text with one more line feed at its end. -/
def more (s : Lexer) : Lexer := { s with cursor := s.cursor.more }

/-- The lexer with the same tokens at another place. -/
def place (s : Lexer) (c : Cursor) (keyAllowed : Bool) : Lexer := { s with cursor := c, keyAllowed := keyAllowed }

/-- Another lexer is at the same place, and has no keys in view but the ones before and one that starts there. -/
structure Kept (s u : Lexer) : Prop where
  cursor : u.cursor = s.cursor
  candidates : ∀ k ∈ u.candidates, k ∈ s.candidates ∨ k.2.line = s.cursor.line

theorem kept_of_eq (hcursor : u.cursor = s.cursor) (hcandidates : u.candidates = s.candidates) : s.Kept u :=
  ⟨hcursor, fun _ hk => .inl (hcandidates ▸ hk)⟩

theorem Kept.trans (h : s.Kept t) (h' : t.Kept u) : s.Kept u where
  cursor := h'.cursor.trans h.cursor
  candidates := fun k hk => by
    rcases h'.candidates k hk with hk | hk
    · exact h.candidates k hk
    · exact .inr (hk.trans (congrArg Cursor.line h.cursor))

theorem kept_filter (p : Nat × Candidate → Bool) : s.Kept { s with candidates := s.candidates.filter p } :=
  ⟨rfl, fun _ hk => .inl (List.mem_of_mem_filter hk)⟩

theorem kept_dropStale? (h : s.dropStale? = some u) : s.Kept u := by
  unfold dropStale? at h
  dsimp only at h
  split at h
  · cases h
  · obtain rfl := Option.some.inj h
    exact kept_filter _

theorem kept_dropCandidate? (h : s.dropCandidate? = some u) : s.Kept u := by
  unfold dropCandidate? at h
  split at h
  · obtain rfl := Option.some.inj h
    exact kept_of_eq rfl rfl
  · split at h
    · cases h
    · obtain rfl := Option.some.inj h
      exact kept_filter _

theorem kept_noteCandidate? (h : s.noteCandidate? = some u) : s.Kept u := by
  unfold noteCandidate? at h
  split at h
  · obtain ⟨t, ht, rfl⟩ := Option.map_eq_some_iff.mp h
    refine (kept_dropCandidate? ht).trans ⟨rfl, fun k hk => ?_⟩
    rcases List.mem_cons.mp hk with rfl | hk
    · exact .inr rfl
    · exact .inl hk
  · obtain rfl := Option.some.inj h
    exact kept_of_eq rfl rfl

theorem candidates_unwind (s : Lexer) (column : Int) : (s.unwind column).candidates = s.candidates := by
  unfold unwind
  split <;> rfl

theorem kept_unwind (s : Lexer) (column : Int) : s.Kept (s.unwind column) := by
  unfold unwind
  split <;> exact kept_of_eq rfl rfl

theorem kept_openBlock (s : Lexer) (column : Int) (n : Nat) (t : Token) : s.Kept (s.openBlock column n t) := by
  unfold openBlock
  split
  · exact kept_of_eq rfl rfl
  · split <;> exact kept_of_eq rfl rfl

/-! ### The same in the longer text -/

theorem dropStale?_more (s : Lexer) : s.more.dropStale? = s.dropStale?.map more := by
  unfold dropStale?
  dsimp only
  rw [apply_ite (Option.map more)]
  rfl

theorem dropCandidate?_more (s : Lexer) : s.more.dropCandidate? = s.dropCandidate?.map more := by
  unfold dropCandidate?
  rw [show s.more.candidates = s.candidates from rfl, show s.more.depth = s.depth from rfl]
  cases s.candidates.lookup s.depth with
  | none => rfl
  | some k =>
      dsimp only
      rw [apply_ite (Option.map more)]
      rfl

theorem noteCandidate?_more (s : Lexer) : s.more.noteCandidate? = s.noteCandidate?.map more := by
  unfold noteCandidate?
  rw [dropCandidate?_more, apply_ite (Option.map more), Option.map_map, Option.map_map]
  rfl

theorem unwind_more (s : Lexer) (column : Int) : s.more.unwind column = (s.unwind column).more := by
  unfold unwind
  rw [apply_ite more]
  rfl

theorem unwind_place (s : Lexer) (c : Cursor) (keyAllowed : Bool) (column : Int) :
    (s.place c keyAllowed).unwind column = (s.unwind column).place c keyAllowed := by
  unfold unwind
  rw [apply_ite fun t : Lexer => t.place c keyAllowed]
  rfl

theorem openBlock_more (s : Lexer) (column : Int) (n : Nat) (t : Token) :
    s.more.openBlock column n t = (s.openBlock column n t).more := by
  unfold openBlock
  rw [apply_ite more, apply_ite more]
  rfl

/-! ## Lexers side by side -/

/-- A lexer inside a text: a part of the text follows, and no key may have started on a later line. -/
structure Within (cs : List Char) (s : Lexer) : Prop where
  inside : s.cursor.Inside
  suffix : s.cursor.rest <:+ cs
  candidates : ∀ k ∈ s.candidates, k.2.line ≤ s.cursor.line

/-- Two lexers with the same tokens at the ends of their texts, the second one before a line feed at most. Keys
may have started on earlier lines only. -/
structure Over (s t : Lexer) : Prop where
  same : t = s.place t.cursor t.keyAllowed
  rest : s.cursor.rest = []
  column : s.cursor.column = 0
  ends : t.cursor.rest = [] ∧ t.cursor.column = 0 ∨ t.cursor = s.cursor.more
  candidates : ∀ k ∈ s.candidates, k.2.line < s.cursor.line ∧ k.2.line < t.cursor.line

/-- The lexers of the two texts are at one place inside, or both at the end. -/
def Matches (cs : List Char) (s t : Lexer) : Prop := s.Within cs ∧ t = s.more ∨ s.Over t

/-- If the first of two lexers goes on, so does the second one, and they are side by side again. -/
def Follows (cs : List Char) (r r' : Option Lexer) : Prop :=
  ∀ u, r = some u → ∃ v, r' = some v ∧ Matches cs u v

theorem Within.kept (h : s.Within cs) (hkept : s.Kept u) : u.Within cs where
  inside := hkept.cursor ▸ h.inside
  suffix := hkept.cursor ▸ h.suffix
  candidates := fun k hk => by
    rw [hkept.cursor]
    exact (hkept.candidates k hk).elim (h.candidates k) Nat.le_of_eq

/-- Two lexers that have moved on from one place are side by side if they are at one place again, or both at the
end. -/
theorem Within.matches_of_leads (h : s.Within cs)
    (hkept : ∀ k ∈ u.candidates, k ∈ s.candidates ∨ k.2.line = s.cursor.line)
    (hleads : s.cursor.Leads u.cursor) (hleadsMore : s.cursor.more.Leads v.cursor)
    (hsame : v = u.place v.cursor u.keyAllowed)
    (hends : u.cursor.Inside ∧ v.cursor = u.cursor.more ∨
      u.cursor.rest = [] ∧ (v.cursor.rest = [] ∨ v.cursor = u.cursor.more)) : Matches cs u v := by
  have hbefore : ∀ k ∈ u.candidates, k.2.line ≤ s.cursor.line := fun k hk =>
    (hkept k hk).elim (h.candidates k) Nat.le_of_eq
  rcases hends with ⟨hinside, hmore⟩ | ⟨hnil, hend⟩
  · refine .inl ⟨⟨hinside, hleads.suffix.trans h.suffix, fun k hk => ?_⟩, ?_⟩
    · exact Nat.le_trans (hbefore k hk) hleads.line_le
    · rw [hsame, hmore]
      rfl
  · obtain ⟨hcolumn, hline⟩ := h.inside.over hleads hnil
    have hendMore : (v.cursor.rest = [] ∧ v.cursor.column = 0 ∨ v.cursor = u.cursor.more) ∧
        s.cursor.line < v.cursor.line := by
      rcases hend with hnilMore | hmore
      · obtain ⟨hcolumnMore, hlineMore⟩ := h.inside.more.over hleadsMore hnilMore
        exact ⟨.inl ⟨hnilMore, hcolumnMore⟩, hlineMore⟩
      · exact ⟨.inr hmore, hmore ▸ hline⟩
    refine .inr ⟨?_, hnil, hcolumn, hendMore.1, fun k hk => ?_⟩
    · have hallowed := congrArg keyAllowed hsame
      rw [show v.keyAllowed = u.keyAllowed from hallowed]
      exact hsame
    · have hle := hbefore k hk
      exact ⟨Nat.lt_of_le_of_lt hle hline, Nat.lt_of_le_of_lt hle hendMore.2⟩

/-! ## Tokens -/

theorem follows_none (r : Option Lexer) : Follows cs none r := fun _ hu => nomatch hu

theorem follows_ite {p : Prop} [Decidable p] {r r' q q' : Option Lexer} (hthen : p → Follows cs r r')
    (helse : ¬p → Follows cs q q') : Follows cs (if p then r else q) (if p then r' else q') := by
  by_cases hp : p
  · rw [if_pos hp, if_pos hp]
    exact hthen hp
  · rw [if_neg hp, if_neg hp]
    exact helse hp

section

variable {x : Char} {f : Lexer → Lexer}

/-- A token of one character. -/
theorem Within.follows_skip (h : s.Within cs) (hhead : s.cursor.head = some x) (hx : x ≠ '\n') (hkept : s.Kept t)
    (hf : (f t).cursor = t.cursor.skip 1 ∧ (f t).candidates = t.candidates ∧
      f t.more = { f t with cursor := t.cursor.more.skip 1 }) :
    Follows cs (some (f t)) (some (f t.more)) := by
  intro u hu
  obtain rfl := Option.some.inj hu
  obtain ⟨hcursor, hcandidates, hmore⟩ := hf
  have hadvance := h.inside.advance_of_head hhead hx
  rw [hkept.cursor] at hcursor hmore
  have hkeys : ∀ k ∈ (f t).candidates, k ∈ s.candidates ∨ k.2.line = s.cursor.line := fun k hk =>
    hkept.candidates k (hcandidates ▸ hk)
  refine ⟨f t.more, rfl, h.matches_of_leads hkeys ?_ ?_ ?_ (.inl ?_)⟩
  · rw [hcursor]
    exact leads_skip _ 1
  · rw [hmore]
    exact leads_skip _ 1
  · rw [hmore]
    rfl
  · rw [hmore, hcursor]
    exact ⟨hadvance, h.inside.more_advance⟩

/-- A token of one character, behind what is done before it. -/
theorem Within.follows_map {r : Option Lexer} (h : s.Within cs) (hhead : s.cursor.head = some x) (hx : x ≠ '\n')
    (hkept : ∀ t, r = some t → s.Kept t)
    (hf : ∀ t, (f t).cursor = t.cursor.skip 1 ∧ (f t).candidates = t.candidates ∧
      f t.more = { f t with cursor := t.cursor.more.skip 1 }) :
    Follows cs (r.map f) ((r.map more).map f) := by
  cases r with
  | none => exact follows_none _
  | some t => exact h.follows_skip hhead hx (hkept t rfl) (hf t)

theorem openBracket?_follows (h : s.Within cs) (hhead : s.cursor.head = some x) (hx : x ≠ '\n') (token : Token) :
    Follows cs (s.openBracket? token) (s.more.openBracket? token) := by
  unfold openBracket?
  rw [noteCandidate?_more]
  exact h.follows_map hhead hx (fun _ => kept_noteCandidate?) fun _ => ⟨rfl, rfl, rfl⟩

theorem closeBracket?_follows (h : s.Within cs) (hhead : s.cursor.head = some x) (hx : x ≠ '\n') (token : Token) :
    Follows cs (s.closeBracket? token) (s.more.closeBracket? token) := by
  unfold closeBracket?
  rw [dropCandidate?_more]
  cases hdrop : s.dropCandidate? with
  | none => exact follows_none _
  | some t =>
      refine follows_ite (p := t.depth = 0) (fun _ => follows_none _) fun _ => ?_
      exact h.follows_skip (f := fun t => { (t.push token).skip 1 with depth := t.depth - 1, keyAllowed := false })
        hhead hx (kept_dropCandidate? hdrop) ⟨rfl, rfl, rfl⟩

theorem pushComma?_follows (h : s.Within cs) (hhead : s.cursor.head = some x) (hx : x ≠ '\n') :
    Follows cs s.pushComma? s.more.pushComma? := by
  unfold pushComma?
  rw [dropCandidate?_more]
  exact h.follows_map hhead hx (fun _ => kept_dropCandidate?) fun _ => ⟨rfl, rfl, rfl⟩

theorem pushIndicator?_follows (h : s.Within cs) (hhead : s.cursor.head = some x) (hx : x ≠ '\n')
    (opening indicator : Token) (keyAllowed : Bool) :
    Follows cs (s.pushIndicator? opening indicator keyAllowed)
      (s.more.pushIndicator? opening indicator keyAllowed) := by
  unfold pushIndicator?
  refine follows_ite (fun _ => follows_none _) fun _ => ?_
  rw [openBlock_more, dropCandidate?_more]
  refine h.follows_map hhead hx (fun t ht => ?_) fun _ => ⟨rfl, rfl, rfl⟩
  exact (kept_openBlock s s.column s.count opening).trans (kept_dropCandidate? ht)

theorem pushValue?_follows (h : s.Within cs) (hhead : s.cursor.head = some x) (hx : x ≠ '\n') :
    Follows cs s.pushValue? s.more.pushValue? := by
  unfold pushValue?
  rw [show s.more.candidates.lookup s.more.depth = s.candidates.lookup s.depth from rfl]
  cases hlookup : s.candidates.lookup s.depth with
  | none => exact pushIndicator?_follows h hhead hx .mappingStart .value (!s.inFlow)
  | some k =>
      -- the key and the start of its mapping are put in before the colon is passed
      let rest : Lexer := { s with candidates := s.candidates.filter fun k => k.1 ≠ s.depth }
      have hkept := ((kept_filter fun k => k.1 ≠ s.depth).trans
        (kept_of_eq rfl rfl : rest.Kept (rest.insertAt k.before .key))).trans
        (kept_openBlock _ k.column k.before .mappingStart)
      have hfollows := h.follows_skip (f := fun t => { (t.push .value).skip 1 with keyAllowed := false }) hhead hx
        hkept ⟨rfl, rfl, rfl⟩
      rw [← openBlock_more] at hfollows
      exact hfollows

end

/-- A token that ends all blocks, by a reader that reads the same in the longer text and comes to the end of the
text at most. -/
theorem pushTopLevel?_follows {read : Lexer → Option (Token × Cursor)} (h : s.Within cs)
    (hread : ∀ {t token d}, t.cursor = s.cursor → read t = some (token, d) →
      s.cursor.Leads d ∧ (d.Inside ∨ d.rest = []) ∧ read t.more = some (token, d.more)) :
    Follows cs (s.pushTopLevel? read) (s.more.pushTopLevel? read) := by
  intro u hu
  obtain ⟨t, ht, hu⟩ := Option.bind_eq_some_iff.mp hu
  obtain ⟨⟨token, d⟩, hd, hu⟩ := Option.bind_eq_some_iff.mp hu
  obtain rfl := Option.some.inj hu
  have hkept := (kept_unwind s (-1)).trans (kept_dropCandidate? ht)
  obtain ⟨hleads, hends, hmore⟩ := hread hkept.cursor hd
  refine ⟨{ t.more.push token with cursor := d.more, keyAllowed := false }, ?_, ?_⟩
  · unfold pushTopLevel?
    rw [unwind_more, dropCandidate?_more, ht]
    show (read t.more).bind _ = _
    rw [hmore]
    rfl
  · refine h.matches_of_leads hkept.candidates hleads (hleads.more h.inside) rfl ?_
    exact hends.imp (fun hinside => ⟨hinside, rfl⟩) fun hnil => ⟨hnil, .inr rfl⟩

/-- A token at which a key may start, by a reader that reads the same in the longer text. -/
theorem pushNode?_follows {read : Cursor → Option (Token × Cursor)} (h : s.Within cs)
    (hread : ∀ {token d}, read s.cursor = some (token, d) →
      s.cursor.Leads d ∧ d.Inside ∧ read s.cursor.more = some (token, d.more)) :
    Follows cs (s.pushNode? read) (s.more.pushNode? read) := by
  intro u hu
  obtain ⟨t, ht, hu⟩ := Option.bind_eq_some_iff.mp hu
  obtain ⟨⟨token, d⟩, hd, hu⟩ := Option.bind_eq_some_iff.mp hu
  obtain rfl := Option.some.inj hu
  have hkept := kept_noteCandidate? ht
  rw [hkept.cursor] at hd
  obtain ⟨hleads, hinside, hmore⟩ := hread hd
  refine ⟨{ t.more.push token with cursor := d.more, keyAllowed := false }, ?_, ?_⟩
  · unfold pushNode?
    rw [noteCandidate?_more, ht]
    show (read t.cursor.more).bind _ = _
    rw [hkept.cursor, hmore]
    rfl
  · refine h.matches_of_leads hkept.candidates hleads (hleads.more h.inside) rfl (.inl ⟨hinside, rfl⟩)

/-- With a plain scalar that was read. -/
def withPlain (s : Lexer) (p : Plain) : Lexer :=
  { s.push (.scalar p.text true) with cursor := p.after, keyAllowed := p.breaksLine }

theorem pushPlain?_eq (s : Lexer) :
    s.pushPlain? = s.noteCandidate?.map fun t => t.withPlain (t.cursor.plainScalar t.inFlow (t.indent + 1)) := rfl

/-- A plain scalar, which may come to the end of the text. -/
theorem pushPlain?_follows (h : s.Within cs) : Follows cs s.pushPlain? s.more.pushPlain? := by
  intro u hu
  rw [pushPlain?_eq] at hu ⊢
  obtain ⟨t, ht, rfl⟩ := Option.map_eq_some_iff.mp hu
  have hkept := kept_noteCandidate? ht
  obtain ⟨hleads, hleadsMore, htext, hbreaks, halong⟩ :=
    plainScalar_more t.inFlow (t.indent + 1) h.inside
  rw [noteCandidate?_more, ht, hkept.cursor]
  refine ⟨t.more.withPlain (s.cursor.more.plainScalar t.inFlow (t.indent + 1)), ?_, ?_⟩
  · rw [← hkept.cursor]
    rfl
  · refine h.matches_of_leads hkept.candidates hleads hleadsMore ?_ ?_
    · unfold withPlain
      rw [htext, hbreaks]
      rfl
    · exact halong.imp id fun hnil => ⟨hnil.1, .inl hnil.2⟩

/-- A block scalar, which ends before the last line. -/
theorem pushBlock?_follows {x : Char} (h : s.Within cs) (hline : StartsText line) (hhead : s.cursor.head = some x)
    (hx : x ≠ '\n') (hahead : s.cursor.Ahead line) (folded : Bool) :
    Follows cs (s.pushBlock? folded) (s.more.pushBlock? folded) := by
  intro u hu
  obtain ⟨t, ht, hu⟩ := Option.bind_eq_some_iff.mp hu
  obtain ⟨⟨text, d⟩, hd, hu⟩ := Option.bind_eq_some_iff.mp hu
  obtain rfl := Option.some.inj hu
  have hkept := kept_dropCandidate? ht
  rw [hkept.cursor] at hd
  have hadvance := h.inside.advance_of_head hhead hx
  obtain ⟨hleads, hnear, hmore⟩ := blockScalar?_more hline hadvance (hahead.advance hhead hx) hd
  have hinside := hadvance.of_near hleads hline hnear
  have hleadsAll := (leads_advance s.cursor).trans hleads
  refine ⟨{ t.more.push (.scalar text false) with cursor := d.more, keyAllowed := true }, ?_, ?_⟩
  · unfold pushBlock?
    rw [dropCandidate?_more, ht]
    show (t.cursor.more.advance.blockScalar? folded t.indent).bind _ = _
    rw [hkept.cursor, h.inside.more_advance, hmore]
    rfl
  · refine h.matches_of_leads hkept.candidates hleadsAll (hleadsAll.more h.inside) rfl (.inl ⟨hinside, rfl⟩)

/-! ## Steps -/

/-- The last line of a text starts with its text, and no block scalar can start in it. -/
structure LastLine (line cs : List Char) : Prop where
  suffix : '\n' :: line <:+ cs
  starts : StartsText line
  bar : '|' ∉ line
  angle : '>' ∉ line

/-- What is not in the last line is before it. -/
theorem LastLine.ahead {x : Char} (hlast : LastLine line cs) (h : s.Within cs) (hhead : s.cursor.head = some x)
    (hfeed : x ≠ '\n') (hx : x ∉ line) : s.cursor.Ahead line := by
  rcases List.suffix_or_suffix_of_suffix hlast.suffix h.suffix with hahead | hbehind
  · exact hahead
  · obtain ⟨r, hrest⟩ := List.head?_eq_some_iff.mp hhead
    have hmem : x ∈ '\n' :: line := hbehind.mem (hrest ▸ List.mem_cons_self)
    exact absurd hmem (List.not_mem_cons_of_ne_of_not_mem hfeed hx)

theorem readTag_more {token : Token} {c d : Cursor} (hc : c.Inside) (hhead : c.head = some '!')
    (h : readTag c = some (token, d)) : c.Leads d ∧ d.Inside ∧ readTag c.more = some (token, d.more) := by
  obtain ⟨⟨t, e⟩, ht, hr⟩ := Option.map_eq_some_iff.mp h
  obtain ⟨rfl, rfl⟩ := Prod.mk.inj hr
  obtain ⟨hleads, hinside, hmore⟩ := tag?_more hc (decide_eq_true hhead) ht
  refine ⟨hleads, hinside, ?_⟩
  rw [readTag, hmore]
  rfl

theorem readQuoted_more {quote : Char} {token : Token} {c d : Cursor} (hc : c.Inside) (hhead : c.head = some quote)
    (hquote : quote ≠ '\n') (h : readQuoted c = some (token, d)) :
    c.Leads d ∧ d.Inside ∧ readQuoted c.more = some (token, d.more) := by
  obtain ⟨⟨text, e⟩, ht, hr⟩ := Option.map_eq_some_iff.mp h
  obtain ⟨rfl, rfl⟩ := Prod.mk.inj hr
  obtain ⟨hleads, hinside, hmore⟩ := quotedScalar?_more hc hhead hquote ht
  refine ⟨hleads, hinside, ?_⟩
  rw [readQuoted, hmore]
  rfl

theorem readAnchor_more {x : Char} {named : List Char → Token} {token : Token} {c d : Cursor} (hc : c.Inside)
    (hhead : c.head = some x) (hx : x ≠ '\n') (h : readAnchor named c = some (token, d)) :
    c.Leads d ∧ d.Inside ∧ readAnchor named c.more = some (token, d.more) := by
  obtain ⟨⟨name, e⟩, ht, hr⟩ := Option.map_eq_some_iff.mp h
  obtain ⟨rfl, rfl⟩ := Prod.mk.inj hr
  obtain ⟨hleads, hinside, hmore⟩ := steady_anchorName? (hc.advance_of_head hhead hx) ht
  refine ⟨(leads_advance c).trans hleads, hinside, ?_⟩
  rw [readAnchor, hc.more_advance, hmore]
  rfl

theorem readDirective_more {token : Token} {d : Cursor} (h : s.cursor.Inside) (hhead : s.cursor.head = some '%')
    (hread : readDirective s = some (token, d)) :
    s.cursor.Leads d ∧ (d.Inside ∨ d.rest = []) ∧ readDirective s.more = some (token, d.more) := by
  obtain ⟨⟨r, e⟩, ht, hr⟩ := Option.map_eq_some_iff.mp hread
  obtain ⟨rfl, rfl⟩ := Prod.mk.inj hr
  obtain ⟨hleads, hends, hmore⟩ := directive?_more h (decide_eq_true hhead) ht
  refine ⟨hleads, hends, ?_⟩
  show (s.cursor.more.directive?).map _ = _
  rw [hmore]
  rfl

theorem readMarker_more {x : Char} {token mark : Token} {d : Cursor} (h : s.cursor.Inside) (hx : x ≠ '\n')
    (hmarker : s.cursor.isMarker x = true) (hread : readMarker mark s = some (token, d)) :
    s.cursor.Leads d ∧ (d.Inside ∨ d.rest = []) ∧ readMarker mark s.more = some (token, d.more) := by
  obtain ⟨rfl, rfl⟩ := Prod.mk.inj (Option.some.inj hread)
  have htake : s.cursor.rest.take 3 = [x, x, x] := of_decide_eq_true (Bool.and_eq_true_iff.mp hmarker).1
  have hinside : (s.cursor.skip 3).Inside := by
    refine h.skip fun m hm => ⟨x, ?_, hx⟩
    have hthree : (s.cursor.rest.take 3)[m]? = some x := by
      rw [htake]
      match m, hm with
      | 0, _ => rfl
      | 1, _ => rfl
      | 2, _ => rfl
    rwa [List.getElem?_take_of_lt hm] at hthree
  refine ⟨leads_skip _ 3, .inl hinside, ?_⟩
  show some (mark, s.cursor.more.skip 3) = _
  rw [h.more_skip_inside hinside]

/-- The tokens that start with a character which may also be one of a word. -/
def pushWord? (s : Lexer) (x : Char) : Option Lexer :=
  if x = '-' ∧ endsWord (s.cursor.peek 1) then s.pushIndicator? .sequenceStart .dash true
  else if x = '?' ∧ s.isIndicator then s.pushIndicator? .mappingStart .key (!s.inFlow)
  else if x = ':' ∧ s.isIndicator then s.pushValue?
  else if x = '|' ∧ !s.inFlow then s.pushBlock? false
  else if x = '>' ∧ !s.inFlow then s.pushBlock? true
  else if s.startsPlain x then s.pushPlain?
  else none

theorem pushWord?_follows {x : Char} (hlast : LastLine line cs) (h : s.Within cs) (hhead : s.cursor.head = some x) :
    Follows cs (s.pushWord? x) (s.more.pushWord? x) := by
  have hpeek : endsWord (s.more.cursor.peek 1) = endsWord (s.cursor.peek 1) := endsWord_more_peek s.cursor 1
  have hindicator : s.more.isIndicator = s.isIndicator := congrArg (s.inFlow || ·) hpeek
  have hplain : s.more.startsPlain x = s.startsPlain x := by
    unfold startsPlain
    rw [hpeek]
    rfl
  unfold pushWord?
  rw [hpeek, hindicator, hplain]
  refine follows_ite (fun hdash => ?_) fun _ => follows_ite (fun hkey => ?_) fun _ => follows_ite (fun hcolon => ?_)
    fun _ => follows_ite (fun hbar => ?_) fun _ => follows_ite (fun hangle => ?_) fun _ =>
      follows_ite (fun _ => pushPlain?_follows h) fun _ => follows_none _
  · obtain ⟨rfl, -⟩ := hdash
    exact pushIndicator?_follows h hhead (by decide) _ _ _
  · obtain ⟨rfl, -⟩ := hkey
    exact pushIndicator?_follows h hhead (by decide) _ _ _
  · obtain ⟨rfl, -⟩ := hcolon
    exact pushValue?_follows h hhead (by decide)
  · obtain ⟨rfl, -⟩ := hbar
    exact pushBlock?_follows h hlast.starts hhead (by decide) (hlast.ahead h hhead (by decide) hlast.bar) _
  · obtain ⟨rfl, -⟩ := hangle
    exact pushBlock?_follows h hlast.starts hhead (by decide) (hlast.ahead h hhead (by decide) hlast.angle) _

/-- The tokens that start with brackets, marks and quotes, and the others. -/
def pushMark? (s : Lexer) (x : Char) : Option Lexer :=
  match x with
  | '[' => s.openBracket? .openList
  | '\x7b' => s.openBracket? .openMapping
  | ']' => s.closeBracket? .closeList
  | '\x7d' => s.closeBracket? .closeMapping
  | ',' => s.pushComma?
  | '*' => s.pushNode? (readAnchor .alias)
  | '&' => s.pushNode? (readAnchor .anchor)
  | '!' => s.pushNode? readTag
  | '\'' => s.pushNode? readQuoted
  | '"' => s.pushNode? readQuoted
  | _ => s.pushWord? x

theorem pushMark?_follows {x : Char} (hlast : LastLine line cs) (h : s.Within cs) (hhead : s.cursor.head = some x) :
    Follows cs (s.pushMark? x) (s.more.pushMark? x) := by
  unfold pushMark?
  split
  · exact openBracket?_follows h hhead (by decide) _
  · exact openBracket?_follows h hhead (by decide) _
  · exact closeBracket?_follows h hhead (by decide) _
  · exact closeBracket?_follows h hhead (by decide) _
  · exact pushComma?_follows h hhead (by decide)
  · exact pushNode?_follows h (readAnchor_more h.inside hhead (by decide))
  · exact pushNode?_follows h (readAnchor_more h.inside hhead (by decide))
  · exact pushNode?_follows h (readTag_more h.inside hhead)
  · exact pushNode?_follows h (readQuoted_more h.inside hhead (by decide))
  · exact pushNode?_follows h (readQuoted_more h.inside hhead (by decide))
  · exact pushWord?_follows hlast h hhead

theorem pushToken?_eq (s : Lexer) (x : Char) :
    s.pushToken? x =
      if s.column = 0 ∧ x = '%' then s.pushTopLevel? readDirective
      else if s.column = 0 ∧ s.cursor.isMarker '-' then s.pushTopLevel? (readMarker .documentStart)
      else if s.column = 0 ∧ s.cursor.isMarker '.' then s.pushTopLevel? (readMarker .documentEnd)
      else s.pushMark? x := rfl

/-- **One token.** What is pushed at a place of the text is pushed there in the longer text, and the lexers are
side by side again. -/
theorem pushToken?_follows {x : Char} (hlast : LastLine line cs) (h : s.Within cs) (hhead : s.cursor.head = some x) :
    Follows cs (s.pushToken? x) (s.more.pushToken? x) := by
  rw [pushToken?_eq, pushToken?_eq, show s.more.column = s.column from rfl,
    show s.more.cursor.isMarker '-' = s.cursor.isMarker '-' from h.inside.more_isMarker (by decide),
    show s.more.cursor.isMarker '.' = s.cursor.isMarker '.' from h.inside.more_isMarker (by decide)]
  refine follows_ite (fun hdirective => ?_) fun _ => follows_ite (fun hstart => ?_) fun _ =>
    follows_ite (fun hend => ?_) fun _ => pushMark?_follows hlast h hhead
  · obtain ⟨-, rfl⟩ := hdirective
    refine pushTopLevel?_follows h fun hcursor hread => ?_
    rw [← hcursor]
    exact readDirective_more (hcursor ▸ h.inside) (hcursor ▸ hhead) hread
  · refine pushTopLevel?_follows h fun hcursor hread => ?_
    rw [← hcursor]
    exact readMarker_more (hcursor ▸ h.inside) (by decide) (hcursor ▸ hstart.2) hread
  · refine pushTopLevel?_follows h fun hcursor hread => ?_
    rw [← hcursor]
    exact readMarker_more (hcursor ▸ h.inside) (by decide) (hcursor ▸ hend.2) hread

/-! ## Blanks -/

theorem skipBlanks_eq (s : Lexer) (fuel : Nat) :
    skipBlanks (fuel + 1) s =
      match s.cursor.skipComment.lineBreak? with
      | none => { s with cursor := s.cursor.skipComment }
      | some (_, c) => skipBlanks fuel { s with cursor := c, keyAllowed := s.keyAllowed || !s.inFlow } := rfl

/-- At the end of a text there are no blanks to skip. -/
theorem skipBlanks_of_nil (h : s.cursor.rest = []) (fuel : Nat) : skipBlanks fuel s = s := by
  cases fuel with
  | zero => rfl
  | succ fuel => rw [skipBlanks_eq, skipComment_of_nil h, lineBreak?_of_nil h]

theorem skipBlanks_succ (s : Lexer) (fuel : Nat) (h : s.cursor.Inside) :
    skipBlanks (fuel + 1) s =
      if s.cursor.skipComment.head = some '\n' then
        skipBlanks fuel { s with cursor := s.cursor.skipComment.advance, keyAllowed := s.keyAllowed || !s.inFlow }
      else { s with cursor := s.cursor.skipComment } := by
  rw [skipBlanks_eq, h.skipComment.lineBreak?_eq]
  by_cases hhead : s.cursor.skipComment.head = some '\n'
  · rw [if_pos hhead, if_pos hhead]
  · rw [if_neg hhead, if_neg hhead]

/-- Two lexers at the ends of their texts are there when the blanks are skipped, with nothing left to read. -/
theorem Over.skipBlanks (h : s.Over t) (m n : Nat) :
    (skipBlanks m s).Over (skipBlanks (n + 1) t) ∧ (Lexer.skipBlanks (n + 1) t).cursor.rest = [] := by
  rw [skipBlanks_of_nil h.rest]
  rcases h.ends with ⟨hnil, -⟩ | hmore
  · rw [skipBlanks_of_nil hnil]
    exact ⟨h, hnil⟩
  · have hinside : t.cursor.Inside := hmore ▸ inside_more_of_nil h.rest
    have hcomment : t.cursor.skipComment = t.cursor := by
      rw [hmore, Cursor.skipComment, Cursor.skipSpaces, Cursor.skipWhile, Cursor.span, Cursor.more, h.rest]
      rfl
    have hadvance : t.cursor.advance = ⟨[], t.cursor.index + 1, t.cursor.line + 1, 0⟩ := by
      rw [hmore, Cursor.advance, Cursor.more, h.rest]
      rfl
    have hhead : t.cursor.head = some '\n' := hmore ▸ head_more_of_nil h.rest
    have hnil : t.cursor.advance.rest = [] := by rw [hadvance]
    rw [skipBlanks_succ t n hinside, hcomment, if_pos hhead, skipBlanks_of_nil hnil]
    refine ⟨⟨?_, h.rest, h.column, .inl ⟨hnil, by rw [hadvance]⟩, fun k hk => ?_⟩, hnil⟩
    · have hsame := congrArg (fun u : Lexer => u.place t.cursor.advance (t.keyAllowed || !t.inFlow)) h.same
      exact hsame
    · obtain ⟨hline, hlineMore⟩ := h.candidates k hk
      refine ⟨hline, ?_⟩
      show k.2.line < t.cursor.advance.line
      rw [hadvance]
      exact Nat.lt_succ_of_lt hlineMore

/-- The blanks are skipped in both texts, up to one place or up to the end. -/
theorem skipBlanks_more {fuel : Nat} (hfuel : s.cursor.rest.length < fuel) (h : s.Within cs) :
    (skipBlanks fuel s).Within cs ∧ skipBlanks (fuel + 1) s.more = (skipBlanks fuel s).more ∨
      (skipBlanks fuel s).Over (skipBlanks (fuel + 1) s.more) ∧
        (skipBlanks (fuel + 1) s.more).cursor.rest = [] := by
  induction fuel generalizing s with
  | zero => exact absurd hfuel (Nat.not_lt_zero _)
  | succ fuel ih =>
      have hcomment := h.inside.skipComment
      have hleads := leads_skipComment s.cursor
      rw [skipBlanks_succ s fuel h.inside, skipBlanks_succ s.more (fuel + 1) h.inside.more,
        show s.more.cursor.skipComment = s.cursor.skipComment.more from h.inside.more_skipComment,
        hcomment.more_head, hcomment.more_advance]
      by_cases hhead : s.cursor.skipComment.head = some '\n'
      · rw [if_pos hhead, if_pos hhead]
        have hleadsNext := hleads.trans (leads_advance s.cursor.skipComment)
        have hmatches := h.matches_of_leads (fun _ hk => .inl hk) hleadsNext (hleadsNext.more h.inside)
          (u := { s with cursor := s.cursor.skipComment.advance, keyAllowed := s.keyAllowed || !s.inFlow })
          (v := { s with cursor := s.cursor.skipComment.advance.more, keyAllowed := s.keyAllowed || !s.inFlow }) rfl
          (hcomment.advance_cases.imp (fun hinside => ⟨hinside, rfl⟩) fun hnil => ⟨hnil, .inr rfl⟩)
        rcases hmatches with ⟨hwithin, -⟩ | hover
        · refine ih ?_ hwithin
          have hless := hcomment.length_advance
          have hle := hleads.length_le
          show s.cursor.skipComment.advance.rest.length < fuel
          omega
        · exact .inr (hover.skipBlanks fuel fuel)
      · rw [if_neg hhead, if_neg hhead]
        refine .inl ⟨⟨hcomment, hleads.suffix.trans h.suffix, fun k hk => ?_⟩, rfl⟩
        exact Nat.le_trans (h.candidates k hk) hleads.line_le

/-! ## Whole texts -/

/-- What a step does where the blocks that end at a place are closed. -/
def atToken (s : Lexer) : Option (Lexer × Bool) :=
  match s.cursor.head with
  | none => (s.unwind (-1)).dropCandidate?.bind fun t => some (t, false)
  | some x => (s.pushToken? x).map fun t => (t, true)

/-- What a step does behind the blanks. -/
def afterBlanks (s : Lexer) : Option (Lexer × Bool) :=
  s.dropStale?.bind fun t => atToken (t.unwind t.column)

theorem step_eq (s : Lexer) : s.step = afterBlanks (skipBlanks (s.cursor.rest.length + 1) s) := rfl

/-- Whether a line end or its length rules a key out. -/
def isStale (s : Lexer) (k : Nat × Candidate) : Bool :=
  k.2.line ≠ s.cursor.line || maxKeyLength < s.cursor.index - k.2.index

theorem dropStale?_eq (s : Lexer) :
    s.dropStale? =
      if s.candidates.any fun k => s.isStale k && k.2.isRequired then none
      else some { s with candidates := s.candidates.filter fun k => !s.isStale k } := rfl

/-- With no key that may have started. -/
def noKeys (s : Lexer) : Lexer := { s with candidates := [] }

/-- Keys that have started on earlier lines are all ruled out. -/
theorem dropStale?_of_old (h : ∀ k ∈ s.candidates, k.2.line < s.cursor.line) :
    s.dropStale? =
      if s.candidates.any fun k => k.2.isRequired then none else some s.noKeys := by
  have hstale : ∀ k ∈ s.candidates, s.isStale k = true := by
    intro k hk
    rw [isStale, decide_eq_true (Nat.ne_of_lt (h k hk)), Bool.true_or]
  have hfilter : (s.candidates.filter fun k => !s.isStale k) = [] := by
    refine List.filter_eq_nil_iff.mpr fun k hk => ?_
    rw [hstale k hk]
    decide
  have hany : (s.candidates.any fun k => s.isStale k && k.2.isRequired) =
      s.candidates.any fun k => k.2.isRequired := by
    rw [List.any_eq, List.any_eq]
    refine decide_eq_decide.mpr (exists_congr fun k => and_congr_right fun hk => ?_)
    rw [hstale k hk, Bool.true_and]
  rw [dropStale?_eq, hany, hfilter]
  rfl

/-- At the end of a text the blocks that are open are closed. -/
theorem atToken_of_nil (hnil : s.cursor.rest = []) (hnone : s.candidates = []) :
    (s.unwind s.column).atToken = some ((s.unwind s.column).unwind (-1), false) := by
  have hhead : (s.unwind s.column).cursor.head = none := by
    rw [(kept_unwind s s.column).cursor, head_of_nil hnil]
  have hempty : ((s.unwind s.column).unwind (-1)).candidates = [] := by
    rw [candidates_unwind, candidates_unwind, hnone]
  unfold atToken dropCandidate?
  rw [hhead, hempty]
  rfl

/-- What two lexers do at the ends of their texts gives the same tokens. -/
theorem Over.afterBlanks (h : s.Over t) (hnil : t.cursor.rest = []) {b : Bool} (hu : s.afterBlanks = some (u, b)) :
    b = false ∧ ∃ v, t.afterBlanks = some (v, false) ∧ v.tokens = u.tokens := by
  have hcandidates : t.candidates = s.candidates := by
    conv_lhs => rw [h.same]
    rfl
  have hsame : t.noKeys = s.noKeys.place t.cursor t.keyAllowed := by
    conv_lhs => rw [h.same]
    rfl
  have hcolumn : t.cursor.column = 0 := by
    rcases h.ends with ⟨-, hcolumn⟩ | hmore
    · exact hcolumn
    · rw [hmore] at hnil
      exact absurd hnil (inside_more_of_nil h.rest).ne_nil
  have hcolumns : t.noKeys.column = s.noKeys.column := by
    show (t.cursor.column : Int) = s.cursor.column
    rw [hcolumn, h.column]
  unfold Lexer.afterBlanks at hu ⊢
  rw [dropStale?_of_old fun k hk => (h.candidates k hk).1] at hu
  rw [dropStale?_of_old fun k hk => (h.candidates k (hcandidates ▸ hk)).2, hcandidates]
  split at hu
  · cases hu
  · next hoptional =>
      rw [Option.bind_some, atToken_of_nil (s := s.noKeys) h.rest rfl] at hu
      obtain ⟨rfl, rfl⟩ := Prod.mk.inj (Option.some.inj hu)
      rw [if_neg hoptional, Option.bind_some, atToken_of_nil (s := t.noKeys) hnil rfl]
      refine ⟨rfl, _, rfl, ?_⟩
      rw [hcolumns, hsame, unwind_place, unwind_place]
      rfl

/-- **One step.** If the lexer of the text goes on, so does the one of the longer text, and they are side by side
again; if it comes to its end, so does the other one, with the same tokens. -/
theorem step_more {b : Bool} (hlast : LastLine line cs) (h : Matches cs s t) (hu : s.step = some (u, b)) :
    ∃ v, t.step = some (v, b) ∧ (b = true → Matches cs u v) ∧ (b = false → v.tokens = u.tokens) := by
  rw [step_eq] at hu ⊢
  have hblanks : (skipBlanks (s.cursor.rest.length + 1) s).Within cs ∧
      skipBlanks (t.cursor.rest.length + 1) t = (skipBlanks (s.cursor.rest.length + 1) s).more ∨
      (skipBlanks (s.cursor.rest.length + 1) s).Over (skipBlanks (t.cursor.rest.length + 1) t) ∧
        (skipBlanks (t.cursor.rest.length + 1) t).cursor.rest = [] := by
    rcases h with ⟨hwithin, rfl⟩ | hover
    · rw [show s.more.cursor.rest.length = s.cursor.rest.length + 1 from length_rest_more s.cursor]
      exact skipBlanks_more (Nat.lt_succ_self _) hwithin
    · exact .inr (hover.skipBlanks _ _)
  rcases hblanks with ⟨hwithin, hmore⟩ | ⟨hover, hnil⟩
  · rw [hmore]
    generalize skipBlanks (s.cursor.rest.length + 1) s = w at hu hwithin ⊢
    obtain ⟨w', hstale, hu⟩ := Option.bind_eq_some_iff.mp hu
    have hplace := hwithin.kept ((kept_dropStale? hstale).trans (kept_unwind w' w'.column))
    obtain ⟨x, r, hrest, -⟩ := hplace.inside.exists_cons
    have hhead : (w'.unwind w'.column).cursor.head = some x := by rw [head, hrest, List.head?_cons]
    have htoken : ∀ w : Lexer, w.cursor.head = some x → w.atToken = (w.pushToken? x).map fun t => (t, true) := by
      intro w hw
      unfold atToken
      rw [hw]
    rw [htoken _ hhead] at hu
    obtain ⟨u', hpush, hr⟩ := Option.map_eq_some_iff.mp hu
    obtain ⟨rfl, rfl⟩ := Prod.mk.inj hr
    obtain ⟨v, hpushMore, hmatches⟩ := pushToken?_follows hlast hplace hhead u' hpush
    refine ⟨v, ?_, fun _ => hmatches, fun hends => absurd hends (by decide)⟩
    unfold afterBlanks
    rw [dropStale?_more, hstale]
    show ((w'.more).unwind w'.column).atToken = _
    rw [unwind_more, htoken _ ((hplace.inside.more_head).trans hhead), hpushMore]
    rfl
  · obtain ⟨rfl, v, hv, htokens⟩ := hover.afterBlanks hnil hu
    exact ⟨v, hv, fun hgoes => absurd hgoes (by decide), fun _ => htokens⟩

/-- All tokens of a text are those of the longer one. -/
theorem run_more {fuel : Nat} {ts : List Token} (hlast : LastLine line cs) (h : Matches cs s t)
    (hrun : run fuel s = some ts) : run (fuel + 1) t = some ts := by
  induction fuel generalizing s t with
  | zero => cases hrun
  | succ fuel ih =>
      rw [run] at hrun ⊢
      cases hstep : s.step with
      | none =>
          rw [hstep] at hrun
          cases hrun
      | some r =>
          obtain ⟨u, b⟩ := r
          obtain ⟨v, hstepMore, hgoes, hends⟩ := step_more hlast h hstep
          rw [hstep] at hrun
          rw [hstepMore]
          cases b with
          | true => exact ih (hgoes rfl) hrun
          | false =>
              show some v.tokens.reverse = _
              rw [hends rfl]
              exact hrun

end Lexer

section

variable {cs line : List Char}

/-- A clear text has no byte order mark at its front. -/
theorem skipMark_of_inside {c : Cursor} (h : c.Inside) : c.skipMark = c := by
  obtain ⟨x, r, hrest, hx⟩ := h.exists_cons
  refine if_neg fun hat => ?_
  rw [isAt, head, hrest, List.head?_cons] at hat
  obtain rfl := Option.some.inj (of_decide_eq_true hat)
  cases hx

/-- **A blank line at the end.** A clear text whose last line starts with its text, and has no sign in it with which
a block scalar starts, has the same tokens with one more line feed at its end. -/
theorem tokens?_append_feed {ts : List Token} (hclear : Clear cs) (hends : ∃ front, cs = front ++ ['\n'])
    (hlast : Lexer.LastLine line cs) (h : tokens? cs = some ts) : tokens? (cs ++ ['\n']) = some ts := by
  have hinside : (Cursor.start cs).Inside := ⟨hclear, hends⟩
  have hwithin : (Lexer.start cs).Within cs := ⟨hinside, List.suffix_refl cs, List.forall_mem_nil _⟩
  unfold tokens? at h ⊢
  split at h
  · next hallowed =>
      have hallowedMore : (cs ++ ['\n']).all isAllowed = true := by
        rw [List.all_append, hallowed]
        rfl
      rw [if_pos hallowedMore, List.length_append, List.length_singleton]
      dsimp only at h ⊢
      rw [show (Lexer.start cs).cursor.skipMark = Cursor.start cs from skipMark_of_inside hinside] at h
      rw [show (Lexer.start (cs ++ ['\n'])).cursor.skipMark = (Cursor.start cs).more from
        skipMark_of_inside hinside.more]
      exact Lexer.run_more hlast (.inl ⟨hwithin, rfl⟩) h
  · cases h

/-- A blank line at the end of a document leaves its value as it is. -/
theorem parseChars_append_feed {v : Value} (hclear : Clear cs) (hends : ∃ front, cs = front ++ ['\n'])
    (hlast : Lexer.LastLine line cs) (h : parseChars cs = .ok v) : parseChars (cs ++ ['\n']) = .ok v := by
  unfold parseChars at h ⊢
  cases htokens : tokens? cs with
  | none =>
      rw [htokens] at h
      cases h
  | some ts =>
      rw [htokens] at h
      rw [tokens?_append_feed hclear hends hlast htokens]
      exact h

end

end ApiReconciler.Yaml
