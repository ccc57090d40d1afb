import ApiReconciler.Proofs.Yaml.Cursor

/-!
# `ApiReconciler.Proofs.Yaml.Tokens` — readers that do not see the end of a text

A token that is read inside a text does not depend on whether the text has a line feed more at its end. Anchors
and tags are words of a line, so they end before its end. A quoted scalar may go over many lines, but it ends with
a quote. A directive takes its line with it, and may come to the end of the text in that way.

Readers that count down from the length of the text have more to count down from in the longer one; so a reader
is compared to a second one, with more to spare.

## Contents
- `Steady`: inside a text, a reader stays inside and reads the same from the longer text.
- `steady_anchorName?`, `tag?_more`, `directive?_more`: tokens with names.
- `steady_quotedText?`, `quotedScalar?_more`: quoted scalars.
-/

namespace ApiReconciler.Yaml.Cursor

open Digits

/-- Inside a text, a reader stays inside, and a second one reads the same from the longer text. -/
def Steady {α : Type} (read read' : Cursor → Option (α × Cursor)) : Prop :=
  ∀ {c a d}, c.Inside → read c = some (a, d) → c.Leads d ∧ d.Inside ∧ read' c.more = some (a, d.more)

variable {c d : Cursor}

/-! ## Anchors -/

theorem steady_anchorName? : Steady anchorName? anchorName? := by
  intro c a d hc h
  unfold anchorName? at h ⊢
  have hspan := hc.span (p := isNameChar) rfl
  rw [hc.more_span rfl]
  dsimp only at h ⊢
  rw [hspan.more_head]
  split at h
  · next hends =>
      obtain ⟨rfl, rfl⟩ := Prod.mk.inj (Option.some.inj h)
      rw [if_pos hends]
      exact ⟨leads_span c _, hspan, rfl⟩
  · cases h

/-! ## Tags -/

theorem steady_tagEscapes? (fuel : Nat) : Steady (tagEscapes? fuel) (tagEscapes? (fuel + 1)) := by
  induction fuel with
  | zero =>
      intro c a d _ h
      cases h
  | succ fuel ih =>
      intro c a d hc h
      unfold tagEscapes? at h ⊢
      rw [hc.more_isAt]
      split at h
      · next hat =>
          rw [if_pos hat]
          split at h
          · next x y hx hy =>
              rw [more_peek hx, more_peek hy]
              split at h
              · next hhex =>
                  have hdigit : ∀ z, isHexDigit z = true → z ≠ '\n' := by
                    rintro z hz rfl
                    cases hz
                  have hinside : (c.skip 3).Inside := by
                    refine hc.skip fun m hm => ?_
                    match m, hm with
                    | 0, _ => exact ⟨'%', (head_skip c 0).symm.trans (of_decide_eq_true hat), by decide⟩
                    | 1, _ => exact ⟨x, hx, hdigit x hhex.1⟩
                    | 2, _ => exact ⟨y, hy, hdigit y hhex.2⟩
                  obtain ⟨⟨bytes, e⟩, he, hr⟩ := Option.map_eq_some_iff.mp h
                  obtain ⟨rfl, rfl⟩ := Prod.mk.inj hr
                  obtain ⟨hleads, hstays, hmore⟩ := ih hinside he
                  dsimp only
                  rw [if_pos hhex, hc.more_skip_inside hinside, hmore]
                  exact ⟨(leads_skip c 3).trans hleads, hstays, rfl⟩
              · cases h
          · cases h
      · next hat =>
          obtain ⟨rfl, rfl⟩ := Prod.mk.inj (Option.some.inj h)
          rw [if_neg hat]
          exact ⟨leads_refl c, hc, rfl⟩

theorem steady_tagText? (fuel : Nat) : Steady (tagText? fuel) (tagText? (fuel + 1)) := by
  induction fuel with
  | zero =>
      intro c a d _ h
      cases h
  | succ fuel ih =>
      intro c a d hc h
      obtain ⟨x, r, hrest, hx⟩ := hc.exists_cons
      have hhead : c.head = some x := by rw [head, hrest, List.head?_cons]
      unfold tagText? at h ⊢
      rw [hc.more_head, hhead, length_rest_more]
      rw [hhead] at h
      dsimp only at h ⊢
      split at h
      · next hpercent =>
          obtain ⟨⟨bytes, e⟩, hescapes, h⟩ := Option.bind_eq_some_iff.mp h
          obtain ⟨text, htext, h⟩ := Option.bind_eq_some_iff.mp h
          obtain ⟨⟨rest, f⟩, hrestText, h⟩ := Option.bind_eq_some_iff.mp h
          obtain ⟨rfl, rfl⟩ := Prod.mk.inj (Option.some.inj h)
          obtain ⟨hleads, hinside, hmore⟩ := steady_tagEscapes? _ hc hescapes
          obtain ⟨hleads', hinside', hmore'⟩ := ih hinside hrestText
          refine ⟨hleads.trans hleads', hinside', ?_⟩
          rw [if_pos hpercent, hmore]
          simp only [Option.bind_eq_bind, Option.bind_some, htext, hmore']
      · next hpercent =>
          rw [if_neg hpercent]
          split at h
          · next htag =>
              have hne : x ≠ '\n' := by
                rintro rfl
                exact absurd htag (by decide)
              have hadvance := hc.advance_of_head hhead hne
              obtain ⟨⟨text, e⟩, he, hr⟩ := Option.map_eq_some_iff.mp h
              obtain ⟨rfl, rfl⟩ := Prod.mk.inj hr
              obtain ⟨hleads, hinside, hmore⟩ := ih hadvance he
              rw [if_pos htag, hc.more_advance, hmore]
              exact ⟨(leads_advance c).trans hleads, hinside, rfl⟩
          · next htag =>
              obtain ⟨rfl, rfl⟩ := Prod.mk.inj (Option.some.inj h)
              rw [if_neg htag]
              exact ⟨leads_refl c, hc, rfl⟩

theorem steady_tagSuffix? : Steady tagSuffix? tagSuffix? := by
  intro c a d hc h
  unfold tagSuffix? at h ⊢
  obtain ⟨⟨text, e⟩, htext, h⟩ := Option.bind_eq_some_iff.mp h
  obtain ⟨hleads, hinside, hmore⟩ := steady_tagText? _ hc htext
  dsimp only at h
  split at h
  · cases h
  · next hne =>
      obtain ⟨rfl, rfl⟩ := Prod.mk.inj (Option.some.inj h)
      refine ⟨hleads, hinside, ?_⟩
      rw [length_rest_more, hmore]
      simp only [Option.bind_eq_bind, Option.bind_some, if_neg hne]

theorem steady_tagHandle? : Steady tagHandle? tagHandle? := by
  intro c a d hc h
  unfold tagHandle? at h ⊢
  rw [hc.more_isAt]
  split at h
  · cases h
  · next hat =>
      have hmark : c.isAt '!' = true := by simpa using hat
      have hadvance := hc.advance_of_isAt hmark (by decide)
      have hspan := hadvance.span (p := isNameChar) rfl
      rw [if_neg hat]
      split at h
      · next hspace =>
          obtain ⟨rfl, rfl⟩ := Prod.mk.inj (Option.some.inj h)
          rw [if_pos ((more_peek_iff (by decide)).mpr hspace), hc.more_advance]
          exact ⟨leads_advance c, hadvance, rfl⟩
      · next hspace =>
          rw [if_neg fun hmore => hspace ((more_peek_iff (by decide)).mp hmore), hc.more_advance,
            hadvance.more_span rfl]
          dsimp only at h ⊢
          rw [hspan.more_isAt]
          split at h
          · next hsecond =>
              obtain ⟨rfl, rfl⟩ := Prod.mk.inj (Option.some.inj h)
              rw [if_pos hsecond, hspan.more_advance]
              exact ⟨((leads_advance c).trans (leads_span _ _)).trans (leads_advance _),
                hspan.advance_of_isAt hsecond (by decide), rfl⟩
          · cases h

theorem hasHandle_more (hc : c.Inside) : c.more.hasHandle = c.hasHandle := by
  unfold hasHandle
  rw [hc.more_advance, takeWhile_more _ (by decide)]

/-- What stands before the rest of a tag that is not given in full. -/
def tagFront? (c : Cursor) : Option (List Char × Cursor) :=
  if c.hasHandle then c.tagHandle? else some (['!'], c.advance)

/-- A tag, whatever follows it. -/
def tagForm? (c : Cursor) : Option (Tag × Cursor) :=
  if c.peek 1 = some '<' then
    (c.skip 2).tagSuffix?.bind fun r => if r.2.isAt '>' then some (Tag.mk none r.1, r.2.advance) else none
  else if endsWord (c.peek 1) then some (Tag.mk none ['!'], c.advance)
  else c.tagFront?.bind fun r => r.2.tagSuffix?.map fun s => (Tag.mk (some r.1) s.1, s.2)

theorem tag?_eq (c : Cursor) : c.tag? = c.tagForm?.bind fun r => if endsSpaced r.2.head then some r else none := by
  unfold tag? tagForm? tagFront?
  split
  · cases (c.skip 2).tagSuffix? with
    | none => rfl
    | some r =>
        simp only [Option.bind_eq_bind, Option.bind_some]
        split <;> rfl
  · split
    · rfl
    · split
      · cases c.tagHandle? with
        | none => rfl
        | some r =>
            simp only [Option.bind_eq_bind, Option.bind_some]
            cases r.2.tagSuffix? <;> rfl
      · simp only [Option.bind_eq_bind, Option.bind_some]
        cases c.advance.tagSuffix? <;> rfl

section

variable {handle : List Char} {t : Tag}

theorem tagFront?_more (hc : c.Inside) (hmark : c.isAt '!' = true) (h : c.tagFront? = some (handle, d)) :
    c.Leads d ∧ d.Inside ∧ c.more.tagFront? = some (handle, d.more) := by
  unfold tagFront? at h ⊢
  rw [hasHandle_more hc]
  split at h
  · next hhas =>
      rw [if_pos hhas]
      exact steady_tagHandle? hc h
  · next hhas =>
      obtain ⟨rfl, rfl⟩ := Prod.mk.inj (Option.some.inj h)
      rw [if_neg hhas, hc.more_advance]
      exact ⟨leads_advance c, hc.advance_of_isAt hmark (by decide), rfl⟩

theorem tagForm?_more (hc : c.Inside) (hmark : c.isAt '!' = true) (h : c.tagForm? = some (t, d)) :
    c.Leads d ∧ d.Inside ∧ c.more.tagForm? = some (t, d.more) := by
  unfold tagForm? at h ⊢
  split at h
  · next hfull =>
      have hskip : (c.skip 2).Inside := by
        refine hc.skip fun m hm => ?_
        match m, hm with
        | 0, _ => exact ⟨'!', (head_skip c 0).symm.trans (of_decide_eq_true hmark), by decide⟩
        | 1, _ => exact ⟨'<', hfull, by decide⟩
      obtain ⟨⟨suffix, e⟩, hsuffix, h⟩ := Option.bind_eq_some_iff.mp h
      obtain ⟨hleads, hinside, hmore⟩ := steady_tagSuffix? hskip hsuffix
      dsimp only at h
      split at h
      · next hclose =>
          obtain ⟨rfl, rfl⟩ := Prod.mk.inj (Option.some.inj h)
          refine ⟨((leads_skip c 2).trans hleads).trans (leads_advance e),
            hinside.advance_of_isAt hclose (by decide), ?_⟩
          rw [if_pos (more_peek hfull), hc.more_skip_inside hskip, hmore, Option.bind_some, hinside.more_isAt,
            if_pos hclose, hinside.more_advance]
      · cases h
  · next hfull =>
      rw [if_neg fun hmore => hfull ((more_peek_iff (by decide)).mp hmore), endsWord_more_peek]
      split at h
      · next hword =>
          obtain ⟨rfl, rfl⟩ := Prod.mk.inj (Option.some.inj h)
          rw [if_pos hword, hc.more_advance]
          exact ⟨leads_advance c, hc.advance_of_isAt hmark (by decide), rfl⟩
      · next hword =>
          obtain ⟨⟨handle, e⟩, hhandle, h⟩ := Option.bind_eq_some_iff.mp h
          obtain ⟨⟨suffix, f⟩, hsuffix, hr⟩ := Option.map_eq_some_iff.mp h
          obtain ⟨rfl, rfl⟩ := Prod.mk.inj hr
          obtain ⟨hleads, hinside, hmore⟩ := tagFront?_more hc hmark hhandle
          obtain ⟨hleads', hinside', hmore'⟩ := steady_tagSuffix? hinside hsuffix
          refine ⟨hleads.trans hleads', hinside', ?_⟩
          rw [if_neg hword, hmore, Option.bind_some, hmore']
          rfl

/-- A tag starts with a mark and ends in its line. -/
theorem tag?_more (hc : c.Inside) (hmark : c.isAt '!' = true) (h : c.tag? = some (t, d)) :
    c.Leads d ∧ d.Inside ∧ c.more.tag? = some (t, d.more) := by
  rw [tag?_eq] at h ⊢
  obtain ⟨⟨u, e⟩, hform, h⟩ := Option.bind_eq_some_iff.mp h
  obtain ⟨hleads, hinside, hmore⟩ := tagForm?_more hc hmark hform
  dsimp only at h
  split at h
  · next hends =>
      obtain ⟨rfl, rfl⟩ := Prod.mk.inj (Option.some.inj h)
      refine ⟨hleads, hinside, ?_⟩
      rw [hmore, Option.bind_some, hinside.more_head, if_pos hends]
  · cases h

end

/-! ## Directives -/

theorem steady_number? : Steady number? number? := by
  intro c a d hc h
  unfold number? at h ⊢
  rw [hc.more_span rfl]
  dsimp only at h ⊢
  split at h
  · cases h
  · next hne =>
      obtain ⟨rfl, rfl⟩ := Prod.mk.inj (Option.some.inj h)
      rw [if_neg hne]
      exact ⟨leads_span c _, hc.span rfl, rfl⟩

theorem steady_version? : Steady version? version? := by
  intro c a d hc h
  unfold version? at h ⊢
  obtain ⟨⟨major, e⟩, hmajor, h⟩ := Option.bind_eq_some_iff.mp h
  obtain ⟨hleads, hinside, hmore⟩ := steady_number? hc.skipSpaces hmajor
  dsimp only at h
  split at h
  · cases h
  · next hpoint =>
      have hadvance := hinside.advance_of_isAt (x := '.') (by simpa using hpoint) (by decide)
      obtain ⟨⟨minor, f⟩, hminor, h⟩ := Option.bind_eq_some_iff.mp h
      obtain ⟨hleads', hinside', hmore'⟩ := steady_number? hadvance hminor
      dsimp only at h
      split at h
      · next hends =>
          obtain ⟨rfl, rfl⟩ := Prod.mk.inj (Option.some.inj h)
          refine ⟨((leads_skipSpaces c).trans hleads).trans ((leads_advance e).trans hleads'), hinside', ?_⟩
          simp only [hc.more_skipSpaces, hmore, Option.bind_eq_bind, Option.bind_some, hinside.more_isAt,
            if_neg hpoint, hinside.more_advance, hmore', hinside'.more_head, if_pos hends]
      · cases h

theorem steady_handleDirective? : Steady handleDirective? handleDirective? := by
  intro c a d hc h
  unfold handleDirective? at h ⊢
  obtain ⟨⟨name, e⟩, hname, h⟩ := Option.bind_eq_some_iff.mp h
  obtain ⟨hleads, hinside, hmore⟩ := steady_tagHandle? hc.skipSpaces hname
  dsimp only at h
  split at h
  · cases h
  · next hspace =>
      obtain ⟨⟨target, f⟩, htarget, h⟩ := Option.bind_eq_some_iff.mp h
      obtain ⟨hleads', hinside', hmore'⟩ := steady_tagSuffix? hinside.skipSpaces htarget
      dsimp only at h
      split at h
      · next hends =>
          obtain ⟨rfl, rfl⟩ := Prod.mk.inj (Option.some.inj h)
          refine ⟨((leads_skipSpaces c).trans hleads).trans ((leads_skipSpaces e).trans hleads'), hinside', ?_⟩
          simp only [hc.more_skipSpaces, hmore, Option.bind_eq_bind, Option.bind_some, hinside.more_isAt,
            if_neg hspace, hinside.more_skipSpaces, hmore', hinside'.more_head, if_pos hends]
      · cases h

/-- What a directive says, behind its name. -/
def directiveBody? (name : List Char) (c : Cursor) : Option (Directive × Cursor) :=
  if name = "YAML".toList then c.version?
  else if name = "TAG".toList then c.handleDirective?
  else some (.other, c.skipWhile fun x => !isBreak x)

theorem directive?_eq (c : Cursor) :
    c.directive? = if (c.advance.span isNameChar).1 = [] ∨ !endsSpaced (c.advance.span isNameChar).2.head then none
      else (directiveBody? (c.advance.span isNameChar).1 (c.advance.span isNameChar).2).bind fun r =>
        r.2.finishLine?.map fun c => (r.1, c) := by
  unfold directive? directiveBody?
  dsimp only
  split
  · rfl
  · split
    · cases (c.advance.span isNameChar).2.version? with
      | none => rfl
      | some r =>
          simp only [Option.bind_eq_bind, Option.bind_some]
          cases r.2.finishLine? <;> rfl
    · split
      · cases (c.advance.span isNameChar).2.handleDirective? with
        | none => rfl
        | some r =>
            simp only [Option.bind_eq_bind, Option.bind_some]
            cases r.2.finishLine? <;> rfl
      · simp only [Option.bind_eq_bind, Option.bind_some]
        cases ((c.advance.span isNameChar).2.skipWhile fun x => !isBreak x).finishLine? <;> rfl

theorem steady_directiveBody? (name : List Char) : Steady (directiveBody? name) (directiveBody? name) := by
  intro c a d hc h
  unfold directiveBody? at h ⊢
  split_ifs at h ⊢ with hversion hhandle
  · exact steady_version? hc h
  · exact steady_handleDirective? hc h
  · obtain ⟨rfl, rfl⟩ := Prod.mk.inj (Option.some.inj h)
    rw [hc.more_skipWhile rfl]
    exact ⟨leads_span c _, hc.skipWhile rfl, rfl⟩

/-- A directive goes to the end of its line. -/
theorem directive?_more {r : Directive} (hc : c.Inside) (hmark : c.isAt '%' = true) (h : c.directive? = some (r, d)) :
    c.Leads d ∧ (d.Inside ∨ d.rest = []) ∧ c.more.directive? = some (r, d.more) := by
  have hadvance := hc.advance_of_isAt hmark (by decide)
  have hname := hadvance.span (p := isNameChar) rfl
  rw [directive?_eq] at h ⊢
  rw [hc.more_advance, hadvance.more_span rfl]
  dsimp only
  rw [hname.more_head]
  split at h
  · cases h
  · next hnamed =>
      obtain ⟨⟨body, f⟩, hbody, h⟩ := Option.bind_eq_some_iff.mp h
      obtain ⟨e, hline, hr⟩ := Option.map_eq_some_iff.mp h
      obtain ⟨rfl, rfl⟩ := Prod.mk.inj hr
      obtain ⟨hleads, hinside, hmore⟩ := steady_directiveBody? _ hname hbody
      obtain ⟨-, rfl, hmore'⟩ := hinside.of_finishLine? hline
      have hfar := (((leads_advance c).trans (leads_span _ isNameChar)).trans hleads).trans (leads_skipComment f)
      refine ⟨hfar.trans (leads_advance _), hinside.skipComment.advance_cases, ?_⟩
      rw [if_neg hnamed, hmore, Option.bind_some, hmore']
      rfl

/-! ## Quoted scalars -/

section

variable {fuel : Nat} {cs : List Char}

/-- Line breaks in quotes are the same ones when text follows them. -/
theorem quotedBreaks?_more (h : quotedBreaks? fuel c = some (cs, d)) :
    c.Leads d ∧ (c.Inside → d.Inside → quotedBreaks? (fuel + 1) c.more = some (cs, d.more)) := by
  induction fuel generalizing c cs with
  | zero => cases h
  | succ fuel ih =>
      unfold quotedBreaks? at h
      split at h
      · cases h
      · next hmarker =>
          dsimp only at h
          split at h
          · next hnone =>
              obtain ⟨rfl, rfl⟩ := Prod.mk.inj (Option.some.inj h)
              refine ⟨leads_span c _, fun hc hd => ?_⟩
              unfold quotedBreaks?
              rw [hc.more_isAnyMarker, if_neg hmarker, hc.more_skipWhile rfl]
              dsimp only
              rw [hd.more_lineBreak?, hnone]
              rfl
          · next b e hbreak =>
              obtain ⟨⟨breaks, f⟩, hrest, hr⟩ := Option.map_eq_some_iff.mp h
              obtain ⟨rfl, rfl⟩ := Prod.mk.inj hr
              obtain ⟨hleads, hmore⟩ := ih hrest
              have hfront := (leads_span c isBlank).trans (leads_lineBreak? hbreak)
              refine ⟨hfront.trans hleads, fun hc hd => ?_⟩
              have hblanks := hc.skipWhile (p := isBlank) rfl
              unfold quotedBreaks?
              rw [hc.more_isAnyMarker, if_neg hmarker, hc.more_skipWhile rfl]
              dsimp only
              rw [hblanks.more_lineBreak?, hbreak]
              dsimp only [Option.map_some]
              rw [hmore (hc.between hfront hleads hd) hd]
              rfl

theorem quotedBlanks?_more (h : quotedBlanks? fuel c = some (cs, d)) :
    c.Leads d ∧ (c.Inside → d.Inside → quotedBlanks? (fuel + 1) c.more = some (cs, d.more)) := by
  unfold quotedBlanks? at h
  dsimp only at h
  split at h
  · cases h
  · next x hhead =>
      split at h
      · next hnone =>
          obtain ⟨rfl, rfl⟩ := Prod.mk.inj (Option.some.inj h)
          refine ⟨leads_span c _, fun hc hd => ?_⟩
          unfold quotedBlanks?
          rw [hc.more_span rfl]
          dsimp only
          rw [hd.more_head, hhead, hd.more_lineBreak?, hnone]
          rfl
      · next b e hbreak =>
          obtain ⟨⟨breaks, f⟩, hrest, hr⟩ := Option.map_eq_some_iff.mp h
          obtain ⟨rfl, rfl⟩ := Prod.mk.inj hr
          obtain ⟨hleads, hmore⟩ := quotedBreaks?_more hrest
          have hfront := (leads_span c isBlank).trans (leads_lineBreak? hbreak)
          refine ⟨hfront.trans hleads, fun hc hd => ?_⟩
          have hblanks := hc.span (p := isBlank) rfl
          unfold quotedBlanks?
          rw [hc.more_span rfl]
          dsimp only
          rw [hblanks.more_head, hhead, hblanks.more_lineBreak?, hbreak]
          dsimp only [Option.map_some]
          rw [hmore (hc.between hfront hleads hd) hd]
          rfl

theorem quotedEscape?_more (h : quotedEscape? fuel c = some (cs, d)) :
    c.Leads d ∧ (c.Inside → d.Inside → quotedEscape? (fuel + 1) c.more = some (cs, d.more)) := by
  unfold quotedEscape? at h
  split at h
  · cases h
  · next x hhead =>
      split at h
      · next y hescaped =>
          obtain ⟨rfl, rfl⟩ := Prod.mk.inj (Option.some.inj h)
          refine ⟨leads_advance c, fun hc _ => ?_⟩
          unfold quotedEscape?
          rw [hc.more_head, hhead]
          dsimp only
          rw [hescaped, hc.more_advance]
      · next width hescaped hwidth =>
          dsimp only at h
          split at h
          · next hdigits =>
              obtain ⟨rfl, rfl⟩ := Prod.mk.inj (Option.some.inj h)
              have hleads := (leads_advance c).trans (leads_skip c.advance width)
              refine ⟨hleads, fun hc hd => ?_⟩
              have hadvance := hc.between (leads_advance c) (leads_skip c.advance width) hd
              have htake : c.advance.more.rest.take width = c.advance.rest.take width := by
                refine List.take_append_of_le_length ?_
                have hlength := hdigits.1
                rw [List.length_take] at hlength
                omega
              unfold quotedEscape?
              rw [hc.more_head, hhead]
              dsimp only
              rw [hescaped, hwidth, hc.more_advance]
              dsimp only
              rw [htake, if_pos hdigits, hadvance.more_skip_inside hd]
          · cases h
      · next hescaped hwidth =>
          split at h
          · cases h
          · next b e hbreak =>
              obtain ⟨hleads, hmore⟩ := quotedBreaks?_more h
              have hfront := leads_lineBreak? hbreak
              refine ⟨hfront.trans hleads, fun hc hd => ?_⟩
              unfold quotedEscape?
              rw [hc.more_head, hhead]
              dsimp only
              rw [hescaped, hwidth]
              dsimp only
              rw [hc.more_lineBreak?, hbreak]
              exact hmore (hc.between hfront hleads hd) hd

theorem rest_ne_nil_of_quotedText? {quote : Char} {r : List Char × Cursor} (h : quotedText? quote fuel c = some r) :
    c.rest ≠ [] := by
  intro hnil
  have hhead : c.head = none := by rw [head, hnil, List.head?_nil]
  cases fuel with
  | zero => cases h
  | succ fuel =>
      unfold quotedText? at h
      rw [hhead] at h
      cases h

/-- **A quoted scalar is read inside the text**, since it ends with a quote. -/
theorem steady_quotedText? {quote : Char} (hquote : quote ≠ '\n') (fuel : Nat) :
    Steady (quotedText? quote fuel) (quotedText? quote (fuel + 1)) := by
  induction fuel with
  | zero =>
      intro c a d _ h
      cases h
  | succ fuel ih =>
      -- what is read behind a part of the scalar
      have hrest : ∀ {c e d : Cursor} {back : List Char}, c.Inside → c.Leads e →
          quotedText? quote fuel e = some (back, d) →
          c.Leads d ∧ d.Inside ∧ e.Inside ∧ quotedText? quote (fuel + 1) e.more = some (back, d.more) := by
        intro c e d back hc hleads h
        have he := hc.of_leads hleads (rest_ne_nil_of_quotedText? h)
        obtain ⟨hfar, hinside, hmore⟩ := ih he h
        exact ⟨hleads.trans hfar, hinside, he, hmore⟩
      intro c a d hc h
      obtain ⟨x, r, hcons, hx⟩ := hc.exists_cons
      have hhead : c.head = some x := by rw [head, hcons, List.head?_cons]
      unfold quotedText? at h ⊢
      rw [hc.more_head, hhead]
      rw [hhead] at h
      dsimp only at h ⊢
      split at h
      · next hend =>
          rw [if_pos hend]
          split at h
          · next hdouble =>
              obtain ⟨⟨back, e⟩, hback, hr⟩ := Option.map_eq_some_iff.mp h
              obtain ⟨rfl, rfl⟩ := Prod.mk.inj hr
              obtain ⟨hleads, hinside, hskip, hmore⟩ := hrest hc (leads_skip c 2) hback
              refine ⟨hleads, hinside, ?_⟩
              rw [if_pos ⟨hdouble.1, more_peek hdouble.2⟩, hc.more_skip_inside hskip, hmore]
              rfl
          · next hsingle =>
              obtain ⟨rfl, rfl⟩ := Prod.mk.inj (Option.some.inj h)
              refine ⟨leads_advance c, hc.advance_of_head hhead (hend ▸ hquote), ?_⟩
              rw [if_neg fun hmore => hsingle ⟨hmore.1, (more_peek_iff (by decide)).mp hmore.2⟩, hc.more_advance]
      · next hgoes =>
          rw [if_neg hgoes]
          split at h
          · next hescape =>
              have hadvance := hc.advance_of_head hhead (by rw [hescape.1]; decide)
              obtain ⟨⟨front, e⟩, hfront, h⟩ := Option.bind_eq_some_iff.mp h
              obtain ⟨⟨back, f⟩, hback, hr⟩ := Option.map_eq_some_iff.mp h
              obtain ⟨rfl, rfl⟩ := Prod.mk.inj hr
              obtain ⟨hnear, hmoreFront⟩ := quotedEscape?_more hfront
              obtain ⟨hleads, hinside, he, hmore⟩ := hrest hadvance hnear hback
              refine ⟨(leads_advance c).trans hleads, hinside, ?_⟩
              rw [if_pos hescape, hc.more_advance, hmoreFront hadvance he, Option.bind_some, hmore]
              rfl
          · next hescape =>
              rw [if_neg hescape]
              split at h
              · next hblank =>
                  obtain ⟨⟨front, e⟩, hfront, h⟩ := Option.bind_eq_some_iff.mp h
                  obtain ⟨⟨back, f⟩, hback, hr⟩ := Option.map_eq_some_iff.mp h
                  obtain ⟨rfl, rfl⟩ := Prod.mk.inj hr
                  obtain ⟨hnear, hmoreFront⟩ := quotedBlanks?_more hfront
                  obtain ⟨hleads, hinside, he, hmore⟩ := hrest hc hnear hback
                  refine ⟨hleads, hinside, ?_⟩
                  rw [if_pos hblank, hmoreFront hc he, Option.bind_some, hmore]
                  rfl
              · next hblank =>
                  obtain ⟨⟨back, e⟩, hback, hr⟩ := Option.map_eq_some_iff.mp h
                  obtain ⟨rfl, rfl⟩ := Prod.mk.inj hr
                  obtain ⟨hleads, hinside, hadvance, hmore⟩ := hrest hc (leads_advance c) hback
                  refine ⟨hleads, hinside, ?_⟩
                  rw [if_neg hblank, hc.more_advance, hmore]
                  rfl

theorem quotedScalar?_more {quote : Char} (hc : c.Inside) (hhead : c.head = some quote) (hquote : quote ≠ '\n')
    (h : c.quotedScalar? = some (cs, d)) :
    c.Leads d ∧ d.Inside ∧ c.more.quotedScalar? = some (cs, d.more) := by
  unfold quotedScalar? at h ⊢
  rw [hhead] at h
  rw [hc.more_head, hhead, length_rest_more, hc.more_advance]
  obtain ⟨hleads, hinside, hmore⟩ := steady_quotedText? hquote _ (hc.advance_of_head hhead hquote) h
  exact ⟨(leads_advance c).trans hleads, hinside, hmore⟩

end

end ApiReconciler.Yaml.Cursor
