import ApiReconciler.Proofs.Lists
import ApiReconciler.Url

/-!
# `ApiReconciler.Proofs.Url` — URLs as they are written

Splitting a URL looks for a colon, for two slashes and for the first character that ends the authority. This
module says what it finds in terms of how the text is put together, so that nothing that is said about URLs
elsewhere depends on the search. A text has at most one authority (`HasAuthority.eq`), and splitting fails
exactly for a text with an authority that is malformed (`exists_split_iff`).

What is split is not the text itself but its clean copy, and that is where the two can differ: a text is its
own clean copy just if it does not begin with a blank or a control character and has no tabulator and no line
break (`clean_eq_self_iff`).

## Contents
- `IsPlain`, `clean_eq_self_iff`: texts that are their own clean copies.
- `IsScheme`, `Delimited`, `HasAuthority`: how a URL with an authority is written.
- `IsAddress`, `Malformed`: authorities that make splitting fail.
- `exists_split_iff`, `split_eq_ok_iff`: what splitting gives.
-/

namespace ApiReconciler.Url

/-! ## Clean copies -/

/-- A text without tabulators and line breaks. -/
def IsPlain (text : List Char) : Prop := ∀ c ∈ text, c ≠ '\t' ∧ c ≠ '\r' ∧ c ≠ '\n'

/-- A text that begins neither with a blank nor with a control character. -/
def BeginsVisibly (text : List Char) : Prop := ∀ c ∈ text.head?, 0x20 < c.toNat

theorem isPlain_clean (text : List Char) : IsPlain (clean text) := by
  intro c hc
  have hkept := (List.mem_filter.mp hc).2
  simpa [and_assoc] using hkept

/-- **A text is its own clean copy** if there is nothing to take away in front and nothing inside. -/
theorem clean_eq_self_iff {text : List Char} : clean text = text ↔ BeginsVisibly text ∧ IsPlain text := by
  constructor
  · intro h
    refine ⟨?_, h ▸ isPlain_clean text⟩
    intro c hc
    have hshort : text.length ≤ (text.dropWhile fun c => c.toNat ≤ 0x20).length := by
      have hfilter := List.length_filter_le (fun c => c ≠ '\t' && c ≠ '\r' && c ≠ '\n')
        (text.dropWhile fun c => c.toNat ≤ 0x20)
      have hlength := congrArg List.length h
      unfold clean at hlength
      omega
    cases text with
    | nil => cases hc
    | cons d text =>
        obtain rfl : d = c := by simpa using hc
        by_contra hblank
        have hdrop : ((d :: text).dropWhile fun c => c.toNat ≤ 0x20) =
            text.dropWhile fun c => c.toNat ≤ 0x20 := by
          rw [List.dropWhile_cons_of_pos (by simpa using hblank)]
        have hsuffix : (text.dropWhile fun c => c.toNat ≤ 0x20) <:+ text := List.dropWhile_suffix _
        have hle := hsuffix.length_le
        rw [hdrop, List.length_cons] at hshort
        omega
  · rintro ⟨hvisible, hplain⟩
    have hdrop : (text.dropWhile fun c => c.toNat ≤ 0x20) = text := by
      cases text with
      | nil => rfl
      | cons c text =>
          have hc : 0x20 < c.toNat := hvisible c rfl
          rw [List.dropWhile_cons_of_neg (by simpa using hc)]
    have hfilter : text.filter (fun c => c ≠ '\t' && c ≠ '\r' && c ≠ '\n') = text := by
      refine List.filter_eq_self.mpr fun c hc => ?_
      simpa [and_assoc] using hplain c hc
    rw [clean, hdrop, hfilter]

/-! ## How a URL is written -/

/-- A scheme begins with a letter, and consists of letters, digits and the marks that a scheme may have. -/
structure IsScheme (scheme : List Char) : Prop where
  letter : scheme.head?.any Char.isAlpha = true
  chars : scheme.all isSchemeChar = true

/-- An authority, and behind it nothing or a character that ends it. -/
structure Delimited (authority rest : List Char) : Prop where
  inside : ∀ c ∈ authority, endsAuthority c = false
  behind : ∀ c ∈ rest.head?, endsAuthority c = true

/-- A text has an authority behind two slashes, which stand at its front or behind a scheme and a colon. -/
inductive HasAuthority (authority : List Char) : List Char → Prop
  | bare {rest : List Char} (h : Delimited authority rest) :
    HasAuthority authority ('/' :: '/' :: (authority ++ rest))
  | schemed {scheme rest : List Char} (hscheme : IsScheme scheme) (h : Delimited authority rest) :
    HasAuthority authority (scheme ++ ':' :: '/' :: '/' :: (authority ++ rest))

section

variable {scheme authority rest text : List Char}

/-- What is delimited is found by a search for its end. -/
theorem Delimited.takeWhile (h : Delimited authority rest) :
    (authority ++ rest).takeWhile (fun c => !endsAuthority c) = authority := by
  refine takeWhile_append_stop (fun c hc => ?_) fun c hc => ?_
  · rw [h.inside c hc, Bool.not_false]
  · rw [h.behind c hc, Bool.not_true]

/-- A search for the end of an authority delimits what it passes. -/
theorem delimited_takeWhile (cs : List Char) :
    Delimited (cs.takeWhile fun c => !endsAuthority c) (cs.dropWhile fun c => !endsAuthority c) := by
  constructor
  · intro c hc
    simpa using List.mem_takeWhile_imp hc
  · intro c hc
    simpa using stop_of_mem_head? hc

theorem IsScheme.no_colon (h : IsScheme scheme) : ∀ c ∈ scheme, decide (c ≠ ':') = true := by
  intro c hc
  have hchar := List.all_eq_true.mp h.chars c hc
  refine decide_eq_true ?_
  rintro rfl
  exact absurd hchar (by decide)

/-- A scheme is found by a search for its colon. -/
theorem splitScheme_of_isScheme (h : IsScheme scheme) (rest : List Char) :
    splitScheme (scheme ++ ':' :: rest) = (scheme.map Char.toLower, rest) := by
  have hcolon : ∀ c ∈ (':' :: rest).head?, decide (c ≠ ':') = false := by simp
  unfold splitScheme
  simp only [takeWhile_append_stop h.no_colon hcolon, dropWhile_append_stop h.no_colon hcolon]
  rw [if_pos ⟨by simp, h.letter, h.chars⟩]
  rfl

/-- A text begins with a scheme and a colon, or it has no scheme. -/
theorem splitScheme_cases (text : List Char) :
    (∃ scheme rest, IsScheme scheme ∧ text = scheme ++ ':' :: rest ∧
        splitScheme text = (scheme.map Char.toLower, rest)) ∨
      splitScheme text = ([], text) := by
  have hsplit := List.takeWhile_append_dropWhile (p := fun c => decide (c ≠ ':')) (l := text)
  by_cases h : text.dropWhile (· ≠ ':') ≠ [] ∧ (text.takeWhile (· ≠ ':')).head?.any Char.isAlpha ∧
      (text.takeWhile (· ≠ ':')).all isSchemeChar
  · obtain ⟨hrest, hletter, hchars⟩ := h
    have hscheme : IsScheme (text.takeWhile (· ≠ ':')) := ⟨hletter, hchars⟩
    obtain ⟨c, rest, hc⟩ := List.exists_cons_of_ne_nil hrest
    have hstop : decide (c ≠ ':') = false := stop_of_mem_head? (l := text) (by rw [hc]; rfl)
    have hcolon : c = ':' := by simpa using hstop
    rw [hc, hcolon] at hsplit
    refine .inl ⟨_, rest, hscheme, hsplit.symm, ?_⟩
    conv_lhs => rw [← hsplit]
    exact splitScheme_of_isScheme hscheme rest
  · right
    unfold splitScheme
    exact if_neg h

/-- Two slashes at the front leave no room for a scheme. -/
theorem splitScheme_slash (rest : List Char) : splitScheme ('/' :: rest) = ([], '/' :: rest) := by
  rcases splitScheme_cases ('/' :: rest) with ⟨scheme, rest', hscheme, htext, -⟩ | h
  · cases scheme with
    | nil => exact absurd hscheme.letter (by simp)
    | cons c scheme =>
        obtain ⟨rfl, -⟩ := List.cons_eq_cons.mp htext
        have hslash : ¬Option.any Char.isAlpha (some '/') = true := by decide
        exact absurd hscheme.letter hslash
  · exact h

/-- **A text has at most one authority**, and that is what is found. -/
theorem HasAuthority.eq (h : HasAuthority authority text) :
    authorityOf (splitScheme text).2 = authority := by
  cases h with
  | bare h =>
      rw [splitScheme_slash]
      exact h.takeWhile
  | schemed hscheme h =>
      rw [splitScheme_of_isScheme hscheme]
      exact h.takeWhile

/-- What is found as an authority is one, unless it is empty. -/
theorem authorityOf_cases (cs : List Char) :
    (∃ authority rest, cs = '/' :: '/' :: (authority ++ rest) ∧ Delimited authority rest ∧
      authorityOf cs = authority) ∨ authorityOf cs = [] := by
  unfold authorityOf
  split
  · next cs =>
      have hsplit := List.takeWhile_append_dropWhile (p := fun c => !endsAuthority c) (l := cs)
      exact .inl ⟨_, _, by rw [hsplit], delimited_takeWhile cs, rfl⟩
  · exact .inr rfl

theorem hasAuthority_of_ne_nil (h : authorityOf (splitScheme text).2 ≠ []) :
    HasAuthority (authorityOf (splitScheme text).2) text := by
  rcases authorityOf_cases (splitScheme text).2 with ⟨authority, rest, hrest, hdelimited, hfound⟩ | hnone
  · rw [hfound]
    rcases splitScheme_cases text with ⟨scheme, rest', hscheme, htext, hparts⟩ | hparts
    · rw [hparts] at hrest
      rw [htext, show rest' = _ from hrest]
      exact .schemed hscheme hdelimited
    · rw [hparts] at hrest
      rw [show text = _ from hrest]
      exact .bare hdelimited
  · exact absurd hnone h

end

/-! ## Malformed authorities -/

/-- What may stand in brackets: an address of a future version, or one of version 6. -/
def IsAddress (host : List Char) : Prop :=
  if host.head? = some 'v' then isFutureAddress host = true
  else isVersion4 host = false ∧ isVersion6 host = true

/-- An authority that is no good: it has one kind of bracket without the other, or no address behind its first
bracket, or a character that stands for a delimiter. -/
inductive Malformed (authority : List Char) : Prop
  | unclosed (opening : '[' ∈ authority) (closing : ']' ∉ authority)
  | unopened (opening : '[' ∉ authority) (closing : ']' ∈ authority)
  | noAddress {front host rest : List Char} (split : authority = front ++ '[' :: (host ++ rest))
    (first : '[' ∉ front) (inside : ']' ∉ host) (behind : ∀ c ∈ rest.head?, c = ']')
    (closing : ']' ∈ authority) (bad : ¬IsAddress host)
  | disguised {c : Char} (inside : c ∈ authority) (bad : c.toNat ∈ disguised)

section

variable {authority : List Char}

/-- The text behind the first bracket, up to the next closing one. -/
theorem bracketed_eq {front host rest : List Char} (first : '[' ∉ front) (inside : ']' ∉ host)
    (behind : ∀ c ∈ rest.head?, c = ']') : bracketed (front ++ '[' :: (host ++ rest)) = host := by
  have hfront : ∀ c ∈ front, decide (c ≠ '[') = true := fun c hc => decide_eq_true fun he => first (he ▸ hc)
  have hhost : ∀ c ∈ host, decide (c ≠ ']') = true := fun c hc => decide_eq_true fun he => inside (he ▸ hc)
  have hbracket : (front ++ '[' :: (host ++ rest)).dropWhile (· ≠ '[') = '[' :: (host ++ rest) :=
    dropWhile_append_stop hfront (by simp)
  rw [bracketed, hbracket, List.drop_one, List.tail_cons]
  refine takeWhile_append_stop hhost fun c hc => ?_
  simp [behind c hc]

/-- An authority with a bracket comes apart at the first one. -/
theorem exists_bracketed (h : '[' ∈ authority) :
    ∃ front rest, authority = front ++ '[' :: (bracketed authority ++ rest) ∧ '[' ∉ front ∧
      ']' ∉ bracketed authority ∧ ∀ c ∈ rest.head?, c = ']' := by
  obtain ⟨front, behind, hsplit, hfirst⟩ := List.eq_append_cons_of_mem h
  have hhost := List.takeWhile_append_dropWhile (p := fun c => decide (c ≠ ']')) (l := behind)
  have hinside : ']' ∉ behind.takeWhile (· ≠ ']') := by
    intro hmem
    have hne := List.mem_takeWhile_imp hmem
    simp at hne
  have hbehind : ∀ c ∈ (behind.dropWhile (· ≠ ']')).head?, c = ']' := by
    intro c hc
    simpa using stop_of_mem_head? hc
  have hbracketed : bracketed authority = behind.takeWhile (· ≠ ']') := by
    have hfound := bracketed_eq hfirst hinside hbehind
    rw [hhost] at hfound
    rw [hsplit, hfound]
  refine ⟨front, behind.dropWhile (· ≠ ']'), ?_, hfirst, ?_, hbehind⟩
  · rw [hbracketed, hhost]
    exact hsplit
  · rw [hbracketed]
    exact hinside

/-- Brackets are in order if there are none, or both, with an address between them. -/
theorem bracketFault_eq_none_iff :
    bracketFault authority = none ↔
      ('[' ∈ authority ↔ ']' ∈ authority) ∧ ('[' ∈ authority → IsAddress (bracketed authority)) := by
  by_cases hopening : '[' ∈ authority <;> by_cases hclosing : ']' ∈ authority
  · by_cases hfuture : (bracketed authority).head? = some 'v'
    · simp [bracketFault, IsAddress, hopening, hclosing, hfuture]
    · cases h4 : isVersion4 (bracketed authority) <;>
        simp [bracketFault, IsAddress, hopening, hclosing, hfuture, h4]
  · simp [bracketFault, hopening, hclosing]
  · simp [bracketFault, hopening, hclosing]
  · simp [bracketFault, hopening, hclosing]

/-- **The checks of an authority fail exactly if it is malformed.** -/
theorem malformed_iff :
    Malformed authority ↔ bracketFault authority ≠ none ∨ hasDisguisedDelimiter authority = true := by
  have hdisguised : hasDisguisedDelimiter authority = true ↔ ∃ c ∈ authority, c.toNat ∈ disguised := by
    simp [hasDisguisedDelimiter]
  rw [hdisguised, ne_eq, bracketFault_eq_none_iff]
  constructor
  · intro h
    cases h with
    | unclosed opening closing => exact .inl fun h => closing (h.1.mp opening)
    | unopened opening closing => exact .inl fun h => opening (h.1.mpr closing)
    | noAddress split first inside behind closing bad =>
        left
        rintro ⟨-, haddress⟩
        rw [split, bracketed_eq first inside behind] at haddress
        exact bad (haddress (by simp))
    | disguised inside bad => exact .inr ⟨_, inside, bad⟩
  · rintro (hbrackets | ⟨c, hc, hbad⟩)
    · by_cases hopening : '[' ∈ authority <;> by_cases hclosing : ']' ∈ authority
      · obtain ⟨front, rest, hsplit, hfirst, hinside, hbehind⟩ := exists_bracketed hopening
        refine .noAddress hsplit hfirst hinside hbehind hclosing fun haddress => hbrackets ?_
        exact ⟨iff_of_true hopening hclosing, fun _ => haddress⟩
      · exact .unclosed hopening hclosing
      · exact .unopened hopening hclosing
      · exact absurd ⟨iff_of_false hopening hclosing, fun h => absurd h hopening⟩ hbrackets
    · exact .disguised hc hbad

theorem not_malformed_nil : ¬Malformed [] := by
  rw [malformed_iff]
  decide

end

/-! ## Splitting -/

section

variable {url : String}

theorem split_eq_ok_iff {parts : Split} :
    split url = .ok parts ↔ ¬Malformed (authorityOf (splitScheme (clean url.toList)).2) ∧
      parts = ⟨String.ofList (splitScheme (clean url.toList)).1,
        String.ofList (authorityOf (splitScheme (clean url.toList)).2)⟩ := by
  rw [malformed_iff]
  unfold split
  cases hbrackets : bracketFault (authorityOf (splitScheme (clean url.toList)).2) with
  | some e => simp [hbrackets]
  | none =>
      cases hdisguised : hasDisguisedDelimiter (authorityOf (splitScheme (clean url.toList)).2) with
      | true => simp [hbrackets, hdisguised]
      | false => simp [hbrackets, hdisguised, eq_comm]

/-- **A URL can be split exactly if it has no malformed authority.** -/
theorem exists_split_iff :
    (∃ parts, split url = .ok parts) ↔
      ∀ authority, HasAuthority authority (clean url.toList) → ¬Malformed authority := by
  have hfound : (∃ parts, split url = .ok parts) ↔
      ¬Malformed (authorityOf (splitScheme (clean url.toList)).2) := by
    simp only [split_eq_ok_iff, exists_and_left, exists_eq, and_true]
  rw [hfound]
  constructor
  · intro h authority hauthority
    rw [hauthority.eq] at h
    exact h
  · intro h
    by_cases hnil : authorityOf (splitScheme (clean url.toList)).2 = []
    · rw [hnil]
      exact not_malformed_nil
    · exact h _ (hasAuthority_of_ne_nil hnil)

end

end ApiReconciler.Url
