import ApiReconciler.Definition.Rules
import ApiReconciler.Gateway.Script
import ApiReconciler.Proofs.Binding.Integrations
import ApiReconciler.Proofs.Reconcile.Stages
import ApiReconciler.Proofs.Url

/-!
# `ApiReconciler.Proofs.Definition.Endpoint` — production URLs that are accepted, and what becomes of them

A production URL is accepted for its clean copy, and integrations are built on the URL as it was given. A URL
that is its own clean copy can be used as it stands, and so can all that binding builds on it: the slash that
is taken away at its end is none of those in front of the authority, and with a path behind what is left the
authority ends where it did (`Url.IsHttpOn.extend`). Any other URL that is accepted cannot be used, and neither
can anything that is built on it, since what was cleaned away is still there.

## Contents
- `Url.IsHttpOn`, `Url.Usable`: absolute HTTP URLs; `Url.usable_iff`: the usable ones among accepted URLs.
- `endpointFault_eq_none_iff`: which URLs are accepted.
- `dropTrailingSlash_cases`, `Url.usable_extend_iff`: what binding builds on a URL.
- `accepted_endpoint_usable_iff`: all of it together; `brokenLine_accepted`: a URL that is accepted and cannot be
  used.
-/

namespace ApiReconciler

namespace Url

/-! ## Absolute URLs -/

/-- The scheme of HTTP or that of HTTPS, in any case. -/
def IsHttp (scheme : List Char) : Prop :=
  scheme.map Char.toLower = "http".toList ∨ scheme.map Char.toLower = "https".toList

/-- A text begins with the scheme of HTTP or HTTPS and two slashes, and goes on with an authority. -/
structure IsHttpOn (authority text : List Char) : Prop where
  named : authority ≠ []
  written : ∃ scheme rest, IsHttp scheme ∧ Delimited authority rest ∧
    text = scheme ++ ':' :: '/' :: '/' :: (authority ++ rest)

/-- A text is an absolute HTTP URL as it stands, on a single line. -/
structure Usable (authority : List Char) (url : String) : Prop where
  absolute : IsHttpOn authority url.toList
  plain : IsPlain url.toList

variable {authority other scheme text path : List Char} {url : String}

theorem IsHttp.isAlpha (h : IsHttp scheme) : ∀ c ∈ scheme, c.isAlpha = true := by
  intro c hc
  have hletters : (scheme.map Char.toLower).all Char.isAlpha = true := by
    rcases h with h | h
    · rw [h]
      decide
    · rw [h]
      decide
  rw [← Char.isAlpha_toLower_eq_isAlpha]
  exact List.all_eq_true.mp hletters _ (List.mem_map_of_mem hc)

theorem IsHttp.ne_nil (h : IsHttp scheme) : scheme ≠ [] := by
  rintro rfl
  rcases h with h | h <;> cases h

theorem IsHttp.isScheme (h : IsHttp scheme) : IsScheme scheme where
  letter := by
    obtain ⟨c, rest, rfl⟩ := List.exists_cons_of_ne_nil h.ne_nil
    exact h.isAlpha c List.mem_cons_self
  chars := by
    refine List.all_eq_true.mpr fun c hc => ?_
    simp [isSchemeChar, h.isAlpha c hc]

theorem IsHttpOn.hasAuthority (h : IsHttpOn authority text) : HasAuthority authority text := by
  obtain ⟨scheme, rest, hscheme, hdelimited, rfl⟩ := h.written
  exact .schemed hscheme.isScheme hdelimited

/-- **A text is an absolute HTTP URL exactly if splitting finds one of the two schemes and an authority.** -/
theorem isHttpOn_iff :
    IsHttpOn authority text ↔
      ((splitScheme text).1 = "http".toList ∨ (splitScheme text).1 = "https".toList) ∧
        authorityOf (splitScheme text).2 = authority ∧ authority ≠ [] := by
  constructor
  · intro h
    refine ⟨?_, h.hasAuthority.eq, h.named⟩
    obtain ⟨scheme, rest, hscheme, -, rfl⟩ := h.written
    rw [splitScheme_of_isScheme hscheme.isScheme]
    exact hscheme
  · rintro ⟨hscheme, hfound, hnamed⟩
    refine ⟨hnamed, ?_⟩
    rcases splitScheme_cases text with ⟨scheme, rest, -, htext, hparts⟩ | hparts
    · rw [hparts] at hscheme hfound
      rcases authorityOf_cases rest with ⟨_, behind, hrest, hdelimited, heq⟩ | hnone
      · obtain rfl := heq.symm.trans hfound
        exact ⟨scheme, behind, hscheme, hdelimited, by rw [htext, hrest]⟩
      · exact absurd (hfound.symm.trans hnone) hnamed
    · -- without a scheme there is none of the two
      rw [hparts] at hscheme
      rcases hscheme with hscheme | hscheme <;> cases hscheme

/-- A text is an absolute URL on one authority. -/
theorem IsHttpOn.unique (h : IsHttpOn authority text) (h' : IsHttpOn other text) : other = authority :=
  h'.hasAuthority.eq.symm.trans h.hasAuthority.eq

/-- Letters are visible. -/
theorem visible_of_isAlpha {c : Char} (h : c.isAlpha = true) : 0x20 < c.toNat := by
  simp only [Char.isAlpha, Char.isUpper, Char.isLower, Bool.or_eq_true, Bool.and_eq_true, decide_eq_true_eq,
    UInt32.le_iff_toNat_le, ge_iff_le] at h
  have hc : c.toNat = c.val.toNat := rfl
  have hupper : 'A'.val.toNat = 65 := rfl
  have hlower : 'a'.val.toNat = 97 := rfl
  omega

theorem IsHttpOn.beginsVisibly (h : IsHttpOn authority text) : BeginsVisibly text := by
  obtain ⟨scheme, rest, hscheme, -, rfl⟩ := h.written
  obtain ⟨c, scheme, rfl⟩ := List.exists_cons_of_ne_nil hscheme.ne_nil
  intro d hd
  obtain rfl : c = d := by simpa using hd
  exact visible_of_isAlpha (hscheme.isAlpha c List.mem_cons_self)

/-- **An accepted URL can be used exactly if it is its own clean copy.** -/
theorem usable_iff (h : IsHttpOn authority (clean url.toList)) :
    Usable other url ↔ other = authority ∧ BeginsVisibly url.toList ∧ IsPlain url.toList := by
  constructor
  · rintro ⟨habsolute, hplain⟩
    have hvisible := habsolute.beginsVisibly
    rw [clean_eq_self_iff.mpr ⟨hvisible, hplain⟩] at h
    exact ⟨h.unique habsolute, hvisible, hplain⟩
  · rintro ⟨rfl, hvisible, hplain⟩
    rw [clean_eq_self_iff.mpr ⟨hvisible, hplain⟩] at h
    exact ⟨h, hplain⟩

end Url

/-! ## Accepted URLs -/

section

variable {url : String} {path : List Char}

/-- The rule looks at the two parts of a URL. -/
theorem endpointFault_eq_none :
    endpointFault (some url) = .ok none ↔ ∃ parts, Url.split url = .ok parts ∧
      (parts.scheme = "http" ∨ parts.scheme = "https") ∧ parts.authority ≠ "" := by
  by_cases hempty : url = ""
  · subst hempty
    refine iff_of_false nofun ?_
    rintro ⟨parts, hparts, hscheme, -⟩
    obtain rfl := Except.ok.inj hparts
    exact absurd hscheme (by decide)
  · simp only [endpointFault, if_neg hempty]
    cases Url.split url with
    | error e => simp
    | ok parts => simp

/-- **A URL is accepted exactly if its clean copy is an absolute HTTP URL** on an authority that is not
malformed. -/
theorem endpointFault_eq_none_iff :
    endpointFault (some url) = .ok none ↔
      ∃ authority, Url.IsHttpOn authority (Url.clean url.toList) ∧ ¬Url.Malformed authority := by
  rw [endpointFault_eq_none]
  simp only [Url.split_eq_ok_iff, Url.isHttpOn_iff]
  constructor
  · rintro ⟨_, ⟨hgood, rfl⟩, hscheme, hnamed⟩
    simp only [String.ofList_eq, ne_eq] at hscheme hnamed
    exact ⟨_, ⟨hscheme, rfl, hnamed⟩, hgood⟩
  · rintro ⟨authority, ⟨hscheme, rfl, hnamed⟩, hgood⟩
    refine ⟨_, ⟨hgood, rfl⟩, ?_⟩
    simp only [String.ofList_eq, ne_eq]
    exact ⟨hscheme, hnamed⟩

/-! ## What is built on a URL -/

/-- A slash at the end is taken away, or there is none. -/
theorem dropTrailingSlash_cases (url : String) :
    url.toList = (dropTrailingSlash url).toList ++ ['/'] ∨ dropTrailingSlash url = url := by
  unfold dropTrailingSlash
  split
  · next hlast =>
      left
      rw [String.toList_ofList, List.dropLast_append_getLast? _ hlast]
  · exact .inr rfl

/-- A path begins with a slash, if it is not empty. -/
def IsRooted (path : List Char) : Prop := ∀ c ∈ path.head?, c = '/'

namespace Url

variable {authority other rest front : List Char}

/-- Less behind an authority, and a path behind that, leave its end where it is. -/
theorem Delimited.extend (h : Delimited authority rest) (hfront : front <+: rest) (hpath : IsRooted path) :
    Delimited authority (front ++ path) where
  inside := h.inside
  behind := by
    intro c hc
    cases front with
    | nil =>
        rw [hpath c (by simpa using hc)]
        decide
    | cons d front =>
        obtain ⟨tail, rfl⟩ := hfront
        obtain rfl : d = c := by simpa using hc
        exact h.behind d rfl

/-- **With a path behind it, a URL stays one on its authority**, also without the slash at its end. -/
theorem IsHttpOn.extend (h : IsHttpOn authority url.toList) (hpath : IsRooted path) :
    IsHttpOn authority ((dropTrailingSlash url).toList ++ path) := by
  obtain ⟨scheme, rest, hscheme, hdelimited, htext⟩ := h.written
  refine ⟨h.named, ?_⟩
  rcases dropTrailingSlash_cases url with hslash | hsame
  · rw [htext] at hslash
    rcases List.eq_nil_or_concat rest with rfl | ⟨front, c, rfl⟩
    · -- the slash would be the last character of the authority
      obtain ⟨name, c, rfl⟩ := (List.eq_nil_or_concat authority).resolve_left h.named
      have hsplit : (scheme ++ ':' :: '/' :: '/' :: name) ++ [c] =
          (dropTrailingSlash url).toList ++ ['/'] := by simpa using hslash
      obtain ⟨-, hlast⟩ := List.append_inj' hsplit rfl
      obtain rfl : c = '/' := by simpa using hlast
      have hinside := hdelimited.inside '/' (by simp)
      exact absurd hinside (by decide)
    · have hsplit : (scheme ++ ':' :: '/' :: '/' :: (authority ++ front)) ++ [c] =
          (dropTrailingSlash url).toList ++ ['/'] := by simpa using hslash
      obtain ⟨hfront, -⟩ := List.append_inj' hsplit rfl
      refine ⟨scheme, front ++ path, hscheme, hdelimited.extend (by simp) hpath, ?_⟩
      rw [← hfront]
      simp
  · rw [hsame, htext]
    exact ⟨scheme, rest ++ path, hscheme, hdelimited.extend (List.prefix_refl _) hpath, by simp⟩

theorem isPlain_append {cs ds : List Char} : IsPlain (cs ++ ds) ↔ IsPlain cs ∧ IsPlain ds :=
  List.forall_mem_append

theorem isPlain_dropTrailingSlash : IsPlain (dropTrailingSlash url).toList ↔ IsPlain url.toList := by
  rcases dropTrailingSlash_cases url with hslash | hsame
  · have hplain : IsPlain ['/'] := by
      intro c hc
      obtain rfl := List.mem_singleton.mp hc
      decide
    rw [hslash, isPlain_append]
    exact (and_iff_left hplain).symm
  · rw [hsame]

/-- What begins visibly also does so with something else behind it. -/
theorem BeginsVisibly.append (h : BeginsVisibly (front ++ path)) (hrest : BeginsVisibly rest) :
    BeginsVisibly (front ++ rest) := by
  cases front with
  | nil => exact hrest
  | cons c front =>
      intro d hd
      obtain rfl : c = d := by simpa using hd
      exact h c rfl

theorem BeginsVisibly.of_extend (h : BeginsVisibly ((dropTrailingSlash url).toList ++ path)) :
    BeginsVisibly url.toList := by
  rcases dropTrailingSlash_cases url with hslash | hsame
  · have hvisible : BeginsVisibly ['/'] := by
      intro c hc
      obtain rfl : '/' = c := by simpa using hc
      decide
    rw [hslash]
    exact h.append hvisible
  · have hnothing : BeginsVisibly [] := nofun
    rw [hsame] at h
    rw [← List.append_nil url.toList]
    exact h.append hnothing

/-- **What is built on an accepted URL can be used exactly if the URL can be used** and the path adds no line. -/
theorem usable_extend_iff (h : IsHttpOn authority (clean url.toList)) {path : String} (hpath : IsRooted path.toList) :
    Usable other (dropTrailingSlash url ++ path) ↔
      other = authority ∧ BeginsVisibly url.toList ∧ IsPlain url.toList ∧ IsPlain path.toList := by
  have htext : (dropTrailingSlash url ++ path).toList = (dropTrailingSlash url).toList ++ path.toList :=
    String.toList_append
  constructor
  · rintro ⟨habsolute, hplain⟩
    rw [htext] at habsolute hplain
    obtain ⟨hurl, hrest⟩ := isPlain_append.mp hplain
    rw [isPlain_dropTrailingSlash] at hurl
    have hvisible := habsolute.beginsVisibly.of_extend
    rw [clean_eq_self_iff.mpr ⟨hvisible, hurl⟩] at h
    exact ⟨(h.extend hpath).unique habsolute, hvisible, hurl, hrest⟩
  · rintro ⟨rfl, hvisible, hurl, hrest⟩
    rw [clean_eq_self_iff.mpr ⟨hvisible, hurl⟩] at h
    refine ⟨?_, ?_⟩
    · rw [htext]
      exact h.extend hpath
    · rw [htext]
      exact isPlain_append.mpr ⟨isPlain_dropTrailingSlash.mpr hurl, hrest⟩

end Url

end

/-! ## Endpoints of integrations -/

/-- **A URL that is accepted can be used exactly if there was nothing to clean away.** The clean copy is always
an absolute HTTP URL on some authority. The URL itself is one, on that authority and on a single line, exactly
if it begins neither with a blank nor with a control character and has no tabulator and no line break. A
definition with this URL has a base URL, and the same condition decides whether the URI of an integration that
binding writes there, for resources with paths on a single line, is an absolute HTTP URL on that authority. -/
theorem accepted_endpoint_usable_iff {σ : Type} (b : Backend σ) (s : σ) {url : String}
    (h : endpointFault (some url) = .ok none) :
    ∃ authority, Url.IsHttpOn authority (Url.clean url.toList) ∧
      (∀ other, Url.Usable other url ↔
        other = authority ∧ Url.BeginsVisibly url.toList ∧ Url.IsPlain url.toList) ∧
      ∀ d : Definition, d.productionEndpoint = some url → ∃ base, d.baseUrl = .ok base ∧
        ∀ api rs bindings, (∀ r ∈ rs, IsRooted r.path.toList) →
          ∀ x ∈ (bindAll api rs base bindings).exchanges b s, ∀ m i uri,
            x.request = .call (.putIntegration m i) → i.uri = some uri →
              ∃ r ∈ rs, uri = base ++ r.path ∧
                ∀ other, Url.Usable other uri ↔ other = authority ∧ Url.BeginsVisibly url.toList ∧
                  Url.IsPlain url.toList ∧ Url.IsPlain r.path.toList := by
  obtain ⟨authority, habsolute, -⟩ := endpointFault_eq_none_iff.mp h
  refine ⟨authority, habsolute, fun other => Url.usable_iff habsolute, fun d hurl => ?_⟩
  refine ⟨_, baseUrl_of_productionEndpoint hurl, fun api rs bindings hrooted x hx m i uri hrequest huri => ?_⟩
  have hplanned := (bindAll_asks_planned rs).exchanges x hx
  rcases hplanned.integrations m i hrequest with ⟨hr, -, -, hbacked⟩ | ⟨-, -, -, rfl⟩
  · have hmem := (List.mem_filter.mp hr).1
    obtain rfl := Option.some.inj (huri.symm.trans hbacked)
    exact ⟨_, hmem, rfl, fun other => Url.usable_extend_iff habsolute (hrooted _ hmem)⟩
  · -- preflights are answered by the gateway and have no URI
    cases huri

/-- A URL in capitals is accepted, and can be used. -/
theorem capitalEndpoint_usable :
    endpointFault (some "HTTPS://backend/") = .ok none ∧
      ∃ authority, Url.Usable authority "HTTPS://backend/" := by
  have haccepted : endpointFault (some "HTTPS://backend/") = .ok none := by decide +kernel
  obtain ⟨authority, -, husable, -⟩ := accepted_endpoint_usable_iff (Script.backend true) (fun _ => []) haccepted
  have hclean : Url.clean "HTTPS://backend/".toList = "HTTPS://backend/".toList := by decide +kernel
  obtain ⟨hvisible, hplain⟩ := Url.clean_eq_self_iff.mp hclean
  exact ⟨haccepted, authority, (husable authority).mpr ⟨rfl, hvisible, hplain⟩⟩

/-- A URL that was broken into two lines is accepted all the same, and cannot be used. -/
theorem brokenLine_accepted :
    endpointFault (some "https://backend.example.com/a\nb") = .ok none ∧
      ¬∃ authority, Url.Usable authority "https://backend.example.com/a\nb" := by
  refine ⟨by decide +kernel, ?_⟩
  rintro ⟨authority, -, hplain⟩
  exact (hplain '\n' (by decide)).2.2 rfl

end ApiReconciler
