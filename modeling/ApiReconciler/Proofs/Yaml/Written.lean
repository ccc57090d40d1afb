import ApiReconciler.Proofs.Json.Numbers
import ApiReconciler.Yaml.Writer

/-!
# `ApiReconciler.Proofs.Yaml.Written` — the text of a YAML document

Whatever a value holds, its document consists of line feeds and printable ASCII characters. A text with other
characters can only be put in double quotes, where each of them is escaped; numbers and dates have none; and
bytes are written in base 64. So the document is the same when its line ends are brought into one form.

The members of an object are written one below the other, so the lines of the last member end the document.

## Contents
- `Clear`: line feeds and printable ASCII characters only.
- `clear_plainFrom`, `clear_singleFrom`, `clear_doubleFrom`: scalars in each style.
- `clear_written`: **documents are clear**.
- `written_object_concat`: the last lines of the document of an object.
-/

namespace ApiReconciler.Yaml

open Digits
open Json (Printable)

/-! ## Clear texts -/

/-- Nothing but line feeds and printable ASCII characters. -/
def Clear (cs : List Char) : Prop := ∀ c ∈ cs, isSpecial c = false

instance : DecidablePred Clear := List.decidableBAll _

variable {cs ds : List Char} {c : Char}

theorem isSpecial_eq_false : isSpecial c = false ↔ c = '\n' ∨ (' ' ≤ c ∧ c ≤ '~') := by
  unfold isSpecial
  rw [Bool.and_eq_false_iff, Bool.not_eq_false', Bool.and_eq_true, decide_eq_false_iff_not, not_not,
    decide_eq_true_iff, decide_eq_true_iff]

theorem clear_nil : Clear [] := List.forall_mem_nil _

theorem Clear.append (hcs : Clear cs) (hds : Clear ds) : Clear (cs ++ ds) :=
  fun c hc => (List.mem_append.mp hc).elim (hcs c) (hds c)

theorem Clear.cons (hc : isSpecial c = false) (hcs : Clear cs) : Clear (c :: cs) :=
  List.forall_mem_cons.mpr ⟨hc, hcs⟩

theorem Clear.tail (h : Clear (c :: cs)) : Clear cs := fun d hd => h d (List.mem_cons_of_mem c hd)

theorem Clear.head (h : Clear (c :: cs)) : isSpecial c = false := h c List.mem_cons_self

theorem clear_of_printable (h : Printable cs) : Clear cs := fun c hc => isSpecial_eq_false.mpr (.inr (h c hc))

theorem clear_replicate (n : Nat) (hc : isSpecial c = false) : Clear (List.replicate n c) := by
  intro d hd
  rw [List.eq_of_mem_replicate hd]
  exact hc

theorem clear_newLine (indent : Nat) : Clear (newLine indent) := .cons rfl (clear_replicate indent rfl)

/-- There is no carriage return in a clear text. -/
theorem Clear.not_mem_return (h : Clear cs) : '\r' ∉ cs := fun hmem => absurd (h _ hmem) (by decide)

/-! ## Scalars in their styles -/

theorem clear_plainFrom (split : Bool) (indent column : Nat) (before : Option Char) (h : Clear cs) :
    Clear (plainFrom split indent column before cs) := by
  fun_induction plainFrom split indent column before cs with
  | case1 => exact clear_nil
  | case2 column before c rest _ ih => exact (clear_newLine indent).append (ih h.tail)
  | case3 column before c rest _ ih => exact .cons h.head (ih h.tail)

theorem clear_singleFrom (split : Bool) (indent column : Nat) (before : Option Char) (h : Clear cs) :
    Clear (singleFrom split indent column before cs) := by
  have hfirst : ∀ before : Option Char, Clear (if before = some '\n' then [] else ['\n']) := by
    intro before
    split
    · exact clear_nil
    · exact .cons rfl clear_nil
  fun_induction singleFrom split indent column before cs with
  | case1 => exact clear_nil
  | case2 column before rest _ _ ih => exact (hfirst before).append (.cons rfl (ih h.tail))
  | case3 column before rest _ _ ih => exact ((hfirst before).append (clear_newLine indent)).append (ih h.tail)
  | case4 column before rest _ ih => exact .cons rfl (.cons rfl (ih h.tail))
  | case5 column before c rest _ _ _ ih => exact (clear_newLine indent).append (ih h.tail)
  | case6 column before c rest _ _ _ ih => exact .cons h.head (ih h.tail)

/-- Hexadecimal digits are printable, in capitals too. -/
theorem clear_upperHex (width n : Nat) : Clear (upperHex width n) := by
  have hdigits : ∀ d < 16, isSpecial d.digitChar.toUpper = false := by decide
  intro c hc
  obtain ⟨x, hx, rfl⟩ := List.mem_map.mp hc
  rcases List.mem_append.mp hx with hzero | hdigit
  · rw [List.eq_of_mem_replicate hzero]
    rfl
  · obtain ⟨d, hd, rfl⟩ := mem_toDigits (by decide) hdigit
    exact hdigits d hd

theorem clear_escapeOf? {e : List Char} (h : escapeOf? c = some e) : Clear e := by
  unfold escapeOf? at h
  split at h
  · next letter hletter =>
      have hletters : ∀ p ∈ [('\x00', '0'), ('\x07', 'a'), ('\x08', 'b'), ('\t', 't'), ('\n', 'n'), ('\x0b', 'v'),
          ('\x0c', 'f'), ('\r', 'r'), ('\x1b', 'e'), ('"', '"'), ('\\', '\\'), ('\u0085', 'N'), ('\u00a0', '_'),
          ('\u2028', 'L'), ('\u2029', 'P')], isSpecial p.2 = false := by decide
      obtain ⟨front, back, hsplit, -⟩ := List.lookup_eq_some_iff.mp hletter
      have hmem : (c, letter) ∈ front ++ (c, letter) :: back := List.mem_append_right _ List.mem_cons_self
      obtain rfl := Option.some.inj h
      exact .cons rfl (.cons (hletters (c, letter) (hsplit ▸ hmem)) clear_nil)
  · split_ifs at h
    · obtain rfl := Option.some.inj h
      exact .cons rfl (.cons rfl (clear_upperHex 2 c.toNat))
    · obtain rfl := Option.some.inj h
      exact .cons rfl (.cons rfl (clear_upperHex 4 c.toNat))
    · obtain rfl := Option.some.inj h
      exact .cons rfl (.cons rfl (clear_upperHex 8 c.toNat))

/-- A character that needs no escape is printable. -/
theorem isSpecial_of_escapeOf?_eq_none (h : escapeOf? c = none) : isSpecial c = false := by
  unfold escapeOf? at h
  split at h
  · cases h
  · split_ifs at h with hprintable
    exact isSpecial_eq_false.mpr (.inr hprintable)

theorem clear_doubleBreak (indent : Nat) (spaceFollows : Bool) : Clear (doubleBreak indent spaceFollows) := by
  have hlast : Clear (if spaceFollows then ['\\'] else []) := by
    split
    · exact .cons rfl clear_nil
    · exact clear_nil
  exact .cons rfl ((clear_newLine indent).append hlast)

/-- In double quotes, every text is clear. -/
theorem clear_doubleFrom (split : Bool) (indent column : Nat) (isFirst behindEscape : Bool) (cs : List Char) :
    Clear (doubleFrom split indent column isFirst behindEscape cs) := by
  fun_induction doubleFrom split indent column isFirst behindEscape cs with
  | case1 => exact clear_nil
  | case2 column isFirst behindEscape c rest _ e he _ _ _ ih =>
      exact ((clear_escapeOf? he).append (clear_doubleBreak indent _)).append ih
  | case3 column isFirst behindEscape c rest _ e he _ _ ih => exact (clear_escapeOf? he).append ih
  | case4 column isFirst behindEscape c rest _ he _ ih =>
      exact (clear_doubleBreak indent _).append (.cons (isSpecial_of_escapeOf?_eq_none he) ih)
  | case5 column isFirst behindEscape c rest _ he _ ih => exact .cons (isSpecial_of_escapeOf?_eq_none he) ih

/-! ## Scalars without quotes -/

theorem clear_decimal (n : Nat) : Clear (decimal n) :=
  clear_of_printable (Json.printable_toDigits (by decide) (by decide) n)

theorem clear_of_isDigit (h : ∀ c ∈ cs, isDigit c = true) : Clear cs := by
  intro c hc
  have hdigit := h c hc
  unfold isDigit at hdigit
  rw [Bool.and_eq_true, decide_eq_true_iff, decide_eq_true_iff] at hdigit
  exact isSpecial_eq_false.mpr (.inr ⟨le_trans (by decide) hdigit.1, le_trans hdigit.2 (by decide)⟩)

theorem clear_padded (width n : Nat) : Clear (padded width n) := clear_of_isDigit fun _ => Json.mem_padded width n

theorem clear_exponentChars (e : Int) : Clear (Double.exponentChars e) := by
  refine .cons rfl (.cons ?_ (clear_padded 2 _))
  split <;> rfl

theorem clear_positional (h : Clear ds) (point : Int) : Clear (Double.positional ds point) := by
  unfold Double.positional
  split
  · exact .cons rfl (.cons rfl h)
  · split
    · exact Clear.append (fun c hc => h c (List.mem_of_mem_take hc))
        (.cons rfl fun c hc => h c (List.mem_of_mem_drop hc))
    · exact (h.append (clear_replicate _ rfl)).append (.cons rfl (.cons rfl clear_nil))
  · exact .cons rfl (.cons rfl ((clear_replicate _ rfl).append h))

theorem clear_scientific (style : FloatStyle) (h : Clear ds) (e : Int) : Clear (Double.scientific style ds e) := by
  unfold Double.scientific
  split
  · exact clear_nil
  · refine .cons h.head (Clear.append ?_ (clear_exponentChars e))
    split
    · exact .cons rfl (.cons rfl clear_nil)
    · exact clear_nil
  · exact .cons h.head (.cons rfl (h.tail.append (clear_exponentChars e)))

/-- A float has digits, a point, an exponent, or is one of three words. -/
theorem clear_float (x : Double) : Clear (x.writtenChars .yaml) := by
  have hmagnitude : ∀ m e, Clear (Double.magnitude .yaml m e) := by
    intro m e
    unfold Double.magnitude
    split
    · exact .cons rfl (.cons rfl (.cons rfl clear_nil))
    · have hdigits : ∀ n, Clear (Double.trimZeros (decimal n)).1 :=
        fun n c hc => clear_decimal n c (List.mem_of_mem_take hc)
      dsimp only
      split
      · exact clear_positional (hdigits _) _
      · exact clear_scientific _ (hdigits _) _
  cases x with
  | nan => exact (by decide : Clear ".nan".toList)
  | infinite negative =>
      cases negative with
      | false => exact (by decide : Clear ".inf".toList)
      | true => exact (by decide : Clear "-.inf".toList)
  | finite negative m e =>
      show Clear (if negative then '-' :: Double.magnitude .yaml m e else Double.magnitude .yaml m e)
      split
      · exact .cons rfl (hmagnitude m e)
      · exact hmagnitude m e

theorem clear_date (d : Date) : Clear d.isoChars :=
  ((clear_padded 4 d.year).append (.cons rfl (clear_padded 2 d.month))).append (.cons rfl (clear_padded 2 d.day))

theorem clear_offsetChars (seconds : Int) : Clear (offsetChars seconds) := by
  refine Clear.append (.cons ?_ ((clear_padded 2 _).append (.cons rfl (clear_padded 2 _)))) ?_
  · split <;> rfl
  · split
    · exact clear_nil
    · exact .cons rfl (clear_padded 2 _)

theorem clear_time (m : Moment) : Clear m.timeChars := by
  have hclock : Clear (padded 2 m.hour ++ ':' :: padded 2 m.minute ++ ':' :: padded 2 m.second) :=
    ((clear_padded 2 _).append (.cons rfl (clear_padded 2 _))).append (.cons rfl (clear_padded 2 _))
  refine Clear.append (hclock.append ?_) ?_
  · split
    · exact clear_nil
    · exact .cons rfl (clear_padded 6 _)
  · split
    · exact clear_nil
    · exact clear_offsetChars _

theorem clear_hexPadded (width n : Nat) : Clear (hexPadded width n) :=
  (clear_replicate _ rfl).append (clear_of_printable (Json.printable_toDigits (by decide) (by decide) n))

/-- Bytes in quotes are escaped where they are not printable. -/
theorem clear_quotedBytes (bs : List UInt8) : Clear (Text.quotedBytes bs) := by
  have hquote : ∀ cs : List Char, isSpecial (Text.quoteFor cs) = false := by
    intro cs
    unfold Text.quoteFor
    split <;> rfl
  have hescape : ∀ n, Clear (Text.escapeCode n) := by
    intro n
    unfold Text.escapeCode
    split_ifs
    · exact .cons rfl (.cons rfl (clear_hexPadded 2 n))
    · exact .cons rfl (.cons rfl (clear_hexPadded 4 n))
    · exact .cons rfl (.cons rfl (clear_hexPadded 8 n))
  have hascii : ∀ n < 0x80, Text.isPrintable (Char.ofNat n) = true → isSpecial (Char.ofNat n) = false := by decide
  have hbyte : ∀ (quote : Char) (b : UInt8), isSpecial quote = false → Clear (Text.quotedByte quote b) := by
    intro quote b hq
    unfold Text.quotedByte
    split
    · next hsmall =>
        unfold Text.quotedChar
        split_ifs with hmark _ _ _ hprintable
        · rcases hmark with hmark | hmark
          · exact .cons rfl (.cons (hmark ▸ hq) clear_nil)
          · exact .cons rfl (.cons (hmark ▸ rfl) clear_nil)
        · exact .cons rfl (.cons rfl clear_nil)
        · exact .cons rfl (.cons rfl clear_nil)
        · exact .cons rfl (.cons rfl clear_nil)
        · exact .cons (hascii b.toNat hsmall hprintable) clear_nil
        · exact hescape _
    · exact hescape _
  refine .cons rfl (.cons (hquote _) (Clear.append ?_ (.cons (hquote _) clear_nil)))
  intro c hc
  obtain ⟨b, -, hb⟩ := List.mem_flatMap.mp hc
  exact hbyte _ b (hquote _) c hb

/-- A scalar that is no text is clear without quotes. -/
theorem clear_plainChars {s : Scalar} (h : ∀ t, s ≠ .text t) : Clear (Scalar.plainChars s) := by
  cases s with
  | null => exact (by decide : Clear "null".toList)
  | bool b =>
      cases b with
      | true => exact (by decide : Clear "true".toList)
      | false => exact (by decide : Clear "false".toList)
  | int n => exact clear_of_printable (Json.printable_signed n)
  | float x => exact clear_float x
  | text t => exact absurd rfl (h t)
  | date d => exact clear_date d
  | moment m => exact (clear_date m.date).append (.cons rfl (clear_time m))
  | bytes bs => exact clear_quotedBytes bs
  | stream bs => exact clear_quotedBytes bs

/-! ## Scalars -/

theorem clear_sextetChar (n : Nat) : isSpecial (Text.sextetChar n) = false := by
  have hdigits : ∀ n < 62, isSpecial (Text.sextetChar n) = false := by decide
  by_cases hn : n < 62
  · exact hdigits n hn
  · unfold Text.sextetChar
    rw [if_neg (by omega), if_neg (by omega), if_neg hn]
    split <;> rfl

theorem clear_base64 (bs : List UInt8) : Clear (Text.base64 bs) := by
  have hdigit := clear_sextetChar
  fun_induction Text.base64 bs with
  | case1 a b c rest n ih =>
      exact .cons (hdigit _) (.cons (hdigit _) (.cons (hdigit _) (.cons (hdigit _) ih)))
  | case2 a b n => exact .cons (hdigit _) (.cons (hdigit _) (.cons (hdigit _) (.cons rfl clear_nil)))
  | case3 a => exact .cons (hdigit _) (.cons (hdigit _) (.cons rfl (.cons rfl clear_nil)))
  | case4 => exact clear_nil

theorem clear_base64Lines (bs : List UInt8) : ∀ l ∈ Text.base64Lines bs, Clear l := by
  unfold Text.base64Lines
  generalize bs.length = fuel
  induction fuel generalizing bs with
  | zero =>
      intro l hl
      exact absurd hl List.not_mem_nil
  | succ fuel ih =>
      intro l hl
      unfold Text.base64LinesFrom at hl
      split at hl
      · exact absurd hl List.not_mem_nil
      · rcases List.mem_cons.mp hl with rfl | hl
        · exact clear_base64 _
        · exact ih _ l hl

theorem clear_binaryChars (indent : Nat) (bs : List UInt8) : Clear (binaryChars indent bs) := by
  have htag : Clear "!!binary ".toList := by decide
  refine htag.append ?_
  split
  · exact .cons rfl (.cons rfl clear_nil)
  · refine .cons rfl fun c hc => ?_
    obtain ⟨l, hl, hmem⟩ := List.mem_flatMap.mp hc
    exact (clear_newLine indent).append (clear_base64Lines bs l hl) c hmem

/-- What may stand without quotes or in single ones has no special characters. -/
theorem clear_of_allowsSingle (h : allowsSingle cs = true) : Clear cs := by
  unfold allowsSingle at h
  intro c hc
  by_contra hspecial
  have hany : cs.any isSpecial = true := List.any_eq_true.mpr ⟨c, hc, by simpa using hspecial⟩
  rw [hany] at h
  cases h

theorem clear_of_styleOf {s : Scalar} (h : styleOf s ≠ .double) : Clear (Scalar.plainChars s) := by
  by_cases htext : ∃ t, s = .text t
  · obtain ⟨t, rfl⟩ := htext
    have hsingle : allowsSingle t.toList = true := by
      by_contra hnot
      refine h ?_
      unfold styleOf Style.ofText
      have hplain : ¬(Kind.ofPlain t.toList = .text ∧ allowsPlain t.toList = true) := by
        rintro ⟨-, hplain⟩
        unfold allowsPlain at hplain
        simp only [Bool.and_eq_true] at hplain
        exact hnot hplain.1.1.1.1
      dsimp only
      rw [if_neg hplain, if_neg hnot]
    exact clear_of_allowsSingle hsingle
  · exact clear_plainChars fun t ht => htext ⟨t, ht⟩

/-- **Every scalar is clear as it is written.** -/
theorem clear_scalarChars (split : Bool) (indent column : Nat) (s : Scalar) :
    Clear (scalarChars split indent column s) := by
  have htext : Clear (textChars split indent column s) := by
    unfold textChars
    cases hstyle : styleOf s with
    | plain => exact clear_plainFrom _ _ _ _ (clear_of_styleOf (by rw [hstyle]; decide))
    | single =>
        refine .cons rfl (Clear.append (clear_singleFrom _ _ _ _ (clear_of_styleOf ?_)) (.cons rfl clear_nil))
        rw [hstyle]
        decide
    | double => exact .cons rfl ((clear_doubleFrom _ _ _ _ _ _).append (.cons rfl clear_nil))
  cases s with
  | bytes bs => exact clear_binaryChars indent bs
  | _ => exact htext

/-! ## Documents -/

theorem clear_joinLines (indent : Nat) {parts : List (List Char)} (h : ∀ p ∈ parts, Clear p) :
    Clear (joinLines indent parts) := by
  fun_induction joinLines indent parts with
  | case1 => exact clear_nil
  | case2 x => exact h x List.mem_cons_self
  | case3 x xs _ ih =>
      obtain ⟨hx, hxs⟩ := List.forall_mem_cons.mp h
      exact (hx.append (clear_newLine indent)).append (ih hxs)

mutual

theorem clear_blockChars (indent : Nat) (v : Value) : Clear (blockChars indent v) := by
  cases v with
  | scalar s => exact clear_scalarChars _ _ _ s
  | list xs => exact clear_joinLines indent (clear_itemLines indent xs)
  | object ms => exact clear_joinLines indent (clear_memberLines indent ms)

theorem clear_inlineChars (indent : Nat) (v : Value) : Clear (inlineChars indent v) := by
  match v with
  | .scalar s => exact clear_scalarChars _ _ _ s
  | .list [] => exact (by decide : Clear ['[', ']'])
  | .object [] => exact (by decide : Clear ['\x7b', '\x7d'])
  | .list (x :: xs) => exact clear_joinLines (indent + 2) (clear_itemLines (indent + 2) (x :: xs))
  | .object (m :: ms) => exact clear_joinLines (indent + 2) (clear_memberLines (indent + 2) (m :: ms))

theorem clear_itemLines (indent : Nat) (xs : List Value) : ∀ l ∈ itemLines indent xs, Clear l := by
  match xs with
  | [] => exact fun l hl => absurd hl List.not_mem_nil
  | x :: xs =>
      exact List.forall_mem_cons.mpr
        ⟨.cons rfl (.cons rfl (clear_inlineChars indent x)), clear_itemLines indent xs⟩

theorem clear_behindKey (indent column : Nat) (v : Value) : Clear (behindKey indent column v) := by
  match v with
  | .scalar s => exact .cons rfl (clear_scalarChars _ _ _ s)
  | .list [] => exact (by decide : Clear [' ', '[', ']'])
  | .object [] => exact (by decide : Clear [' ', '\x7b', '\x7d'])
  | .list (x :: xs) =>
      exact (clear_newLine indent).append (clear_joinLines indent (clear_itemLines indent (x :: xs)))
  | .object (m :: ms) =>
      exact (clear_newLine (indent + 2)).append
        (clear_joinLines (indent + 2) (clear_memberLines (indent + 2) (m :: ms)))

theorem clear_memberLines (indent : Nat) (ms : List (Scalar × Value)) :
    ∀ l ∈ memberLines indent ms, Clear l := by
  match ms with
  | [] => exact fun l hl => absurd hl List.not_mem_nil
  | (k, v) :: ms =>
      refine List.forall_mem_cons.mpr ⟨?_, clear_memberLines indent ms⟩
      split
      · exact (clear_scalarChars _ _ _ k).append (.cons rfl (clear_behindKey indent _ v))
      · exact .cons rfl (.cons rfl (((clear_scalarChars _ _ _ k).append (clear_newLine indent)).append
          (.cons rfl (.cons rfl (clear_inlineChars indent v)))))

end

/-- **Every document is clear.** -/
theorem clear_written (v : Value) : Clear (written v).toList := by
  have hend : Clear ['\n'] := .cons rfl clear_nil
  unfold written
  rw [String.toList_ofList]
  refine Clear.append ?_ hend
  split
  · exact (by decide : Clear ['[', ']'])
  · exact (by decide : Clear ['\x7b', '\x7d'])
  · exact clear_blockChars 0 v

/-! ## The last line -/

/-- What is written is the document. -/
theorem eq_written {v : Value} {text : String} (h : written? v = some text) : text = written v := by
  unfold written? at h
  split at h
  · exact (Option.some.inj h).symm
  · cases h

theorem written_ends (v : Value) : ∃ front, (written v).toList = front ++ ['\n'] := ⟨_, String.toList_ofList⟩

theorem joinLines_concat (indent : Nat) {parts : List (List Char)} (h : parts ≠ []) (last : List Char) :
    joinLines indent (parts ++ [last]) = joinLines indent parts ++ newLine indent ++ last := by
  fun_induction joinLines indent parts with
  | case1 => exact absurd rfl h
  | case2 x => rfl
  | case3 x xs hne ih =>
      have hxs : xs ≠ [] := fun hnil => hne hnil
      have hsplit : joinLines indent (x :: (xs ++ [last])) = x ++ newLine indent ++ joinLines indent (xs ++ [last]) :=
        joinLines.eq_3 indent x _ fun hnil => List.append_ne_nil_of_left_ne_nil hxs _ hnil
      rw [List.cons_append, hsplit, ih hxs]
      simp only [List.append_assoc]

theorem memberLines_append (indent : Nat) (ms ns : List (Scalar × Value)) :
    memberLines indent (ms ++ ns) = memberLines indent ms ++ memberLines indent ns := by
  induction ms with
  | nil =>
      rw [memberLines]
      rfl
  | cons m ms ih =>
      rw [List.cons_append, memberLines, memberLines, ih]
      rfl

/-- The last member of an object stands on lines of its own. -/
theorem written_object_concat {ms : List (Scalar × Value)} {m : Scalar × Value} {l : List Char} (h : ms ≠ [])
    (hl : memberLines 0 [m] = [l]) :
    (written (.object (ms ++ [m]))).toList = joinLines 0 (memberLines 0 ms) ++ '\n' :: (l ++ ['\n']) := by
  have hlines : memberLines 0 ms ≠ [] := by
    cases ms with
    | nil => exact absurd rfl h
    | cons m ms =>
        rw [memberLines]
        exact List.cons_ne_nil _ _
  have hblock : written (.object (ms ++ [m])) = String.ofList (blockChars 0 (.object (ms ++ [m])) ++ ['\n']) := by
    cases ms with
    | nil => exact absurd rfl h
    | cons m ms => rfl
  rw [hblock, String.toList_ofList, blockChars, memberLines_append, hl, joinLines_concat 0 hlines,
    show newLine 0 = ['\n'] from rfl]
  simp only [List.append_assoc, List.cons_append, List.nil_append]

end ApiReconciler.Yaml
