import ApiReconciler.Proofs.Json.Strings
import ApiReconciler.Proofs.Members

/-!
# `ApiReconciler.Proofs.Json.RoundTrip` — JSON texts are read back

The text of a value denotes the value, moments apart, which come back as their texts. Reading a part of a
text must stop where the part ends, so what is proved of a value is that its text is read in front of
anything that can follow it there: the end, a comma or a closing bracket (`Ends`). Numbers need this, since
their texts have no end of their own. A list and an object only have to know this of their parts, so
`Denotes` is shown for each kind of value from the parts, and the whole is one induction on the value.

The reader bounds its nesting by a number that each level uses up. The length of a text is always enough:
a level has brackets, which make the text longer than its parts.

## Contents
- `Value.Plain`: values of replies; `Value.readBack`: what such a value comes back as.
- `Denotes` and its cases: `denotes_int`, `denotes_text`, `denotes_list`, `denotes_object`.
- `denotes_compactChars`, `parseChars_compactChars`: **texts are read back**.
-/

namespace ApiReconciler

/-! ## Values of replies -/

/-- Values built from null, truth values, integers, texts and moments by lists and records. -/
inductive Value.Plain : Value → Prop
  | null : Plain .null
  | bool (b : Bool) : Plain (.bool b)
  | int (n : Int) : Plain (.int n)
  | text (s : String) : Plain (.text s)
  | moment (m : Moment) : Plain (.scalar (.moment m))
  | list {xs : List Value} (elements : ∀ x ∈ xs, Plain x) : Plain (.list xs)
  | object {ms : Object} (record : ms.IsRecord) (members : ∀ m ∈ ms, Plain m.2) : Plain (.object ms)

/-- What a scalar comes back as: a moment as its text, others as themselves. -/
def Scalar.readBack : Scalar → Scalar
  | .moment m => .text (String.ofList (Scalar.moment m).display)
  | s => s

namespace Value

mutual

/-- What a value comes back as: moments as their texts. -/
def readBack : Value → Value
  | .scalar s => .scalar s.readBack
  | .list xs => .list (readBackList xs)
  | .object ms => .object (readBackMembers ms)

/-- What the elements of a list come back as. -/
def readBackList : List Value → List Value
  | [] => []
  | x :: xs => x.readBack :: readBackList xs

/-- What the members of an object come back as. -/
def readBackMembers : List (Scalar × Value) → List (Scalar × Value)
  | [] => []
  | (k, v) :: ms => (k, v.readBack) :: readBackMembers ms

end

theorem readBackMembers_eq (ms : Object) :
    readBackMembers ms = ms.map fun m => (m.1, m.2.readBack) := by
  induction ms with
  | nil => rfl
  | cons m ms ih => rw [readBackMembers, ih, List.map_cons]

theorem sortedList_eq (xs : List Value) : sortedList xs = xs.map sorted := by
  induction xs with
  | nil => rfl
  | cons x xs ih => rw [sortedList, ih, List.map_cons]

theorem sortedMembers_eq (ms : Object) : sortedMembers ms = ms.map fun m => (m.1, m.2.sorted) := by
  induction ms with
  | nil => rfl
  | cons m ms ih => rw [sortedMembers, ih, List.map_cons]

section

variable {P : Value → Prop}

/-- The elements of a sorted list are sorted. -/
theorem sorted_list_of {xs : List Value} (hlist : ∀ {xs}, (∀ x ∈ xs, P x) → P (.list xs))
    (h : ∀ x ∈ xs, P x.sorted) : P (Value.list xs).sorted := by
  rw [Value.sorted, sortedList_eq]
  exact hlist (List.forall_mem_map.mpr h)

/-- A record stays one when it is sorted, with sorted values. -/
theorem sorted_object_of {ms : Object} (hobject : ∀ {ms : Object}, ms.IsRecord → (∀ m ∈ ms, P m.2) → P (.object ms))
    (hrecord : ms.IsRecord) (h : ∀ m ∈ ms, P m.2.sorted) : P (Value.object ms).sorted := by
  rw [Value.sorted, sortedMembers_eq]
  -- the members are the same in another order, and that is all that a record and its values depend on
  have hperm := Object.sorted_perm (ms.map fun m => (m.1, m.2.sorted))
  refine hobject ((hrecord.mapValues _).perm hperm.symm) fun m hm => ?_
  obtain ⟨n, hn, rfl⟩ := List.mem_map.mp (hperm.mem_iff.mp hm)
  exact h n hn

end

/-- Sorting keeps values plain. -/
theorem Plain.sorted {v : Value} (h : v.Plain) : v.sorted.Plain := by
  induction h with
  | null => exact .null
  | bool b => exact .bool b
  | int n => exact .int n
  | text s => exact .text s
  | moment m => exact .moment m
  | list _ ih => exact sorted_list_of .list ih
  | object hrecord _ ih => exact sorted_object_of .object hrecord ih

end Value

namespace Json

open Digits

theorem compactList_eq (xs : List Value) : compactList xs = xs.map compactChars := by
  induction xs with
  | nil => rfl
  | cons x xs ih => rw [compactList, ih, List.map_cons]

theorem compactMembers_eq (ms : Object) :
    compactMembers ms = ms.map fun m => keyChars m.1 ++ ':' :: ' ' :: compactChars m.2 := by
  induction ms with
  | nil => rfl
  | cons m ms ih => rw [compactMembers, ih, List.map_cons]

/-! ## What a text denotes -/

/-- What can stand behind a value: the end, a comma or a closing bracket. -/
inductive Ends : List Char → Prop
  | nil : Ends []
  | comma (rest : List Char) : Ends (',' :: rest)
  | bracket (rest : List Char) : Ends (']' :: rest)
  | brace (rest : List Char) : Ends ('\x7d' :: rest)

/-- `cs` denotes `v`: it starts like a value, and it is read as `v` in front of all that can stand there. -/
structure Denotes (cs : List Char) (v : Value) : Prop where
  start : ∃ c ds, cs = c :: ds ∧ isSpace c = false ∧ c ≠ ']'
  reads : ∀ fuel rest, cs.length ≤ fuel → Ends rest → readValue fuel (cs ++ rest) = .ok (v, rest)

/-- A text that is read by `readAtom` denotes what is read. -/
theorem denotes_of_readAtom {c : Char} {cs : List Char} {v : Value} (hspace : isSpace c = false)
    (hquote : c ≠ '"') (hbracket : c ≠ '[') (hbrace : c ≠ '\x7b') (hclosing : c ≠ ']')
    (h : ∀ rest, Ends rest → readAtom (c :: cs ++ rest) = .ok (v, rest)) : Denotes (c :: cs) v where
  start := ⟨c, cs, rfl, hspace, hclosing⟩
  reads := by
    intro fuel rest hfuel hrest
    rw [List.length_cons] at hfuel
    obtain ⟨k, rfl⟩ : ∃ k, fuel = k + 1 := ⟨fuel - 1, by omega⟩
    rw [← h rest hrest, List.cons_append]
    unfold readValue
    split
    · next h => exact absurd (List.cons.inj h).1 hquote
    · next h => exact absurd (List.cons.inj h).1 hbracket
    · next h => exact absurd (List.cons.inj h).1 hbrace
    · rfl

/-! ## Words -/

theorem denotes_null : Denotes "null".toList .null :=
  denotes_of_readAtom (c := 'n') (by decide) (by decide) (by decide) (by decide) (by decide) fun _ _ => rfl

theorem denotes_bool (b : Bool) : Denotes (scalarChars (.bool b)) (.bool b) := by
  cases b with
  | true =>
      exact denotes_of_readAtom (c := 't') (by decide) (by decide) (by decide) (by decide) (by decide)
        fun _ _ => rfl
  | false =>
      exact denotes_of_readAtom (c := 'f') (by decide) (by decide) (by decide) (by decide) (by decide)
        fun _ _ => rfl

/-! ## Numbers -/

/-- The whole part of a number: a zero alone, or digits that start with another one. -/
inductive Whole : List Char → Prop
  | zero : Whole ['0']
  | digits {c : Char} {cs : List Char} (nonzero : c ≠ '0') (all : ∀ d ∈ c :: cs, isDigit d = true) :
      Whole (c :: cs)

theorem whole_decimal (n : Nat) : Whole (decimal n) := by
  rcases decimal_eq_zero_or n with rfl | ⟨c, cs, hcs, hzero⟩
  · exact .zero
  · rw [hcs]
    exact .digits hzero fun d hd => mem_decimal (hcs ▸ hd)

/-- A whole part starts with a digit. -/
theorem Whole.head {cs : List Char} (h : Whole cs) : ∃ c ds, cs = c :: ds ∧ isDigit c = true := by
  cases h with
  | zero => exact ⟨'0', [], rfl, rfl⟩
  | @digits c ds _ hall => exact ⟨c, ds, rfl, hall c List.mem_cons_self⟩

theorem Whole.ne_nil {cs : List Char} (h : Whole cs) : cs ≠ [] := by
  obtain ⟨c, ds, rfl, -⟩ := h.head
  exact List.cons_ne_nil c ds

/-- Digits end in front of what starts with none. -/
theorem digits_append {cs rest : List Char} (hcs : ∀ d ∈ cs, isDigit d = true)
    (hrest : rest.takeWhile isDigit = []) :
    (cs ++ rest).takeWhile isDigit = cs ∧ (cs ++ rest).dropWhile isDigit = rest := by
  have hdrop := List.takeWhile_append_dropWhile (p := isDigit) (l := rest)
  rw [hrest, List.nil_append] at hdrop
  rw [List.takeWhile_append_of_pos hcs, List.dropWhile_append_of_pos hcs, hrest, List.append_nil, hdrop]
  exact ⟨rfl, rfl⟩

theorem wholePart_append {cs rest : List Char} (h : Whole cs) (hrest : rest.takeWhile isDigit = []) :
    wholePart (cs ++ rest) = (cs, rest) := by
  -- a zero in front is a whole part by itself, so the digits behind one would be left over
  cases h with
  | zero => rfl
  | digits hzero hall =>
      obtain ⟨htake, hdrop⟩ := digits_append hall hrest
      unfold wholePart
      split
      · next h => exact absurd (List.cons.inj h).1 hzero
      · rw [htake, hdrop]

/-- A decimal numeral that is not too long is read as its number. -/
theorem readUnsigned_decimal (negative : Bool) {n : Nat} (hn : (decimal n).length ≤ maxIntegerDigits)
    {rest : List Char} (hrest : Ends rest) :
    readUnsigned negative (decimal n ++ rest) = .ok (.int (if negative then -n else n), rest) := by
  have hstop : rest.takeWhile isDigit = [] := by cases hrest <;> rfl
  have hfraction : fractionPart rest = ([], rest) := by cases hrest <;> rfl
  have hexponent : exponentPart rest = (none, rest) := by cases hrest <;> rfl
  unfold readUnsigned
  rw [wholePart_append (whole_decimal n) hstop]
  split
  · next h =>
      have hnil : decimal n = [] := (Prod.mk.inj h).1
      exact absurd hnil Nat.toDigits_ne_nil
  · next whole more _ h =>
      obtain ⟨rfl, rfl⟩ := Prod.mk.inj h
      rw [hfraction]
      dsimp only
      rw [hexponent]
      dsimp only
      rw [if_pos ⟨rfl, rfl⟩, if_neg (Nat.not_lt.mpr hn), ofDecimal_decimal]

theorem ne_of_isDigit {c d : Char} (hc : isDigit c = true) (hd : isDigit d = false) : c ≠ d := by
  rintro rfl
  rw [hc] at hd
  cases hd

/-- What starts with no word is a number. -/
theorem readAtom_of_no_word {cs : List Char} (h : ∀ w ∈ words, w.1.toList.isPrefixOf cs = false) :
    readAtom cs = readNumber cs := by
  have hnone : words.findSome? (fun w => (takeWord? w.1 cs).map fun rest => (w.2, rest)) = none := by
    rw [List.findSome?_eq_none_iff]
    intro w hw
    unfold takeWord?
    rw [h w hw]
    rfl
  unfold readAtom
  rw [hnone]

/-- No word starts with a digit, not even behind a sign. -/
theorem no_word_of_isDigit {c : Char} (hc : isDigit c = true) (cs : List Char) :
    (∀ w ∈ words, w.1.toList.isPrefixOf (c :: cs) = false) ∧
      ∀ w ∈ words, w.1.toList.isPrefixOf ('-' :: c :: cs) = false := by
  have hne : ∀ d, isDigit d = false → (d == c) = false :=
    fun d hd => beq_eq_false_iff_ne.mpr (ne_of_isDigit hc hd).symm
  simp [words, List.isPrefixOf, hne, show isDigit 'n' = false from rfl, show isDigit 't' = false from rfl,
    show isDigit 'f' = false from rfl, show isDigit 'N' = false from rfl,
    show isDigit 'I' = false from rfl, show isDigit '-' = false from rfl]

/-- **What starts with a digit is read as a number**, and so it is behind a sign. -/
theorem denotes_of_readUnsigned (negative : Bool) {c : Char} {cs : List Char} {v : Value}
    (hc : isDigit c = true)
    (h : ∀ rest, Ends rest → readUnsigned negative (c :: cs ++ rest) = .ok (v, rest)) :
    Denotes (if negative then '-' :: c :: cs else c :: cs) v := by
  cases negative with
  | false =>
      have hspace : isSpace c = false := by
        have hblank : ∀ d, isDigit d = false → decide (c = d) = false :=
          fun d hd => decide_eq_false (ne_of_isDigit hc hd)
        unfold isSpace
        rw [hblank ' ' rfl, hblank '\t' rfl, hblank '\n' rfl, hblank '\r' rfl]
        rfl
      change Denotes (c :: cs) v
      refine denotes_of_readAtom hspace (ne_of_isDigit hc rfl) (ne_of_isDigit hc rfl)
        (ne_of_isDigit hc rfl) (ne_of_isDigit hc rfl) fun rest hrest => ?_
      have hread := h rest hrest
      rw [List.cons_append] at hread ⊢
      rw [readAtom_of_no_word (no_word_of_isDigit hc _).1]
      unfold readNumber
      split
      · next h => exact absurd (List.cons.inj h).1 (ne_of_isDigit hc rfl)
      · exact hread
  | true =>
      change Denotes ('-' :: c :: cs) v
      refine denotes_of_readAtom (by decide) (by decide) (by decide) (by decide) (by decide)
        fun rest hrest => ?_
      -- a sign starts a number or the word `-Infinity`, and the digit behind it tells which
      exact (readAtom_of_no_word (no_word_of_isDigit hc (cs ++ rest)).2).trans (h rest hrest)

theorem denotes_int {n : Int} (hn : (decimal n.natAbs).length ≤ maxIntegerDigits) :
    Denotes (signed n) (.int n) := by
  obtain ⟨c, cs, hcs, hc⟩ := (whole_decimal n.natAbs).head
  have hread := fun negative rest (hrest : Ends rest) => readUnsigned_decimal negative hn hrest
  rw [hcs] at hread
  cases n with
  | ofNat n =>
      change Denotes (decimal n) (.int n)
      rw [show decimal n = c :: cs from hcs]
      exact denotes_of_readUnsigned false hc (hread false)
  | negSucc n =>
      change Denotes ('-' :: decimal (n + 1)) (.int (Int.negSucc n))
      rw [show decimal (n + 1) = c :: cs from hcs]
      exact denotes_of_readUnsigned true hc (hread true)

/-! ## Texts -/

theorem denotes_text (s : String) : Denotes (quotedChars s.toList) (.text s) where
  start := ⟨'"', _, rfl, by decide, by decide⟩
  reads := by
    intro fuel rest hfuel _
    unfold quotedChars at hfuel
    rw [List.cons_append, List.length_cons] at hfuel
    obtain ⟨k, rfl⟩ : ∃ k, fuel = k + 1 := ⟨fuel - 1, by omega⟩
    rw [quotedChars_append, readValue, readString_quotedChars]
    rfl

/-! ## Brackets and separators -/

/-- A text between brackets denotes what is read from it. The brackets take up one level of nesting, and
the text in between is short enough for the rest. -/
theorem denotes_of_bracketed {opening closing : Char} {cs : List Char} {v : Value}
    (hspace : isSpace opening = false) (hopening : opening ≠ ']')
    (h : ∀ k rest, cs.length < k → readValue (k + 1) (opening :: (cs ++ closing :: rest)) = .ok (v, rest)) :
    Denotes (opening :: cs ++ [closing]) v where
  start := ⟨opening, _, rfl, hspace, hopening⟩
  reads := by
    intro fuel rest hfuel _
    rw [List.cons_append, List.length_cons, List.length_append, List.length_singleton] at hfuel
    obtain ⟨k, rfl⟩ : ∃ k, fuel = k + 1 := ⟨fuel - 1, by omega⟩
    rw [List.cons_append, List.cons_append, List.append_assoc, List.singleton_append]
    exact h k rest (by omega)

/-- In front of a value no blank is skipped. -/
theorem Denotes.skipSpace {cs : List Char} {v : Value} (h : Denotes cs v) (rest : List Char) :
    skipSpace (cs ++ rest) = cs ++ rest := by
  obtain ⟨c, ds, rfl, hspace, -⟩ := h.start
  unfold Json.skipSpace
  rw [List.cons_append, List.dropWhile_cons_of_neg]
  rw [hspace]
  decide

theorem commaSeparated_cons_cons (p q : List Char) (parts : List (List Char)) :
    Value.commaSeparated (p :: q :: parts) = p ++ ',' :: ' ' :: Value.commaSeparated (q :: parts) := rfl

/-- Parts start where the first one starts. -/
theorem commaSeparated_eq_append (p : List Char) (parts : List (List Char)) :
    ∃ more, Value.commaSeparated (p :: parts) = p ++ more := by
  cases parts with
  | nil => exact ⟨[], (List.append_nil p).symm⟩
  | cons q parts => exact ⟨_, rfl⟩

/-! ## Lists -/

section

variable {cs more rest : List Char} {v : Value} {k : Nat}

theorem readElements_last (h : Denotes cs v) (hk : cs.length ≤ k) :
    readElements (k + 1) (cs ++ ']' :: rest) = .ok ([v], rest) := by
  rw [readElements, h.reads k _ hk (.bracket rest)]
  rfl

theorem readElements_more (h : Denotes cs v) (hk : cs.length ≤ k) (hmore : skipSpace more = more) :
    readElements (k + 1) (cs ++ ',' :: ' ' :: more) =
      (readElements k more).map fun r => (v :: r.1, r.2) := by
  have hspace : skipSpace (' ' :: more) = more := hmore
  rw [readElements, h.reads k _ hk (.comma _)]
  change (readElements k (skipSpace (' ' :: more))).map _ = _
  rw [hspace]

/-- **The elements of a list are read** up to the closing bracket, if each of them is. -/
theorem readElements_commaSeparated {parts : List (List Char)} {vs : List Value}
    (h : List.Forall₂ Denotes parts vs) (hne : parts ≠ [])
    (hk : (Value.commaSeparated parts).length < k) :
    readElements k (Value.commaSeparated parts ++ ']' :: rest) = .ok (vs, rest) := by
  induction h generalizing k with
  | nil => exact absurd rfl hne
  | @cons p v parts vs hp hparts ih =>
      obtain ⟨k, rfl⟩ : ∃ j, k = j + 1 := ⟨k - 1, by omega⟩
      cases hparts with
      | nil => exact readElements_last hp (Nat.le_of_lt_succ hk)
      | @cons q w parts vs hq hparts =>
          -- what is left is shorter by a part and a separator, and it starts with the next part
          rw [commaSeparated_cons_cons] at hk ⊢
          rw [List.length_append, List.length_cons, List.length_cons] at hk
          have hstart : skipSpace (Value.commaSeparated (q :: parts) ++ ']' :: rest) =
              Value.commaSeparated (q :: parts) ++ ']' :: rest := by
            obtain ⟨more, hmore⟩ := commaSeparated_eq_append q parts
            rw [hmore, List.append_assoc]
            exact hq.skipSpace _
          rw [List.append_assoc, List.cons_append, List.cons_append,
            readElements_more hp (by omega) hstart, ih (List.cons_ne_nil _ _) (by omega)]
          rfl

theorem denotes_list {parts : List (List Char)} {vs : List Value} (h : List.Forall₂ Denotes parts vs) :
    Denotes ('[' :: Value.commaSeparated parts ++ [']']) (.list vs) := by
  refine denotes_of_bracketed (by decide) (by decide) fun k rest hk => ?_
  cases h with
  | nil => rfl
  | @cons p v parts vs hp hparts =>
      have hread : readElements k (Value.commaSeparated (p :: parts) ++ ']' :: rest) =
          .ok (v :: vs, rest) :=
        readElements_commaSeparated (.cons hp hparts) (List.cons_ne_nil _ _) hk
      obtain ⟨more, hmore⟩ := commaSeparated_eq_append p parts
      obtain ⟨c, ds, rfl, -, hclosing⟩ := hp.start
      have hstart := hp.skipSpace (more ++ ']' :: rest)
      rw [hmore, List.append_assoc] at hread ⊢
      rw [List.cons_append] at hread hstart ⊢
      -- no value starts with the closing bracket, so the list is not taken for the empty one
      rw [readValue, hstart]
      split
      · next h => exact absurd (List.cons.inj h).1 hclosing
      · rw [hread]
        rfl

/-! ## Objects -/

/-- `part` denotes a member: its name as a string, a colon, and the text of its value. -/
inductive DenotesMember : List Char → Scalar × Value → Prop
  | intro (name : String) {cs : List Char} {v : Value} (h : Denotes cs v) :
      DenotesMember (quotedChars name.toList ++ ':' :: ' ' :: cs) (.text name, v)

theorem skipSpace_colon (cs : List Char) : skipSpace (':' :: cs) = ':' :: cs := rfl

theorem skipSpace_comma (cs : List Char) : skipSpace (',' :: cs) = ',' :: cs := rfl

theorem skipSpace_brace (cs : List Char) : skipSpace ('\x7d' :: cs) = '\x7d' :: cs := rfl

/-- Members start with a quotation mark, which is no blank. -/
theorem skipSpace_quotedChars (name rest : List Char) :
    skipSpace (quotedChars name ++ rest) = quotedChars name ++ rest := rfl

theorem readMembers_last (name : String) (h : Denotes cs v) (hk : cs.length ≤ k) :
    readMembers (k + 1) ((quotedChars name.toList ++ ':' :: ' ' :: cs) ++ '\x7d' :: rest) =
      .ok ([(.text name, v)], rest) := by
  have hname := readString_quotedChars name (':' :: ' ' :: (cs ++ '\x7d' :: rest))
  have hspace : skipSpace (' ' :: (cs ++ '\x7d' :: rest)) = cs ++ '\x7d' :: rest := h.skipSpace _
  have hvalue := h.reads k _ hk (.brace rest)
  rw [List.append_assoc, List.cons_append, List.cons_append, quotedChars_append, readMembers, hname]
  simp only [skipSpace_colon, hspace, hvalue, skipSpace_brace]

theorem readMembers_more (name : String) (h : Denotes cs v) (hk : cs.length ≤ k)
    (hmore : skipSpace more = more) :
    readMembers (k + 1) ((quotedChars name.toList ++ ':' :: ' ' :: cs) ++ ',' :: ' ' :: more) =
      (readMembers k more).map fun r => ((.text name, v) :: r.1, r.2) := by
  have hname := readString_quotedChars name (':' :: ' ' :: (cs ++ ',' :: ' ' :: more))
  have hspace : skipSpace (' ' :: (cs ++ ',' :: ' ' :: more)) = cs ++ ',' :: ' ' :: more := h.skipSpace _
  have hvalue := h.reads k _ hk (.comma (' ' :: more))
  have hnext : skipSpace (' ' :: more) = more := hmore
  rw [List.append_assoc, List.cons_append, List.cons_append, quotedChars_append, readMembers, hname]
  simp only [skipSpace_colon, hspace, hvalue, skipSpace_comma, hnext]

/-- **The members of an object are read** up to the closing bracket, if the value of each of them is. -/
theorem readMembers_commaSeparated {parts : List (List Char)} {ms : Object}
    (h : List.Forall₂ DenotesMember parts ms) (hne : parts ≠ [])
    (hk : (Value.commaSeparated parts).length < k) :
    readMembers k (Value.commaSeparated parts ++ '\x7d' :: rest) = .ok (ms, rest) := by
  induction h generalizing k with
  | nil => exact absurd rfl hne
  | @cons p m parts ms hp hparts ih =>
      obtain ⟨k, rfl⟩ : ∃ j, k = j + 1 := ⟨k - 1, by omega⟩
      obtain ⟨name, hvalue⟩ := hp
      cases hparts with
      | nil =>
          refine readMembers_last name hvalue ?_
          simp only [Value.commaSeparated, List.length_append, List.length_cons] at hk
          omega
      | @cons q n parts ms hq hparts =>
          rw [commaSeparated_cons_cons] at hk ⊢
          simp only [List.length_append, List.length_cons] at hk
          have hstart : skipSpace (Value.commaSeparated (q :: parts) ++ '\x7d' :: rest) =
              Value.commaSeparated (q :: parts) ++ '\x7d' :: rest := by
            obtain ⟨more, hmore⟩ := commaSeparated_eq_append q parts
            obtain ⟨other, hother⟩ := hq
            rw [hmore, List.append_assoc, List.append_assoc]
            exact skipSpace_quotedChars _ _
          have htail := ih (List.cons_ne_nil _ _) (k := k) (by omega)
          rw [List.append_assoc _ (',' :: _), List.cons_append, List.cons_append,
            readMembers_more name hvalue (by omega) hstart, htail]
          rfl

theorem denotes_object {parts : List (List Char)} {ms : Object}
    (h : List.Forall₂ DenotesMember parts ms) (hrecord : ms.IsRecord) :
    Denotes ('\x7b' :: Value.commaSeparated parts ++ ['\x7d']) (.object ms) := by
  refine denotes_of_bracketed (by decide) (by decide) fun k rest hk => ?_
  cases h with
  | nil => rfl
  | @cons p m parts ms hp hparts =>
      have hread : readMembers k (Value.commaSeparated (p :: parts) ++ '\x7d' :: rest) =
          .ok (m :: ms, rest) :=
        readMembers_commaSeparated (.cons hp hparts) (List.cons_ne_nil _ _) hk
      obtain ⟨more, hmore⟩ := commaSeparated_eq_append p parts
      obtain ⟨name, hvalue⟩ := hp
      rw [hmore, List.append_assoc, List.append_assoc] at hread ⊢
      -- a name starts with a quotation mark, so the object is not taken for the empty one
      rw [readValue, skipSpace_quotedChars]
      rw [quotedChars_append] at hread ⊢
      split
      · next h => exact absurd (List.cons.inj h).1 (by decide)
      · rw [hread]
        exact congrArg (fun o => Except.ok (Value.object o, rest)) hrecord.ofList

end

/-! ## Whole values -/

theorem forall₂_compactList {xs : List Value} (hw : Value.areWritable xs = true)
    (h : ∀ x ∈ xs, x.isWritable = true → Denotes (compactChars x) x.readBack) :
    List.Forall₂ Denotes (compactList xs) (Value.readBackList xs) := by
  induction xs with
  | nil => exact .nil
  | cons x xs ih =>
      obtain ⟨hx, hxs⟩ := List.forall_mem_cons.mp h
      rw [Value.areWritable, Bool.and_eq_true] at hw
      exact .cons (hx hw.1) (ih hw.2 hxs)

theorem forall₂_compactMembers {ms : Object} (hrecord : ms.IsRecord) (hw : Value.membersAreWritable ms = true)
    (h : ∀ m ∈ ms, m.2.isWritable = true → Denotes (compactChars m.2) m.2.readBack) :
    List.Forall₂ DenotesMember (compactMembers ms) (Value.readBackMembers ms) := by
  induction ms with
  | nil => exact .nil
  | cons m ms ih =>
      obtain ⟨hm, hms⟩ := List.forall_mem_cons.mp h
      obtain ⟨name, hname⟩ := hrecord.texts m List.mem_cons_self
      obtain ⟨k, v⟩ := m
      subst hname
      rw [Value.membersAreWritable, Bool.and_eq_true, Bool.and_eq_true] at hw
      exact .cons (.intro name (hm hw.1.2)) (ih hrecord.tail hw.2 hms)

/-- **The text of a value denotes what the value comes back as**, unless an integer in it is too long. -/
theorem denotes_compactChars {v : Value} (h : v.Plain) (hw : v.isWritable = true) :
    Denotes (compactChars v) v.readBack := by
  induction h with
  | null => exact denotes_null
  | bool b => exact denotes_bool b
  | int n => exact denotes_int (of_decide_eq_true hw)
  | text s => exact denotes_text s
  | moment m =>
      -- a moment is written as the text of it, so it comes back as a text
      have hdisplay := denotes_text (String.ofList (Scalar.moment m).display)
      rw [String.toList_ofList] at hdisplay
      exact hdisplay
  | list _ ih => exact denotes_list (forall₂_compactList hw ih)
  | object hrecord _ ih =>
      have hback := hrecord.mapValues Value.readBack
      rw [← Value.readBackMembers_eq] at hback
      exact denotes_object (forall₂_compactMembers hrecord hw ih) hback

/-- A whole text that denotes a value is read as it. -/
theorem Denotes.parseChars {cs : List Char} {v : Value} (h : Denotes cs v) : parseChars cs = .ok v := by
  have hstart := h.skipSpace []
  have hread := h.reads (cs.length + 1) [] (Nat.le_succ _) .nil
  rw [List.append_nil] at hstart hread
  unfold Json.parseChars
  rw [hstart, hread]
  rfl

/-- **A written value is read back.** -/
theorem parseChars_compactChars {v : Value} (h : v.Plain) (hw : v.isWritable = true) :
    parseChars (compactChars v) = .ok v.readBack := (denotes_compactChars h hw).parseChars

/-! ## Printable texts -/

theorem printable_commaSeparated {parts : List (List Char)} (h : ∀ p ∈ parts, Printable p) :
    Printable (Value.commaSeparated parts) := by
  induction parts with
  | nil => exact List.forall_mem_nil _
  | cons p parts ih =>
      obtain ⟨hp, hparts⟩ := List.forall_mem_cons.mp h
      cases parts with
      | nil => exact hp
      | cons q parts =>
          rw [commaSeparated_cons_cons]
          exact hp.append (.cons (by decide) (.cons (by decide) (ih hparts)))

theorem printable_signed (n : Int) : Printable (signed n) := by
  cases n with
  | ofNat n => exact printable_toDigits (by decide) (by decide) n
  | negSucc n => exact .cons (by decide) (printable_toDigits (by decide) (by decide) (n + 1))

/-- The text of a value is printable ASCII. -/
theorem printable_compactChars {v : Value} (h : v.Plain) : Printable (compactChars v) := by
  have hnone : Printable [] := List.forall_mem_nil _
  induction h with
  | null => exact (by decide : Printable ['n', 'u', 'l', 'l'])
  | bool b =>
      cases b with
      | true => exact (by decide : Printable ['t', 'r', 'u', 'e'])
      | false => exact (by decide : Printable ['f', 'a', 'l', 's', 'e'])
  | int n => exact printable_signed n
  | text s => exact printable_quotedChars _
  | moment m => exact printable_quotedChars _
  | @list xs _ ih =>
      have hparts : ∀ p ∈ compactList xs, Printable p := by
        rw [compactList_eq]
        exact List.forall_mem_map.mpr ih
      exact (Printable.cons (by decide) (printable_commaSeparated hparts)).append (.cons (by decide) hnone)
  | @object ms hrecord _ ih =>
      have hparts : ∀ p ∈ compactMembers ms, Printable p := by
        rw [compactMembers_eq]
        refine List.forall_mem_map.mpr fun m hm => ?_
        obtain ⟨name, hname⟩ := hrecord.texts m hm
        rw [hname]
        exact (printable_quotedChars _).append (.cons (by decide) (.cons (by decide) (ih m hm)))
      exact (Printable.cons (by decide) (printable_commaSeparated hparts)).append (.cons (by decide) hnone)

end Json

end ApiReconciler
