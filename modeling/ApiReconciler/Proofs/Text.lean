import ApiReconciler.Text.Blank
import ApiReconciler.Text.Utf8

/-!
# `ApiReconciler.Proofs.Text` — texts that pass through files

A text that is written to a file comes back from its bytes. Reading a file unifies line ends, which changes
nothing where there is no carriage return, and what is read is trimmed, which stops at the first character
from either end that is no blank.

## Contents
- `ofUtf8?_utf8`: the bytes of a text encode it.
- `unifyLineEnds_eq_self`: texts without a carriage return keep their line ends.
- `trimChars_framed`: trimming takes away the blanks behind a text, and nothing of the text;
  `trimChars_eq_self`: it changes nothing where there is no blank.
-/

namespace ApiReconciler.Text

/-! ## Bytes -/

theorem toList_loop (bytes : ByteArray) (i : Nat) (read : List UInt8) :
    ByteArray.toList.loop bytes i read = read.reverse ++ bytes.data.toList.drop i := by
  fun_induction ByteArray.toList.loop bytes i read with
  | case1 i read h ih =>
      have hi : i < bytes.data.toList.length := h
      have hget : bytes.get! i = bytes.data.toList[i] := by
        have hsize : i < bytes.data.size := h
        rw [ByteArray.get!, getElem!_pos bytes.data i hsize, Array.getElem_toList]
      rw [ih, List.drop_eq_getElem_cons hi, List.reverse_cons, List.append_assoc, hget,
        List.singleton_append]
  | case2 i read h =>
      have hi : bytes.data.toList.length ≤ i := Nat.le_of_not_lt h
      rw [List.drop_eq_nil_of_le hi, List.append_nil]

theorem utf8_eq (s : String) : utf8 s = s.toUTF8.data.toList := toList_loop s.toUTF8 0 []

/-- **The bytes of a text encode it.** -/
theorem ofUtf8?_utf8 (s : String) : ofUtf8? (utf8 s) = some s := by
  unfold ofUtf8?
  rw [utf8_eq, Array.toArray_toList]
  exact dif_pos s.isValidUTF8

/-! ## Line ends -/

theorem unifyLineEndsChars_eq_self {cs : List Char} (h : '\r' ∉ cs) : unifyLineEndsChars cs = cs := by
  fun_induction unifyLineEndsChars cs with
  | case1 cs ih => exact absurd List.mem_cons_self h
  | case2 cs _ ih => exact absurd List.mem_cons_self h
  | case3 c cs _ _ ih => rw [ih fun hmem => h (List.mem_cons_of_mem _ hmem)]
  | case4 => rfl

theorem unifyLineEnds_eq_self {s : String} (h : '\r' ∉ s.toList) : unifyLineEnds s = s := by
  unfold unifyLineEnds
  rw [unifyLineEndsChars_eq_self h, String.ofList_toList]

/-! ## Trimming -/

/-- What is dropped at the end is what stands behind the last character that stays. -/
theorem dropEndWhile_append {p : Char → Bool} {d : Char} {ends : List Char} (hd : p d = false)
    (hends : ∀ c ∈ ends, p c = true) (cs : List Char) :
    dropEndWhile p (cs ++ d :: ends) = cs ++ [d] := by
  have hreverse : (cs ++ d :: ends).reverse = ends.reverse ++ d :: cs.reverse := by
    rw [List.reverse_append, List.reverse_cons, List.append_assoc, List.singleton_append]
  have hall : ∀ c ∈ ends.reverse, p c = true := fun c hc => hends c (List.mem_reverse.mp hc)
  unfold dropEndWhile
  rw [hreverse, List.dropWhile_append_of_pos hall, List.dropWhile_cons_of_neg (by rw [hd]; decide),
    List.reverse_cons, List.reverse_reverse]

/-- A text between two characters that are no blanks loses the blanks behind it, and nothing else. -/
theorem trimChars_framed {c d : Char} {ends : List Char} (hc : isBlank c = false) (hd : isBlank d = false)
    (hends : ∀ b ∈ ends, isBlank b = true) (cs : List Char) :
    trimChars (c :: cs ++ d :: ends) = c :: cs ++ [d] := by
  unfold trimChars
  rw [List.cons_append, List.dropWhile_cons_of_neg (by rw [hc]; decide), ← List.cons_append]
  exact dropEndWhile_append hd hends (c :: cs)

/-- A text without blanks stays as it is. -/
theorem trimChars_eq_self {cs : List Char} (h : ∀ c ∈ cs, isBlank c = false) : trimChars cs = cs := by
  have hdrop : ∀ ds : List Char, (∀ c ∈ ds, isBlank c = false) → ds.dropWhile isBlank = ds := by
    intro ds hds
    cases ds with
    | nil => rfl
    | cons d ds =>
        have hd : isBlank d = false := hds d List.mem_cons_self
        rw [List.dropWhile_cons_of_neg (by simp [hd])]
  have hreverse : ∀ c ∈ cs.reverse, isBlank c = false := fun c hc => h c (List.mem_reverse.mp hc)
  unfold trimChars dropEndWhile
  rw [hdrop cs h, hdrop cs.reverse hreverse, List.reverse_reverse]

end ApiReconciler.Text
