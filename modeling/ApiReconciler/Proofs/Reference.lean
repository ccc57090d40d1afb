import Mathlib.Data.String.Basic
import ApiReconciler.CommandLine.Run
import ApiReconciler.Proofs.Json.RoundTrip
import ApiReconciler.Proofs.Text

/-!
# `ApiReconciler.Proofs.Reference` — references are read back

A reference is written as a JSON object whose `id` names the API. Its text starts and ends with a bracket and
has no carriage return in it, so neither the trimming in front of the parser nor a file with a line end
behind the text changes what is parsed, and the JSON round trip does the rest.

## Contents
- `Reference.Storable`: references that come back from their texts.
- `Reference.stored`: the members that are read back; `Reference.stored_perm`: what they are.
- `Reference.parse_written`: **a written reference is parsed** to the same API.
- `referenceText_file`: a reference that was written to a file is read from it; `HandedOn`: the two ways
  in which a text reaches the deployer.
-/

namespace ApiReconciler

namespace Reference

/-- A reference that comes back from its text: it names an API, and what else it holds is plain. -/
structure Storable (r : Reference) : Prop where
  named : r.api ≠ ""
  plain : (Value.object r.metadata).Plain

variable {r : Reference} {text : String}

theorem Storable.isRecord (h : r.Storable) : r.metadata.IsRecord := by
  cases h.plain with
  | object hrecord _ => exact hrecord

theorem Storable.toValue_plain (h : r.Storable) : r.toValue.Plain := by
  cases h.plain with
  | object hrecord hmembers =>
      refine .object (hrecord.set "id" (.text r.api)) fun m hm => ?_
      rcases Object.mem_set hm with rfl | hold
      · exact .text r.api
      · exact hmembers m hold

/-- A reference has a written form unless an integer in it is too long. -/
theorem written_ok_iff : r.written = .ok text ↔
    r.toValue.sorted.isWritable = true ∧ text.toList = Json.compactChars r.toValue.sorted := by
  unfold written Json.written Json.compact
  split
  · next h => rw [Except.ok.injEq, String.ofList_eq, and_iff_right h, eq_comm]
  · next h => exact iff_of_false (fun he => by cases he) fun hw => h hw.1

/-! ## Members -/

/-- The members of the written object, as they are read back. -/
def stored (r : Reference) : Object := r.toValue.sorted.readBack.members

theorem readBack_toValue (r : Reference) : r.toValue.sorted.readBack = .object r.stored := rfl

/-- What is read back are the members of the object in another order, each value as it comes back. -/
theorem stored_perm (r : Reference) :
    r.stored.Perm ((r.metadata.set (.text "id") (.text r.api)).map fun m => (m.1, m.2.sorted.readBack)) := by
  change (Value.readBackMembers (Object.sorted (Value.sortedMembers _))).Perm _
  rw [Value.readBackMembers_eq, Value.sortedMembers_eq]
  have hperm := (Object.sorted_perm
    ((r.metadata.set (.text "id") (.text r.api)).map fun m => (m.1, m.2.sorted))).map
      fun m => (m.1, m.2.readBack)
  rw [List.map_map] at hperm
  exact hperm

theorem stored_isRecord (h : r.metadata.IsRecord) : r.stored.IsRecord :=
  ((h.set "id" (.text r.api)).mapValues fun v => v.sorted.readBack).perm r.stored_perm.symm

/-- The `id` that is read back names the API. -/
theorem stored_id (h : r.metadata.IsRecord) : r.stored.get? "id" = some (.text r.api) := by
  have hid := ((h.set "id" (.text r.api)).get?_eq_some_iff).mp (Object.get?_set_self "id" (.text r.api) _)
  rw [(stored_isRecord h).get?_eq_some_iff, r.stored_perm.mem_iff]
  exact List.mem_map.mpr ⟨_, hid, rfl⟩

/-! ## Parsing -/

/-- The text of a reference stands between brackets. -/
theorem compactChars_toValue (r : Reference) : ∃ inner,
    Json.compactChars r.toValue.sorted = '\x7b' :: inner ++ ['\x7d'] := ⟨_, rfl⟩

/-- **A written reference is parsed** to the same API and the members that are read back. -/
theorem parse_written (hr : r.Storable) (h : r.written = .ok text) :
    parse text = .ok ⟨r.api, Object.erase "id" r.stored⟩ := by
  obtain ⟨hwritable, htext⟩ := written_ok_iff.mp h
  have hread := Json.parseChars_compactChars hr.toValue_plain.sorted hwritable
  -- the brackets are no blanks, so trimming takes nothing away, and the text is not empty
  obtain ⟨inner, hinner⟩ := r.compactChars_toValue
  have htrim : Text.trimChars text.toList = Json.compactChars r.toValue.sorted := by
    rw [htext, hinner]
    exact Text.trimChars_framed (by decide) (by decide) (List.forall_mem_nil _) inner
  have hne : Json.compactChars r.toValue.sorted ≠ [] := by
    rw [hinner]
    exact List.cons_ne_nil _ _
  unfold parse parseChars
  rw [htrim, if_neg hne, hread, readBack_toValue]
  simp only [head, ofValue?, stored_id hr.isRecord, if_neg hr.named]

end Reference

/-! ## Files -/

/-- **A reference that was written to a file**, with a line end behind it, is what the file stands for. -/
theorem referenceText_file {r : Reference} {text : String} (hr : r.Storable) (h : r.written = .ok text)
    {files : Files} {path : String}
    (hfile : files.contents (Path.ofText path) = .ok (Text.utf8 (text ++ "\n"))) :
    CommandLine.referenceText files ("@" ++ path) = .ok text := by
  obtain ⟨-, htext⟩ := Reference.written_ok_iff.mp h
  have hprintable := Json.printable_compactChars hr.toValue_plain.sorted
  obtain ⟨inner, hinner⟩ := r.compactChars_toValue
  have hline : (text ++ "\n").toList = Json.compactChars r.toValue.sorted ++ ['\n'] := by
    rw [String.toList_append, htext]
    rfl
  have hchars : (text ++ "\n").toList = '\x7b' :: inner ++ '\x7d' :: ['\n'] := by
    rw [hline, hinner, List.append_assoc]
    rfl
  have hreturn : '\r' ∉ (text ++ "\n").toList := by
    rw [hline]
    intro hmem
    -- what is written is printable, and the line end behind it is no carriage return
    rcases List.mem_append.mp hmem with hinside | hend
    · exact absurd (hprintable _ hinside).1 (by decide)
    · exact absurd (List.mem_singleton.mp hend) (by decide)
  have hread : files.text (Path.ofText path) = .ok (text ++ "\n") := by
    unfold Files.text
    rw [hfile]
    simp only [Text.ofUtf8?_utf8, Text.unifyLineEnds_eq_self hreturn]
  have htrim : Text.trim (text ++ "\n") = text := by
    have hframed : Text.trimChars ('\x7b' :: inner ++ '\x7d' :: ['\n']) = '\x7b' :: inner ++ ['\x7d'] :=
      Text.trimChars_framed (by decide) (by decide) (List.forall_mem_singleton.mpr rfl) inner
    unfold Text.trim
    rw [hchars, hframed, ← hinner, ← htext, String.ofList_toList]
  have hpath : ("@" ++ path).toList = '@' :: path.toList := String.toList_append
  unfold CommandLine.referenceText
  rw [hpath]
  simp only [String.ofList_toList, CommandLine.fileText, hread, Except.mapError, Except.map, htrim]

/-- What the deployer is given for a text: the text itself, or what is read from a file that holds it with
a line end behind it. -/
inductive HandedOn (text : String) : String → Prop
  | direct : HandedOn text text
  | file {files : Files} {path given : String}
      (contents : files.contents (Path.ofText path) = .ok (Text.utf8 (text ++ "\n")))
      (read : CommandLine.referenceText files ("@" ++ path) = .ok given) : HandedOn text given

/-- Either way it is the text. -/
theorem HandedOn.eq {r : Reference} {text given : String} (hr : r.Storable) (h : r.written = .ok text)
    (hgiven : HandedOn text given) : given = text := by
  cases hgiven with
  | direct => rfl
  | file hcontents hread =>
      rw [referenceText_file hr h hcontents] at hread
      exact (Except.ok.inj hread).symm

end ApiReconciler
