import ApiReconciler.Proofs.Gateway.Trace
import ApiReconciler.Proofs.Json.Documents
import ApiReconciler.Proofs.Reference

/-!
# `ApiReconciler.Proofs.Artifact` — the two texts of a reference

An API has two texts that refer to it. A deployment writes the object that the gateway shows, its members in
the order of their names; discovery writes the same object, its members as they come, into a list with the
document of the API behind it. Both are parsed to the same reference: the `id` of the object and its other
members, moments as their texts.

Members of an object have no order for those who look them up, so the two references are the same when their
members are, at every level, in some order (`Value.Alike`). Sorting an object keeps it alike, and both
encoders write integers of the same lengths, so the one has a text when the other has. That a document has a
text as well is where it matters that it was read from one.

## Contents
- `Value.Alike`: equality that does not see the order of members; `Value.Plain.sorted_alike`.
- `Value.Plain.isWritable_sorted`: sorting changes nothing about whether a value can be written.
- `artifactText_eq_ok_iff`, `Reference.parse_listed`: an artifact and the reference in it.
- `reference_texts_agree`: **the two texts give the same reference**.
-/

namespace ApiReconciler

/-! ## Values alike -/

/-- Equality of values in which the order of members does not count: two objects have the same names, and
what they have under a name is alike. -/
inductive Value.Alike : Value → Value → Prop
  | scalar (s : Scalar) : Alike (.scalar s) (.scalar s)
  | list {xs ys : List Value} (length : xs.length = ys.length) (elements : ∀ p ∈ xs.zip ys, Alike p.1 p.2) :
      Alike (.list xs) (.list ys)
  | object {ms ns : Object} (names : (ms.map Prod.fst).Perm (ns.map Prod.fst))
      (members : ∀ k v w, (k, v) ∈ ms → (k, w) ∈ ns → Alike v w) : Alike (.object ms) (.object ns)

namespace Value

/-- Changing the values of a record to alike ones and moving its members gives an object that is alike. -/
theorem Alike.of_perm {ms ns : Object} {f g : Value → Value} (hrecord : ms.IsRecord)
    (h : ∀ m ∈ ms, (f m.2).Alike (g m.2)) (hperm : ns.Perm (ms.map fun m => (m.1, f m.2))) :
    (Value.object ns).Alike (.object (ms.map fun m => (m.1, g m.2))) := by
  refine .object ?_ fun k v w hv hw => ?_
  · have hnames := hperm.map Prod.fst
    rw [List.map_map] at hnames ⊢
    exact hnames
  · obtain ⟨m, hm, hmv⟩ := List.mem_map.mp (hperm.mem_iff.mp hv)
    obtain ⟨n, hn, hnw⟩ := List.mem_map.mp hw
    obtain ⟨rfl, rfl⟩ := Prod.mk.inj hmv
    obtain ⟨hname, rfl⟩ := Prod.mk.inj hnw
    -- each name is given once, so both values come from the same member
    obtain rfl : n = m := List.inj_on_of_nodup_map hrecord.distinct hn hm hname
    exact h n hm

theorem readBackList_eq (xs : List Value) : readBackList xs = xs.map readBack := by
  induction xs with
  | nil => rfl
  | cons x xs ih => rw [readBackList, ih, List.map_cons]

/-- What comes back of a sorted value is alike to what comes back of the value. -/
theorem Plain.sorted_alike {v : Value} (h : v.Plain) : v.sorted.readBack.Alike v.readBack := by
  induction h with
  | null => exact .scalar .null
  | bool b => exact .scalar (.bool b)
  | int n => exact .scalar (.int n)
  | text s => exact .scalar (.text s)
  | moment m => exact .scalar _
  | @list xs _ ih =>
      rw [Value.sorted, sortedList_eq, readBack, readBack, readBackList_eq, readBackList_eq, List.map_map]
      refine .list (by rw [List.length_map, List.length_map]) fun p hp => ?_
      rw [List.zip_map'] at hp
      obtain ⟨x, hx, rfl⟩ := List.mem_map.mp hp
      exact ih x hx
  | @object ms hrecord _ ih =>
      rw [Value.sorted, sortedMembers_eq, readBack, readBack, readBackMembers_eq, readBackMembers_eq]
      refine .of_perm (f := fun v => v.sorted.readBack) hrecord ih ?_
      have hperm := (Object.sorted_perm (ms.map fun m => (m.1, m.2.sorted))).map fun m => (m.1, m.2.readBack)
      rw [List.map_map] at hperm
      exact hperm

/-- Sorting changes nothing about whether a value can be written. -/
theorem Plain.isWritable_sorted {v : Value} (h : v.Plain) :
    v.sorted.isWritable = true ↔ v.isWritable = true := by
  induction h with
  | @list xs _ ih =>
      rw [Value.sorted, sortedList_eq, isWritable, isWritable, areWritable_iff, areWritable_iff, List.forall_mem_map]
      exact forall₂_congr ih
  | @object ms hrecord _ ih =>
      have hperm := Object.sorted_perm (ms.map fun m => (m.1, m.2.sorted))
      rw [Value.sorted, sortedMembers_eq, isWritable_object_iff ((hrecord.mapValues Value.sorted).perm hperm.symm),
        isWritable_object_iff hrecord]
      calc (∀ m ∈ Object.sorted (ms.map fun m => (m.1, m.2.sorted)), m.2.isWritable = true)
          ↔ ∀ m ∈ ms.map fun m => (m.1, m.2.sorted), m.2.isWritable = true :=
            forall_congr' fun m => imp_congr_left hperm.mem_iff
        _ ↔ ∀ m ∈ ms, m.2.sorted.isWritable = true := List.forall_mem_map
        _ ↔ ∀ m ∈ ms, m.2.isWritable = true := forall₂_congr ih
  | _ => exact Iff.rfl

end Value

/-! ## Artifacts -/

/-- An object and a document can be written into an artifact as long as the object has a text. -/
theorem artifactText_eq_ok {reply : Object} {document : String} {v : Value}
    (hwritable : Value.isWritable (.object (apiMembers reply)) = true) (hdocument : Json.parse document = .ok v) :
    artifactText reply document = .ok (Json.compact (.list [.object (apiMembers reply), v])) := by
  have hparts : Value.isWritable (.list [.object (apiMembers reply), v]) = true :=
    Value.areWritable_iff.mpr (List.forall_mem_cons.mpr ⟨hwritable,
      List.forall_mem_singleton.mpr (Json.parse_portable hdocument).isWritable⟩)
  unfold artifactText
  rw [hdocument]
  exact if_pos hparts

/-- **An artifact is parsed** to the object that it starts with. -/
theorem Reference.parse_listed {ms ns : Object} {v : Value} {id : String}
    (hobject : Json.Denotes (Json.compactChars (.object ms)) (.object ns)) (hdocument : v.Portable)
    (hid : ns.get? "id" = some (.text id)) (hnamed : id ≠ "") :
    Reference.parse (Json.compact (.list [.object ms, v])) = .ok ⟨id, Object.erase "id" ns⟩ := by
  obtain ⟨w, hw⟩ := Json.exists_denotes hdocument
  have hlist : Json.Denotes (Json.compactChars (.list [.object ms, v])) (.list [.object ns, w]) :=
    Json.denotes_list (.cons hobject (.cons hw .nil))
  obtain ⟨inner, hinner⟩ : ∃ inner,
      Json.compactChars (.list [.object ms, v]) = '[' :: inner ++ [']'] := ⟨_, rfl⟩
  have htrim : Text.trimChars (Json.compactChars (.list [.object ms, v])) =
      Json.compactChars (.list [.object ms, v]) := by
    rw [hinner]
    exact Text.trimChars_framed (by decide) (by decide) (List.forall_mem_nil _) inner
  have hne : Json.compactChars (.list [.object ms, v]) ≠ [] := by
    rw [hinner]
    exact List.cons_ne_nil _ _
  unfold Reference.parse Json.compact Reference.parseChars
  rw [String.toList_ofList, htrim, if_neg hne, hlist.parseChars]
  simp only [Reference.head, Reference.ofValue?, hid, if_neg hnamed]

/-! ## The same reference -/

/-- References to the same API with the same members. -/
structure Reference.Alike (r s : Reference) : Prop where
  api : r.api = s.api
  metadata : (Value.object r.metadata).Alike (.object s.metadata)

/-- The reference that is in a reply: its `id`, and the other members as they come back. -/
def Reference.shown (id : String) (reply : Object) : Reference :=
  ⟨id, Value.readBackMembers (Object.erase "id" (apiMembers reply))⟩

section

variable {reply : Object} {id document : String} {v : Value}

/-- What is parsed from a written reference is what the reply shows. -/
theorem stored_alike_shown (hplain : (Value.object (apiMembers reply)).Plain)
    (hid : (apiMembers reply).get? "id" = some (.text id)) :
    Reference.Alike ⟨id, Object.erase "id" (Reference.stored ⟨id, apiMembers reply⟩)⟩
      (Reference.shown id reply) where
  api := rfl
  metadata := by
    cases hplain with
    | object hrecord hmembers =>
        have hperm := Reference.stored_perm ⟨id, apiMembers reply⟩
        rw [Object.set_eq_self hid] at hperm
        have hothers := hperm.filter fun m => decide (m.1 ≠ .text "id")
        rw [Reference.shown, Value.readBackMembers_eq]
        refine .of_perm (f := fun v => v.sorted.readBack) (hrecord.erase "id")
          (fun m hm => (hmembers m (List.mem_of_mem_filter hm)).sorted_alike) ?_
        exact (Object.erase_mapValues (fun v => v.sorted.readBack) "id" _) ▸ hothers

/-- **The two texts of a reference agree.** Of a reply that names an API, and a document that was read, a
deployment and discovery write two texts; both are parsed, and to the same reference. -/
theorem reference_texts_agree (hid : reply.get? "id" = some (.text id)) (hnamed : id ≠ "")
    (hplain : (Value.object (apiMembers reply)).Plain)
    (hwritable : Value.isWritable (.object (apiMembers reply)) = true)
    (hdocument : Json.parse document = .ok v) :
    ∃ ref written artifact fromWritten fromArtifact,
      (readReference id).Trace [.call (.getApi id) (.ok reply)] (.ok ref) ∧ ref.written = .ok written ∧
      artifactText reply document = .ok artifact ∧
      Reference.parse written = .ok fromWritten ∧ Reference.parse artifact = .ok fromArtifact ∧
      fromWritten.Alike (Reference.shown id reply) ∧ fromArtifact = Reference.shown id reply := by
  have hkept : (apiMembers reply).get? "id" = some (.text id) :=
    (Object.get?_erase_of_ne (by decide) reply).trans hid
  have hread : (readReference id).Trace [.call (.getApi id) (.ok reply)] (.ok ⟨id, apiMembers reply⟩) := by
    refine Program.trace_bind_ok.mpr ⟨reply, _, [], (List.append_nil _).symm, ?_, ?_⟩
    · exact Program.trace_relabel_ok.mpr (Program.trace_perform_ok.mpr rfl)
    · exact Program.trace_bind_ok.mpr ⟨id, [], [], rfl, Program.trace_textMember_ok.mpr ⟨rfl, hid⟩, rfl, rfl⟩
  have hstorable : Reference.Storable ⟨id, apiMembers reply⟩ := ⟨hnamed, hplain⟩
  have hvalue : Reference.toValue ⟨id, apiMembers reply⟩ = .object (apiMembers reply) :=
    congrArg Value.object (Object.set_eq_self hkept)
  have hwritten : Reference.written ⟨id, apiMembers reply⟩ =
      .ok (Json.compact (Reference.toValue ⟨id, apiMembers reply⟩).sorted) := by
    refine Reference.written_ok_iff.mpr ⟨?_, String.toList_ofList⟩
    rw [hvalue]
    exact hplain.isWritable_sorted.mpr hwritable
  -- the artifact holds the object as it is, so that its members come back in their order
  have hback : (Object.get? "id" (Value.readBackMembers (apiMembers reply))) = some (.text id) := by
    rw [Value.readBackMembers_eq]
    exact Object.get?_mapValues Value.readBack hkept
  have hartifact := Reference.parse_listed (Json.denotes_compactChars hplain hwritable)
    (Json.parse_portable hdocument) hback hnamed
  have hshown : Object.erase "id" (Value.readBackMembers (apiMembers reply)) =
      Value.readBackMembers (Object.erase "id" (apiMembers reply)) := by
    rw [Value.readBackMembers_eq, Value.readBackMembers_eq, Object.erase_mapValues]
  rw [hshown] at hartifact
  exact ⟨_, _, _, _, _, hread, hwritten, artifactText_eq_ok hwritable hdocument,
    Reference.parse_written hstorable hwritten, hartifact, stored_alike_shown hplain hkept, rfl⟩

end

/-! ### An API with two texts -/

/-- What the gateway shows of an API: a name in front of others that sort before it, a moment, an object in a
list, and what describes the reply alone. -/
def shopReply : Object :=
  [(.text "name", .text "Shop"), (.text "id", .text "s1"),
    (.text "createdDate", .scalar (.moment ⟨⟨2024, 5, 17⟩, 8, 30, 0, 0, some 0⟩)),
    (.text "tags", .list [.object [(.text "b", .int (-2)), (.text "a", .bool true)], .null]),
    (.text "ResponseMetadata", .object [(.text "HTTPStatusCode", .int 200)])]

/-- The document of the API. -/
def shopDocument : String := "\x7b\"paths\": []\x7d"

theorem shop_texts_agree :
    shopReply.get? "id" = some (.text "s1") ∧ (Value.object (apiMembers shopReply)).Plain ∧
      Value.isWritable (.object (apiMembers shopReply)) = true ∧
      Json.parse shopDocument = .ok (.object [(.text "paths", .list [])]) ∧
      ∃ ref written artifact fromWritten fromArtifact,
        (readReference "s1").Trace [.call (.getApi "s1") (.ok shopReply)] (.ok ref) ∧
        ref.written = .ok written ∧ artifactText shopReply shopDocument = .ok artifact ∧
        Reference.parse written = .ok fromWritten ∧ Reference.parse artifact = .ok fromArtifact ∧
        fromWritten.Alike (Reference.shown "s1" shopReply) ∧ fromArtifact = Reference.shown "s1" shopReply := by
  have hid : shopReply.get? "id" = some (.text "s1") := rfl
  have hplain : (Value.object (apiMembers shopReply)).Plain := by
    have htag : (Value.object [(.text "b", .int (-2)), (.text "a", .bool true)]).Plain := by
      refine .object ⟨?_, by decide⟩ ?_
      · exact List.forall_mem_cons.mpr ⟨⟨_, rfl⟩, List.forall_mem_singleton.mpr ⟨_, rfl⟩⟩
      · exact List.forall_mem_cons.mpr ⟨.int _, List.forall_mem_singleton.mpr (.bool _)⟩
    have htags : ∀ x ∈ [Value.object [(.text "b", .int (-2)), (.text "a", .bool true)], .null], x.Plain :=
      List.forall_mem_cons.mpr ⟨htag, List.forall_mem_singleton.mpr .null⟩
    refine .object ⟨?_, by decide⟩ ?_
    · exact List.forall_mem_cons.mpr ⟨⟨_, rfl⟩, List.forall_mem_cons.mpr ⟨⟨_, rfl⟩,
        List.forall_mem_cons.mpr ⟨⟨_, rfl⟩, List.forall_mem_singleton.mpr ⟨_, rfl⟩⟩⟩⟩
    · exact List.forall_mem_cons.mpr ⟨.text _, List.forall_mem_cons.mpr ⟨.text _,
        List.forall_mem_cons.mpr ⟨.moment _, List.forall_mem_singleton.mpr (.list htags)⟩⟩⟩
  have hwritable : Value.isWritable (.object (apiMembers shopReply)) = true := by decide
  have hdocument : Json.parse shopDocument = .ok (.object [(.text "paths", .list [])]) := by
    simp [shopDocument, Json.parse, Json.parseChars, Json.readValue, Json.readMembers, Json.readString,
      Json.skipSpace, Json.isSpace, Json.readStringFrom, Json.readChar, Except.map, Object.ofList, Object.set]
  exact ⟨hid, hplain, hwritable, hdocument,
    reference_texts_agree hid (by decide) hplain hwritable hdocument⟩

end ApiReconciler
