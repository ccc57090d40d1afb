import ApiReconciler.Proofs.Artifact
import ApiReconciler.Proofs.Deployer

/-!
# `ApiReconciler.Proofs.NormalForm` — parsed references are normal forms

A reference is parsed from an object, from an artifact, from a text or an integer in JSON, and from an identifier
that is no JSON at all. Whatever it was parsed from, it is written as an object with its members in order. That
object is the normal form: parsing it gives the reference again, and this is written as the same text.

The first half is the round trip of JSON texts, for which everything that was read has to be writable
(`Value.Denotable`) and free of floats. The second half is about order only. The members that are read back are
those of the written object, and these are in order at every level already, so taking the identifier out, putting
it back at the end and sorting again restores them (`Reference.Parsed.toValue_again`).

## Contents
- `Value.FloatFree`, `Value.Denotable.plain`: values without floats.
- `Value.Denotable.sorted_sorted`: sorting is done once and for all.
- `Reference.Parsed`, `Reference.parsed_of_parse`: references that were parsed.
- `Reference.Parsed.again_alike`, `Reference.Parsed.toValue_again`: the reference that is parsed again.
- `parsed_reference_normal`: what is parsed is a normal form, and what is not is refused by deployers.
-/

namespace ApiReconciler

/-! ## Denotable values -/

/-- A value without a float in it, at any level. -/
inductive Value.FloatFree : Value → Prop
  | scalar {s : Scalar} (h : ∀ x, s ≠ .float x) : FloatFree (.scalar s)
  | list {xs : List Value} (elements : ∀ x ∈ xs, FloatFree x) : FloatFree (.list xs)
  | object {ms : Object} (members : ∀ m ∈ ms, FloatFree m.2) : FloatFree (.object ms)

namespace Value

variable {v : Value}

/-- Without floats, what a text denotes is plain. -/
theorem Denotable.plain (h : v.Denotable) (hfloat : v.FloatFree) : v.Plain := by
  induction h with
  | scalar hs =>
      cases hs with
      | null => exact .null
      | bool b => exact .bool b
      | int _ => exact .int _
      | float _ =>
          cases hfloat with
          | scalar hno => exact absurd rfl (hno _)
      | text s => exact .text s
  | list _ ih =>
      cases hfloat with
      | list helements => exact .list fun x hx => ih x hx (helements x hx)
  | object hrecord _ ih =>
      cases hfloat with
      | object hmembers => exact .object hrecord fun m hm => ih m hm (hmembers m hm)

/-- What a text denotes has no moments in it, so it comes back as itself. -/
theorem Denotable.readBack_eq (h : v.Denotable) : v.readBack = v := by
  induction h with
  | scalar hs => cases hs <;> rfl
  | @list xs _ ih =>
      have hsame : xs.map readBack = xs := (List.map_congr_left ih).trans (List.map_id xs)
      rw [readBack, readBackList_eq, hsame]
  | @object ms _ _ ih =>
      have hsame : (ms.map fun m => (m.1, m.2.readBack)) = ms :=
        (List.map_congr_left fun m hm => congrArg (Prod.mk m.1) (ih m hm)).trans (List.map_id ms)
      rw [readBack, readBackMembers_eq, hsame]

/-- Sorting keeps values denotable. -/
theorem Denotable.sorted (h : v.Denotable) : v.sorted.Denotable := by
  induction h with
  | scalar hs => exact .scalar hs
  | list _ ih => exact sorted_list_of .list ih
  | object hrecord _ ih => exact sorted_object_of .object hrecord ih

/-- An object whose values are sorted is sorted by its members. -/
theorem sorted_object {ms : Object} (h : ∀ m ∈ ms, m.2.sorted = m.2) :
    (Value.object ms).sorted = .object (Object.sorted ms) := by
  have hsame : (ms.map fun m => (m.1, m.2.sorted)) = ms :=
    (List.map_congr_left fun m hm => congrArg (Prod.mk m.1) (h m hm)).trans (List.map_id ms)
  rw [Value.sorted, sortedMembers_eq, hsame]

/-- **Sorting is done once and for all.** -/
theorem Denotable.sorted_sorted (h : v.Denotable) : v.sorted.sorted = v.sorted := by
  induction h with
  | scalar hs => rfl
  | @list xs _ ih =>
      rw [Value.sorted, sortedList_eq, Value.sorted, sortedList_eq, List.map_map]
      exact congrArg Value.list (List.map_congr_left ih)
  | @object ms hrecord _ ih =>
      have hperm := Object.sorted_perm (ms.map fun m => (m.1, m.2.sorted))
      rw [Value.sorted, sortedMembers_eq, sorted_object]
      · -- the members are in order already
        have hsorted := (hrecord.mapValues Value.sorted).perm hperm.symm
        exact congrArg Value.object (hsorted.sorted_eq_of_perm hperm)
      · intro m hm
        obtain ⟨n, hn, rfl⟩ := List.mem_map.mp (hperm.mem_iff.mp hm)
        exact ih n hn

end Value

/-! ## Parsed references -/

namespace Reference

/-- A reference that was parsed: it names an API, its other members have no identifier, and a text denotes
them. -/
structure Parsed (r : Reference) : Prop where
  named : r.api ≠ ""
  unnamed : r.metadata.get? "id" = none
  denotable : (Value.object r.metadata).Denotable

variable {r : Reference} {v : Value} {cs : List Char} {text : String}

/-- An identifier alone is a reference. -/
theorem parsed_of_id {id : String} (h : id ≠ "") : Parsed ⟨id, []⟩ where
  named := h
  unnamed := rfl
  denotable := .object ⟨List.forall_mem_nil _, List.nodup_nil⟩ (List.forall_mem_nil _)

theorem head_denotable (h : v.Denotable) : (head v).Denotable := by
  unfold head
  split
  · next w xs =>
      cases h with
      | list helements => exact helements w List.mem_cons_self
  · exact h

theorem signed_ne_nil (n : Int) : Digits.signed n ≠ [] := by
  cases n with
  | ofNat n => exact Nat.toDigits_ne_nil
  | negSucc n => exact List.cons_ne_nil _ _

/-- A value that denotes a reference denotes one that is named, without the name among its members. -/
theorem parsed_of_ofValue? (hv : v.Denotable) (h : ofValue? v = some r) : r.Parsed := by
  unfold ofValue? at h
  split at h
  -- a text
  · split at h
    · cases h
    · next hne =>
        rw [← Option.some.inj h]
        exact parsed_of_id hne
  -- an integer
  · next n =>
      rw [← Option.some.inj h]
      exact parsed_of_id (by simpa using signed_ne_nil n)
  -- an object
  · next ms =>
      split at h
      · split at h
        · cases h
        · next hne =>
            rw [← Option.some.inj h]
            cases hv with
            | object hrecord hmembers =>
                exact ⟨hne, Object.get?_erase_self "id" ms,
                  .object (hrecord.erase "id") fun m hm => hmembers m (List.mem_of_mem_filter hm)⟩
      · cases h
  · cases h

/-- **What is parsed is named**, whatever it was parsed from. -/
theorem parsed_of_parse (h : parse text = .ok r) : r.Parsed := by
  unfold parse parseChars at h
  split at h
  · cases h
  · next hne =>
      split at h
      -- a bare identifier
      · split at h
        · cases h
        · rw [← Except.ok.inj h]
          exact parsed_of_id (by simpa using hne)
      -- a value
      · next v hv =>
          split at h
          · next s hs =>
              rw [← Except.ok.inj h]
              exact parsed_of_ofValue? (head_denotable (Json.parseChars_denotable hv)) hs
          · cases h

/-! ## Parsing again -/

/-- The reference that its written form is parsed to. -/
def again (r : Reference) : Reference := ⟨r.api, Object.erase "id" r.stored⟩

section

variable (h : r.Parsed)

include h

theorem Parsed.isRecord : r.metadata.IsRecord := by
  cases h.denotable with
  | object hrecord _ => exact hrecord

theorem Parsed.toValue_denotable : r.toValue.Denotable := by
  cases h.denotable with
  | object hrecord hmembers =>
      refine .object (hrecord.set "id" (.text r.api)) fun m hm => ?_
      rcases Object.mem_set hm with rfl | hold
      · exact .scalar (.text r.api)
      · exact hmembers m hold

/-- What is read back are the members of the written object. -/
theorem Parsed.toValue_sorted : r.toValue.sorted = .object r.stored := by
  rw [← readBack_toValue]
  exact h.toValue_denotable.sorted.readBack_eq.symm

/-- A reference without floats comes back from its text. -/
theorem Parsed.storable (hfloat : (Value.object r.metadata).FloatFree) : r.Storable where
  named := h.named
  plain := h.denotable.plain hfloat

/-- The reference that is parsed again is the same one. -/
theorem Parsed.again_alike (hfloat : (Value.object r.metadata).FloatFree) : r.again.Alike r where
  api := rfl
  metadata := by
    have hsame : (r.metadata.map fun m => (m.1, m.2.readBack)) = r.metadata := by
      rw [← Value.readBackMembers_eq]
      exact Value.object.inj h.denotable.readBack_eq
    have hothers := r.stored_perm.filter fun m => decide (m.1 ≠ .text "id")
    have herased : (Object.erase "id" r.stored).Perm (r.metadata.map fun m => (m.1, m.2.sorted.readBack)) := by
      have herase := Object.erase_mapValues (fun v => v.sorted.readBack) "id"
        (r.metadata.set (.text "id") (.text r.api))
      rw [Object.erase_set_of_none h.unnamed] at herase
      rw [← herase]
      exact hothers
    have halike : ∀ m ∈ r.metadata, m.2.sorted.readBack.Alike m.2.readBack := by
      cases h.denotable.plain hfloat with
      | object _ hmembers => exact fun m hm => (hmembers m hm).sorted_alike
    rw [← hsame]
    exact .of_perm (f := fun v => v.sorted.readBack) h.isRecord halike herased

/-- What stands in the written object is sorted. -/
theorem Parsed.stored_sorted : ∀ m ∈ r.stored, m.2.sorted = m.2 := by
  intro m hm
  obtain ⟨n, hn, rfl⟩ := List.mem_map.mp (r.stored_perm.mem_iff.mp hm)
  have hdenotable : n.2.Denotable := by
    cases h.toValue_denotable with
    | object _ hmembers => exact hmembers n hn
  show n.2.sorted.readBack.sorted = n.2.sorted.readBack
  rw [hdenotable.sorted.readBack_eq, hdenotable.sorted_sorted]

/-- **It is written as the same text**: its members are in order already. -/
theorem Parsed.toValue_again : r.again.toValue.sorted = r.toValue.sorted := by
  have hrecord := stored_isRecord h.isRecord
  have hmoved := hrecord.set_erase_perm (stored_id h.isRecord)
  have hvalues : ∀ m ∈ Object.set (.text "id") (.text r.api) (Object.erase "id" r.stored), m.2.sorted = m.2 :=
    fun m hm => h.stored_sorted m (hmoved.mem_iff.mp hm)
  calc r.again.toValue.sorted
      = .object (Object.sorted (Object.set (.text "id") (.text r.api) (Object.erase "id" r.stored))) :=
        Value.sorted_object hvalues
    _ = .object (Object.sorted r.stored) := by rw [hrecord.sorted_eq_of_perm hmoved.symm]
    _ = (Value.object r.stored).sorted := (Value.sorted_object h.stored_sorted).symm
    _ = r.toValue.sorted := by rw [← h.toValue_sorted, h.toValue_denotable.sorted_sorted]

/-- A reference that was parsed can be written. -/
theorem Parsed.written (hfloat : (Value.object r.metadata).FloatFree) : ∃ text, r.written = .ok text := by
  have hwritable : r.toValue.isWritable = true := h.toValue_denotable.portable.isWritable
  have hplain := (h.storable hfloat).toValue_plain
  exact ⟨_, written_ok_iff.mpr ⟨hplain.isWritable_sorted.mpr hwritable, String.toList_ofList⟩⟩

end

end Reference

/-! ## Deployers -/

/-- A prepared deployer reports a text that is no reference, and asks the gateway nothing. -/
structure Refuses {σ : Type} (b : Backend σ) (s : σ) (d : Deployer) (text : String) (e : Failure) : Prop where
  deploy : ∀ definition, Program.Runs b (d.deploy definition (some text)) s [] (.error e) s
  undeploy : ∀ delete, Program.Runs b (d.undeploy text delete) s [] (.error e) s
  url : d.executionUrl text = .error e

theorem refuses_of_parse {σ : Type} (b : Backend σ) (s : σ) {text : String} {e : ReferenceError}
    (h : Reference.parse text = .error e) {d : Deployer} {c : Connection} (hd : d.connection = some c) :
    Refuses b s d text (.reference e) := by
  have hrequire := Deployer.require_eq_ok.mpr hd
  have href : Deployer.reference text = .error (.reference e) := by
    rw [Deployer.reference, h]
    rfl
  refine ⟨fun definition => ?_, fun delete => ?_, ?_⟩
  · unfold Deployer.deploy
    rw [hrequire]
    simp only [href]
    exact ⟨rfl, rfl, rfl⟩
  · unfold Deployer.undeploy
    rw [hrequire, href]
    exact ⟨rfl, rfl, rfl⟩
  · simp only [Deployer.executionUrl, hrequire, href]
    rfl

/-- **A parsed reference is a normal form.** Whatever a text was that a reference was parsed from, the reference
names an API, and its other members have no identifier. If there is no float in it, it has a written form, which
is parsed to the same reference, and that one is written as the same text. A text that is no reference is reported
by every prepared deployer that is given it, before it asks the gateway anything. -/
theorem parsed_reference_normal (text : String) :
    (∀ r, Reference.parse text = .ok r →
      r.api ≠ "" ∧ r.metadata.get? "id" = none ∧
        ((Value.object r.metadata).FloatFree → ∃ written again,
          r.written = .ok written ∧ Reference.parse written = .ok again ∧ again.Alike r ∧
            again.written = .ok written)) ∧
    ∀ e, Reference.parse text = .error e →
      ∀ {σ : Type} (b : Backend σ) (s : σ) (d : Deployer), d.isReady = true →
        Refuses b s d text (.reference e) ∧ (Failure.reference e).isReported = true := by
  constructor
  · intro r hr
    have hparsed := Reference.parsed_of_parse hr
    refine ⟨hparsed.named, hparsed.unnamed, fun hfloat => ?_⟩
    obtain ⟨written, hwritten⟩ := hparsed.written hfloat
    refine ⟨written, r.again, hwritten, Reference.parse_written (hparsed.storable hfloat) hwritten,
      hparsed.again_alike hfloat, ?_⟩
    rw [Reference.written, hparsed.toValue_again]
    exact hwritten
  · intro e he σ b s d hready
    obtain ⟨c, hc⟩ := Option.isSome_iff_exists.mp hready
    exact ⟨refuses_of_parse b s he hc, rfl⟩

/-! ### An artifact and a text that is none -/

/-- An artifact with a blank in front, whose object is not in order at any level. -/
def shopArtifact : String :=
  " [\x7b\"name\": \"Shop\", \"id\": \"s1\", \"tags\": [\x7b\"b\": \"x\", \"a\": \"\"\x7d]\x7d]"

/-- The reference that is in it. -/
def shopReference : Reference where
  api := "s1"
  metadata := [(.text "name", .text "Shop"),
    (.text "tags", .list [.object [(.text "b", .text "x"), (.text "a", .text "")]])]

theorem parse_shopArtifact : Reference.parse shopArtifact = .ok shopReference := by
  simp [shopArtifact, shopReference, Reference.parse, Reference.parseChars, Text.trimChars, Text.dropEndWhile,
    Text.isBlank, Json.parseChars, Json.readValue, Json.readMembers, Json.readElements, Json.readString,
    Json.skipSpace, Json.isSpace, Json.readStringFrom, Json.readChar, Except.map, Object.ofList, Object.set,
    Scalar.same, Scalar.integer?, Reference.head, Reference.ofValue?, Object.get?, Object.erase]

theorem shopReference_floatFree : (Value.object shopReference.metadata).FloatFree := by
  have htext : ∀ t : String, (Value.text t).FloatFree := fun t => .scalar nofun
  have htag : (Value.object [(.text "b", .text "x"), (.text "a", .text "")]).FloatFree :=
    .object (List.forall_mem_cons.mpr ⟨htext _, List.forall_mem_singleton.mpr (htext _)⟩)
  exact .object (List.forall_mem_cons.mpr ⟨htext _,
    List.forall_mem_singleton.mpr (.list (List.forall_mem_singleton.mpr htag))⟩)

/-- A deployer that is prepared for a stage. -/
def shopDeployer : Deployer := ⟨.aws, some ⟨⟨"eu", "live", none, none, none, 10, 60, 3⟩, .given⟩⟩

/-- The artifact is normalized, and an object whose identifier is a list is refused. -/
theorem shopArtifact_normal :
    (Reference.parse shopArtifact = .ok shopReference ∧ (Value.object shopReference.metadata).FloatFree ∧
      ∃ written again, shopReference.written = .ok written ∧ Reference.parse written = .ok again ∧
        again.Alike shopReference ∧ again.written = .ok written) ∧
    Reference.parse "\x7b\"id\": []\x7d" = .error (.noApi "\x7b\"id\": []\x7d") ∧
      Refuses (Script.backend true) (fun _ => []) shopDeployer "\x7b\"id\": []\x7d"
        (.reference (.noApi "\x7b\"id\": []\x7d")) := by
  have hnone : Reference.parse "\x7b\"id\": []\x7d" = .error (.noApi "\x7b\"id\": []\x7d") := by
    simp [Reference.parse, Reference.parseChars, Text.trimChars, Text.dropEndWhile, Text.isBlank, Json.parseChars,
      Json.readValue, Json.readMembers, Json.readString, Json.skipSpace, Json.isSpace, Json.readStringFrom,
      Json.readChar, Except.map, Object.ofList, Object.set, Reference.head, Reference.ofValue?, Object.get?,
      Reference.excerpt]
  obtain ⟨-, -, hnormal⟩ := (parsed_reference_normal shopArtifact).1 shopReference parse_shopArtifact
  refine ⟨⟨parse_shopArtifact, shopReference_floatFree, hnormal shopReference_floatFree⟩, hnone, ?_⟩
  exact ((parsed_reference_normal _).2 _ hnone (Script.backend true) (fun _ => []) shopDeployer rfl).1

end ApiReconciler
