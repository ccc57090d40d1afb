import ApiReconciler.Binding.Bind
import ApiReconciler.Proofs.ArrivalMap
import ApiReconciler.Proofs.Lists
import ApiReconciler.Proofs.Members

/-!
# `ApiReconciler.Proofs.Binding.Mapping` — request parameters are mapped by their grammar

A key is taken apart from the front: a fixed beginning, a place that ends at the first dot, and the rest as the
name. It is put together again from the place and the name, once for each side. The three places contain no
dot, so the first dot is always the one between the place and the name, whatever dots the name has; this is
what makes the keys that are accepted exactly those that are written as request parameters
(`mapRequestParameter_eq_ok_iff`).

The mappings of a method are merged into one map, where a mapping with the same key on the integration's side
would replace an earlier one. Both sides of a mapping are the same place and name behind a fixed beginning, so
this happens only for a parameter that is declared twice (`RequestParameter.integrationKey_inj`), and a method
declares none twice.

## Contents
- `ParameterLocation`, `RequestParameter`: request parameters and how they are written on both sides.
- `mapRequestParameter_eq_ok_iff`, `key_of_mapRequestParameter_error`: one key.
- `mapRequestParameters_ok_iff`, `mapRequestParameters_error_iff`: the keys up to the first fault.
- `requestParameters_mapped`: keys and methods together.
-/

namespace ApiReconciler

/-! ## Request parameters -/

/-- A place in a request. -/
inductive ParameterLocation
  | path
  | querystring
  | header
deriving DecidableEq, Repr

/-- The word for a place. -/
def ParameterLocation.word : ParameterLocation → String
  | .path => "path"
  | .querystring => "querystring"
  | .header => "header"

/-- A request parameter has its place in the request and a name there. -/
structure RequestParameter where
  location : ParameterLocation
  name : String
  named : name ≠ ""

namespace RequestParameter

/-- The place and the name. -/
def suffix (p : RequestParameter) : String := p.location.word ++ "." ++ p.name

/-- The parameter as a method declares it. -/
def methodKey (p : RequestParameter) : String := "method.request." ++ p.suffix

/-- The parameter as an integration takes it. -/
def integrationKey (p : RequestParameter) : String := "integration.request." ++ p.suffix

/-- Where an integration takes the parameter from. -/
def mapping (p : RequestParameter) : String × String := (p.integrationKey, p.methodKey)

variable {p q : RequestParameter}

/-- **Integrations take different parameters of a method under different keys.** -/
theorem integrationKey_inj : p.integrationKey = q.integrationKey ↔ p.methodKey = q.methodKey := by
  have hleft : p.integrationKey = q.integrationKey ↔ p.suffix = q.suffix := String.append_right_inj _
  have hright : p.methodKey = q.methodKey ↔ p.suffix = q.suffix := String.append_right_inj _
  exact hleft.trans hright.symm

end RequestParameter

theorem mem_parameterLocations_iff {word : String} :
    word ∈ parameterLocations ↔ ∃ l : ParameterLocation, word = l.word := by
  constructor
  · intro h
    rcases List.mem_cons.mp h with rfl | h
    · exact ⟨.path, rfl⟩
    · rcases List.mem_cons.mp h with rfl | h
      · exact ⟨.querystring, rfl⟩
      · exact ⟨.header, List.mem_singleton.mp h⟩
  · rintro ⟨l, rfl⟩
    cases l <;> simp [parameterLocations, ParameterLocation.word]

theorem ParameterLocation.no_dot (l : ParameterLocation) :
    ∀ c ∈ l.word.toList, decide (c ≠ '.') = true := by
  cases l <;> simp [word]

/-! ## One key -/

/-- The key that a fault is about. -/
def MappingFault.key : MappingFault → String
  | .foreignKey key => key
  | .unknownLocation key _ => key
  | .noName key => key

section

variable {key : String} {mapping : String × String} {fault : MappingFault}

theorem RequestParameter.toList_suffix (p : RequestParameter) :
    p.suffix.toList = p.location.word.toList ++ '.' :: p.name.toList := by
  simp [suffix]

theorem RequestParameter.toList_methodKey (p : RequestParameter) :
    p.methodKey.toList = methodRequest ++ p.suffix.toList := by
  unfold methodKey methodRequest
  rw [String.toList_append]

theorem RequestParameter.toList_integrationKey (p : RequestParameter) :
    p.integrationKey.toList = integrationRequest ++ p.suffix.toList := by
  unfold integrationKey integrationRequest
  rw [String.toList_append]

/-- With something behind it, the first dot parts a text in two. -/
theorem eq_append_dot {rest : List Char} (h : (rest.dropWhile (· ≠ '.')).drop 1 ≠ []) :
    rest.takeWhile (· ≠ '.') ++ '.' :: (rest.dropWhile (· ≠ '.')).drop 1 = rest := by
  have hboth := List.takeWhile_append_dropWhile (p := fun c => decide (c ≠ '.')) (l := rest)
  cases hdrop : rest.dropWhile (· ≠ '.') with
  | nil => exact absurd (by rw [hdrop, List.drop_nil]) h
  | cons c name =>
      have hstop : decide (c ≠ '.') = false := stop_of_mem_head? (l := rest) (by rw [hdrop]; rfl)
      have hdot : c = '.' := by simpa using hstop
      rw [hdrop, hdot] at hboth
      exact hboth

/-- A text that begins with the word for a place, and has a dot and something behind that, is a place and a
name. -/
theorem exists_suffix {rest : List Char} {l : ParameterLocation}
    (hl : l.word = String.ofList (rest.takeWhile (· ≠ '.')))
    (h : (rest.dropWhile (· ≠ '.')).drop 1 ≠ []) : ∃ p : RequestParameter, p.suffix.toList = rest := by
  have hnamed : String.ofList ((rest.dropWhile (· ≠ '.')).drop 1) ≠ "" := by simpa using h
  refine ⟨⟨l, _, hnamed⟩, ?_⟩
  rw [RequestParameter.toList_suffix, hl, String.toList_ofList, String.toList_ofList, eq_append_dot h]

/-- A request parameter is mapped: the first dot behind the beginning is the one behind its place. -/
theorem mapRequestParameter_methodKey (p : RequestParameter) :
    mapRequestParameter p.methodKey = .ok p.mapping := by
  have hdot : ∀ c ∈ ('.' :: p.name.toList).head?, decide (c ≠ '.') = false := by simp
  have hbegins : methodRequest.isPrefixOf p.methodKey.toList = true := by
    rw [p.toList_methodKey]
    exact List.isPrefixOf_iff_prefix.mpr (List.prefix_append _ _)
  have hrest : p.methodKey.toList.drop methodRequest.length =
      p.location.word.toList ++ '.' :: p.name.toList := by
    rw [p.toList_methodKey, List.drop_left, p.toList_suffix]
  have hlocation := takeWhile_append_stop p.location.no_dot hdot
  have hname := dropWhile_append_stop p.location.no_dot hdot
  have hknown : p.location.word ∈ parameterLocations := mem_parameterLocations_iff.mpr ⟨_, rfl⟩
  have hnamed : p.name.toList ≠ [] := by simpa using p.named
  unfold mapRequestParameter
  simp only [hbegins, if_true, hrest, hlocation, hname, List.drop_one, List.tail_cons, String.ofList_toList,
    hknown, not_true_eq_false, if_false, hnamed]
  rw [← p.toList_suffix, ← p.toList_methodKey, ← p.toList_integrationKey, String.ofList_toList,
    String.ofList_toList, RequestParameter.mapping]

/-- **Exactly the keys that are written as request parameters are mapped**, to the same place and name. -/
theorem mapRequestParameter_eq_ok_iff :
    mapRequestParameter key = .ok mapping ↔ ∃ p : RequestParameter, key = p.methodKey ∧ mapping = p.mapping := by
  constructor
  · intro h
    unfold mapRequestParameter at h
    simp only at h
    split at h
    · next hbegins =>
      split at h
      · cases h
      · next hknown =>
        split at h
        · cases h
        · next hnamed =>
          obtain ⟨l, hl⟩ := mem_parameterLocations_iff.mp (not_not.mp hknown)
          obtain ⟨rest, hrest⟩ := List.isPrefixOf_iff_prefix.mp hbegins
          rw [← hrest, List.drop_left] at h hl hnamed
          rw [eq_append_dot hnamed] at h
          obtain ⟨p, hp⟩ := exists_suffix hl.symm hnamed
          have hmethod : p.methodKey.toList = methodRequest ++ rest := by
            rw [p.toList_methodKey, hp]
          have hintegration : p.integrationKey.toList = integrationRequest ++ rest := by
            rw [p.toList_integrationKey, hp]
          refine ⟨p, ?_, ?_⟩
          · rw [← String.toList_inj, hmethod, hrest]
          · rw [← Except.ok.inj h, ← hmethod, ← hintegration, String.ofList_toList, String.ofList_toList,
              RequestParameter.mapping]
    · cases h
  · rintro ⟨p, rfl, rfl⟩
    exact mapRequestParameter_methodKey p

/-- The fault is about the key. -/
theorem key_of_mapRequestParameter_error (h : mapRequestParameter key = .error fault) : fault.key = key := by
  unfold mapRequestParameter at h
  simp only at h
  split at h
  · split at h
    · rw [← Except.error.inj h, MappingFault.key]
    · split at h
      · rw [← Except.error.inj h, MappingFault.key]
      · cases h
  · rw [← Except.error.inj h, MappingFault.key]

end

/-! ## The keys in order -/

section

variable {keys : List String} {ms : List (String × String)} {fault : MappingFault}

theorem mapRequestParameters_cons_ok {key : String} :
    mapRequestParameters (key :: keys) = .ok ms ↔
      ∃ m rest, mapRequestParameter key = .ok m ∧ mapRequestParameters keys = .ok rest ∧ ms = m :: rest := by
  rw [mapRequestParameters]
  cases mapRequestParameter key with
  | error e => simp
  | ok m =>
      cases mapRequestParameters keys with
      | error e => simp [Except.map]
      | ok rest => simp [Except.map, eq_comm]

theorem mapRequestParameters_cons_error {key : String} :
    mapRequestParameters (key :: keys) = .error fault ↔
      mapRequestParameter key = .error fault ∨
        (∃ m, mapRequestParameter key = .ok m) ∧ mapRequestParameters keys = .error fault := by
  rw [mapRequestParameters]
  cases mapRequestParameter key with
  | error e => simp
  | ok m =>
      cases mapRequestParameters keys with
      | error e => simp [Except.map]
      | ok rest => simp [Except.map]

/-- All keys are mapped exactly if all of them are request parameters, each to its own mapping. -/
theorem mapRequestParameters_ok_iff :
    mapRequestParameters keys = .ok ms ↔
      ∃ ps : List RequestParameter, keys = ps.map (·.methodKey) ∧ ms = ps.map (·.mapping) := by
  induction keys generalizing ms with
  | nil =>
      constructor
      · intro h
        exact ⟨[], rfl, (Except.ok.inj h).symm⟩
      · rintro ⟨ps, hps, rfl⟩
        rw [List.map_eq_nil_iff.mp hps.symm]
        rfl
  | cons key keys ih =>
      rw [mapRequestParameters_cons_ok]
      constructor
      · rintro ⟨m, rest, hm, hrest, rfl⟩
        obtain ⟨p, rfl, rfl⟩ := mapRequestParameter_eq_ok_iff.mp hm
        obtain ⟨ps, rfl, rfl⟩ := ih.mp hrest
        exact ⟨p :: ps, rfl, rfl⟩
      · rintro ⟨ps, hkeys, rfl⟩
        cases ps with
        | nil => cases hkeys
        | cons p ps =>
            obtain ⟨rfl, rfl⟩ := List.cons_eq_cons.mp hkeys
            exact ⟨_, _, mapRequestParameter_methodKey p, ih.mpr ⟨ps, rfl, rfl⟩, rfl⟩

/-- A fault is that of the first key that is no request parameter. -/
theorem mapRequestParameters_error_iff :
    mapRequestParameters keys = .error fault ↔
      ∃ ps : List RequestParameter, ∃ key after, keys = ps.map (·.methodKey) ++ key :: after ∧
        mapRequestParameter key = .error fault := by
  induction keys with
  | nil =>
      refine iff_of_false nofun ?_
      rintro ⟨ps, key, after, hkeys, -⟩
      simp at hkeys
  | cons first keys ih =>
      rw [mapRequestParameters_cons_error]
      constructor
      · rintro (hfirst | ⟨⟨m, hm⟩, hkeys⟩)
        · exact ⟨[], first, keys, rfl, hfirst⟩
        · obtain ⟨p, rfl, -⟩ := mapRequestParameter_eq_ok_iff.mp hm
          obtain ⟨ps, key, after, rfl, hkey⟩ := ih.mp hkeys
          exact ⟨p :: ps, key, after, rfl, hkey⟩
      · rintro ⟨ps, key, after, hkeys, hkey⟩
        cases ps with
        | nil =>
            obtain ⟨rfl, rfl⟩ := List.cons_eq_cons.mp hkeys
            exact .inl hkey
        | cons p ps =>
            obtain ⟨rfl, rfl⟩ := List.cons_eq_cons.mp hkeys
            exact .inr ⟨⟨_, mapRequestParameter_methodKey p⟩, ih.mpr ⟨ps, key, after, rfl, hkey⟩⟩

end

/-! ## The parameters of a method -/

/-- The keys of a record are the texts among them. -/
theorem Object.IsRecord.map_fst {ms : Object} (h : ms.IsRecord) :
    ms.map Prod.fst = (ms.filterMap fun p => (Value.scalar p.1).text?).map Scalar.text := by
  induction ms with
  | nil => rfl
  | cons m ms ih =>
      obtain ⟨k, v⟩ := m
      obtain ⟨name, rfl⟩ : ∃ name, k = .text name := h.texts (k, v) List.mem_cons_self
      rw [List.map_cons, ih h.tail, List.filterMap_cons]
      rfl

/-- The mappings of different parameters are merged without one replacing another. -/
theorem merge_mappings {ps : List RequestParameter} (h : (ps.map (·.methodKey)).Nodup) :
    (ps.map (·.integrationKey)).Nodup ∧
      (ps.map (·.mapping)).foldl (fun acc p => ArrivalMap.set p.1 p.2 acc) [] = ps.map (·.mapping) := by
  have hkeys : (ps.map (·.integrationKey)).Nodup := by
    refine List.pairwise_map.mpr ((List.pairwise_map.mp h).imp ?_)
    intro p q hne heq
    exact hne (RequestParameter.integrationKey_inj.mp heq)
  have hfst : (ps.map (·.mapping)).map Prod.fst = ps.map (·.integrationKey) := by
    rw [List.map_map]
    rfl
  refine ⟨hkeys, ArrivalMap.foldl_set_of_nodup (m := []) ?_⟩
  rw [List.nil_append, hfst]
  exact hkeys

/-- **Request parameters are mapped by their grammar, and none is lost.** A key is mapped exactly if it consists
of the beginning of a method's request parameters, one of the three places, a dot and a name, which may have
dots of its own. It is then mapped to itself from the same place and name behind the beginning of an
integration's request parameters. The mappings of a method are refused with the fault of the first declared
parameter that is not of this form, which is a fault about that parameter. Otherwise there is one mapping for
each declared parameter, in the order of the declarations, and no two of them have the same key. -/
theorem requestParameters_mapped :
    (∀ key mapping, mapRequestParameter key = .ok mapping ↔
      ∃ p : RequestParameter, key = p.methodKey ∧ mapping = (p.integrationKey, key)) ∧
    ∀ m : Method, m.parameters.IsRecord →
      (∃ ps : List RequestParameter, ∃ key after fault,
        m.parameters.map Prod.fst = (ps.map (·.methodKey) ++ key :: after).map Scalar.text ∧
          (∀ p : RequestParameter, key ≠ p.methodKey) ∧ fault.key = key ∧
          mapRequestParameter key = .error fault ∧ m.mappings = .error fault) ∨
      ∃ ps : List RequestParameter,
        m.parameters.map Prod.fst = (ps.map (·.methodKey)).map Scalar.text ∧
          m.mappings = .ok (ps.map fun p => (p.integrationKey, p.methodKey)) ∧
          (ps.map (·.integrationKey)).Nodup := by
  constructor
  · intro key mapping
    rw [mapRequestParameter_eq_ok_iff]
    constructor
    · rintro ⟨p, rfl, rfl⟩
      exact ⟨p, rfl, rfl⟩
    · rintro ⟨p, rfl, rfl⟩
      exact ⟨p, rfl, rfl⟩
  · intro m hm
    have hdeclared : m.parameters.map Prod.fst = m.parameterNames.map Scalar.text := hm.map_fst
    unfold Method.mappings
    cases hmaps : mapRequestParameters m.parameterNames with
    | error fault =>
        obtain ⟨ps, key, after, hkeys, hkey⟩ := mapRequestParameters_error_iff.mp hmaps
        left
        refine ⟨ps, key, after, fault, by rw [hdeclared, hkeys], ?_,
          key_of_mapRequestParameter_error hkey, hkey, rfl⟩
        rintro p rfl
        rw [mapRequestParameter_methodKey p] at hkey
        cases hkey
    | ok ms =>
        obtain ⟨ps, hkeys, rfl⟩ := mapRequestParameters_ok_iff.mp hmaps
        have hdistinct : (ps.map (·.methodKey)).Nodup := by
          have htexts := hm.distinct
          rw [hdeclared, hkeys] at htexts
          exact htexts.of_map _
        obtain ⟨hnodup, hmerged⟩ := merge_mappings hdistinct
        right
        refine ⟨ps, by rw [hdeclared, hkeys], ?_, hnodup⟩
        rw [Except.map, hmerged]
        rfl

/-- A name may have dots of its own, and the two parameters of this method have the same name in different
places. -/
theorem dottedParameters_mapped :
    let m : Method := ⟨"GET", [(.text "method.request.header.X-Trace.Id", .bool true),
      (.text "method.request.path.X-Trace.Id", .bool true)]⟩
    m.parameters.IsRecord ∧
      m.mappings = .ok
        [("integration.request.header.X-Trace.Id", "method.request.header.X-Trace.Id"),
          ("integration.request.path.X-Trace.Id", "method.request.path.X-Trace.Id")] ∧
      ∃ ps : List RequestParameter,
        m.parameters.map Prod.fst = (ps.map (·.methodKey)).map Scalar.text ∧
          m.mappings = .ok (ps.map fun p => (p.integrationKey, p.methodKey)) ∧
          (ps.map (·.integrationKey)).Nodup := by
  intro m
  have hm : m.parameters.IsRecord := by
    refine ⟨?_, by decide⟩
    intro p hp
    rcases List.mem_cons.mp hp with rfl | hp
    · exact ⟨_, rfl⟩
    · rw [List.mem_singleton.mp hp]
      exact ⟨_, rfl⟩
  have hmaps : m.mappings = .ok
      [("integration.request.header.X-Trace.Id", "method.request.header.X-Trace.Id"),
        ("integration.request.path.X-Trace.Id", "method.request.path.X-Trace.Id")] := by
    decide +kernel
  refine ⟨hm, hmaps, ?_⟩
  rcases requestParameters_mapped.2 m hm with ⟨-, -, -, fault, -, -, -, -, hfault⟩ | hmapped
  · rw [hmaps] at hfault
    cases hfault
  · exact hmapped

end ApiReconciler
