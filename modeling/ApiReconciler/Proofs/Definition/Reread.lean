import ApiReconciler.Definition.Rules
import ApiReconciler.Proofs.Checked

/-!
# `ApiReconciler.Proofs.Definition.Reread` — definitions read from their own dump

A definition is read leniently from an object. What was read has the fields of a definition, and is more regular
than the object was: its texts are texts, and its mappings are records. A dump of it is read as the same
definition again, whether all members are dumped or only those that are not null. The latter works because a
member that is left out is an optional one, and its reader takes null for its default.

Normalizing a definition changes the paths of its routes only, so it leaves a definition that can be read again.

## Contents
- `Policy.restores`, `Route.restores`, `EndpointConfig.restores`: the parts of a definition.
- `Definition.ReadFrom`: the reading of a definition, field by field; `Definition.IsRegular`: what holds of it then.
- `Definition.IsRegular.readFrom_dump`, `Definition.IsRegular.readFrom_dumpPresent`: definitions are read again.
-/

namespace ApiReconciler

open Checked

/-! ## Parts -/

/-- Policies are read again when their parameters are a record. -/
theorem Policy.restores : Restores (record Policy.read) Policy.dump fun p => p.parameters.IsRecord where
  holds v p hread := by
    cases v with
    | object ms =>
        obtain ⟨_, parameters, hname, hparameters, rfl⟩ := seq_eq_passed hread
        obtain ⟨name, -, rfl⟩ := map_eq_passed hname
        exact optional_holds hparameters Object.isRecord_nil restores_mapping.holds
    | scalar s => cases hread
    | list vs => cases hread
  back p hp := by
    have hname : required p.dump.members "policy_name" text = .passed p.name :=
      required_of_get? rfl (restores_text.back p.name trivial)
    have hparameters : optional p.dump.members "parameters" [] mapping = .passed p.parameters :=
      optional_of_get? rfl (restores_mapping.back p.parameters hp)
    show Policy.read p.dump.members = .passed p
    rw [Policy.read, hname, hparameters]
    rfl

theorem Policy.restores_list : Restores Policy.readList (fun ps => .list (ps.map Policy.dump))
    fun ps => ∀ p ∈ ps, p.parameters.IsRecord := Policy.restores.each

/-- Routes are read again when their policies are. -/
theorem Route.restores :
    Restores (record Route.read) Route.dump fun r => ∀ p ∈ r.policies, p.parameters.IsRecord where
  holds v r hread := by
    cases v with
    | object ms =>
        obtain ⟨_, policies, hroute, hpolicies, rfl⟩ := seq_eq_passed hread
        obtain ⟨_, verb, hpath, -, rfl⟩ := seq_eq_passed hroute
        obtain ⟨path, -, rfl⟩ := map_eq_passed hpath
        refine optional_holds (P := fun ps => ∀ p ∈ ps, p.parameters.IsRecord) hpolicies ?_
          Policy.restores_list.holds
        intro p hp
        exact absurd hp List.not_mem_nil
    | scalar s => cases hread
    | list vs => cases hread
  back r hr := by
    have hpath : required r.dump.members "uri_template" text = .passed r.path :=
      required_of_get? rfl (restores_text.back r.path trivial)
    have hverb : required r.dump.members "http_verb" text = .passed r.verb :=
      required_of_get? rfl (restores_text.back r.verb trivial)
    have hpolicies : optional r.dump.members "operation_policies" [] Policy.readList = .passed r.policies :=
      optional_of_get? rfl (Policy.restores_list.back r.policies hr)
    show Route.read r.dump.members = .passed r
    rw [Route.read, hpath, hverb, hpolicies]
    rfl

/-- A configuration that is a mapping is a record. -/
def EndpointConfig.IsRegular (c : EndpointConfig) : Prop := ∀ ms, c = .mapping ms → ms.IsRecord

theorem EndpointConfig.read_cases {v : Value} {c : EndpointConfig} (h : EndpointConfig.read v = .passed c) :
    c = .absent ∨ (∃ s, c = .json s) ∨ ∃ ms, c = .mapping ms ∧ Checked.mapping v = .passed ms := by
  unfold EndpointConfig.read at h
  split at h
  · exact .inl (Checked.passed.inj h).symm
  · split at h
    · exact .inr (.inl ⟨_, (Checked.passed.inj h).symm⟩)
    · split at h
      · next ms hms => exact .inr (.inr ⟨ms, (Checked.passed.inj h).symm, under_eq_passed.mp hms⟩)
      · cases h

/-- A text is read as a text and a mapping as a mapping, so neither becomes the other. -/
theorem EndpointConfig.restores :
    Restores EndpointConfig.read EndpointConfig.dump EndpointConfig.IsRegular where
  holds v c hread := by
    rintro ms rfl
    rcases EndpointConfig.read_cases hread with habsent | ⟨s, hjson⟩ | ⟨ns, hmapping, hns⟩
    · cases habsent
    · cases hjson
    · obtain rfl := EndpointConfig.mapping.inj hmapping
      exact restores_mapping.holds v ms hns
  back c hc := by
    cases c with
    | absent => rfl
    | json s => rfl
    | mapping ms =>
        have hms : Checked.mapping (.object ms) = .passed ms := restores_mapping.back ms (hc ms rfl)
        show EndpointConfig.read (.object ms) = .passed (.mapping ms)
        simp only [EndpointConfig.read, text, hms, Checked.fault, Checked.under]

/-! ## Members that are not null -/

/-- The members that are not null. -/
def Object.present (ms : Object) : Object := ms.filter fun m => m.2.isPresent

theorem Value.isPresent_eq_false {v : Value} (h : ¬v.isPresent = true) : v = .null := by
  unfold Value.isPresent at h
  split at h
  · rfl
  · exact absurd rfl h

section

variable {α : Type} {ms : Object} {name : String} {default a : α} {read : Value → Checked α}

theorem Object.get?_present {v : Value} (hms : ms.IsRecord) (hget : ms.get? name = some v) :
    ms.present.get? name = some v ∨ ms.present.get? name = none ∧ v = .null := by
  have hfilter := hms.get?_filter Value.isPresent name
  rw [hget, Option.filter_some] at hfilter
  split at hfilter
  · exact .inl hfilter
  · next habsent => exact .inr ⟨hfilter, Value.isPresent_eq_false habsent⟩

/-- A member that is needed is not null, if its reader refuses null. -/
theorem Checked.required_present (hms : ms.IsRecord) (h : required ms name read = .passed a)
    (hnull : ∀ a, read .null ≠ .passed a) : required ms.present name read = .passed a := by
  obtain ⟨v, hget, hv⟩ := required_eq_passed.mp h
  rcases Object.get?_present hms hget with hpresent | ⟨-, rfl⟩
  · exact required_of_get? hpresent hv
  · exact absurd hv (hnull a)

/-- A member that is null has its default, if its reader takes null for nothing else. -/
theorem Checked.optional_present (hms : ms.IsRecord) (h : Checked.optional ms name default read = .passed a)
    (hnull : ∀ a, read .null = .passed a → a = default) :
    Checked.optional ms.present name default read = .passed a := by
  rcases optional_eq_passed.mp h with ⟨hnone, rfl⟩ | ⟨v, hget, hv⟩
  · have hgone : ms.present.get? name = none := by
      unfold Object.present
      rw [hms.get?_filter, hnone]
      rfl
    exact optional_eq_passed.mpr (.inl ⟨hgone, rfl⟩)
  · rcases Object.get?_present hms hget with hpresent | ⟨hgone, rfl⟩
    · exact optional_of_get? hpresent hv
    · exact optional_eq_passed.mpr (.inl ⟨hgone, hnull a hv⟩)

end

/-! ## Definitions -/

namespace Definition

variable {d : Definition} {ms : Object}

/-- The fields of a definition are what is read from an object. -/
structure ReadFrom (ms : Object) (d : Definition) : Prop where
  id : required ms "id" text = .passed d.id
  name : required ms "name" text = .passed d.name
  version : Checked.optional ms "version" defaultVersion text = .passed d.version
  context : Checked.optional ms "context" none optionalText = .passed d.context
  document : required ms "swagger_definition" text = .passed d.document
  endpoint : Checked.optional ms "endpoint_config" .absent EndpointConfig.read = .passed d.endpoint
  policies : Checked.optional ms "api_policies" [] Policy.readList = .passed d.policies
  routes : Checked.optional ms "uri_templates" [] (each (record Route.read)) = .passed d.routes
  description : Checked.optional ms "description" none optionalText = .passed d.description
  organization : Checked.optional ms "organization" none optionalText = .passed d.organization
  createdTime : Checked.optional ms "created_time" none optionalText = .passed d.createdTime
  discovered : Checked.optional ms "initiated_from_gateway" false boolean = .passed d.discovered

theorem read_eq_passed_iff : Definition.read ms = .passed d ↔ d.ReadFrom ms := by
  constructor
  · intro h
    obtain ⟨_, _, h₁₁, hdiscovered, rfl⟩ := seq_eq_passed h
    obtain ⟨_, _, h₁₀, hcreated, rfl⟩ := seq_eq_passed h₁₁
    obtain ⟨_, _, h₉, horganization, rfl⟩ := seq_eq_passed h₁₀
    obtain ⟨_, _, h₈, hdescription, rfl⟩ := seq_eq_passed h₉
    obtain ⟨_, _, h₇, hroutes, rfl⟩ := seq_eq_passed h₈
    obtain ⟨_, _, h₆, hpolicies, rfl⟩ := seq_eq_passed h₇
    obtain ⟨_, _, h₅, hendpoint, rfl⟩ := seq_eq_passed h₆
    obtain ⟨_, _, h₄, hdocument, rfl⟩ := seq_eq_passed h₅
    obtain ⟨_, _, h₃, hcontext, rfl⟩ := seq_eq_passed h₄
    obtain ⟨_, _, h₂, hversion, rfl⟩ := seq_eq_passed h₃
    obtain ⟨_, _, h₁, hname, rfl⟩ := seq_eq_passed h₂
    obtain ⟨_, hid, rfl⟩ := map_eq_passed h₁
    exact ⟨hid, hname, hversion, hcontext, hdocument, hendpoint, hpolicies, hroutes, hdescription, horganization,
      hcreated, hdiscovered⟩
  · intro h
    rw [Definition.read, h.id, h.name, h.version, h.context, h.document, h.endpoint, h.policies, h.routes,
      h.description, h.organization, h.createdTime, h.discovered]
    rfl

/-- All mappings of a definition are records. -/
structure IsRegular (d : Definition) : Prop where
  endpoint : d.endpoint.IsRegular
  policies : ∀ p ∈ d.policies, p.parameters.IsRecord
  routes : ∀ r ∈ d.routes, ∀ p ∈ r.policies, p.parameters.IsRecord

/-- **What was read is regular.** -/
theorem ReadFrom.isRegular (h : d.ReadFrom ms) : d.IsRegular where
  endpoint := by
    refine optional_holds (P := EndpointConfig.IsRegular) h.endpoint ?_ EndpointConfig.restores.holds
    intro ms habsent
    cases habsent
  policies := by
    refine optional_holds (P := fun ps => ∀ p ∈ ps, p.parameters.IsRecord) h.policies ?_
      Policy.restores_list.holds
    intro p hp
    exact absurd hp List.not_mem_nil
  routes := by
    refine optional_holds (P := fun rs => ∀ r ∈ rs, ∀ p ∈ r.policies, p.parameters.IsRecord) h.routes ?_
      Route.restores.each.holds
    intro r hr
    exact absurd hr List.not_mem_nil

/-- Normalizing keeps the policies of the routes, and everything else. -/
theorem IsRegular.normalize (h : d.IsRegular) : d.normalize.IsRegular where
  endpoint := h.endpoint
  policies := h.policies
  routes := by
    intro r hr
    obtain ⟨route, hroute, rfl⟩ := List.mem_map.mp hr
    exact h.routes route hroute

/-- **A definition is read again from all its members.** -/
theorem IsRegular.readFrom_dump (h : d.IsRegular) : d.ReadFrom d.dump.members where
  id := required_of_get? rfl (restores_text.back d.id trivial)
  name := required_of_get? rfl (restores_text.back d.name trivial)
  version := optional_of_get? rfl (restores_text.back d.version trivial)
  context := optional_of_get? rfl (restores_optionalText.back d.context trivial)
  document := required_of_get? rfl (restores_text.back d.document trivial)
  endpoint := optional_of_get? rfl (EndpointConfig.restores.back d.endpoint h.endpoint)
  policies := optional_of_get? rfl (Policy.restores_list.back d.policies h.policies)
  routes := optional_of_get? rfl (Route.restores.each.back d.routes h.routes)
  description := optional_of_get? rfl (restores_optionalText.back d.description trivial)
  organization := optional_of_get? rfl (restores_optionalText.back d.organization trivial)
  createdTime := optional_of_get? rfl (restores_optionalText.back d.createdTime trivial)
  discovered := optional_of_get? rfl (restores_boolean.back d.discovered trivial)

/-- **Members that are null may be left out.** Null is either refused or taken for the default. -/
theorem ReadFrom.present (h : d.ReadFrom ms) (hms : ms.IsRecord) : d.ReadFrom ms.present where
  id := required_present hms h.id fun _ hnull => by cases hnull
  name := required_present hms h.name fun _ hnull => by cases hnull
  version := optional_present hms h.version fun _ hnull => by cases hnull
  context := optional_present hms h.context fun _ hnull => (Checked.passed.inj hnull).symm
  document := required_present hms h.document fun _ hnull => by cases hnull
  endpoint := optional_present hms h.endpoint fun _ hnull => (Checked.passed.inj hnull).symm
  policies := optional_present hms h.policies fun _ hnull => by cases hnull
  routes := optional_present hms h.routes fun _ hnull => by cases hnull
  description := optional_present hms h.description fun _ hnull => (Checked.passed.inj hnull).symm
  organization := optional_present hms h.organization fun _ hnull => (Checked.passed.inj hnull).symm
  createdTime := optional_present hms h.createdTime fun _ hnull => (Checked.passed.inj hnull).symm
  discovered := optional_present hms h.discovered fun _ hnull => by cases hnull

theorem isRecord_dump (d : Definition) : d.dump.members.IsRecord where
  texts := by
    intro m hm
    obtain ⟨n, -, rfl⟩ := List.mem_map.mp hm
    exact ⟨n.1, rfl⟩
  distinct := by
    have hnames : d.dump.members.map Prod.fst = ["id", "name", "version", "context", "swagger_definition",
        "endpoint_config", "api_policies", "uri_templates", "description", "organization", "created_time",
        "initiated_from_gateway"].map Scalar.text := rfl
    rw [hnames]
    decide

theorem members_dumpPresent (d : Definition) : d.dumpPresent.members = d.dump.members.present := by
  show (d.members.filter fun m => m.2.isPresent).map (fun m => (Scalar.text m.1, m.2)) =
    (d.members.map fun m => (Scalar.text m.1, m.2)).filter fun m => m.2.isPresent
  rw [List.filter_map]
  rfl

theorem isRecord_dumpPresent (d : Definition) : d.dumpPresent.members.IsRecord := by
  rw [members_dumpPresent]
  exact d.isRecord_dump.filter _

/-- **A definition is read again from its members that are not null.** -/
theorem IsRegular.readFrom_dumpPresent (h : d.IsRegular) : d.ReadFrom d.dumpPresent.members := by
  rw [members_dumpPresent]
  exact h.readFrom_dump.present d.isRecord_dump

end Definition

end ApiReconciler
