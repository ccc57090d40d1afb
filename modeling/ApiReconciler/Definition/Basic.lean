import ApiReconciler.Validation.Lenient

/-!
# `ApiReconciler.Definition.Basic` — API definitions

What the control plane knows about an API: its OpenAPI document, its backend, its resources and the
policies attached to them.

## Contents
- `Policy`, `Route`, `EndpointConfig`, `Definition`.
- `Definition.read`: the reader, with every fault; `Definition.dump`: all members, and
  `Definition.dumpPresent`: the members that are not null.
-/

namespace ApiReconciler

/-- A named policy of an API or of one of its operations. -/
structure Policy where
  name : String
  parameters : Object
deriving Repr

/-- A resource path and a verb with the policies of this operation. -/
structure Route where
  path : String
  verb : String
  policies : List Policy
deriving Repr

/-- The endpoint configuration: absent, a JSON text, or a mapping. -/
inductive EndpointConfig
  | absent
  | json (text : String)
  | mapping (ms : Object)
deriving Repr

/-- The control plane's view of an API. `discovered` marks one that was found on the gateway. -/
structure Definition where
  id : String
  name : String
  version : String
  context : Option String
  document : String
  endpoint : EndpointConfig
  policies : List Policy
  routes : List Route
  description : Option String
  organization : Option String
  createdTime : Option String
  discovered : Bool
deriving Repr

/-! ## Reading -/

/-- Reads a policy. -/
def Policy.read (ms : Object) : Checked Policy :=
  Policy.mk <$> Checked.required ms "policy_name" Checked.text
    <*> Checked.optional ms "parameters" [] Checked.mapping

/-- Reads a list of policies. -/
def Policy.readList : Value → Checked (List Policy) := Checked.each (Checked.record Policy.read)

/-- Reads a route. -/
def Route.read (ms : Object) : Checked Route :=
  Route.mk <$> Checked.required ms "uri_template" Checked.text
    <*> Checked.required ms "http_verb" Checked.text
    <*> Checked.optional ms "operation_policies" [] Policy.readList

/-- Reads an endpoint configuration. A value that is neither a text nor a mapping has the faults of
both readings. -/
def EndpointConfig.read (v : Value) : Checked EndpointConfig :=
  match v with
  | .null => .passed .absent
  | v =>
    match Checked.under (.field "str") (Checked.text v) with
    | .passed s => .passed (.json s)
    | .failed asText =>
      match Checked.under (.field "dict[str,any]") (Checked.mapping v) with
      | .passed ms => .passed (.mapping ms)
      | .failed asMapping => .failed (asText ++ asMapping)

namespace Definition

/-- The version of a definition that names none. -/
def defaultVersion : String := "1.0.0"

/-- Reads a definition; members of other names are ignored. -/
def read (ms : Object) : Checked Definition :=
  Definition.mk <$> Checked.required ms "id" Checked.text
    <*> Checked.required ms "name" Checked.text
    <*> Checked.optional ms "version" defaultVersion Checked.text
    <*> Checked.optional ms "context" none Checked.optionalText
    <*> Checked.required ms "swagger_definition" Checked.text
    <*> Checked.optional ms "endpoint_config" .absent EndpointConfig.read
    <*> Checked.optional ms "api_policies" [] Policy.readList
    <*> Checked.optional ms "uri_templates" [] (Checked.each (Checked.record Route.read))
    <*> Checked.optional ms "description" none Checked.optionalText
    <*> Checked.optional ms "organization" none Checked.optionalText
    <*> Checked.optional ms "created_time" none Checked.optionalText
    <*> Checked.optional ms "initiated_from_gateway" false Checked.boolean

end Definition

/-! ## Writing -/

/-- A policy as an object. -/
def Policy.dump (p : Policy) : Value :=
  Value.record [("policy_name", .text p.name), ("parameters", .object p.parameters)]

/-- A route as an object. -/
def Route.dump (r : Route) : Value :=
  Value.record
    [("uri_template", .text r.path), ("http_verb", .text r.verb),
      ("operation_policies", .list (r.policies.map Policy.dump))]

/-- An endpoint configuration as a value. -/
def EndpointConfig.dump : EndpointConfig → Value
  | .absent => .null
  | .json s => .text s
  | .mapping ms => .object ms

/-- The members of a definition in order. -/
def Definition.members (d : Definition) : List (String × Value) :=
  [("id", .text d.id), ("name", .text d.name), ("version", .text d.version),
    ("context", Value.optionalText d.context), ("swagger_definition", .text d.document),
    ("endpoint_config", d.endpoint.dump), ("api_policies", .list (d.policies.map Policy.dump)),
    ("uri_templates", .list (d.routes.map Route.dump)),
    ("description", Value.optionalText d.description),
    ("organization", Value.optionalText d.organization),
    ("created_time", Value.optionalText d.createdTime),
    ("initiated_from_gateway", .bool d.discovered)]

/-- A definition as an object with all twelve members. -/
def Definition.dump (d : Definition) : Value := Value.record d.members

/-- Whether a member is given at all. -/
def Value.isPresent : Value → Bool
  | .null => false
  | _ => true

/-- A definition as an object without the members that are null. Policies' parameters and the
endpoint configuration keep theirs. -/
def Definition.dumpPresent (d : Definition) : Value :=
  Value.record (d.members.filter fun m => m.2.isPresent)

end ApiReconciler
