import ApiReconciler.Text.Utf8
import ApiReconciler.Value.Basic

/-!
# `ApiReconciler.Gateway.Call` — calls of the provisioning interface

## Contents
- `Operation`: the operations of the interface, by name.
- `Call`: one call with what it carries; `Listing`: a paginated listing, which takes one call per
  page. `Call.operation`, `Call.arguments` and their counterparts give the written form.
-/

namespace ApiReconciler

/-- The operations of the provisioning interface, after the two that open a client. -/
inductive Operation
  | openSession
  | openClient
  | importApi
  | overwriteApi
  | getApi
  | getApis
  | deleteApi
  | exportApi
  | getResources
  | getMethod
  | putMethod
  | updateMethod
  | putMethodResponse
  | updateMethodResponse
  | putIntegration
  | getIntegration
  | putIntegrationResponse
  | updateIntegrationResponse
  | getAuthorizers
  | createAuthorizer
  | deleteAuthorizer
  | createDeployment
  | getDeployments
  | deleteDeployment
  | getStages
  | deleteStage
deriving DecidableEq, Repr

/-- The name of an operation in messages. -/
def Operation.name : Operation → String
  | .openSession => "open_session"
  | .openClient => "open_client"
  | .importApi => "import_rest_api"
  | .overwriteApi => "put_rest_api"
  | .getApi => "get_rest_api"
  | .getApis => "get_rest_apis"
  | .deleteApi => "delete_rest_api"
  | .exportApi => "get_export"
  | .getResources => "get_resources"
  | .getMethod => "get_method"
  | .putMethod => "put_method"
  | .updateMethod => "update_method"
  | .putMethodResponse => "put_method_response"
  | .updateMethodResponse => "update_method_response"
  | .putIntegration => "put_integration"
  | .getIntegration => "get_integration"
  | .putIntegrationResponse => "put_integration_response"
  | .updateIntegrationResponse => "update_integration_response"
  | .getAuthorizers => "get_authorizers"
  | .createAuthorizer => "create_authorizer"
  | .deleteAuthorizer => "delete_authorizer"
  | .createDeployment => "create_deployment"
  | .getDeployments => "get_deployments"
  | .deleteDeployment => "delete_deployment"
  | .getStages => "get_stages"
  | .deleteStage => "delete_stage"

/-! ## Parts of calls -/

/-- A method of a resource of an API. -/
structure MethodRef where
  api : String
  resource : String
  verb : String
deriving DecidableEq, Repr

/-- One operation of a patch. -/
structure Patch where
  op : String
  path : Option String
  value : Option String
deriving DecidableEq, Repr

/-- Texts by name, in order. -/
abbrev TextMap := List (String × String)

/-- An integration of a method; what is absent is not sent. -/
structure Integration where
  kind : String
  uri : Option String
  verb : Option String
  parameters : Option TextMap
  templates : Option TextMap
deriving DecidableEq, Repr

/-- A token authorizer to be created. -/
structure AuthorizerSpec where
  name : String
  uri : String
  credentials : String
  identitySource : String
deriving DecidableEq, Repr

/-- The options of a client; the keys are an access key and its secret. -/
structure ClientOptions where
  connectTimeout : Int
  readTimeout : Int
  maxAttempts : Int
  keys : Option (String × String)
deriving DecidableEq, Repr

/-! ## Calls -/

/-- A call of the provisioning interface. -/
inductive Call
  | openSession (region : String) (profile : Option String)
  | openClient (options : ClientOptions)
  | importApi (body : String)
  | overwriteApi (api body : String)
  | getApi (api : String)
  | deleteApi (api : String)
  | exportApi (api stage format accepts : String)
  | getMethod (m : MethodRef)
  | putMethod (m : MethodRef) (authorization : String)
  | updateMethod (m : MethodRef) (patches : List Patch)
  | putMethodResponse (m : MethodRef) (status : String) (parameters : List (String × Bool))
  | updateMethodResponse (m : MethodRef) (status : String) (patches : List Patch)
  | putIntegration (m : MethodRef) (integration : Integration)
  | getIntegration (m : MethodRef)
  | putIntegrationResponse (m : MethodRef) (status : String) (templates parameters : Option TextMap)
  | updateIntegrationResponse (m : MethodRef) (status : String) (patches : List Patch)
  | createAuthorizer (api : String) (spec : AuthorizerSpec)
  | deleteAuthorizer (api id : String)
  | createDeployment (api stage : String)
  | deleteDeployment (api id : String)
  | getStages (api : String)
  | deleteStage (api stage : String)
deriving DecidableEq, Repr

/-- A listing that takes as many calls as it has pages. -/
inductive Listing
  | apis
  | resources (api : String)
  | authorizers (api : String)
  | deployments (api : String)
deriving DecidableEq, Repr

/-- The operation of a call. -/
def Call.operation : Call → Operation
  | .openSession .. => .openSession
  | .openClient .. => .openClient
  | .importApi .. => .importApi
  | .overwriteApi .. => .overwriteApi
  | .getApi .. => .getApi
  | .deleteApi .. => .deleteApi
  | .exportApi .. => .exportApi
  | .getMethod .. => .getMethod
  | .putMethod .. => .putMethod
  | .updateMethod .. => .updateMethod
  | .putMethodResponse .. => .putMethodResponse
  | .updateMethodResponse .. => .updateMethodResponse
  | .putIntegration .. => .putIntegration
  | .getIntegration .. => .getIntegration
  | .putIntegrationResponse .. => .putIntegrationResponse
  | .updateIntegrationResponse .. => .updateIntegrationResponse
  | .createAuthorizer .. => .createAuthorizer
  | .deleteAuthorizer .. => .deleteAuthorizer
  | .createDeployment .. => .createDeployment
  | .deleteDeployment .. => .deleteDeployment
  | .getStages .. => .getStages
  | .deleteStage .. => .deleteStage

/-- The operation of a listing. -/
def Listing.operation : Listing → Operation
  | .apis => .getApis
  | .resources .. => .getResources
  | .authorizers .. => .getAuthorizers
  | .deployments .. => .getDeployments

/-! ## Written form -/

/-- The arguments that address a method. -/
def MethodRef.arguments (m : MethodRef) : List (String × Value) :=
  [("restApiId", .text m.api), ("resourceId", .text m.resource), ("httpMethod", .text m.verb)]

/-- An argument that is sent only when it is there. -/
def argument? (name : String) (v : Option Value) : List (String × Value) :=
  match v with
  | none => []
  | some v => [(name, v)]

/-- Texts by name as an object. -/
def TextMap.dump (m : TextMap) : Value := Value.record (m.map fun t => (t.1, .text t.2))

/-- A patch operation as an object. -/
def Patch.dump (p : Patch) : Value :=
  Value.record (("op", .text p.op) :: argument? "path" (p.path.map .text) ++
    argument? "value" (p.value.map .text))

/-- The argument with patch operations. -/
def patchArgument (ps : List Patch) : String × Value := ("patchOperations", .list (ps.map Patch.dump))

/-- A text as bytes, which all texts have here. -/
def bodyArgument (body : String) : String × Value := ("body", .scalar (.bytes (Text.utf8 body)))

/-- The arguments of an integration. -/
def Integration.arguments (i : Integration) : List (String × Value) :=
  ("type", .text i.kind) :: argument? "uri" (i.uri.map .text) ++
    argument? "integrationHttpMethod" (i.verb.map .text) ++
    argument? "requestParameters" (i.parameters.map TextMap.dump) ++
    argument? "requestTemplates" (i.templates.map TextMap.dump)

/-- The arguments of a client's options. -/
def ClientOptions.arguments (o : ClientOptions) : List (String × Value) :=
  [("service", .text "apigateway"), ("connect_timeout", .int o.connectTimeout),
    ("read_timeout", .int o.readTimeout),
    ("retries", Value.record [("max_attempts", .int o.maxAttempts), ("mode", .text "standard")])] ++
    (match o.keys with
      | none => []
      | some (access, secret) =>
        [("aws_access_key_id", .text access), ("aws_secret_access_key", .text secret)])

/-- The arguments of a call by name. -/
def Call.arguments : Call → List (String × Value)
  | .openSession region profile =>
    ("region_name", .text region) :: argument? "profile_name" (profile.map .text)
  | .openClient options => options.arguments
  | .importApi body => [bodyArgument body, ("failOnWarnings", .bool false)]
  | .overwriteApi api body =>
    [("restApiId", .text api), ("mode", .text "overwrite"), bodyArgument body,
      ("failOnWarnings", .bool false)]
  | .getApi api => [("restApiId", .text api)]
  | .deleteApi api => [("restApiId", .text api)]
  | .exportApi api stage format accepts =>
    [("restApiId", .text api), ("stageName", .text stage), ("exportType", .text format),
      ("accepts", .text accepts)]
  | .getMethod m => m.arguments
  | .putMethod m authorization => m.arguments ++ [("authorizationType", .text authorization)]
  | .updateMethod m ps => m.arguments ++ [patchArgument ps]
  | .putMethodResponse m status parameters =>
    m.arguments ++ [("statusCode", .text status),
      ("responseParameters", Value.record (parameters.map fun p => (p.1, .bool p.2)))]
  | .updateMethodResponse m status ps =>
    m.arguments ++ [("statusCode", .text status), patchArgument ps]
  | .putIntegration m i => m.arguments ++ i.arguments
  | .getIntegration m => m.arguments
  | .putIntegrationResponse m status templates parameters =>
    m.arguments ++ ("statusCode", .text status) ::
      argument? "responseTemplates" (templates.map TextMap.dump) ++
      argument? "responseParameters" (parameters.map TextMap.dump)
  | .updateIntegrationResponse m status ps =>
    m.arguments ++ [("statusCode", .text status), patchArgument ps]
  | .createAuthorizer api spec =>
    [("restApiId", .text api), ("name", .text spec.name), ("type", .text "TOKEN"),
      ("authorizerUri", .text spec.uri), ("authorizerCredentials", .text spec.credentials),
      ("identitySource", .text spec.identitySource)]
  | .deleteAuthorizer api id => [("restApiId", .text api), ("authorizerId", .text id)]
  | .createDeployment api stage => [("restApiId", .text api), ("stageName", .text stage)]
  | .deleteDeployment api id => [("restApiId", .text api), ("deploymentId", .text id)]
  | .getStages api => [("restApiId", .text api)]
  | .deleteStage api stage => [("restApiId", .text api), ("stageName", .text stage)]

/-- The arguments of every call of a listing; a page limit is set for resources alone. -/
def Listing.arguments : Listing → List (String × Value)
  | .apis => []
  | .resources api => [("restApiId", .text api), ("limit", .int 500)]
  | .authorizers api => [("restApiId", .text api)]
  | .deployments api => [("restApiId", .text api)]

/-- The API that a call addresses, if it addresses one. -/
def Call.api? : Call → Option String
  | .openSession .. | .openClient .. | .importApi .. => none
  | .overwriteApi api _ | .getApi api | .deleteApi api | .exportApi api .. => some api
  | .getMethod m | .putMethod m _ | .updateMethod m _ | .putMethodResponse m ..
  | .updateMethodResponse m .. | .putIntegration m _ | .getIntegration m
  | .putIntegrationResponse m .. | .updateIntegrationResponse m .. => some m.api
  | .createAuthorizer api _ | .deleteAuthorizer api _ | .createDeployment api _
  | .deleteDeployment api _ | .getStages api | .deleteStage api _ => some api

/-- The API that a listing addresses, if it addresses one. -/
def Listing.api? : Listing → Option String
  | .apis => none
  | .resources api | .authorizers api | .deployments api => some api

/-- Arguments as log lines show them: a body is replaced by its size. -/
def describeArguments (ms : Object) : Object :=
  ms.map fun m =>
    match m with
    | (.text "body", .scalar (.bytes bs)) =>
      (.text "body", .text ("<" ++ toString bs.length ++ " bytes>"))
    | m => m

end ApiReconciler
