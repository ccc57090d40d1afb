import ApiReconciler.Authorizer.Scope
import ApiReconciler.Binding.Mapping
import ApiReconciler.Definition.Endpoint
import ApiReconciler.Document.Fault
import ApiReconciler.Gateway.Answer
import ApiReconciler.Reference
import ApiReconciler.Url

/-!
# `ApiReconciler.Failure` — what can go wrong

Every stage has faults of its own, and each keeps the failed call it stems from. Faults that no
stage accounts for (a reply without a member it should have, a document that is no JSON) stand
beside them.

## Contents
- The faults by stage: `ConfigurationFault`, `DefinitionFault`, `ImportFault`, `ReimportFault`,
  `AuthorizerFault`, `BindingFault`, `DeploymentFault`.
- `Failure`: all of them, with `Failure.api?`, `Failure.isReported` and `Failure.message`;
  `PolicyFault.failure`: what a policy without a key fails with.
-/

namespace ApiReconciler

/-! ## Faults by stage -/

/-- Settings are missing or cannot be used. -/
inductive ConfigurationFault
  | unreadable (path : String) (fault : ReadFault)
  | invalid (issues : List Issue)
  | invalidProperties (issues : List Issue)
  | noClient (text : String)
  | unsupported (gateway : String)
  | uninitialized (gateway : String)
deriving DecidableEq, Repr

/-- A definition cannot be read or lacks what is needed. -/
inductive DefinitionFault
  | unreadable (path : String) (fault : ReadFault)
  | invalid (path : String) (issues : List Issue)
  | endpoint (name : String) (error : EndpointConfigError)
  | noEndpoint (name : String)
deriving DecidableEq, Repr

/-- The gateway rejects a definition, or does not show what it made of it. -/
inductive ImportFault
  | rejected (name : String) (cause : CallFailure)
  | unreadable (api : String) (cause : CallFailure)
deriving DecidableEq, Repr

/-- An API cannot be overwritten; it is gone, or the gateway rejects the definition. -/
inductive ReimportFault
  | gone (api : String) (cause : CallFailure)
  | failed (api : String) (cause : CallFailure)
deriving DecidableEq, Repr

/-- The authorizers of an API cannot be synchronized. -/
inductive AuthorizerFault
  | incomplete (policy : String)
  | listing (api : String) (cause : CallFailure)
  | creating (name api : String) (cause : CallFailure)
  | deleting (id api : String) (cause : CallFailure)
deriving DecidableEq, Repr

/-- The methods of a resource cannot be bound. -/
structure BindingFault where
  path : String
  api : String
  cause : CallFailure
deriving DecidableEq, Repr

/-- The steps of deploying and removing an API. -/
inductive DeploymentStep
  | deploy (stage : String)
  | listStages
  | deleteStage (stage : String)
  | listDeployments
  | deleteDeployment (id : String)
  | deleteApi
  | vanished
  | readApi
deriving DecidableEq, Repr

/-- A step of deploying or removing an API failed. -/
structure DeploymentFault where
  step : DeploymentStep
  api : String
  cause : CallFailure
deriving DecidableEq, Repr

/-! ## All failures -/

/-- A failure. `cleanup` is the failed removal of an imported API, `rollback` one that was prompted
by the failure it carries. The failures after `rollback` belong to no stage. -/
inductive Failure
  | configuration (fault : ConfigurationFault)
  | definition (fault : DefinitionFault)
  | reference (error : ReferenceError)
  | reported (message : String)
  | call (failure : CallFailure)
  | importing (fault : ImportFault)
  | reimporting (fault : ReimportFault)
  | authorizing (fault : AuthorizerFault)
  | mapping (fault : MappingFault)
  | binding (fault : BindingFault)
  | deploying (fault : DeploymentFault)
  | cleanup (api : String) (cause : CallFailure)
  | rollback (api : String) (cause : CallFailure) (trigger : Failure)
  | missingMember (name : String)
  | malformedMember (name : String)
  | clientRefused (operation : String) (error : ServiceError)
  | negativeAttempts (attempts : Int)
  | invalid (issues : List Issue)
  | undecodable
  | document (error : Json.Error)
  | endpoint (error : Url.Error)
  | file (fault : FileFault)
  | malformedKeys
deriving DecidableEq, Repr

/-- An integer has too many digits to be written. -/
@[match_pattern] abbrev Failure.longInteger : Failure := .document (.integerTooLong none)

/-- The failure of a policy. An integer that cannot be written is the fault of no stage. -/
def PolicyFault.failure : PolicyFault → Failure
  | .incomplete policy => .authorizing (.incomplete policy)
  | .longInteger => .longInteger

/-! ## Messages -/

/-- The fault in words. -/
def ConfigurationFault.message (wording : Wording) : ConfigurationFault → String
  | .unreadable path fault =>
    "Cannot read environment file " ++ path ++ ": " ++ fault.message wording
  | .invalid issues => "Invalid gateway environment: " ++ wording (.invalid issues)
  | .invalidProperties issues =>
    "Error occurred while initializing AWS Gateway Deployer: " ++ wording (.invalid issues)
  | .noClient text => "Cannot create AWS API Gateway client: " ++ text
  | .unsupported gateway => "Unsupported gateway type: " ++ gateway ++ " (supported: AWS)"
  | .uninitialized gateway => gateway ++ " deployer is not initialized"

/-- Why an endpoint configuration is no mapping, in words. -/
def EndpointConfigError.message (wording : Wording) : EndpointConfigError → String
  | .json e => e.message wording
  | .notObject => "Endpoint configuration must be a JSON object"

/-- The fault in words. -/
def DefinitionFault.message (wording : Wording) : DefinitionFault → String
  | .unreadable path fault => "Cannot read definition file " ++ path ++ ": " ++ fault.message wording
  | .invalid path issues =>
    "Invalid API definition in " ++ path ++ ": " ++ wording (.invalid issues)
  | .endpoint name e =>
    "Invalid endpoint configuration for API " ++ name ++ ": " ++ e.message wording
  | .noEndpoint name => "API " ++ name ++ " has no production endpoint URL"

/-- The fault in words. -/
def ImportFault.message : ImportFault → String
  | .rejected name cause => "Gateway rejected definition of API " ++ name ++ ": " ++ cause.message
  | .unreadable api cause => "Failed to read resources of API " ++ api ++ ": " ++ cause.message

/-- The fault in words. -/
def ReimportFault.message : ReimportFault → String
  | .gone api _ => "API " ++ api ++ " no longer exists on the gateway"
  | .failed api cause => "Failed to overwrite API " ++ api ++ ": " ++ cause.message

/-- The fault in words. -/
def AuthorizerFault.message : AuthorizerFault → String
  | .incomplete policy => "Policy " ++ policy ++ " needs both lambdaARN and invokeRoleARN"
  | .listing api cause => "Failed to list authorizers of API " ++ api ++ ": " ++ cause.message
  | .creating name api cause =>
    "Failed to create authorizer " ++ name ++ " on API " ++ api ++ ": " ++ cause.message
  | .deleting id api cause =>
    "Failed to delete authorizer " ++ id ++ " on API " ++ api ++ ": " ++ cause.message

/-- The fault in words. -/
def BindingFault.message (f : BindingFault) : String :=
  "Failed to bind resource " ++ f.path ++ " of API " ++ f.api ++ ": " ++ f.cause.message

/-- The fault in words. -/
def DeploymentFault.message (f : DeploymentFault) : String :=
  match f.step with
  | .deploy stage =>
    "Failed to deploy API " ++ f.api ++ " to stage " ++ stage ++ ": " ++ f.cause.message
  | .listStages => "Failed to list stages of API " ++ f.api ++ ": " ++ f.cause.message
  | .deleteStage stage =>
    "Failed to delete stage " ++ stage ++ " of API " ++ f.api ++ ": " ++ f.cause.message
  | .listDeployments => "Failed to list deployments of API " ++ f.api ++ ": " ++ f.cause.message
  | .deleteDeployment id =>
    "Failed to delete deployment " ++ id ++ " of API " ++ f.api ++ ": " ++ f.cause.message
  | .deleteApi => "Failed to delete API " ++ f.api ++ ": " ++ f.cause.message
  | .vanished => "API " ++ f.api ++ " vanished after deployment"
  | .readApi => "Failed to read API " ++ f.api ++ ": " ++ f.cause.message

namespace Failure

/-- The failure in words. -/
def message (wording : Wording) : Failure → String
  | .configuration f => f.message wording
  | .definition f => f.message wording
  | .reference e => "Invalid AWS deployment reference: " ++ e.message
  | .reported text => text
  | .call f => f.message
  | .importing f => f.message
  | .reimporting f => f.message
  | .authorizing f => f.message
  | .mapping f => f.message
  | .binding f => f.message
  | .deploying f => f.message
  | .cleanup api cause => "Rollback of API " ++ api ++ " failed after 'None': " ++ cause.message
  | .rollback api cause trigger =>
    "Rollback of API " ++ api ++ " failed after '" ++ trigger.message wording ++ "': " ++
      cause.message
  | .missingMember name => Text.quoted name
  | .malformedMember name => "Malformed member " ++ name
  | .clientRefused operation e => e.text operation
  | .negativeAttempts n =>
    match (Value.int n).display? with
    | none => Json.Error.message wording (.integerTooLong none)
    | some text =>
      "Value provided to \"max_attempts\": " ++ text ++
        " must be an integer greater than or equal to zero."
  | .invalid issues => wording (.invalid issues)
  | .undecodable => wording .undecodable
  | .document e => e.message wording
  | .endpoint e => e.message
  | .file f => f.message wording
  | .malformedKeys => "Names of fields must be texts"

/-- The API that a failed stage has been working on, when it is part of the report. -/
def api? : Failure → Option String
  | .importing (.unreadable api _) => some api
  | .reimporting (.gone api _) | .reimporting (.failed api _) => some api
  | .authorizing (.listing api _) | .authorizing (.creating _ api _)
  | .authorizing (.deleting _ api _) => some api
  | .binding f => some f.api
  | .deploying f => some f.api
  | .cleanup api _ | .rollback api _ _ => some api
  | _ => none

/-- Whether the API to be overwritten is gone. -/
def isTargetMissing : Failure → Bool
  | .reimporting (.gone _ _) => true
  | _ => false

/-- Whether a failure is reported by a stage or by a call; the others escape. -/
def isReported : Failure → Bool
  | .missingMember _ | .malformedMember _ | .clientRefused _ _ | .negativeAttempts _ | .invalid _
  | .undecodable | .document _ | .endpoint _ | .file _ | .malformedKeys => false
  | _ => true

/-- The failed call that a failure stems from, if it stems from one. -/
def cause? : Failure → Option CallFailure
  | .importing (.rejected _ c) | .importing (.unreadable _ c) => some c
  | .reimporting (.gone _ c) | .reimporting (.failed _ c) => some c
  | .authorizing (.listing _ c) | .authorizing (.creating _ _ c)
  | .authorizing (.deleting _ _ c) => some c
  | .binding f => some f.cause
  | .deploying f => some f.cause
  | .cleanup _ c | .rollback _ c _ => some c
  | _ => none

end Failure

end ApiReconciler
