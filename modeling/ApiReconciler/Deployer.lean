import ApiReconciler.Definition.Rules
import ApiReconciler.Gateway.Client
import ApiReconciler.Reconcile

/-!
# `ApiReconciler.Deployer` — deployers

A deployer is prepared for one environment and then deploys definitions, takes deployments down and
names their URLs. References are texts here, as the control plane keeps them.

That a deployer is prepared, the environment it is prepared for and the reconciler it calls are one optional field,
`Deployer.connection`. The three are never apart: a preparation sets them one after the other as the last thing it
does, when its settings are read and its client is open, and nothing fails from the first assignment on. So whoever
looks at a deployer finds all of them from the same preparation, or none.

## Contents
- `GatewayType`: the gateways there are deployers for.
- `Deployer`, prepared by `Deployer.initialize`; `Deployer.deploy`, `Deployer.undeploy`,
  `Deployer.executionUrl`.
- `Validity`: the verdict on a definition.
- `deployDefinition`: everything in one go.
-/

namespace ApiReconciler

/-! ## Gateways -/

/-- The gateways there are deployers for. -/
inductive GatewayType
  | aws
deriving DecidableEq, Repr

/-- The name of a gateway. -/
def GatewayType.name : GatewayType → String
  | .aws => "AWS"

/-- The gateway of a name in any case. -/
def GatewayType.ofName (name : String) : Except Failure GatewayType :=
  if Text.upper name = "AWS" then .ok .aws else .error (.configuration (.unsupported name))

/-! ## Verdicts -/

/-- The verdict on a definition: it can be deployed when there are no errors. -/
structure Validity where
  errors : List String
deriving DecidableEq, Repr

/-- Whether the definition can be deployed. -/
def Validity.isValid (v : Validity) : Bool := v.errors = []

/-- The verdict as an object; errors are listed only when there are some. -/
def Validity.dump (v : Validity) : Value :=
  Value.record (("valid", .bool v.isValid) ::
    (if v.errors = [] then [] else [("errors", Value.texts v.errors)]))

/-- The verdict on a definition. -/
def Definition.verdict (d : Definition) : Except Failure Validity :=
  match d.validate with
  | .error e => .error (.endpoint e)
  | .ok faults => .ok ⟨faults.map Fault.message⟩

/-! ## Deployers -/

/-- Where the calls of a deployer go: through a transport it was given, or through a client of its
own. Transports that are given are told apart by numbers. -/
inductive Transport
  | given (number : Nat := 0)
  | opened
deriving DecidableEq, Repr

/-- A deployer prepared for an environment. -/
structure Connection where
  settings : Settings
  transport : Transport
deriving DecidableEq, Repr

/-- Where a connection reconciles. -/
def Connection.target (c : Connection) : Target := ⟨c.settings.region, c.settings.stage⟩

/-- A deployer, prepared or not. -/
structure Deployer where
  gateway : GatewayType
  connection : Option Connection
deriving DecidableEq, Repr

/-- What a deployer is prepared with: a host's properties, or settings that have been read. -/
inductive Environment
  | properties (ms : Object)
  | settings (s : Settings)

namespace Deployer

/-- A deployer that is not prepared. -/
def new (gateway : GatewayType) : Deployer := ⟨gateway, none⟩

/-- Whether a deployer is prepared. -/
def isReady (d : Deployer) : Bool := d.connection.isSome

/-- The region of a prepared deployer. -/
def region (d : Deployer) : Option String := d.connection.map fun c => c.settings.region

/-- The stage of a prepared deployer. -/
def stage (d : Deployer) : Option String := d.connection.map fun c => c.settings.stage

/-- The settings of an environment. -/
def settingsOf : Environment → Except Failure Settings
  | .settings s => .ok s
  | .properties ms =>
    (Settings.ofProperties ms).toExcept.mapError fun issues =>
      .configuration (.invalidProperties issues)

/-- Prepares a deployer for an environment. A client is opened unless a transport is given; when
this fails the deployer stays as it is. -/
def prepare (d : Deployer) (e : Environment) (transport : Transport) : Program Deployer := do
  let settings ← Program.ofExcept (settingsOf e)
  if transport = .opened then openClient settings
  return { d with connection := some ⟨settings, transport⟩ }

/-- The connection of a prepared deployer. -/
def require (d : Deployer) : Except Failure Connection :=
  match d.connection with
  | some c => .ok c
  | none => .error (.configuration (.uninitialized d.gateway.name))

/-- The reference that a text denotes. -/
def reference (text : String) : Except Failure Reference :=
  (Reference.parse text).mapError .reference

/-- The written form of the reference to a deployed API. -/
def keep (r : Reference) : Program String := Program.ofExcept (r.written.mapError .document)

/-- Deploys a definition: anew without a reference, over the referenced API with one. The result is
the reference to keep. -/
def deploy (d : Deployer) (definition : Definition) (text : Option String) : Program String := do
  let c ← Program.ofExcept d.require
  match text with
  | none => do
    Program.log (.deploying definition.name)
    keep (← importApi c.target definition)
  | some text => do
    Program.log (.redeploying definition.name)
    let r ← Program.ofExcept (reference text)
    keep (← reimportApi c.target r definition)

/-- Takes a deployment down, and deletes the API on request. -/
def undeploy (d : Deployer) (text : String) (delete : Bool) : Program Unit := do
  let c ← Program.ofExcept d.require
  let r ← Program.ofExcept (reference text)
  tearDown c.target r delete

/-- The URL at which clients reach a deployment. -/
def executionUrl (d : Deployer) (text : String) : Except Failure String :=
  match d.require with
  | .error e => .error e
  | .ok c =>
    (reference text).map fun r =>
      "https://" ++ r.api ++ ".execute-api." ++ c.settings.region ++ ".amazonaws.com/" ++
        c.settings.stage

end Deployer

/-! ## Everything in one go -/

/-- What became of a deployment. -/
inductive Report
  | deployed (reference url : String)
  | invalid (validity : Validity)
  | failed (failure : Failure)
deriving DecidableEq, Repr

/-- The report as an object. -/
def Report.dump (wording : Wording) : Report → Value
  | .deployed reference url =>
    Value.record [("success", .bool true), ("reference", .text reference), ("url", .text url)]
  | .invalid v => Value.record [("success", .bool false), ("errors", Value.texts v.errors)]
  | .failed f =>
    Value.record [("success", .bool false), ("errors", Value.texts [f.message wording])]

/-- The failure of a deployment as a report, if a stage or a call reports it. -/
def reportFailure (f : Failure) : Program (Except Failure String) :=
  if f.isReported then .done (.error f) else .fail f

/-- Validates, normalizes and deploys a definition with a deployer of its own. -/
def deployDefinition (definition : Definition) (settings : Settings) (text : Option String) :
    Program Report := do
  let d ← (Deployer.new .aws).prepare (.settings settings) .opened
  let validity ← Program.ofExcept definition.verdict
  if validity.isValid then
    let result ← Program.rescue
      (Except.ok <$> d.deploy definition.normalize text)
      reportFailure
    match result with
    | .error f => return .failed f
    | .ok reference => return .deployed reference (← Program.ofExcept (d.executionUrl reference))
  else return .invalid validity

end ApiReconciler
