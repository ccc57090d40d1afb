import ApiReconciler.CommandLine.Invocation
import ApiReconciler.Deployer
import ApiReconciler.Discovery
import ApiReconciler.Table
import ApiReconciler.Text.Markup
import ApiReconciler.Yaml.Writer

/-!
# `ApiReconciler.CommandLine.Run` — commands carried out

A command ends with an exit code and an output, and may write one file. Failures that a stage
reports are part of the output; others escape.

## Contents
- `Ink`, `Piece`, `render`: outputs with coloured parts.
- `Exit`: the end of a command; `run`: a command carried out; `runArguments`: the whole program.
-/

namespace ApiReconciler.CommandLine

/-! ## Output -/

/-- How a part of the output is coloured. -/
inductive Ink
  | plain
  | red
  | boldRed
  | boldGreen
deriving DecidableEq, Repr

/-- The control sequences before a part. -/
def Ink.start : Ink → String
  | .plain => ""
  | .red => "\x1b[31m"
  | .boldRed => "\x1b[31m\x1b[1m"
  | .boldGreen => "\x1b[32m\x1b[1m"

/-- The control sequence behind a part. -/
def Ink.finish : Ink → String
  | .plain => ""
  | _ => "\x1b[0m"

/-- A part of the output. -/
structure Piece where
  ink : Ink
  text : String
deriving DecidableEq, Repr

/-- A part without colour. -/
def plainPiece (text : String) : Piece := ⟨.plain, text⟩

/-- A part with its control sequences, when colours are wanted. -/
def Piece.render (colour : Bool) (p : Piece) : String :=
  if colour then p.ink.start ++ p.text ++ p.ink.finish else p.text

/-- An output as text. -/
def render (colour : Bool) (ps : List Piece) : String := String.join (ps.map (Piece.render colour))

/-- A line of text. -/
def line (text : String) : List Piece := [plainPiece (text ++ "\n")]

/-- A line that starts with a coloured mark. -/
def markedLine (ink : Ink) (mark text : String) : List Piece :=
  [⟨ink, mark⟩, plainPiece (text ++ "\n")]

/-! ## Ends -/

/-- What a command did not handle. -/
inductive Escape
  | failure (f : Failure)
  | markup
deriving DecidableEq, Repr

/-- The end of a command: its exit code and output, the file it wrote, and what it did not
handle. -/
structure Exit where
  code : Nat
  output : List Piece
  written : Option (Path × String)
  escaped : Option Escape
deriving DecidableEq, Repr

namespace Exit

/-- A success. -/
def success (output : List Piece) : Exit := ⟨0, output, none, none⟩

/-- A failure with an exit code. -/
def failed (code : Nat) (output : List Piece) : Exit := ⟨code, output, none, none⟩

/-- Something that was not handled. -/
def escape (e : Escape) : Exit := ⟨1, [], none, some e⟩

end Exit

/-- The line of an error. -/
def errorLine (message : String) : List Piece := markedLine .boldRed "Error: " message

/-- The hint after a failed rollback. -/
def cleanupHint : String :=
  "\nThe API may still exist on the gateway and needs manual cleanup."

/-- Whether the removal of an API failed. -/
def isRollback : Failure → Bool
  | .cleanup _ _ | .rollback _ _ _ => true
  | _ => false

/-- A failure as the end of a command. -/
def endOf (wording : Wording) (f : Failure) : Exit :=
  if f.isReported then .failed 1 (errorLine (f.message wording)) else .escape (.failure f)

/-- A failed deployment as the end of a command. -/
def endOfDeployment (wording : Wording) (f : Failure) : Exit :=
  if isRollback f then .failed 2 (errorLine (f.message wording ++ cleanupHint))
  else endOf wording f

/-- A program whose failures end the command. -/
def ending (p : Program Exit) (onFailure : Failure → Exit) : Program Exit :=
  p.rescue fun f => .done (onFailure f)

/-! ## Parts of commands -/

/-- What commands work with. -/
structure Context where
  files : Files
  env : Variables
  config : Option String
  gateway : String
  wording : Wording

/-- A prepared deployer. -/
def connect (c : Context) : Program Deployer := do
  let gateway ← Program.ofExcept (GatewayType.ofName c.gateway)
  let settings ← Program.ofExcept (loadSettings c.files c.config c.env)
  (Deployer.new gateway).prepare (.settings settings) .opened

/-- A check that the gateway is a known one. -/
def requireGateway (c : Context) : Except Failure Unit :=
  (GatewayType.ofName c.gateway).map fun _ => ()

/-- The text of a file, or why there is none. -/
def fileText (files : Files) (path : Path) : Except Failure String :=
  (files.text path).mapError fun e =>
    match e with
    | .file fault => .file fault
    | _ => .undecodable

/-- A reference given directly, or in a file named behind an at sign. -/
def referenceText (files : Files) (text : String) : Except Failure String :=
  match text.toList with
  | '@' :: path => (fileText files (Path.ofText (String.ofList path))).map Text.trim
  | _ => .ok text

/-- The lines of the errors of a verdict. -/
def errorItems (v : Validity) : List Piece := v.errors.flatMap fun e => markedLine .red "  - " e

/-! ## Commands -/

/-- The end of a successful deployment. -/
def deployed (c : Context) (d : Deployer) (output : Option String) (reference : String) : Exit :=
  let target := output.filter (· ≠ "")
  let written := target.map fun path => (Path.ofText path, reference ++ "\n")
  match written.bind fun w => c.files.writeFault w.1 with
  | some fault => .escape (.failure (.file fault))
  | none =>
    match d.executionUrl reference with
    | .error f => { Exit.escape (.failure f) with written := written }
    | .ok url =>
      { Exit.success (markedLine .boldGreen "Deployed: " url ++
          (if target.isSome then [] else line reference)) with written := written }

/-- Deploys a valid definition. -/
def deployValid (c : Context) (d : Deployer) (definition : Definition)
    (reference output : Option String) : Program Exit :=
  ending
    (do
      let text ← match reference.filter (· ≠ "") with
        | none => pure none
        | some text => some <$> Program.ofExcept (referenceText c.files text)
      let new ← d.deploy definition.normalize text
      return deployed c d output new)
    (endOfDeployment c.wording)

/-- Deploys a definition, if it is valid. -/
def runDeploy (c : Context) (path : String) (reference output : Option String) : Program Exit := do
  let d ← connect c
  let definition ← Program.ofExcept (loadDefinition c.files path)
  let validity ← Program.ofExcept definition.verdict
  if validity.isValid then deployValid c d definition reference output
  else
    return .failed 1
      (errorItems validity ++ errorLine "API definition is not valid for this gateway")

/-- Takes a deployment down. -/
def runUndeploy (c : Context) (reference : String) (delete : Bool) : Program Exit := do
  let d ← connect c
  let text ← Program.ofExcept (referenceText c.files reference)
  d.undeploy text delete
  return .success (markedLine .boldGreen "Undeployed" (if delete then " and deleted" else ""))

/-- Checks a definition. -/
def runValidate (c : Context) (path : String) : Program Exit := do
  Program.ofExcept (requireGateway c)
  let definition ← Program.ofExcept (loadDefinition c.files path)
  let validity ← Program.ofExcept definition.verdict
  if validity.isValid then return .success (markedLine .boldGreen "Valid" "")
  else return .failed 1 (errorItems validity)

/-- Prints a definition as it will be deployed. -/
def runTransform (c : Context) (path : String) : Program Exit := do
  Program.ofExcept (requireGateway c)
  let definition ← Program.ofExcept (loadDefinition c.files path)
  match Yaml.written? definition.normalize.dumpPresent with
  | none => .fail .longInteger
  | some text => return .success (line text)

/-- Prints the URL of a deployment. -/
def runUrl (c : Context) (reference : String) : Program Exit := do
  let d ← connect c
  let text ← Program.ofExcept (referenceText c.files reference)
  return .success (line (← Program.ofExcept (d.executionUrl text)))

/-- A discovered API as an object without its document. -/
def discoveredValue (d : Discovered) : Value :=
  Value.record
    [("definition", .object (d.definition.dumpPresent.members.erase "swagger_definition")),
      ("stage", .text d.stage), ("reference", .text d.reference)]

/-- The cells of a discovered API. -/
def discoveredRow (d : Discovered) : List String :=
  [d.definition.id, d.definition.name, d.definition.version, d.stage,
    (d.definition.productionEndpoint).getD ""]

/-- The cells of all rows without markup, none when some markup is wrong. -/
def plainRows (rows : List (List String)) : Option (List (List (List Char))) :=
  rows.mapM fun row => row.mapM fun cell => Text.stripMarkup? cell.toList

/-- The width of the terminal. -/
def terminalWidth : Nat := 80

/-- Discovered APIs as a table. -/
def discoveredTable (gateway : GatewayType) (found : List Discovered) : Exit :=
  match plainRows (found.map discoveredRow) with
  | none => .escape .markup
  | some rows =>
    let table : Table :=
      { title := (toString found.length ++ " API(s) on " ++ gateway.name).toList
        headings := ["ID", "Name", "Version", "Stage", "Endpoint"].map String.toList
        rows := rows }
    .success ((table.lines terminalWidth).flatMap fun l => line (String.ofList l))

/-- Lists the APIs on the gateway. -/
def runDiscover (c : Context) (organization : Option String) (asJson : Bool) : Program Exit := do
  let d ← connect c
  let found ← discover organization
  if asJson then return .success (line (Json.indented (.list (found.map discoveredValue))))
  else return discoveredTable d.gateway found

/-- Carries out a command. -/
def run (c : Context) (command : Command) : Program Exit :=
  ending
    (match command with
      | .deploy path reference output => runDeploy c path reference output
      | .undeploy reference delete => runUndeploy c reference delete
      | .validate path => runValidate c path
      | .transform path => runTransform c path
      | .url reference => runUrl c reference
      | .discover organization asJson => runDiscover c organization asJson)
    (endOf c.wording)

/-! ## The program -/

/-- The version of the program. -/
def versionText : String := "gatewaysync, version 0.1.0"

/-- How the program is used. -/
def usageText : String := "Usage: gatewaysync [OPTIONS] COMMAND [ARGS]..."

/-- A refusal as the end of the program. -/
def endOfRefusal : Refusal → Exit
  | .version => .success (line versionText)
  | .help => .success (line usageText)
  | .impossiblePath => .escape (.failure (.file .nullCharacter))
  | _ => .failed 2 []

/-- The program run with arguments. -/
def runArguments (files : Files) (env : Variables) (wording : Wording) (args : List String) :
    Program Exit :=
  match Invocation.read files env args with
  | .error r => .done (endOfRefusal r)
  | .ok i => run ⟨files, env, i.config, i.gateway, wording⟩ i.command

end ApiReconciler.CommandLine
