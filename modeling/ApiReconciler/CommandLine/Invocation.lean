import ApiReconciler.CommandLine.Options
import ApiReconciler.Document.Load

/-!
# `ApiReconciler.CommandLine.Invocation` — what a command line asks for

## Contents
- `Command`, `Invocation`: a command with the options that stand before it.
- `Invocation.read`: the invocation that arguments denote; `Refusal`: why there is nothing to run.
-/

namespace ApiReconciler.CommandLine

/-- The commands. -/
inductive Command
  | deploy (definition : String) (reference output : Option String)
  | undeploy (reference : String) (delete : Bool)
  | validate (definition : String)
  | transform (definition : String)
  | url (reference : String)
  | discover (organization : Option String) (asJson : Bool)
deriving DecidableEq, Repr

/-- A command in its environment. -/
structure Invocation where
  config : Option String
  gateway : String
  command : Command
deriving DecidableEq, Repr

/-- Why there is nothing to run: the arguments are wrong, or ask for a text alone. -/
inductive Refusal
  | misuse (e : Misuse)
  | noCommand
  | unknownCommand (name : String)
  | wrongCount
  | noFile (path : String)
  | impossiblePath
  | version
  | help
deriving DecidableEq, Repr

/-! ## Options -/

/-- The option that asks for help. -/
def helpOption : OptionSpec := ⟨"--help", none, false⟩

/-- The options that stand before a command. -/
def sharedOptions : List OptionSpec :=
  [⟨"--config", some 'c', true⟩, ⟨"--gateway", some 'g', true⟩, ⟨"--verbose", some 'v', false⟩,
    ⟨"--version", none, false⟩, helpOption]

/-- The names of the commands with their options. -/
def commandOptions : List (String × List OptionSpec) :=
  [("deploy", [⟨"--reference", some 'r', true⟩, ⟨"--output", some 'o', true⟩, helpOption]),
    ("undeploy", [⟨"--delete", none, false⟩, helpOption]),
    ("validate", [helpOption]),
    ("transform", [helpOption]),
    ("url", [helpOption]),
    ("discover", [⟨"--organization", none, true⟩, ⟨"--json", none, false⟩, helpOption])]

/-- The gateway of an invocation that names none. -/
def defaultGateway : String := "AWS"

/-- The environment variable that names a settings file. -/
def configVariable : String := "GATEWAYSYNC_CONFIG"

/-! ## Paths -/

/-- A path that has to lead to a file. -/
def requireFile (files : Files) (path : String) : Except Refusal Unit :=
  match files.findText path with
  | .ok (.file _) => .ok ()
  | .error .nullCharacter => .error .impossiblePath
  | _ => .error (.noFile path)

/-- A path that a file may be written to: it must not lead to a directory. -/
def requireNoDirectory (files : Files) (path : String) : Except Refusal Unit :=
  match files.findText path with
  | .ok (.directory _) => .error (.noFile path)
  | .ok .outside => .error (.noFile path)
  | .error .nullCharacter => .error .impossiblePath
  | _ => .ok ()

/-- A check of an optional path. -/
def requireOptional (check : String → Except Refusal Unit) : Option String → Except Refusal Unit
  | none => .ok ()
  | some path => check path

/-! ## Commands -/

/-- The only argument of a command. -/
def onlyArgument : List String → Except Refusal String
  | [arg] => .ok arg
  | _ => .error .wrongCount

/-- The definition file that is the only argument of a command. -/
def onlyFile (files : Files) (args : List String) : Except Refusal String :=
  match onlyArgument args with
  | .error e => .error e
  | .ok path => (requireFile files path).map fun _ => path

/-- The command of a name with its options and arguments. -/
def Command.read (files : Files) (name : String) (options : List Given) (args : List String) :
    Except Refusal Command :=
  match name with
  | "deploy" =>
    match onlyFile files args, requireOptional (requireNoDirectory files)
        (valueOf? "--output" options) with
    | .ok path, .ok _ =>
      .ok (.deploy path (valueOf? "--reference" options) (valueOf? "--output" options))
    | .error e, _ => .error e
    | .ok _, .error e => .error e
  | "undeploy" =>
    (onlyArgument args).map fun r => .undeploy r (isGiven "--delete" options)
  | "validate" => (onlyFile files args).map .validate
  | "transform" => (onlyFile files args).map .transform
  | "url" => (onlyArgument args).map .url
  | "discover" =>
    if args = [] then
      .ok (.discover (valueOf? "--organization" options) (isGiven "--json" options))
    else .error .wrongCount
  | name => .error (.unknownCommand name)

/-- A request for a text alone, the first of several. -/
def textRequest (options : List Given) : Option Refusal :=
  match options.find? fun o => o.name = "--version" ∨ o.name = "--help" with
  | none => none
  | some o => some (if o.name = "--version" then .version else .help)

/-- The command that arguments denote. -/
def readCommand (files : Files) : List String → Except Refusal Command
  | [] => .error .noCommand
  | name :: args =>
    match commandOptions.lookup name with
    | none => .error (.unknownCommand name)
    | some specs =>
      match splitOptions specs true args with
      | .error e => .error (.misuse e)
      | .ok (options, args) =>
        match textRequest options with
        | some r => .error r
        | none => Command.read files name options args

/-- The settings file of an invocation: the one given, or the one that the environment names. -/
def configPath (env : Variables) (options : List Given) : Option String :=
  match valueOf? "--config" options with
  | some path => some path
  | none =>
    match env.lookup configVariable with
    | none => none
    | some path => if path = "" then none else some path

/-- The invocation that arguments denote. -/
def Invocation.read (files : Files) (env : Variables) (args : List String) :
    Except Refusal Invocation :=
  match splitOptions sharedOptions false args with
  | .error e => .error (.misuse e)
  | .ok (options, args) =>
    match textRequest options with
    | some r => .error r
    | none =>
      let config := configPath env options
      match requireOptional (requireFile files) config with
      | .error e => .error e
      | .ok _ =>
        (readCommand files args).map fun command =>
          ⟨config, (valueOf? "--gateway" options).getD defaultGateway, command⟩

end ApiReconciler.CommandLine
