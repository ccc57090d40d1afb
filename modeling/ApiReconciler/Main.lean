import ApiReconciler.CommandLine.Run
import ApiReconciler.Gateway.Offline

/-!
# `ApiReconciler.Main` — the command line

Reads what a command may look at (the files below the working directory and the environment),
carries the command out, and hands on what it leaves: log lines and misuse on standard error, the
output on standard output, a written file, and the exit code.

## Contents
- `readFiles`, `readVariables`: the surroundings of a command; `report`: its end.
- `main`: the program.
-/

namespace ApiReconciler.CommandLine

/-! ## Surroundings -/

/-- The greatest size of a file that is looked at. -/
def maxFileSize : UInt64 := 1048576

/-- The files below the entries of a directory, down to a depth. -/
def readFiles (parts : List String) (entries : Array IO.FS.DirEntry) : Nat → IO Files
  | 0 => return []
  | depth + 1 => do
    let found ← entries.toList.mapM fun e => do
      let inner := parts ++ [e.fileName]
      try
        let data ← e.path.metadata
        if data.type == .dir then readFiles inner (← e.path.readDir) depth
        else if data.type == .file && data.byteSize ≤ maxFileSize then
          return [(inner, (← IO.FS.readBinFile e.path).toList)]
        else return []
      catch _ => return []
    return found.flatten

/-- The environment variables that commands look at. -/
def readVariables : IO Variables := do
  let found ← (configVariable :: settingVariables.map Prod.fst).mapM fun name => do
    return (← IO.getEnv name).map fun value => (name, value)
  return found.filterMap id

/-! ## Ends -/

/-- The name of a level. -/
def levelName : Level → String
  | .info => "INFO"
  | .warning => "WARNING"
  | .error => "ERROR"

/-- The log line of an event. -/
def logLine? : Event → Option String
  | .note n => some (levelName n.level ++ " - " ++ n.message Detail.plain)
  | _ => none

/-- The text of something that was not handled. -/
def escapeText : Escape → String
  | .failure f => f.message Detail.plain
  | .markup => "unbalanced markup"

/-- Prints what a command leaves. -/
def report (events : List Event) (exit : Exit) : IO Unit := do
  for text in events.filterMap logLine? do IO.eprintln text
  if let some w := exit.written then IO.FS.writeFile w.1.text w.2
  IO.print (render (← (← IO.getStdout).isTty) exit.output)
  if let some e := exit.escaped then IO.eprintln (escapeText e)
  else if exit.output = [] ∧ exit.code ≠ 0 then IO.eprintln usageText

end ApiReconciler.CommandLine

open ApiReconciler ApiReconciler.CommandLine in
/-- Carries out the command that the arguments name. -/
def main (args : List String) : IO UInt32 := do
  let files ← readFiles [] (← (← IO.currentDir).readDir) 16
  let program := runArguments files (← readVariables) Detail.plain args
  let outcome := program.run offline ()
  match outcome.result with
  | .ok exit =>
    report outcome.events exit
    return exit.code.toUInt32
  | .error f =>
    IO.eprintln (f.message Detail.plain)
    return 1
