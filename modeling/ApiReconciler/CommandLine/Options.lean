/-!
# `ApiReconciler.CommandLine.Options` — options among arguments

## Contents
- `OptionSpec`: an option with its names; `Given`: one that was given.
- `splitOptions`: the options and the other arguments; `Misuse`: why arguments cannot be read.
-/

namespace ApiReconciler.CommandLine

/-- An option: its long name, its letter, and whether a value follows it. -/
structure OptionSpec where
  name : String
  letter : Option Char
  takesValue : Bool
deriving Repr

/-- An option that was given, with its value if it takes one. -/
structure Given where
  name : String
  value : Option String
deriving DecidableEq, Repr

/-- Why arguments cannot be read. -/
inductive Misuse
  | unknownOption (text : String)
  | missingValue (name : String)
  | unexpectedValue (name : String)
deriving DecidableEq, Repr

/-- What one argument says: options, with the last one perhaps still waiting for its value, or
something else. -/
inductive Reading
  | other
  | complete (options : List Given)
  | waiting (options : List Given) (name : String)
deriving Repr

/-- The letters of an argument behind its dash, as options. -/
def readLetters (specs : List OptionSpec) : List Char → List Given → Except Misuse Reading
  | [], found => .ok (.complete found)
  | c :: cs, found =>
    match specs.find? fun s => s.letter = some c with
    | none => .error (.unknownOption (String.ofList ['-', c]))
    | some s =>
      if !s.takesValue then readLetters specs cs (found ++ [⟨s.name, none⟩])
      else if cs = [] then .ok (.waiting found s.name)
      else .ok (.complete (found ++ [⟨s.name, some (String.ofList cs)⟩]))

/-- An argument with a long name, which an equals sign separates from a value. -/
def readLong (specs : List OptionSpec) (cs : List Char) : Except Misuse Reading :=
  let name := String.ofList (cs.takeWhile (· ≠ '='))
  let value : Option String :=
    match cs.dropWhile (· ≠ '=') with
    | '=' :: v => some (String.ofList v)
    | _ => none
  match specs.find? fun s => s.name = name, value with
  | none, _ => .error (.unknownOption name)
  | some s, some v =>
    if s.takesValue then .ok (.complete [⟨s.name, some v⟩]) else .error (.unexpectedValue name)
  | some s, none =>
    if s.takesValue then .ok (.waiting [] s.name) else .ok (.complete [⟨s.name, none⟩])

/-- What one argument says. A dash alone is no option. -/
def readArgument (specs : List OptionSpec) (arg : String) : Except Misuse Reading :=
  match arg.toList with
  | '-' :: '-' :: _ => readLong specs arg.toList
  | '-' :: c :: cs => readLetters specs (c :: cs) []
  | _ => .ok .other

/-- The options and the other arguments. Two dashes end the options, and so does the first other
argument unless arguments may be `mixed`. -/
def splitOptions (specs : List OptionSpec) (mixed : Bool) :
    List String → Except Misuse (List Given × List String)
  | [] => .ok ([], [])
  | arg :: rest =>
    if arg = "--" then .ok ([], rest)
    else
      match readArgument specs arg with
      | .error e => .error e
      | .ok .other =>
        if mixed then (splitOptions specs mixed rest).map fun r => (r.1, arg :: r.2)
        else .ok ([], arg :: rest)
      | .ok (.complete options) =>
        (splitOptions specs mixed rest).map fun r => (options ++ r.1, r.2)
      | .ok (.waiting options name) =>
        match rest with
        | [] => .error (.missingValue name)
        | v :: rest =>
          (splitOptions specs mixed rest).map fun r => (options ++ ⟨name, some v⟩ :: r.1, r.2)

/-- The last value given for an option. -/
def valueOf? (name : String) (options : List Given) : Option String :=
  (options.reverse.find? fun o => o.name = name).bind Given.value

/-- Whether an option was given. -/
def isGiven (name : String) (options : List Given) : Bool := options.any fun o => o.name = name

end ApiReconciler.CommandLine
