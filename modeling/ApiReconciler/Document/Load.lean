import ApiReconciler.Document.Fault
import ApiReconciler.Failure
import ApiReconciler.Settings
import ApiReconciler.Yaml.Reader

/-!
# `ApiReconciler.Document.Load` — settings and definitions from files

A file holds a mapping in JSON, when its suffix says so, or in YAML.

## Contents
- `readMapping`: the mapping in a file.
- `loadSettings`: settings from a file, with values of environment variables over them.
- `loadDefinition`: a definition from a file. Its document may stand in a file of its own.
-/

namespace ApiReconciler

/-! ## Files -/

/-- The text of a file, with line ends in one form. -/
def Files.text (files : Files) (path : Path) : Except ReadFault String :=
  match files.contents path with
  | .error e => .error (.file e)
  | .ok bytes =>
    match Text.ofUtf8? bytes with
    | none => .error .undecodable
    | some s => .ok (Text.unifyLineEnds s)

/-- The value that a text stands for, in JSON or in YAML. -/
def valueOfText (isJson : Bool) (text : String) : Except ReadFault Value :=
  if isJson then (Json.parse text).mapError .json else (Yaml.parse text).mapError .yaml

/-- Whether a file holds JSON. -/
def Path.isJson (path : Path) : Bool := Text.lower path.suffix = ".json"

/-- The mapping in a file; null counts as an empty one. -/
def readMapping (files : Files) (path : Path) : Except ReadFault Object :=
  match files.text path with
  | .error e => .error e
  | .ok text =>
    match valueOfText path.isJson text with
    | .error e => .error e
    | .ok .null => .ok []
    | .ok (.object ms) => .ok ms
    | .ok _ => .error (.notMapping path.text)

/-- Whether the names of all members are texts. -/
def hasTextKeys (ms : Object) : Bool := ms.all fun m => (Value.scalar m.1).text?.isSome

/-- The members as fields of a record, whose names are texts. -/
def fieldsOf (ms : Object) : Except Failure Object :=
  if hasTextKeys ms then .ok ms else .error .malformedKeys

/-! ## Settings -/

/-- The environment variables that stand for settings. -/
def settingVariables : List (String × String) :=
  [("AWS_REGION", "region"), ("AWS_API_STAGE", "stage"), ("AWS_ACCESS_KEY_ID", "access_key"),
    ("AWS_SECRET_ACCESS_KEY", "secret_key"), ("AWS_PROFILE", "profile_name")]

/-- Environment variables by name. -/
abbrev Variables := List (String × String)

/-- The members with the values of environment variables over them; empty ones do not count. -/
def withVariables (env : Variables) (ms : Object) : Object :=
  settingVariables.foldl (fun o v =>
    match env.lookup v.1 with
    | none => o
    | some value => if value = "" then o else Object.set (.text v.2) (.text value) o) ms

/-- The members in a settings file; there may be no file. -/
def settingsMembers (files : Files) (path : Option String) : Except Failure Object :=
  match path with
  | none => .ok []
  | some path =>
    if path = "" then .ok []
    else (readMapping files (Path.ofText path)).mapError fun e =>
      .configuration (.unreadable path e)

/-- Settings from a file and from environment variables. -/
def loadSettings (files : Files) (path : Option String) (env : Variables) :
    Except Failure Settings :=
  match settingsMembers files path with
  | .error e => .error e
  | .ok ms =>
    match fieldsOf (withVariables env ms) with
    | .error e => .error e
    | .ok ms => (Settings.read ms).toExcept.mapError fun issues => .configuration (.invalid issues)

/-! ## Definitions -/

/-- The member that names the file of the document. -/
def documentFile : String := "definition_file"

/-- The document in the file that a value names, next to the definition. -/
def readDocument (files : Files) (path : Path) (pathText : String) (name : Value) :
    Except Failure String :=
  match name with
  | .text name =>
    (files.text (path.parent.join name)).mapError fun e => .definition (.unreadable pathText e)
  | _ => .error (.malformedMember documentFile)

/-- The members with the document of its own file in place, unless it is given directly. -/
def withDocument (files : Files) (path : Path) (pathText : String) (ms : Object) :
    Except Failure Object :=
  let rest := ms.erase documentFile
  match ms.get? documentFile with
  | none => .ok rest
  | some name =>
    if name.isTruthy && !rest.has "swagger_definition" then
      (readDocument files path pathText name).map fun text =>
        Object.set (.text "swagger_definition") (.text text) rest
    else .ok rest

/-- A definition from a file. -/
def loadDefinition (files : Files) (pathText : String) : Except Failure Definition :=
  let path := Path.ofText pathText
  match readMapping files path with
  | .error e => .error (.definition (.unreadable pathText e))
  | .ok ms =>
    match withDocument files path pathText ms with
    | .error e => .error e
    | .ok ms =>
      match fieldsOf ms with
      | .error e => .error e
      | .ok ms =>
        (Definition.read ms).toExcept.mapError fun issues =>
          .definition (.invalid pathText issues)

end ApiReconciler
