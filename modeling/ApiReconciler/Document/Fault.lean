import ApiReconciler.Files
import ApiReconciler.Json.Reader
import ApiReconciler.Validation.Checked
import ApiReconciler.Yaml.Error

/-!
# `ApiReconciler.Document.Fault` — why a document cannot be used

## Contents
- `Detail`: a fault that a reader, the file system or the checks of fields have found. How it is
  worded is up to the surroundings, so messages take a `Wording`.
- `ReadFault`: why a file gives no mapping.
-/

namespace ApiReconciler

/-- A fault found by a reader, by the file system or by the checks of fields. -/
inductive Detail
  | invalid (issues : List Issue)
  | undecodable
  | json
  | yaml
  | file (fault : FileFault)
deriving DecidableEq, Repr

/-- How details are worded. -/
abbrev Wording := Detail → String

/-! ## Plain wording -/

/-- A step of a path as text. -/
def Step.text : Step → String
  | .field name => name
  | .index n => String.ofList (Digits.signed n)

/-- What is wrong with a value, in words. -/
def IssueKind.text : IssueKind → String
  | .missing => "field required"
  | .notText => "should be a text"
  | .undecodableText => "should be a text in UTF-8"
  | .notInteger => "should be an integer"
  | .unreadableInteger => "should be an integer, unable to read the text"
  | .fractionalInteger => "should be an integer, got a number with a fraction"
  | .oversizedInteger => "should be an integer, got one with too many digits"
  | .infiniteInteger => "should be a finite number"
  | .notBoolean => "should be a truth value"
  | .unreadableBoolean => "should be a truth value, unable to read the input"
  | .notList => "should be a list"
  | .notMapping => "should be a mapping"
  | .notRecord => "should be a mapping with the fields of a record"

/-- A fault with the path to it. -/
def Issue.text (i : Issue) : String := ".".intercalate (i.path.map Step.text) ++ " " ++ i.kind.text

/-- Why a path has no contents, in words. -/
def FileFault.text : FileFault → String
  | .missing => "no such file or directory"
  | .directory => "is a directory"
  | .notDirectory => "not a directory"
  | .nameTooLong => "file name too long"
  | .nullCharacter => "embedded null byte"

/-- A detail in plain words. -/
def Detail.plain : Wording
  | .invalid issues => "; ".intercalate (issues.map Issue.text)
  | .undecodable => "not a text in UTF-8"
  | .json => "malformed JSON"
  | .yaml => "malformed YAML"
  | .file fault => fault.text

/-! ## Faults of readers in messages -/

/-- A fault of the JSON reader in words. -/
def Json.Error.message (wording : Wording) : Json.Error → String
  | .malformed => wording .json
  | .integerTooLong (some digits) => (Yaml.Error.longNumeral digits).message
  | .integerTooLong none =>
    "Exceeds the limit (4300 digits) for integer string conversion; " ++
      "use sys.set_int_max_str_digits() to increase the limit"

/-- A fault of the YAML reader in words. -/
def Yaml.Error.worded (wording : Wording) : Yaml.Error → String
  | .malformed => wording .yaml
  | e => e.message

/-- A fault of the file system in words; a path that cannot even be looked up has a fixed text. -/
def FileFault.message (wording : Wording) : FileFault → String
  | .nullCharacter => FileFault.nullCharacter.text
  | fault => wording (.file fault)

/-- Why a file gives no mapping. -/
inductive ReadFault
  | file (fault : FileFault)
  | undecodable
  | json (error : Json.Error)
  | yaml (error : Yaml.Error)
  | notMapping (path : String)
deriving DecidableEq, Repr

/-- The reason in words. -/
def ReadFault.message (wording : Wording) : ReadFault → String
  | .file fault => fault.message wording
  | .undecodable => wording .undecodable
  | .json e => e.message wording
  | .yaml e => e.worded wording
  | .notMapping path => "Expected a mapping at the top level of " ++ path

end ApiReconciler
