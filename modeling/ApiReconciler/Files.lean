import ApiReconciler.Path
import ApiReconciler.Text.Utf8

/-!
# `ApiReconciler.Files` — files by path

The files below the working directory, as a list of paths with contents. Directories are there as
far as files lie in them. Everything outside the working directory is unknown and counts as empty.

## Contents
- `FileFault`: why a path has no contents.
- `Files.find`: what a path leads to; `Files.contents`, `Files.text`: what stands in a file.
-/

namespace ApiReconciler

/-- Why a path has no contents. -/
inductive FileFault
  | missing
  | directory
  | notDirectory
  | nameTooLong
  | nullCharacter
deriving DecidableEq, Repr

/-- Paths as lists of parts, with contents. -/
abbrev Files := List (List String × List UInt8)

namespace Files

/-- What a path leads to. -/
inductive Place
  | file (contents : List UInt8)
  | directory (parts : List String)
  | outside
deriving DecidableEq, Repr

/-- The greatest number of bytes of one part of a path. -/
def maxPartSize : Nat := 255

/-- Whether files lie below a directory. -/
def hasDirectory (files : Files) (parts : List String) : Bool :=
  parts = [] || files.any fun f => parts.isPrefixOf f.1 && parts.length < f.1.length

/-- The place that a part leads to from a place; empty parts and single dots stay. -/
def step (files : Files) (place : Place) (part : String) : Except FileFault Place :=
  match place with
  | .file _ => .error .notDirectory
  | .outside =>
    if part = "" ∨ part = "." ∨ part = ".." then .ok .outside else .error .missing
  | .directory parts =>
    if part = "" ∨ part = "." then .ok (.directory parts)
    else if part = ".." then .ok (if parts = [] then .outside else .directory parts.dropLast)
    else if maxPartSize < part.utf8ByteSize then .error .nameTooLong
    else
      let inner := parts ++ [part]
      match files.lookup inner with
      | some contents => .ok (.file contents)
      | none => if files.hasDirectory inner then .ok (.directory inner) else .error .missing

/-- The place that parts lead to. -/
def walk (files : Files) : Place → List String → Except FileFault Place
  | place, [] => .ok place
  | place, part :: parts =>
    match files.step place part with
    | .error e => .error e
    | .ok next => walk files next parts

/-- The place that a root and parts lead to. -/
def find (files : Files) (root : String) (parts : List String) : Except FileFault Place :=
  if parts.any fun part => part.toList.contains '\x00' then .error .nullCharacter
  else files.walk (if root = "" then .directory [] else .outside) parts

/-- The place that a text leads to, read part by part: what is followed by a slash has to be a
directory. -/
def findText (files : Files) (text : String) : Except FileFault Place :=
  if text = "" then .error .missing
  else files.find (Path.rootOf text.toList) ((Path.splitSlashes text.toList).map String.ofList)

/-- The contents of a file. -/
def contents (files : Files) (path : Path) : Except FileFault (List UInt8) :=
  match files.find path.root path.parts with
  | .error e => .error e
  | .ok (.file bytes) => .ok bytes
  | .ok _ => .error .directory

/-- Whether a file can be written: its directory is there, and it is no directory itself. -/
def writeFault (files : Files) (path : Path) : Option FileFault :=
  match files.find path.root path.parts with
  | .ok (.file _) => none
  | .ok _ => some .directory
  | .error .missing =>
    match files.find path.root path.parts.dropLast with
    | .ok (.directory _) => none
    | _ => some .missing
  | .error e => some e

end Files

end ApiReconciler
