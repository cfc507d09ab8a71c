import SqlDraft.Settings.Document
import SqlDraft.Settings.Dotenv

/-!
# Settings in a folder

A folder of files, and the settings that one of them holds. Variables come from the environment and
from the folder's own file of variables.
-/

namespace SqlDraft

/-- The names and contents of the files in a folder that has no folders in it. -/
structure Folder where
  files : List (String × Bytes)

namespace Folder

/-- What a path leads to. -/
inductive Place
  | folder
  | file (content : Bytes)
  /-- Some folder outside of this one. -/
  | outside

/-- Goes one part further. -/
def enter (f : Folder) (place : Place) (part : List Char) : Except FileError Place :=
  match place with
  | .file _ => .error .notDirectory
  | .folder =>
    if part = [] ∨ part = ['.'] then .ok .folder
    else if part = ['.', '.'] then .ok .outside
    else
      match f.files.lookup (String.ofList part) with
      | some content => .ok (.file content)
      | none => .error .missing
  | .outside => if part = [] ∨ part = ['.'] ∨ part = ['.', '.'] then .ok .outside else .error .missing

/-- What a path leads to. An empty path leads nowhere, and a path from the root leads outside. -/
def follow (f : Folder) (path : String) : Except FileError Place :=
  if path = "" then .error .missing
  else (path.toList.splitOn '/').foldlM f.enter (if path.toList.head? = some '/' then .outside else .folder)

/-- The text in a file. -/
def read (f : Folder) (path : String) : Except FileError String := do
  match ← f.follow path with
  | .file content =>
    match String.fromUTF8? (ByteArray.mk content.toArray) with
    | some s => .ok s
    | none => .error .notText
  | _ => .error .isDirectory

/-- An environment with the variables of the folder added. -/
def environment (f : Folder) (env : Environment) : Environment :=
  match f.read ".env" with
  | .ok s => Dotenv.load env (Text.withoutMark s.toList)
  | .error _ => env

end Folder

/-- Reads the settings in a file of a folder. -/
def Settings.load (folder : Folder) (env : Environment) (path : String) : Except ConfigError Settings :=
  match folder.read path with
  | .ok s => Settings.parse (folder.environment env) s
  | .error e => .error (.unreadable path e)

end SqlDraft
