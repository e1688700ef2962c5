/-
Settings in files.

Settings are kept in two files, one for all projects and one for the project at hand, which is
merged over the other.  A file that is not there is an empty one.

The merged document may say how to log.  That is taken into account before the settings of the
provider are looked at, so it holds even if those turn out to be faulty.
-/
import ComputeNodes.Logging.Log
import ComputeNodes.Settings.Basic
import ComputeNodes.Toml.Document
import ComputeNodes.Value.Merge

namespace ComputeNodes

/-- What is found in the place of a file. -/
inductive StoredFile where
  | missing
  | directory
  | bytes (content : ByteArray)

/-- The files that hold settings. -/
structure SettingsFiles where
  /-- The file for all projects. -/
  shared : StoredFile
  /-- The file of the project at hand. -/
  project : StoredFile

/-- The settings in a file. -/
def StoredFile.read (file : StoredFile) (name : String) : Except Error Table :=
  match file with
  | .missing => .ok []
  | .directory => .ok []
  | .bytes content =>
    match String.fromUTF8? content with
    | none => .error .undecodable
    | some document =>
      (Toml.read document).mapError fun
        | .invalid => .configuration (.invalidDocument name)
        | .tooManyDigits count => .whole (.tooManyDigits count)
        | .tooDeep => .tooDeep

namespace SettingsFiles

/-- The name of the file for all projects. -/
def sharedName : String := "defaults.toml"

/-- The name of the file of a project. -/
def projectName : String := "gcenode.toml"

/-- The merged document, which always has an entry for the provider. -/
def load (files : SettingsFiles) : Except Error Table := do
  let shared ← files.shared.read sharedName
  let project ← files.project.read projectName
  return (Table.merge shared project).addNew "provider" (.table [])

end SettingsFiles

/-- How to log. -/
structure LogSettings where
  level : String := "INFO"
  file : Option String := none
  deriving DecidableEq, Repr

/-- What a document says about how to log; an entry with nothing in it says nothing. -/
def LogSettings.ofDocument (document : Table) : Except Error (Option LogSettings) :=
  match document.find? "logging" with
  | none => .ok none
  | some value =>
    if value.isNothing then .ok none
    else
      match value with
      | .table t => do
        let t : Table := t
        let file ← match t.find? "file" with
          | none => pure none
          | some (.text path) => pure (some path)
          | some _ => throw (.configuration .logFileNotText)
        let level ← match t.find? "level" with
          | none => pure "INFO"
          | some value => (value.writable.mapError .whole).map Value.plain
        return some { level, file }
      | value => .error (.configuration (.loggingNotTable value.typeName))

namespace Settings

/-- Loads the settings of the provider, and sets up the log as the files say. -/
def load (files : SettingsFiles) : Logging.Work Settings := do
  let document ← Logging.Work.ofExcept files.load
  let logging ← Logging.Work.ofExcept (LogSettings.ofDocument document)
  if let some logging := logging then
    Logging.Work.configure (.text logging.level) logging.file
  let provider := (document.find? "provider").getD (.table [])
  Logging.Work.ofExcept (ofValue provider)

end Settings

end ComputeNodes
