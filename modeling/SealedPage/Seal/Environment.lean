import SealedPage.Json.Reader
import SealedPage.Seal.Settings
import SealedPage.Seal.VariableFile
import SealedPage.Text.Case
import SealedPage.Text.Utf8

/-!
# Settings from the environment

The variables that settings are read from, `Settings.ofEnvironment`, and the file that may stand in
for variables that are not set. Names are matched without regard to case, and a variable wins over a
line of the file.
-/

namespace SealedPage.Seal

open Fields Disk

/-- The file of variables. -/
def variablesFile : String :=
  ".env"

/-- The variables of the file in the current directory, if there is one. -/
def fileVariables (place : Place) (environment : Assignments) :
    Except SettingsError Assignments :=
  match place.tree.findText place.here variablesFile with
  | .ok (.file content) =>
    match Text.Utf8.decode content with
    | .ok cs => .ok ((assignmentsOfText cs).run environment)
    | .error e => .error (.notUtf8 e)
  | _ => .ok []

/-! ## Fields from variables -/

/-- What stands in front of every variable that counts. -/
def variableHead : String :=
  "flo_engine_"

/-- The fields that variables write as plain texts. -/
def plainFields : List String :=
  ["private_key_path", "public_key_path", "private_key_passphrase", "documents_dir",
    "master_document", "max_document_size_kb", "shell_title", "stylesheet_url",
    "runtime_script_url"]

/-- The value of the last variable for a field, if it has one. -/
def valueOf? (vars : Assignments) (field : String) : Option String :=
  (vars.reverse.find? fun v => Text.lowerString v.1 == variableHead ++ field).bind (·.2)

/-- The bindings that a variable writes; a null counts as absent. -/
def bindingsField (vars : Assignments) : Except SettingsError Members :=
  match valueOf? vars "ssr_bindings" with
  | none => .ok []
  | some word =>
    match Json.ofString word with
    | .error (.tooDeep container) => .error (.tooDeep container)
    | .error _ => .error .notJson
    | .ok .null => .ok []
    | .ok v => .ok [("ssr_bindings", v)]

/-- The fields that variables write. -/
def variableFields (vars : Assignments) : Except SettingsError Members :=
  (bindingsField vars).map fun bindings =>
    plainFields.filterMap (fun name => (valueOf? vars name).map fun s => (name, .str s)) ++
      bindings

/-- Puts fields over others; a mapping is put over a mapping member by member. -/
def overlay (below above : Members) : Members :=
  above.foldl (fun done (k, v) =>
    match done.lookup k, v with
    | some (.obj old), .obj new =>
      Json.insert k (.obj (new.foldl (fun done (k, v) => Json.insert k v done) old)) done
    | _, v => Json.insert k v done) below

/-- The settings in an environment. The file is read first, but what the environment says counts
more. -/
def Settings.ofEnvironment (place : Place) (environment : Assignments) :
    Except SettingsError Settings := do
  let file ← fileVariables place environment
  let above ← variableFields environment
  let below ← variableFields file
  Settings.ofFields place (overlay below above)

/-! ## Settings read once -/

/-- The settings of a process: those that are kept, or else those of the environment, which are kept
from then on. -/
def currentSettings (kept : Option Settings) (place : Place) (environment : Assignments) :
    Except SettingsError Settings × Option Settings :=
  match kept with
  | some settings => (.ok settings, kept)
  | none =>
    match Settings.ofEnvironment place environment with
    | .ok settings => (.ok settings, some settings)
    | .error e => (.error e, none)

end SealedPage.Seal
