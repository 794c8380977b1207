import SealedPage.Disk.Home
import SealedPage.Disk.Resolve
import SealedPage.Fields.Read
import SealedPage.Flo.Bindings
import SealedPage.Json.Reader

/-!
# Settings of the producer

Where the keys and the documents are, which document is the master, how large a document may be, and
how pages look, `Settings`. The directory of the documents is resolved once, when the settings are
read, `Settings.ofFields`.
-/

namespace SealedPage.Seal

open Fields Disk

/-- The settings of a producer. The paths of the keys are in normal form. -/
structure Settings where
  privateKeyPath : String
  publicKeyPath : String
  passphrase : Option String := none
  documents : Path
  master : String := "home.flo"
  maxDocumentKb : Nat := 512
  shellTitle : String := "FLO Master"
  stylesheetUrl : String := "/styles.css"
  scriptUrl : String := "/runtime.js"
  ssrBindings : Flo.Bindings := ⟨[("user", "Scholar (SSR)")]⟩
  deriving Repr

/-- Why there are no settings. -/
inductive SettingsError where
  | invalid (problems : List Problem)
  /-- The bindings in a variable are no JSON. -/
  | notJson
  /-- The bindings in a variable hold a container inside too many others. -/
  | tooDeep (container : Json.Container)
  /-- The file of variables is no UTF-8. -/
  | notUtf8 (cause : Text.Utf8.DecodeError)
  /-- The directory of the documents lies in a home directory that is not known. -/
  | unknownHome
  /-- The directory of the documents lies behind links that lead in a circle. -/
  | circle (cause : LinkCircle)
  deriving DecidableEq, Repr

/-- The wording of an unknown home directory. -/
def unknownHomeMessage : String :=
  "Could not determine home directory."

/-- Where files are looked up: a tree and the directory that relative paths begin in. -/
structure Place where
  tree : Tree
  here : Path
  deriving Repr

/-! ## Names of documents -/

/-- The letters of a document's name. -/
def isNameChar (c : Char) : Bool :=
  c.isAlphanum || c == '_' || c == '.' || c == '-'

/-- The end of every document's name. -/
def nameEnd : List Char :=
  ".flo".toList

/-- Whether a text is the bare name of a document. -/
def isDocumentName (s : String) : Bool :=
  let cs := s.toList
  cs.all isNameChar && nameEnd.isSuffixOf cs && nameEnd.length < cs.length

/-- The name of a document in a field. -/
def documentName (v : Json.Value) : Checked String :=
  (text v).andThen fun s => if isDocumentName s then .ok s else .fail .wrongForm

/-! ## Reading settings -/

/-- A path in a field, in normal form. -/
def pathField : Json.Value → Checked String
  | .str s => .ok (normalText s)
  | _ => .fail .notPath

/-- The path that a path text leads to; a path never holds a zero byte. -/
def resolvedPath (place : Place) (s : String) : Checked (Except SettingsError Path) :=
  let zeroByte : Checked (Except SettingsError Path) := .fail (.rule "embedded null byte")
  match expandHome (normalText s) with
  | .unknownHome => .ok (.error .unknownHome)
  | .zeroByte => zeroByte
  | .path s =>
    if s.toList.contains '\x00' then zeroByte
    else .ok ((place.tree.resolveText place.here s).mapError .circle)

/-- The path in a field, which is to be resolved. -/
def resolvedField (place : Place) : Json.Value → Checked (Except SettingsError Path)
  | .str s => resolvedPath place s
  | _ => .fail .notPath

/-- The directory of the documents that is taken by default. -/
def defaultDocuments : Json.Value :=
  .str "documents"

/-- The fields of settings, all but the directory of the documents. -/
def settingsFields (members : Members) (documents : Checked Path) : Checked Settings :=
  let default : Settings := { privateKeyPath := "", publicKeyPath := "", documents := [] }
  Settings.mk <$> required members "private_key_path" pathField
    <*> required members "public_key_path" pathField
    <*> withDefault members "private_key_passphrase" default.passphrase (nullable text)
    <*> documents
    <*> withDefault members "master_document" default.master documentName
    <*> withDefault members "max_document_size_kb" default.maxDocumentKb
          (fun v => (integerBetween 1 10240 v).map Int.toNat)
    <*> withDefault members "shell_title" default.shellTitle text
    <*> withDefault members "stylesheet_url" default.stylesheetUrl text
    <*> withDefault members "runtime_script_url" default.scriptUrl text
    <*> withDefault members "ssr_bindings" default.ssrBindings
          (fun v => (textMapping v).map (⟨·⟩))

/-- The settings in the given fields; others are ignored. -/
def Settings.ofFields (place : Place) (members : Members) : Except SettingsError Settings :=
  let field := (members.lookup "documents_dir").getD defaultDocuments
  match (resolvedField place field).under "documents_dir" with
  | .ok (.error cause) => .error cause
  | .ok (.ok path) => (settingsFields members (.ok path)).toExcept.mapError .invalid
  | .bad problems => (settingsFields members (.bad problems)).toExcept.mapError .invalid

end SealedPage.Seal
