import SealedPage.Datum
import SealedPage.Fields.Read
import SealedPage.Flo.Bindings
import SealedPage.Json.Reader
import SealedPage.Text.Case
import SealedPage.Text.Digit
import SealedPage.Text.Quoted

/-!
# Configuration of the consumer

What a consumer of documents may set, `Config`: the bindings, the note behind a rendered document,
the ids of the transport elements, and the size of the largest page. It is read from fields,
`Config.ofFields`, or from the variables of an environment, `Config.ofEnvironment`. Nothing here can
switch verification off.
-/

namespace SealedPage.Render

open Fields Json

/-- The configuration of a consumer. -/
structure Config where
  bindings : Flo.Bindings := ⟨[("user", "Scholar")]⟩
  showNote : Bool := true
  noteText : String := "FLO verified ✔"
  payloadId : String := "flo-payload"
  signatureId : String := "flo-signature"
  publicKeyId : String := "flo-public-pem"
  maxHostKb : Nat := 2048
  deriving Repr

namespace Config

/-- The most bytes of a page. -/
def maxHostBytes (c : Config) : Nat :=
  c.maxHostKb * 1024

/-- The note of a rendered document. -/
def note (c : Config) : Option String :=
  if c.showNote then some c.noteText else none

/-- The bindings in a value. The first one that is no text is reported. -/
def readBindings : Value → Checked Flo.Bindings
  | .obj members =>
    match members.find? fun m => m.2.kind != "str" with
    | some (k, v) =>
      .fail (.rule ("Binding '" ++ k ++ "' must be a string, got " ++ v.kind))
    | none => (textMapping (.obj members)).map (⟨·⟩)
  | _ => .fail (.rule "BINDINGS must be a JSON object")

/-- The rule that the three ids differ. -/
def checkIds (c : Config) : Checked Config :=
  if c.payloadId = c.signatureId || c.payloadId = c.publicKeyId ||
      c.signatureId = c.publicKeyId then
    .fail (.rule "Transport element ids must be distinct")
  else .ok c

/-- The configuration in the given fields; others are ignored. -/
def ofFields (members : Members) : Checked Config :=
  let default : Config := {}
  let fields : Checked Config :=
    Config.mk <$> withDefault members "BINDINGS" default.bindings readBindings
      <*> withDefault members "SHOW_VERIFIED_NOTE" default.showNote truth
      <*> withDefault members "VERIFIED_NOTE_TEXT" default.noteText text
      <*> withDefault members "PAYLOAD_ELEMENT_ID" default.payloadId nonemptyText
      <*> withDefault members "SIGNATURE_ELEMENT_ID" default.signatureId nonemptyText
      <*> withDefault members "PUBLIC_KEY_ELEMENT_ID" default.publicKeyId nonemptyText
      <*> withDefault members "MAX_HOST_DOCUMENT_KB" default.maxHostKb
            (fun v => (integerFrom 1 v).map Int.toNat)
  fields.andThen checkIds

end Config

/-! ## From the environment -/

/-- Variables with their values. -/
abbrev Environment := List (String × String)

/-- Why an environment gives no configuration. -/
inductive ConfigError where
  /-- The size is no integer. -/
  | notInteger (text : String)
  /-- A number has too many digits. -/
  | tooManyDigits (count : Nat)
  /-- The bindings are no JSON. -/
  | notJson
  /-- The bindings hold a container inside too many others. -/
  | tooDeep (container : Container)
  | invalid (problems : List Problem)
  deriving Repr

/-- How many characters of a refused size are shown. -/
def shownSizeLength : Nat :=
  200

/-- The wording of a refusal. -/
def ConfigError.message : ConfigError → String
  | notInteger text =>
    "invalid literal for int() with base 10: " ++
      String.ofList ((Text.quoted text).toList.take shownSizeLength)
  | tooManyDigits count =>
    "Exceeds the limit (4300 digits) for integer string conversion: value has " ++
      Nat.repr count ++ " digits; use sys.set_int_max_str_digits() to increase the limit"
  | notJson => "FLO_RUNTIME_BINDINGS is not valid JSON"
  | tooDeep container => depthMessage container
  | invalid problems => report problems

namespace Config

/-- Whether a word in the environment switches something on. -/
def isOn (word : String) : Bool :=
  ["1", "true", "yes", "on"].contains (Text.lowerString word)

/-- The integer that a variable writes. -/
def readSize (word : String) : Except ConfigError Int :=
  match Text.readInteger Json.maxDigits word.toList with
  | .number n => .ok n
  | .tooLong count => .error (.tooManyDigits count)
  | .malformed => .error (.notInteger word)

/-- The bindings field that a variable writes. -/
def readBindingsVariable (word : String) : Except ConfigError Value :=
  match Json.ofString word with
  | .ok v => .ok v
  | .error .malformed => .error .notJson
  | .error (.tooManyDigits n) => .error (.tooManyDigits n)
  | .error (.tooDeep container) => .error (.tooDeep container)

/-- The variables that are taken over as texts. -/
def textVariables : List String :=
  ["VERIFIED_NOTE_TEXT", "PAYLOAD_ELEMENT_ID", "SIGNATURE_ELEMENT_ID", "PUBLIC_KEY_ELEMENT_ID"]

/-- The configuration in an environment. -/
def ofEnvironment (env : Environment) : Except ConfigError Config := do
  let lookup (name : String) := env.lookup ("FLO_RUNTIME_" ++ name)
  let size ← readSize ((lookup "MAX_HOST_DOCUMENT_KB").getD "2048")
  let shown := ((lookup "SHOW_VERIFIED_NOTE").map isOn).getD true
  let bindings ← match lookup "BINDINGS" with
    | some word => (readBindingsVariable word).map fun v => [("BINDINGS", v)]
    | none => pure []
  let texts := textVariables.filterMap fun name =>
    (lookup name).map fun word => (name, Value.str word)
  let fields := [("SHOW_VERIFIED_NOTE", Value.bool shown), ("MAX_HOST_DOCUMENT_KB", .int size)]
  (ofFields (fields ++ bindings ++ texts)).toExcept.mapError .invalid

end Config

end SealedPage.Render
