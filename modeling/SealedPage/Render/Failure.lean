import SealedPage.Codec.Base64
import SealedPage.Text.Quoted
import SealedPage.Text.Utf8

/-!
# Failures of a render

Everything that can go wrong in a render is one cause here, a `Failure`. A cause belongs to a
`FailureKind`, which is for logs, and kinds collapse to states, `PageState`, which are all that a
user or an observer learns. The message of a cause is for logs, too; where a library would add its
own reason behind a colon, the message ends before it.
-/

namespace SealedPage.Render

/-- The kind of a failure. -/
inductive FailureKind where
  | missingInput
  | malformedInput
  | signatureMismatch
  | materializationError
  | runtimeError
  deriving DecidableEq, Repr

namespace FailureKind

/-- The name of a kind. -/
def name : FailureKind → String
  | missingInput => "missing_input"
  | malformedInput => "malformed_input"
  | signatureMismatch => "signature_mismatch"
  | materializationError => "materialization_error"
  | runtimeError => "runtime_error"

/-- All kinds. -/
def all : List FailureKind :=
  [missingInput, malformedInput, signatureMismatch, materializationError, runtimeError]

/-- The kind of the given name. -/
def ofName? (s : String) : Option FailureKind :=
  all.find? fun k => k.name == s

/-- The refusal of a name that no kind has. -/
def unknownName (s : String) : String :=
  Text.quoted s ++ " is not a valid FailureKind"

end FailureKind

/-- The state of a page as its user sees it. -/
inductive PageState where
  | rendered
  | missingInputAbort
  | integrityAbort
  | runtimeAbort
  deriving DecidableEq, Repr

/-- The name of a state. -/
def PageState.name : PageState → String
  | rendered => "rendered"
  | missingInputAbort => "missing_input_abort"
  | integrityAbort => "integrity_abort"
  | runtimeAbort => "runtime_abort"

/-- The state that a kind of failure shows as. -/
def FailureKind.state : FailureKind → PageState
  | missingInput => .missingInputAbort
  | malformedInput => .integrityAbort
  | signatureMismatch => .integrityAbort
  | materializationError => .runtimeAbort
  | runtimeError => .runtimeAbort

/-- The text that stands in place of a document that was not rendered. It depends on the state
alone. -/
def PageState.placeholder : PageState → String
  | rendered => ""
  | missingInputAbort => "FLO runtime: missing payload/signature/public key."
  | integrityAbort => "FLO integrity check failed. Rendering aborted."
  | runtimeAbort => "FLO runtime error: see logs."

/-- The text that stands in place of a document after a failure. -/
def FailureKind.placeholder (k : FailureKind) : String :=
  k.state.placeholder

/-- The parts of the transport that are base64. -/
inductive Part where
  | payload
  | publicKey
  | signature
  | other (name : String)
  deriving DecidableEq, Repr

/-- The name of a part. -/
def Part.name : Part → String
  | payload => "Payload"
  | publicKey => "Public key"
  | signature => "Signature"
  | other name => name

/-- What went wrong in a render. -/
inductive Failure where
  /-- Transport elements are absent or empty; their ids are given. -/
  | missingElements (ids : List String)
  /-- There is no text of a public key. -/
  | emptyKey
  /-- There are no payload bytes to check. -/
  | emptyPayload
  /-- There is no text of a signature. -/
  | emptySignature
  | badBase64 (part : Part) (cause : Codec.Base64.DecodeError)
  | zeroBytes (part : Part)
  /-- The bytes are no public key. -/
  | unreadableKey
  /-- The bytes are a public key of the kind given. -/
  | foreignKey (kind : String)
  | notUtf8 (cause : Text.Utf8.DecodeError)
  | mismatch
  | noBody
  /-- The compiled document is refused by the HTML reader. -/
  | unreadableFragment
  deriving DecidableEq, Repr

namespace Failure

/-- The kind of a failure. -/
def kind : Failure → FailureKind
  | missingElements _ | emptyKey | emptyPayload | emptySignature => .missingInput
  | badBase64 _ _ | zeroBytes _ | unreadableKey | foreignKey _ | notUtf8 _ => .malformedInput
  | mismatch => .signatureMismatch
  | noBody | unreadableFragment => .materializationError

/-- The wording of a failure, for logs only. -/
def message : Failure → String
  | missingElements ids =>
    "Transport element(s) absent or empty: " ++ String.intercalate ", " ids
  | emptyKey => "Public key is empty"
  | emptyPayload => "Payload bytes are empty"
  | emptySignature => "Signature is empty"
  | badBase64 part cause => part.name ++ " is not valid base64: " ++ cause.message
  | zeroBytes part => part.name ++ " decodes to zero bytes"
  | unreadableKey => "Public key could not be imported"
  | foreignKey kind => "Expected an RSA public key, got " ++ kind
  | notUtf8 cause => "Payload is not valid UTF-8: " ++ cause.message
  | mismatch => "Signature does not match payload bytes"
  | noBody => "Host document has no <body> element"
  | unreadableFragment => "Compiled fragment could not be parsed"

end Failure

end SealedPage.Render
