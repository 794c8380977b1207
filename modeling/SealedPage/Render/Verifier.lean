import SealedPage.Key.Container
import SealedPage.Render.Transport
import SealedPage.Rsa.Signature

/-!
# Checking signatures

A session, `Verifier`, checks signatures with one public key. The key is imported once, `importKey`;
a session that holds a key never changes any more. A `Check` says whether a signature matches, and
if not, why.
-/

namespace SealedPage.Render

/-- A session: nothing at first, and then a key with the text it was imported from. -/
structure Verifier where
  imported : Option (String × Rsa.PublicKey) := none
  deriving DecidableEq, Repr

/-- What the result of a check is. -/
inductive Check where
  | accepted
  | rejected (cause : Failure)
  deriving DecidableEq, Repr

/-- A check as a record, for logs. Only `accepted` may be trusted. -/
structure CheckRecord where
  accepted : Bool
  failure : Option FailureKind := none
  detail : Option String := none
  deriving DecidableEq, Repr

/-- The record of a check. -/
def Check.record : Check → CheckRecord
  | accepted => { accepted := true }
  | rejected cause =>
    { accepted := false, failure := some cause.kind, detail := some cause.message }

namespace CheckRecord

open Fields

/-- The rule that a check fails if and only if it names a kind of failure. -/
def checkFailure (r : CheckRecord) : Checked CheckRecord :=
  if r.accepted && r.failure.isSome then
    .fail (.rule "An accepted check can not carry a failure")
  else if !r.accepted && r.failure.isNone then
    .fail (.rule "A rejected check requires a failure kind")
  else .ok r

/-- A check from the fields of a record. -/
def ofFields (members : Members) : Checked CheckRecord :=
  let fields : Checked CheckRecord :=
    (fun _ => CheckRecord.mk) <$> onlyKnown members ["accepted", "failure", "detail"]
      <*> required members "accepted" truth
      <*> withDefault members "failure" none (nullable (listed FailureKind.ofName?))
      <*> withDefault members "detail" none (nullable text)
  fields.andThen checkFailure

end CheckRecord

/-- Why an operation of a session fails. -/
inductive SessionError where
  /-- The key that was handed in cannot be used. -/
  | failed (cause : Failure)
  /-- Another key was imported before. -/
  | otherKey
  /-- No key was imported. -/
  | noKey
  deriving DecidableEq, Repr

/-- The wording of an error. -/
def SessionError.message : SessionError → String
  | failed cause => cause.message
  | otherKey => "A public key was already imported for this session"
  | noKey => "import_public_key must be awaited first"

namespace Verifier

/-- The key of a session. -/
def key? (v : Verifier) : Option Rsa.PublicKey :=
  v.imported.map (·.2)

/-- The RSA key in an armoured text. -/
def loadKey (pem : String) : Except Failure Rsa.PublicKey :=
  if pem.toList.all Text.isBlank then .error .emptyKey
  else
    match publicKeyBytes pem with
    | .error e => .error e
    | .ok bytes =>
      match Key.publicKeyOfDer? bytes with
      | none => .error .unreadableKey
      | some (.rsa k) => .ok k
      | some k => .error (.foreignKey k.kind)

/-- Imports a key. A session that has one takes the same text again and refuses any other. -/
def importKey (v : Verifier) (pem : String) : Except SessionError Rsa.PublicKey × Verifier :=
  match v.imported with
  | some (text, k) => (if pem = text then .ok k else .error .otherKey, v)
  | none =>
    match loadKey pem with
    | .error e => (.error (.failed e), v)
    | .ok k => (.ok k, ⟨some (pem, k)⟩)

/-- Checks a signature text over bytes with a key. -/
def checkWith (k : Rsa.PublicKey) (bytes : Bytes) (signature : String) : Check :=
  if bytes.isEmpty then .rejected .emptyPayload
  else if signature.toList.all Text.isBlank then .rejected .emptySignature
  else
    match decodeBase64 .signature signature with
    | .error e => .rejected e
    | .ok s => if Rsa.verify k bytes s then .accepted else .rejected .mismatch

/-- Checks a signature text over bytes with the key of the session. -/
def check (v : Verifier) (bytes : Bytes) (signature : String) : Except SessionError Check :=
  match v.key? with
  | none => .error .noKey
  | some k => .ok (checkWith k bytes signature)

end Verifier

end SealedPage.Render
