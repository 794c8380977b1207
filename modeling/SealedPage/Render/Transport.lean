import SealedPage.Html.Builder
import SealedPage.Render.Config
import SealedPage.Render.Failure

/-!
# Reading the transport

A page carries three texts in elements with fixed ids, a `Triple`: the payload, its signature and
the public key. They are read, `readTriple`, and decoded strictly, `decodeBase64`. Nothing read here
is trusted before its signature is checked.
-/

namespace SealedPage.Render

open Text

/-- The three texts of a page, without the blanks at their ends. -/
structure Triple where
  payload : String
  signature : String
  publicKey : String
  deriving DecidableEq, Repr

/-- The trimmed text of the first element with the id; an absent element has an empty text. -/
def transportText (page : Html.Document) (id : String) : String :=
  match page.findById? id with
  | some element => String.ofList (trim element.textContent.toList)
  | none => ""

/-- Reads the three texts; all that are absent or empty are reported. -/
def readTriple (page : Html.Document) (c : Config) : Except Failure Triple :=
  let ids := [c.payloadId, c.signatureId, c.publicKeyId]
  match ids.filter fun id => (transportText page id).isEmpty with
  | [] =>
    .ok ⟨transportText page c.payloadId, transportText page c.signatureId,
      transportText page c.publicKeyId⟩
  | missing => .error (.missingElements missing)

/-- Decodes base64 in which blanks do not count; nothing to decode is an error too. -/
def decodeBase64 (part : Part) (value : String) : Except Failure Bytes :=
  match Codec.Base64.decode (dropBlanks value.toList) with
  | .error e => .error (.badBase64 part e)
  | .ok [] => .error (.zeroBytes part)
  | .ok bytes => .ok bytes

/-- The marks around a public key. -/
def armour : List (List Char) :=
  ["-----BEGIN PUBLIC KEY-----".toList, "-----END PUBLIC KEY-----".toList]

/-- Drops the marks from a text, after passing over its first `skip` characters; the text so far
stands in reverse. -/
def dropArmourFrom (done : List Char) : (skip : Nat) → List Char → List Char
  | _, [] => done.reverse
  | skip + 1, _ :: cs => dropArmourFrom done skip cs
  | 0, c :: cs =>
    match armour.find? (·.isPrefixOf (c :: cs)) with
    | some mark => dropArmourFrom done (mark.length - 1) cs
    | none => dropArmourFrom (c :: done) 0 cs

/-- The bytes of an armoured public key. -/
def publicKeyBytes (pem : String) : Except Failure Bytes :=
  decodeBase64 .publicKey (String.ofList (dropArmourFrom [] 0 pem.toList))

/-- The text of a payload. -/
def decodeSource (bytes : Bytes) : Except Failure String :=
  (Utf8.toString bytes).mapError .notUtf8

end SealedPage.Render
