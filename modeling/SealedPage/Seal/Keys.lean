import SealedPage.Key.Material
import SealedPage.Seal.Settings
import SealedPage.Text.Line

/-!
# Reading keys

The two keys of a producer are read from the files that its settings name, once, when it starts:
`loadKeys`. A file that is not read is a `KeyFileError`.
-/

namespace SealedPage.Seal

open Disk

/-- One of the two keys. -/
inductive KeyLabel where
  | privateKey
  | publicKey
  deriving DecidableEq, Repr

/-- The name of a key. -/
def KeyLabel.name : KeyLabel → String
  | privateKey => "private"
  | publicKey => "public"

/-- Why the keys are not had. -/
inductive KeyFileError where
  | unreadable (label : KeyLabel)
  /-- The path holds a zero byte. -/
  | zeroByte
  | notUtf8 (cause : Text.Utf8.DecodeError)
  | unusable (cause : Key.MaterialError)
  deriving DecidableEq, Repr

/-- The wording of an error. -/
def KeyFileError.message : KeyFileError → String
  | unreadable label => "Failed to read " ++ label.name ++ " key"
  | zeroByte => "embedded null byte"
  | notUtf8 cause => cause.message
  | unusable cause => cause.message

/-- The text of a key file. -/
def readKeyFile (place : Place) (path : String) (label : KeyLabel) :
    Except KeyFileError String :=
  if path.toList.contains '\x00' then .error .zeroByte
  else
    match place.tree.findText place.here path with
    | .ok (.file content) =>
      match Text.Utf8.decode content with
      | .ok cs => .ok (String.ofList (Text.plainLines cs))
      | .error e => .error (.notUtf8 e)
    | _ => .error (.unreadable label)

/-- The keys that settings name. -/
def loadKeys (place : Place) (s : Settings) : Except KeyFileError Key.Material := do
  let privateText ← readKeyFile place s.privateKeyPath .privateKey
  let publicText ← readKeyFile place s.publicKeyPath .publicKey
  (Key.Material.build privateText publicText s.passphrase).mapError .unusable

end SealedPage.Seal
