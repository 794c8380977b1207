import SealedPage.Seal.Settings
import SealedPage.Seal.Signing

/-!
# Shells

The page that carries a document to its consumers, `renderShell`: the text, the signature over it
and the public key in three inert elements, as `packageDocument` puts them together. Everything put
into a page is escaped, `escape`, but for the compiled document of an unsigned page,
`renderUnsigned`.
-/

namespace SealedPage.Seal

open Fields

/-- What a shell carries. The hash is for observers. -/
structure Payload where
  source : String
  signature : String
  publicPem : String
  sourceHash : String
  deriving DecidableEq, Repr

/-- A payload from the fields of a record. -/
def Payload.ofFields (members : Members) : Checked Payload :=
  (fun _ => Payload.mk)
    <$> onlyKnown members ["source_b64", "signature_b64", "public_pem", "source_hash"]
    <*> required members "source_b64" text
    <*> required members "signature_b64" text
    <*> required members "public_pem" text
    <*> required members "source_hash" text

/-- Signs a document and puts it together with the public key. -/
def packageDocument (m : Key.Material) (source : String) : Except SigningError Payload :=
  (signSource m.privateKey (.text source)).map fun signature =>
    { source := encodeSource source
      signature
      publicPem := m.publicPem
      sourceHash := sourceHash (Text.Utf8.ofString source) }

/-! ## Pages -/

/-- How a character stands in a page. -/
def escapeChar (c : Char) : List Char :=
  if c = '&' then "&amp;".toList
  else if c = '<' then "&lt;".toList
  else if c = '>' then "&gt;".toList
  else if c = '"' then "&#34;".toList
  else if c = '\'' then "&#39;".toList
  else [c]

/-- A text as it stands in a page. -/
def escape (s : String) : String :=
  String.ofList (s.toList.flatMap escapeChar)

/-- A page from its lines. -/
def page (lines : List String) : String :=
  String.join (lines.map fun line => line ++ "\n")

/-- The shell of a document. -/
def renderShell (s : Settings) (p : Payload) : String :=
  page
    ["<!doctype html>",
      "<html>",
      "<head>",
      "  <meta charset=\"utf-8\">",
      "  <title>" ++ escape s.shellTitle ++ "</title>",
      "  <meta http-equiv=\"Content-Security-Policy\" " ++
        "content=\"default-src 'self'; script-src 'self';\">",
      "  <link rel=\"stylesheet\" href=\"" ++ escape s.stylesheetUrl ++ "\" />",
      "</head>",
      "<body>",
      "  <script id=\"flo-payload\" type=\"application/flo+base64\">" ++ escape p.source ++
        "</script>",
      "  <script id=\"flo-signature\" type=\"application/flo-signature\">" ++ escape p.signature ++
        "</script>",
      "  <script id=\"flo-public-pem\" type=\"application/flo-public-pem\">" ++
        escape p.publicPem ++ "</script>",
      "  <script src=\"" ++ escape s.scriptUrl ++ "\" defer></script>",
      "</body>",
      "</html>"]

/-- The unsigned page around a compiled document. -/
def renderUnsigned (s : Settings) (html : String) : String :=
  page
    ["<!doctype html>",
      "<html>",
      "<head>",
      "  <meta charset=\"utf-8\">",
      "  <title>" ++ escape (s.shellTitle ++ " (SSR)") ++ "</title>",
      "</head>",
      "<body>" ++ html ++ "</body>",
      "</html>"]

end SealedPage.Seal
