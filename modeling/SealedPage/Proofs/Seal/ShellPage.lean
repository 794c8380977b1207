import SealedPage.Proofs.Seal.Template

/-!
# The tree of a shell

The shell of a document is written from a template, `toList_renderShell`, and so it is read as one
tree, `ofString_renderShell`: the title, the addresses and the texts of the payload stand at their
places, and nothing else depends on them, `shapesIn_shellTree`.
-/

namespace SealedPage.Seal

open Html Text

/-! ## The shell as a template -/

/-- The declaration of the document type. -/
def documentType : Leaf :=
  .doctype "html".toList (by decide)

/-- The tag that declares the encoding. -/
def charsetMeta : Leaf :=
  .void false ⟨"meta", by decide, by decide⟩
    [verbatimAttribute "charset" "utf-8" (by decide) (by decide)]

/-- The tag that declares what a page may load. -/
def policyMeta : Leaf :=
  .void false ⟨"meta", by decide, by decide⟩
    [verbatimAttribute "http-equiv" "Content-Security-Policy" (by decide) (by decide),
      verbatimAttribute "content" "default-src 'self'; script-src 'self';" (by decide)
        (by decide)]

/-- The tag of the style sheet. -/
def styleLink (url : String) : Leaf :=
  .void true ⟨"link", by decide, by decide⟩
    [verbatimAttribute "rel" "stylesheet" (by decide) (by decide),
      escapedAttribute "href" url (by decide)]

/-- The id and the type of an element that carries a text. -/
structure Carrier where
  id : String
  type : String
  isVerbatim_id : isVerbatim id
  isVerbatim_type : isVerbatim type

namespace Carrier

/-- The carrier of the payload. -/
def payload : Carrier where
  id := "flo-payload"
  type := "application/flo+base64"
  isVerbatim_id := by simp [isVerbatim]
  isVerbatim_type := by simp [isVerbatim]

/-- The carrier of the signature. -/
def signature : Carrier where
  id := "flo-signature"
  type := "application/flo-signature"
  isVerbatim_id := by simp [isVerbatim]
  isVerbatim_type := by simp [isVerbatim]

/-- The carrier of the public key. -/
def publicPem : Carrier where
  id := "flo-public-pem"
  type := "application/flo-public-pem"
  isVerbatim_id := by simp [isVerbatim]
  isVerbatim_type := by simp [isVerbatim]

/-- The element that carries a text. -/
def leaf (k : Carrier) (text : String) : Leaf :=
  .script [verbatimAttribute "id" k.id (by decide) k.isVerbatim_id,
    verbatimAttribute "type" k.type (by decide) k.isVerbatim_type] text.toList

/-- The element that carries a text, in the tree. -/
def node (k : Carrier) (text : String) : Node :=
  .element "script" [("id", k.id), ("type", k.type)]
    (Builder.textNodes .script (escaped text.toList))

end Carrier

/-- The element of the consumer's program. -/
def runtimeScript (url : String) : Leaf :=
  .script [escapedAttribute "src" url (by decide), bareAttribute "defer" (by decide)] []

/-- The name of an element of the frame. -/
def frameName (name : String) (h : isPlainName name.toList ∧ isVoid name = false ∧
    RawElement.ofName? name = none ∧ keepsSpace name = false) : ElementName :=
  ⟨name, h.1, h.2.1, h.2.2.1, h.2.2.2⟩

/-- The line feed and the blanks in front of a tag inside another element. -/
def indent : List Char :=
  ['\n', ' ', ' ']

/-- What is inside the head of a shell. -/
def shellHead (s : Settings) : Content :=
  .leaf indent charsetMeta <|
  .element indent (frameName "title" (by decide)) [] (.text s.shellTitle.toList) <|
  .leaf indent policyMeta <|
  .leaf indent (styleLink s.stylesheetUrl) <|
  .text ['\n']

/-- What is inside the body of a shell. -/
def shellBody (s : Settings) (p : Payload) : Content :=
  .leaf indent (Carrier.payload.leaf p.source) <|
  .leaf indent (Carrier.signature.leaf p.signature) <|
  .leaf indent (Carrier.publicPem.leaf p.publicPem) <|
  .leaf indent (runtimeScript s.scriptUrl) <|
  .text ['\n']

/-- The shell as a template. -/
def shell (s : Settings) (p : Payload) : Content :=
  .leaf [] documentType <|
  .element ['\n'] (frameName "html" (by decide)) []
    (.element ['\n'] (frameName "head" (by decide)) [] (shellHead s) <|
      .element ['\n'] (frameName "body" (by decide)) [] (shellBody s p) <|
      .text ['\n']) <|
  .text ['\n']

/-! ## The text of the template -/

theorem toList_documentType : "<!doctype html>".toList = documentType.write := by
  simp [documentType, Leaf.write, writeDoctype]

theorem toList_charsetMeta :
    "  <meta charset=\"utf-8\">".toList = [' ', ' '] ++ charsetMeta.write := by
  simp [charsetMeta, Leaf.write]

theorem toList_title (title : String) :
    ("  <title>" ++ escape title ++ "</title>").toList =
      [' ', ' '] ++ (writeTag false "title" [] ++
        (escaped title.toList ++ writeEndTag "title")) := by
  simp [toList_escape, writeEndTag]

theorem toList_policyMeta :
    ("  <meta http-equiv=\"Content-Security-Policy\" " ++
      "content=\"default-src 'self'; script-src 'self';\">").toList =
      [' ', ' '] ++ policyMeta.write := by
  simp [policyMeta, Leaf.write]

theorem toList_styleLink (url : String) :
    ("  <link rel=\"stylesheet\" href=\"" ++ escape url ++ "\" />").toList =
      [' ', ' '] ++ (styleLink url).write := by
  simp [toList_escape, styleLink, Leaf.write]

/-- The line of a carrier is its leaf, indented. -/
theorem Carrier.toList_leaf (k : Carrier) {start : String}
    (hstart : start.toList = "  <script id=\"".toList ++ (k.id.toList ++
      ("\" type=\"".toList ++ (k.type.toList ++ "\">".toList)))) (text : String) :
    (start ++ escape text ++ "</script>").toList = [' ', ' '] ++ (k.leaf text).write := by
  rw [String.toList_append, String.toList_append, hstart]
  simp [toList_escape, leaf, Leaf.write, writeEndTag, RawElement.name]

theorem toList_runtimeScript (url : String) :
    ("  <script src=\"" ++ escape url ++ "\" defer></script>").toList =
      [' ', ' '] ++ (runtimeScript url).write := by
  simp [toList_escape, runtimeScript, Leaf.write, writeEndTag, RawElement.name, escaped]

/-- A page is its lines, each one ended. -/
theorem toList_page (lines : List String) :
    (page lines).toList = lines.flatMap fun line => line.toList ++ ['\n'] := by
  rw [page, String.toList_join, List.flatMap_map]
  simp [String.toList_append]

/-- The shell is written from its template. -/
theorem toList_renderShell (s : Settings) (p : Payload) :
    (renderShell s p).toList = (shell s p).write := by
  have hpayload := Carrier.payload.toList_leaf (by simp [Carrier.payload] :
    "  <script id=\"flo-payload\" type=\"application/flo+base64\">".toList = _) p.source
  have hsignature := Carrier.signature.toList_leaf (by simp [Carrier.signature] :
    "  <script id=\"flo-signature\" type=\"application/flo-signature\">".toList = _) p.signature
  have hpublicPem := Carrier.publicPem.toList_leaf (by simp [Carrier.publicPem] :
    "  <script id=\"flo-public-pem\" type=\"application/flo-public-pem\">".toList = _) p.publicPem
  unfold renderShell
  rw [toList_page]
  simp only [List.flatMap_cons, List.flatMap_nil, toList_documentType, toList_charsetMeta,
    toList_title, toList_policyMeta, toList_styleLink, hpayload, hsignature, hpublicPem,
    toList_runtimeScript]
  simp only [shell, shellHead, shellBody, Content.write]
  simp [escaped, indent, escapeChar_of_not_mem, specials, frameName, writeEndTag]

/-! ## The tree of the shell -/

/-- The text between two tags. -/
def lineBreak : Node :=
  .text .plain "\n"

/-- The tree of the shell. -/
def shellTree (s : Settings) (p : Payload) : Document :=
  [.text .doctype "html", lineBreak,
    .element "html" []
      [lineBreak,
        .element "head" []
          [lineBreak, .element "meta" [("charset", "utf-8")] [], lineBreak,
            .element "title" [] (Builder.textNodes .plain s.shellTitle.toList), lineBreak,
            .element "meta" [("http-equiv", "Content-Security-Policy"),
              ("content", "default-src 'self'; script-src 'self';")] [], lineBreak,
            .element "link" [("rel", "stylesheet"), ("href", s.stylesheetUrl)] [], lineBreak],
        lineBreak,
        .element "body" []
          [lineBreak, Carrier.payload.node p.source, lineBreak,
            Carrier.signature.node p.signature, lineBreak,
            Carrier.publicPem.node p.publicPem, lineBreak,
            .element "script" [("src", s.scriptUrl), ("defer", "")] [], lineBreak],
        lineBreak],
    lineBreak]

theorem textNodes_nil (kind : TextKind) : Builder.textNodes kind [] = [] :=
  rfl

theorem textNodes_lineFeed : Builder.textNodes .plain ['\n'] = [lineBreak] := by
  simp [Builder.textNodes, collapseSpace, isAsciiSpace, lineBreak]

theorem textNodes_indent : Builder.textNodes .plain indent = [lineBreak] := by
  simp [Builder.textNodes, collapseSpace, isAsciiSpace, indent, lineBreak]

/-- Only the relation of the style sheet is a list of words, of one word. -/
theorem joinWords_stylesheet : joinWords "stylesheet" = "stylesheet" := by
  decide +kernel

theorem node_documentType : documentType.node = .text .doctype "html" := by
  simp [documentType, Leaf.node, collapseSpace, isAsciiSpace]

theorem node_charsetMeta : charsetMeta.node = .element "meta" [("charset", "utf-8")] [] := by
  have hwords : elementWordAttributes "meta" = [] := rfl
  simp [charsetMeta, Leaf.node, elementNode, verbatimAttribute, Attribute.entry,
    elementAttributes, setAttribute, normalizeValue, wordAttributes, hwords]

theorem node_policyMeta :
    policyMeta.node = .element "meta" [("http-equiv", "Content-Security-Policy"),
      ("content", "default-src 'self'; script-src 'self';")] [] := by
  have hwords : elementWordAttributes "meta" = [] := rfl
  simp [policyMeta, Leaf.node, elementNode, verbatimAttribute, Attribute.entry,
    elementAttributes, setAttribute, normalizeValue, wordAttributes, hwords]

theorem node_styleLink (url : String) :
    (styleLink url).node = .element "link" [("rel", "stylesheet"), ("href", url)] [] := by
  have hwords : elementWordAttributes "link" = ["rel", "rev"] := rfl
  simp [styleLink, Leaf.node, elementNode, verbatimAttribute, escapedAttribute, Attribute.entry,
    elementAttributes, setAttribute, normalizeValue, wordAttributes, hwords, joinWords_stylesheet]

/-- The leaf of a carrier is read as its node. -/
theorem Carrier.node_leaf (k : Carrier) (text : String) : (k.leaf text).node = k.node text := by
  have hwords : elementWordAttributes "script" = [] := rfl
  simp [leaf, node, Leaf.node, elementNode, verbatimAttribute, Attribute.entry,
    elementAttributes, setAttribute, normalizeValue, wordAttributes, RawElement.name, hwords]

theorem node_runtimeScript (url : String) :
    (runtimeScript url).node = .element "script" [("src", url), ("defer", "")] [] := by
  have hwords : elementWordAttributes "script" = [] := rfl
  simp [runtimeScript, Leaf.node, elementNode, escapedAttribute, bareAttribute, Attribute.entry,
    elementAttributes, setAttribute, normalizeValue, wordAttributes, RawElement.name, hwords,
    escaped, textNodes_nil]

/-- What the template is read as. -/
theorem nodes_shell (s : Settings) (p : Payload) : (shell s p).nodes .plain = shellTree s p := by
  have hkind : ∀ name ∈ ["html", "head", "body", "title"],
      (ownTextKind? name).getD .plain = .plain := by
    simp only [List.forall_mem_cons]
    exact ⟨rfl, rfl, rfl, rfl, List.forall_mem_nil _⟩
  simp [shell, shellHead, shellBody, shellTree, Content.nodes, frameName, elementNode,
    elementAttributes, hkind, textNodes_nil, textNodes_lineFeed, textNodes_indent,
    node_documentType, node_charsetMeta, node_policyMeta, node_styleLink, Carrier.node_leaf,
    node_runtimeScript]

/-- A shell is read as its tree, whatever is put into it. -/
theorem ofString_renderShell (s : Settings) (p : Payload) :
    Document.ofString (renderShell s p) = .ok (shellTree s p) := by
  rw [Document.ofString, toList_renderShell, Content.ofText_write, nodes_shell]

/-- The shape of a shell. -/
def shellShape : List Shape :=
  [.element "html" []
    [.element "head" []
      [.element "meta" ["charset"] [],
        .element "title" [] [],
        .element "meta" ["http-equiv", "content"] [],
        .element "link" ["rel", "href"] []],
    .element "body" []
      [.element "script" ["id", "type"] [],
        .element "script" ["id", "type"] [],
        .element "script" ["id", "type"] [],
        .element "script" ["src", "defer"] []]]]

/-- The shell has one shape, whatever it carries. -/
theorem shapesIn_shellTree (s : Settings) (p : Payload) :
    shapesIn (shellTree s p) = shellShape := by
  simp [shellTree, shellShape, shapesIn, Node.shapes, shapesIn_textNodes, Carrier.node, lineBreak]

end SealedPage.Seal
