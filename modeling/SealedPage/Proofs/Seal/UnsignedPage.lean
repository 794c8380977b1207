import SealedPage.Proofs.Flo.Tree
import SealedPage.Proofs.Render.Stages
import SealedPage.Proofs.Seal.ShellPage

/-!
# The tree of an unsigned page

A fragment is read as the tree that its tags denote, up to texts of white space alone, wherever it
stands: `reads_of_denotes`. So the body of an unsigned page and the body of a page that takes the
fragment hold the same nodes, `pages_agree`.
-/

namespace SealedPage.Html

open Text

mutual

/-- A node with its texts as they are read: those of white space alone are collapsed. -/
def Node.collapse : Node → Node
  | .text kind s => .text kind (String.ofList (collapseSpace s.toList))
  | .element name attributes children => .element name attributes (collapseAll children)

/-- Nodes with their texts as they are read. -/
def collapseAll : List Node → List Node
  | [] => []
  | n :: ns => n.collapse :: collapseAll ns

end

/-- White space is collapsed in each part of a list of nodes. -/
theorem collapseAll_append (ns ns' : List Node) :
    collapseAll (ns ++ ns') = collapseAll ns ++ collapseAll ns' := by
  induction ns with
  | nil => rfl
  | cons n ns ih => rw [List.cons_append, collapseAll, ih, collapseAll, List.cons_append]

end SealedPage.Html

namespace SealedPage.Seal

open Flo Html Text

/-! ## Text and tags of a fragment -/

/-- Collapsing the white space of a text as it is written gives its text nodes. -/
theorem collapseAll_verbatimNodes (s : List Char) :
    collapseAll (verbatimNodes s) = Builder.textNodes .plain s := by
  unfold verbatimNodes Builder.textNodes
  split
  · rfl
  · rw [collapseAll, collapseAll, Node.collapse, String.toList_ofList]

/-- Text without markup is read as a text. -/
theorem reads_plain {s : List Char} (hs : ∀ c ∈ s, isPlain c) :
    Reads s (Builder.textNodes · s) := by
  intro rest hrest
  refine ⟨textTokens s, fun done => ?_, Builder.puts_textTokens s⟩
  cases s with
  | nil => rfl
  | cons c cs => exact lexFrom_plain false done (List.cons_ne_nil c cs) hs hrest

/-- What the elements of the standard rules have in common: markup is read in them, white space
does not count, and of what the rules write only the class is a list of words, of one word. -/
theorem of_mem_standard : ∀ r ∈ RuleTable.standard.rules,
    (isPlainName r.element.toList ∧ isVoid r.element = false ∧
      RawElement.ofName? r.element = none ∧ keepsSpace r.element = false) ∧
    ownTextKind? r.element = none ∧ isVerbatim r.cssClass ∧ joinWords r.cssClass = r.cssClass ∧
    (elementWordAttributes r.element).contains "href" = false ∧
    (elementWordAttributes r.element).contains "data-title" = false := by
  decide +kernel

/-- A value with no ampersand and no quote is read as it is written. -/
theorem isVerbatim_of_not_mem {value : String} (hamp : '&' ∉ value.toList)
    (hquote : '"' ∉ value.toList) : isVerbatim value := by
  rw [isVerbatim, List.all_eq_true]
  intro c hc
  have hne : c ≠ '&' ∧ c ≠ '"' := ⟨fun he => hamp (he ▸ hc), fun he => hquote (he ▸ hc)⟩
  simp [hne]

theorem entry_verbatimAttribute {name value : String} (hname : isPlainName name.toList)
    (hvalue : isVerbatim value) :
    (verbatimAttribute name value hname hvalue).entry = (name, value) :=
  rfl

section
variable {r : Rule} (hr : r ∈ RuleTable.standard.rules)
include hr

/-- The attributes that a rule shows stand in the tree as they are written. -/
theorem elementAttributes_shown (attributes : Flo.Attributes) :
    elementAttributes r.element (r.shown attributes) = r.shown attributes := by
  obtain ⟨-, -, -, hwords, hhref, htitle⟩ := of_mem_standard r hr
  have hhref' : "href" ∉ elementWordAttributes r.element := by simpa using hhref
  have htitle' : "data-title" ∉ elementWordAttributes r.element := by simpa using htitle
  unfold Rule.shown
  split
  · cases attributes.getNonempty? "href" <;>
      simp [elementAttributes, setAttribute, normalizeValue, wordAttributes, hwords, hhref']
  split
  · cases attributes.getNonempty? "title" <;>
      simp [elementAttributes, setAttribute, normalizeValue, wordAttributes, hwords, htitle']
  · simp [elementAttributes, setAttribute, normalizeValue, wordAttributes, hwords]

/-- The opening tag of a rule is one of HTML, with the attributes that the rule shows. -/
theorem exists_writeTag {attributes : Flo.Attributes} {tag : String}
    (hopen : r.openTag? attributes = some tag)
    (hquote : ∀ a ∈ attributes, '"' ∉ a.2.toList) (hamp : '&' ∉ tag.toList) :
    ∃ as : List Html.Attribute, tag.toList = writeTag false r.element as ∧
      as.map Html.Attribute.entry = r.shown attributes := by
  obtain ⟨-, -, hclass, -⟩ := of_mem_standard r hr
  let cssClass := verbatimAttribute "class" r.cssClass (by decide) hclass
  have hverbatim : ∀ {name value}, attributes.getNonempty? name = some value →
      '&' ∉ value.toList → isVerbatim value :=
    fun hget hvalue => isVerbatim_of_not_mem hvalue (hquote _ (mem_of_getNonempty? hget))
  unfold Rule.openTag? at hopen
  unfold Rule.shown
  split at hopen
  · rename_i haccepts
    obtain ⟨htitle, hhref⟩ : r.takesTitle = false ∧ r.takesHref = false := by
      simpa [Rule.acceptsAttributes] using haccepts
    obtain rfl : r.opening "" "" = tag := by
      split at hopen
      · exact Option.some.inj hopen
      · cases hopen
    refine ⟨[cssClass], ?_, ?_⟩
    · simp [Rule.opening, cssClass]
    · simp [cssClass, entry_verbatimAttribute, htitle, hhref]
  · split at hopen
    · rename_i hhref
      obtain ⟨href, hget, rfl⟩ := Option.map_eq_some_iff.1 hopen
      have hvalue := hverbatim hget fun hmem => hamp (by simp [Rule.opening, hmem])
      refine ⟨[verbatimAttribute "href" href (by decide) hvalue, cssClass], ?_, ?_⟩
      · simp [Rule.opening, cssClass]
      · simp [cssClass, entry_verbatimAttribute, hhref, hget]
    · rename_i haccepts hhref
      have htitle : r.takesTitle := by
        simpa [Rule.acceptsAttributes, hhref] using haccepts
      split at hopen
      · rename_i title hget
        obtain rfl := Option.some.inj hopen
        have hvalue := hverbatim hget fun hmem => hamp (by simp [Rule.opening, hmem])
        refine ⟨[cssClass, verbatimAttribute "data-title" title (by decide) hvalue], ?_, ?_⟩
        · simp [Rule.opening, cssClass]
        · simp [cssClass, entry_verbatimAttribute, hhref, htitle, hget]
      · rename_i hget
        obtain rfl := Option.some.inj hopen
        refine ⟨[cssClass], ?_, ?_⟩
        · simp [Rule.opening, cssClass]
        · simp [cssClass, entry_verbatimAttribute, hhref, htitle, hget]

end

/-! ## Fragments -/

/-- A segment that HTML reads as what it says: a text without markup, or the tag of a standard
rule. -/
inductive Readable : Segment → Prop where
  | text {s : List Char} (hs : ∀ c ∈ s, isPlain c) : Readable (.text s)
  | opening {rule : Rule} {attributes : Flo.Attributes} (hr : rule ∈ RuleTable.standard.rules)
    (as : List Html.Attribute)
    (hwrite : (Segment.tag (.opening rule attributes)).write = writeTag false rule.element as)
    (hshown : as.map Html.Attribute.entry = rule.shown attributes) :
    Readable (.tag (.opening rule attributes))
  | closing (rule : Rule) : Readable (.tag (.closing rule))

/-- A closing segment is written as an end tag. -/
theorem write_closing (rule : Rule) :
    (Segment.tag (.closing rule)).write = writeEndTag rule.element := by
  simp [Segment.write, Bracket.text?, Rule.closeTag, writeEndTag]

/-- Segments are read as what they denote, wherever they stand. -/
theorem reads_of_denotes {ss : List Segment} {ns : List Node} (h : Denotes ss ns)
    (hss : ∀ g ∈ ss, Readable g) :
    ∃ nodes, Reads (ss.flatMap Segment.write) nodes ∧ nodes .plain = collapseAll ns := by
  induction h with
  | text s =>
    cases hss _ List.mem_cons_self with
    | text hs =>
      refine ⟨(Builder.textNodes · s), ?_, (collapseAll_verbatimNodes s).symm⟩
      rw [List.flatMap_singleton]
      exact reads_plain hs
  | @element s rule attributes inside behind content rest _ _ ihinside ihbehind =>
    simp only [List.forall_mem_cons, List.forall_mem_append] at hss
    obtain ⟨htext, hopening, hinside, -, hbehind⟩ := hss
    obtain ⟨nodes, hreads, hnodes⟩ := ihinside hinside
    obtain ⟨nodes', hreads', hnodes'⟩ := ihbehind hbehind
    cases htext with
    | text hs =>
      cases hopening with
      | opening hr as hwrite hshown =>
        obtain ⟨⟨hplain, hvoid, hraw, hkeeps⟩, hkind, -⟩ := of_mem_standard rule hr
        have helement := (reads_plain hs).element ⟨rule.element, hplain, hvoid, hraw, hkeeps⟩ as
          hreads hreads'
        refine ⟨fun kind => Builder.textNodes kind s ++
          elementNode rule.element as (nodes kind) :: nodes' kind, ?_, ?_⟩
        · simp only [List.flatMap_cons, List.flatMap_append, hwrite, write_closing]
          simpa only [Segment.write, List.append_assoc, hkind, Option.getD_none] using helement
        · simp only [collapseAll_append, collapseAll_verbatimNodes, collapseAll, Node.collapse,
            elementNode, hshown, elementAttributes_shown hr, hnodes, hnodes']

/-- The segments of a fragment are readable, if it has no ampersand and opening brackets only where
tags begin. -/
theorem readable_of_mem_segments {source : String} {b : Bindings}
    (hamp : '&' ∉ (compile source b).html.toList)
    (hangle : ∀ k, (compile source b).html.toList[k]? = some '<' →
      k ∈ tagPlaces 0 (segments source b RuleTable.standard)) :
    ∀ g ∈ segments source b RuleTable.standard, Readable g := by
  obtain ⟨hhtml, -⟩ := exists_denotes source b RuleTable.standard
  have hspans := separated_interpolateSpans source.toList b
  rw [hhtml] at hamp hangle
  have hplain : ∀ g ∈ segments source b RuleTable.standard, '&' ∉ g.write :=
    fun g hg hmem => hamp (List.mem_flatMap.2 ⟨g, hg, hmem⟩)
  have htext : ∀ s, .text s ∈ segments source b RuleTable.standard → '<' ∉ s :=
    fun s => not_mem_of_tagPlaces 0
      (fun _ hmem => write_tag_ne_nil (isSome_text?_of_mem_segments hmem)) (by simpa using hangle)
  intro g hg
  cases g with
  | text s =>
    refine .text fun c hc => ?_
    have hangle : c ≠ '<' := fun he => htext s hg (he ▸ hc)
    have hampersand : c ≠ '&' := fun he => hplain _ hg (he ▸ hc)
    simp [isPlain, hangle, hampersand]
  | tag bracket =>
    cases bracket with
    | closing rule => exact .closing rule
    | opening rule attributes =>
      obtain ⟨tag, htag⟩ := Option.isSome_iff_exists.1 (isSome_text?_of_mem_segments hg)
      obtain ⟨t, ht, hbracket⟩ := exists_bracket_of_mem_segmentsFrom hg
      have htoken := mem_tokensOf_of_mem_rewrittenTokens ht
      obtain ⟨rfl, rfl⟩ : t.rule = rule ∧ t.attributes = attributes := by
        unfold Token.bracket at hbracket
        split at hbracket
        · cases hbracket
        · exact Bracket.opening.inj hbracket
      obtain ⟨o, -, hof⟩ := of_mem_tokensOf hspans htoken
      have hwrite : (Segment.tag (.opening t.rule t.attributes)).write = tag.toList := by
        rw [Segment.write, htag, Option.getD_some]
      have hr := List.mem_of_find?_eq_some hof.rule
      obtain ⟨as, has, hshown⟩ := exists_writeTag hr htag
        (quote_not_mem_of_mem_tokensOf hspans htoken) (hwrite ▸ hplain _ hg)
      exact .opening hr as (hwrite.trans has) hshown

/-! ## The page around a fragment -/

theorem isFrame_title : isPlainName "title".toList ∧ isVoid "title" = false ∧
    RawElement.ofName? "title" = none ∧ keepsSpace "title" = false := by
  decide

/-- What is inside the head of an unsigned page. -/
def unsignedHead (s : Settings) : Content :=
  .leaf indent charsetMeta <|
  .element indent (frameName "title" isFrame_title) [] (.text (s.shellTitle ++ " (SSR)").toList) <|
  .text ['\n']

/-- The text of an unsigned page. -/
def unsignedText (s : Settings) (html : List Char) : List Char :=
  documentType.write ++ (['\n'] ++ ((writeTag false "html" [] ++
    ((['\n'] ++ ((writeTag false "head" [] ++ ((unsignedHead s).write ++ writeEndTag "head")) ++
      (['\n'] ++ ((writeTag false "body" [] ++ (html ++ writeEndTag "body")) ++ ['\n'])))) ++
        writeEndTag "html")) ++ ['\n']))

/-- The tree of an unsigned page around the nodes of a fragment. -/
def unsignedTree (s : Settings) (content : List Node) : Html.Document :=
  [.text .doctype "html", lineBreak,
    .element "html" []
      [lineBreak,
        .element "head" []
          [lineBreak, .element "meta" [("charset", "utf-8")] [], lineBreak,
            .element "title" [] (Builder.textNodes .plain (s.shellTitle ++ " (SSR)").toList),
            lineBreak],
        lineBreak, .element "body" [] content, lineBreak],
    lineBreak]

/-- The unsigned page is its template around the fragment. -/
theorem toList_renderUnsigned (s : Settings) (html : String) :
    (renderUnsigned s html).toList = unsignedText s html.toList := by
  unfold renderUnsigned unsignedText
  rw [toList_page]
  simp only [List.flatMap_cons, List.flatMap_nil, toList_documentType, toList_charsetMeta,
    toList_title]
  simp only [unsignedHead, Content.write]
  simp [escaped, indent, escapeChar_of_not_mem, specials, frameName, writeEndTag]

/-- An unsigned page is read as its tree, whatever its fragment is read as. -/
theorem ofString_renderUnsigned (s : Settings) {html : String} {nodes : TextKind → List Node}
    (hhtml : Reads html.toList nodes) :
    Html.Document.ofString (renderUnsigned s html) = .ok (unsignedTree s (nodes .plain)) := by
  have hline : Reads ['\n'] (Builder.textNodes · ['\n']) := reads_plain (by simp [isPlain])
  have hbody := hline.element (frameName "body" (by decide)) [] hhtml hline
  have hhead := hline.element (frameName "head" (by decide)) [] (unsignedHead s).reads hbody
  have hroot := hline.element (frameName "html" (by decide)) [] hhead hline
  have hpage := (reads_plain (s := []) (by simp)).leaf documentType hroot
  have hkind : ∀ name ∈ ["html", "head", "body", "title"],
      (ownTextKind? name).getD .plain = .plain := by
    simp only [List.forall_mem_cons]
    exact ⟨rfl, rfl, rfl, rfl, List.forall_mem_nil _⟩
  rw [Html.Document.ofString, toList_renderUnsigned]
  refine hpage.ofText.trans (congrArg Except.ok ?_)
  simp [unsignedHead, unsignedTree, Content.nodes, frameName, elementNode, elementAttributes,
    hkind, textNodes_nil, textNodes_lineFeed, textNodes_indent, node_documentType,
    node_charsetMeta]

/-- The body of the unsigned page holds the fragment. -/
theorem body?_unsignedTree (s : Settings) (content : List Node) :
    (unsignedTree s content).body? = some (.element "body" [] content) := by
  simp [unsignedTree, Html.Document.body?, findIn?, Node.find?, findIn?_textNodes, lineBreak]

/-! ## The two pages of a document -/

/-- A document whose fragment has no ampersand, and opening brackets only where tags begin, has the
same content in both pages that are made of it: in the unsigned page and in a page that takes the
fragment, the body holds the tree that the tags denote, up to texts of white space alone. -/
theorem pages_agree (s : Settings) (source : String) (b : Bindings) (page : Html.Document)
    (hbody : page.body? ≠ none) (hamp : '&' ∉ (compile source b).html.toList)
    (hangle : ∀ k, (compile source b).html.toList[k]? = some '<' →
      k ∈ tagPlaces 0 (segments source b RuleTable.standard)) :
    (compile source b).html.toList =
        (segments source b RuleTable.standard).flatMap Segment.write ∧
      ∃ ns unsigned page',
        (∀ ns', Denotes (segments source b RuleTable.standard) ns' ↔ ns' = ns) ∧
        Html.Document.ofString (renderUnsigned s (compile source b).html) = .ok unsigned ∧
        unsigned.body? = some (.element "body" [] (collapseAll ns)) ∧
        Render.materialize page (compile source b).html none = .ok page' ∧
        page.Refilled (collapseAll ns) page' := by
  obtain ⟨hhtml, ns, hns⟩ := exists_denotes source b RuleTable.standard
  obtain ⟨nodes, hreads, hnodes⟩ := reads_of_denotes hns (readable_of_mem_segments hamp hangle)
  rw [← hhtml] at hreads
  have hfragment : Html.Document.ofString (compile source b).html = .ok (collapseAll ns) :=
    hnodes ▸ hreads.ofText
  obtain ⟨page', hpage', hrefilled⟩ :=
    Render.materialize_of_takes ⟨hbody, hfragment⟩ none
  rw [Render.noteNodes, List.append_nil] at hrefilled
  refine ⟨hhtml, ns, unsignedTree s (collapseAll ns), page', fun ns' => ?_, ?_,
    body?_unsignedTree s _, hpage', hrefilled⟩
  · exact ⟨fun hns' => hns'.unique hns, fun heq => heq ▸ hns⟩
  · rw [ofString_renderUnsigned s hreads, hnodes]

/-! ## A page with a title, a bound text and a link -/

/-- The settings that the page is served with. -/
def notesSettings : Settings where
  privateKeyPath := "private.pem"
  publicKeyPath := "public.pem"
  documents := ["documents"]

/-- The source of the page. -/
def notes : String :=
  "<flo:page title=\"Notes\">\x7b\x7buser\x7d\x7d: <flo:link href=\"/\">Home</flo:link>\n " ++
    "</flo:page>"

/-- The text that is bound in it. -/
def notesBindings : Bindings :=
  ⟨[("user", "Ada")]⟩

/-- The segments of its fragment. -/
def notesSegments : List Segment :=
  let page : Rule :=
    { tag := "page", element := "div", cssClass := "flo-page", takesTitle := true }
  let link : Rule :=
    { tag := "link", element := "a", cssClass := "flo-link", takesHref := true, inline := true }
  [.text [], .tag (.opening page [("title", "Notes")]), .text "Ada: ".toList,
    .tag (.opening link [("href", "/")]), .text "Home".toList, .tag (.closing link),
    .text "\n ".toList, .tag (.closing page), .text []]

/-- The nodes that they denote. -/
def notesNodes : List Node :=
  [.element "div" [("class", "flo-page"), ("data-title", "Notes")]
    [.text .plain "Ada: ",
      .element "a" [("href", "/"), ("class", "flo-link")] [.text .plain "Home"],
      .text .plain "\n "]]

theorem segments_notes : segments notes notesBindings RuleTable.standard = notesSegments := by
  rw [segments, rewrittenTokens, pairsOf, pairTokens_eq]
  decide +kernel

theorem denotes_notes : Denotes notesSegments notesNodes := by
  have hlink := Denotes.element "Ada: ".toList
    { tag := "link", element := "a", cssClass := "flo-link", takesHref := true, inline := true }
    [("href", "/")] (.text "Home".toList) (.text "\n ".toList)
  exact .element [] { tag := "page", element := "div", cssClass := "flo-page", takesTitle := true }
    [("title", "Notes")] hlink (.text [])

/-- The link stands in both pages, behind the bound text and in the element with the title. -/
theorem notes_pages_agree :
    ∃ unsigned page',
      Html.Document.ofString (renderUnsigned notesSettings (compile notes notesBindings).html) =
        .ok unsigned ∧
      unsigned.body? = some (.element "body" [] (collapseAll notesNodes)) ∧
      Render.materialize [.element "body" [] []] (compile notes notesBindings).html none =
        .ok page' ∧
      page'.body? = some (.element "body" [] (collapseAll notesNodes)) := by
  have hhtml : (compile notes notesBindings).html.toList =
      notesSegments.flatMap Segment.write := by
    rw [← segments_notes]
    exact (exists_denotes _ _ _).1
  have hangle : ∀ k, (notesSegments.flatMap Segment.write)[k]? = some '<' →
      k ∈ tagPlaces 0 notesSegments := by
    have hbounded : ∀ k < (notesSegments.flatMap Segment.write).length,
        (notesSegments.flatMap Segment.write)[k]? = some '<' → k ∈ tagPlaces 0 notesSegments := by
      decide +kernel
    exact fun k hk => hbounded k (List.getElem?_eq_some_iff.1 hk).1 hk
  obtain ⟨-, ns, unsigned, page', hns, hunsigned, hbody, hpage', hrefilled⟩ :=
    pages_agree notesSettings notes notesBindings [.element "body" [] []] (by decide)
      (hhtml ▸ by decide +kernel) (by rwa [hhtml, segments_notes])
  obtain rfl : notesNodes = ns := (hns _).1 (segments_notes ▸ denotes_notes)
  obtain ⟨attributes, old, hold, hnew, -⟩ := hrefilled
  obtain ⟨rfl, -⟩ : [] = attributes ∧ [] = old := by
    simpa [Html.Document.body?, findIn?, Node.find?] using hold
  exact ⟨unsigned, page', hunsigned, hbody, hpage', hnew⟩

end SealedPage.Seal
