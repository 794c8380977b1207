import SealedPage.Proofs.Html.Assembly
import SealedPage.Proofs.Seal.Escaping

/-!
# Templates are read as the trees they are written for

A template is text with tags in it, written with small names, quoted values and escaped texts. What
it is read as follows its own structure, `Content.ofText_write`: each element with its attributes
and its content, whatever the texts in it are.
-/

namespace SealedPage.Seal

open Html Text

/-- The name of an element with content, in which markup is read and white space does not count. -/
structure ElementName where
  name : String
  isPlain : isPlainName name.toList
  notVoid : isVoid name = false
  notRaw : RawElement.ofName? name = none
  collapses : keepsSpace name = false

/-- The name of an element without content. -/
structure VoidName where
  name : String
  isPlain : isPlainName name.toList
  isVoid : isVoid name

/-- What stands in a template and has no markup inside. -/
inductive Leaf where
  | doctype (name : List Char) (h : '>' ∉ name)
  | void (closed : Bool) (v : VoidName) (attributes : List Attribute)
  | script (attributes : List Attribute) (content : List Char)

/-- A template: text, and tags with text in front of them. -/
inductive Content where
  | text (s : List Char)
  | leaf (before : List Char) (l : Leaf) (behind : Content)
  | element (before : List Char) (e : ElementName) (attributes : List Attribute)
      (inside behind : Content)

/-! ## Text and tree of a template -/

/-- The text of a leaf. -/
def Leaf.write : Leaf → List Char
  | doctype name _ => writeDoctype name
  | void closed v attributes => writeTag closed v.name attributes
  | script attributes content =>
    writeTag false RawElement.script.name attributes ++
      (escaped content ++ writeEndTag RawElement.script.name)

/-- The text of a template. -/
def Content.write : Content → List Char
  | text s => escaped s
  | leaf before l behind => escaped before ++ (l.write ++ behind.write)
  | element before e attributes inside behind =>
    escaped before ++ ((writeTag false e.name attributes ++
      (inside.write ++ writeEndTag e.name)) ++ behind.write)

/-- An element of a template, as it stands in the tree. -/
def elementNode (name : String) (attributes : List Attribute) (content : List Node) : Node :=
  .element name (elementAttributes name (attributes.map Attribute.entry)) content

/-- The node of a leaf. References in a script stand for themselves. -/
def Leaf.node : Leaf → Node
  | doctype name _ => .text .doctype (String.ofList (collapseSpace name))
  | void _ v attributes => elementNode v.name attributes []
  | script attributes content =>
    elementNode RawElement.script.name attributes (Builder.textNodes .script (escaped content))

/-- The nodes of a template, with texts of the given kind. -/
def Content.nodes (kind : TextKind) : Content → List Node
  | text s => Builder.textNodes kind s
  | leaf before l behind => Builder.textNodes kind before ++ l.node :: behind.nodes kind
  | element before e attributes inside behind =>
    Builder.textNodes kind before ++
      elementNode e.name attributes (inside.nodes ((ownTextKind? e.name).getD kind)) ::
        behind.nodes kind

/-! ## Reading -/

/-- A text in front of a rest is read as tokens, and reading goes on with the rest. -/
def Lexes (s rest : List Char) (tokens : List Token) : Prop :=
  ∀ done, lexFrom false done none 0 (s ++ rest) =
    lexFrom false (tokens.reverse ++ done) none 0 rest

/-- Two texts next to each other give the tokens of both. -/
theorem Lexes.append {s s' rest : List Char} {tokens tokens' : List Token}
    (h : Lexes s (s' ++ rest) tokens) (h' : Lexes s' rest tokens') :
    Lexes (s ++ s') rest (tokens ++ tokens') := by
  intro done
  rw [List.append_assoc, h, h', List.reverse_append, List.append_assoc]

/-- A written tag gives its token, unless it begins a raw element. -/
theorem lexes_writeTag (closed : Bool) {name : String} (hname : isPlainName name.toList)
    (hraw : RawElement.ofName? name = none) (attributes : List Attribute) (rest : List Char) :
    Lexes (writeTag closed name attributes) rest [tagToken closed name attributes] := by
  intro done
  rw [lexFrom_writeTag false done closed hname, hraw, ite_self]
  rfl

theorem VoidName.notRaw (v : VoidName) : RawElement.ofName? v.name = none := by
  unfold RawElement.ofName?
  have hscript : v.name ≠ "script" := by
    intro h
    have := h ▸ v.isVoid
    exact absurd this (by decide)
  have hstyle : v.name ≠ "style" := by
    intro h
    have := h ▸ v.isVoid
    exact absurd this (by decide)
  rw [if_neg hscript, if_neg hstyle]

/-- A leaf is read as its node. -/
theorem Leaf.exists_lexes (l : Leaf) (rest : List Char) :
    ∃ tokens, Lexes l.write rest tokens ∧ Builder.PutsBehindText tokens fun _ => l.node := by
  cases l with
  | doctype name h =>
    exact ⟨[.doctype name], fun done => lexFrom_writeDoctype false done h rest,
      Builder.putsBehindText_doctype name⟩
  | void closed v attributes =>
    refine ⟨_, lexes_writeTag closed v.isPlain v.notRaw attributes rest, ?_⟩
    cases closed with
    | false => exact Builder.putsBehindText_startTag v.isVoid _
    | true => exact Builder.putsBehindText_emptyTag v.name _
  | script attributes content =>
    let entries := attributes.map Attribute.entry
    refine ⟨.startTag RawElement.script.name entries ::
      (textTokens (escaped content) ++ [.endTag RawElement.script.name]), fun done => ?_, ?_⟩
    · have hraw : RawElement.ofName? RawElement.script.name = some .script := rfl
      rw [Leaf.write, List.append_assoc,
        lexFrom_writeTag false done false RawElement.script.isPlainName_name, hraw,
        if_neg Bool.false_ne_true, lexFrom_raw false _ _ (not_mem_escaped (by decide))]
      have hreverse : (textTokens (escaped content)).reverse = textTokens (escaped content) := by
        cases escaped content <;> rfl
      simp [tagToken, entries, hreverse]
    · exact (Builder.puts_textTokens (escaped content)).element rfl rfl entries

/-! ## Reading in place -/

/-- A text is read as nodes wherever it stands in front of markup or at the end. What kind of text
is around it may decide on the nodes. -/
def Reads (s : List Char) (nodes : TextKind → List Node) : Prop :=
  ∀ rest, Stops isPlain rest → ∃ tokens, Lexes s rest tokens ∧ Builder.Puts tokens nodes

/-- Escaped text is read as a text. -/
theorem reads_escaped (s : List Char) : Reads (escaped s) (Builder.textNodes · s) := by
  intro rest hrest
  obtain ⟨parts, hflatten, hne, hread⟩ := lexFrom_escaped false s hrest
  exact ⟨parts.map Token.text, hread, hflatten ▸ Builder.puts_texts hne⟩

namespace Reads

variable {before inside behind : List Char} {texts content nodes : TextKind → List Node}

/-- Text, markup and what is behind it are read one after the other. -/
theorem append {piece : List Char} {node : TextKind → Node} (hbefore : Reads before texts)
    (hpiece : ∃ cs, piece = '<' :: cs)
    (htokens : ∀ rest, ∃ tokens, Lexes piece rest tokens ∧ Builder.PutsBehindText tokens node)
    (hbehind : Reads behind nodes) :
    Reads (before ++ (piece ++ behind)) fun kind => texts kind ++ node kind :: nodes kind := by
  intro rest hrest
  have hstops : Stops isPlain ((piece ++ behind) ++ rest) := by
    obtain ⟨cs, rfl⟩ := hpiece
    exact stops_cons.2 rfl
  obtain ⟨before', hlexBefore, hputsBefore⟩ := hbefore _ hstops
  obtain ⟨tokens, hlex, hputs⟩ := htokens (behind ++ rest)
  obtain ⟨behind', hlexBehind, hputsBehind⟩ := hbehind rest hrest
  exact ⟨_, hlexBefore.append (hlex.append hlexBehind), hputsBefore.append hputs hputsBehind⟩

/-- A leaf between two texts puts its node between theirs. -/
theorem leaf (hbefore : Reads before texts) (l : Leaf) (hbehind : Reads behind nodes) :
    Reads (before ++ (l.write ++ behind)) fun kind => texts kind ++ l.node :: nodes kind :=
  hbefore.append (by cases l <;> exact ⟨_, rfl⟩) (l.exists_lexes ·) hbehind

/-- An element is read as one, with the nodes inside it that its content is read as. -/
theorem element (hbefore : Reads before texts) (e : ElementName) (attributes : List Attribute)
    (hinside : Reads inside content) (hbehind : Reads behind nodes) :
    Reads (before ++ ((writeTag false e.name attributes ++ (inside ++ writeEndTag e.name)) ++
        behind))
      fun kind => texts kind ++
        elementNode e.name attributes (content ((ownTextKind? e.name).getD kind)) ::
          nodes kind := by
  refine hbefore.append ⟨_, rfl⟩ (fun rest => ?_) hbehind
  have hend : Stops isPlain (writeEndTag e.name ++ rest) := stops_cons.2 rfl
  obtain ⟨tokens, hlex, hputs⟩ := hinside _ hend
  have hopen := lexes_writeTag false e.isPlain e.notRaw attributes
    ((inside ++ writeEndTag e.name) ++ rest)
  have hclose : Lexes (writeEndTag e.name) rest [.endTag e.name] :=
    fun done => lexFrom_writeEndTag false done e.isPlain rest
  exact ⟨_, hopen.append (hlex.append hclose),
    hputs.element e.notVoid e.collapses (attributes.map Attribute.entry)⟩

/-- What is read in place is read on its own. -/
theorem ofText {s : List Char} (h : Reads s nodes) : Document.ofText s = .ok (nodes .plain) := by
  obtain ⟨tokens, hlex, hputs⟩ := h [] (stops_nil isPlain)
  have hfirst : lexFrom false [] none 0 s = .ok ⟨tokens.reverse, none, []⟩ := by
    have := hlex []
    rw [List.append_nil, List.append_nil] at this
    rw [this, lexFrom]
  have htokens : lex s = .ok tokens := by
    rw [lex, hfirst]
    simp [bind, Except.bind, pure, Except.pure, lexFrom, textTokens]
  rw [Document.ofText, htokens, Except.map, hputs.ofTokens]

end Reads

/-- A template is read as its nodes. -/
theorem Content.reads (c : Content) : Reads c.write (c.nodes ·) := by
  induction c with
  | text s => exact reads_escaped s
  | leaf before l behind ih => exact (reads_escaped before).leaf l ih
  | element before e attributes inside behind ihInside ihBehind =>
    exact (reads_escaped before).element e attributes ihInside ihBehind

/-- What is written from a template is read as its tree. -/
theorem Content.ofText_write (c : Content) : Document.ofText c.write = .ok (c.nodes .plain) :=
  c.reads.ofText

end SealedPage.Seal
