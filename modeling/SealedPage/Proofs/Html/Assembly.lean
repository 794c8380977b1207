import SealedPage.Html.Builder

/-!
# Putting pieces together

Between two pieces of a page a builder is `Ready`: no text is waiting, and every end tag that is to
be passed over belongs to a void element. A piece then puts its nodes behind those that are there,
`put`, whatever is around it.
-/

namespace SealedPage.Html

namespace Builder

/-- No text waits to be put into the tree, white space is not kept, and the end tags to be passed
over belong to void elements. -/
structure Ready (b : Builder) : Prop where
  pending : b.pending = none
  keepsSpace : b.keepsSpace = false
  voids : ∀ name ∈ b.closedVoids, isVoid name

theorem ready_empty : ({} : Builder).Ready :=
  ⟨rfl, rfl, fun _ h => absurd h List.not_mem_nil⟩

/-- A ready builder holds back no text. -/
theorem Ready.flush_eq {b : Builder} (h : b.Ready) : b.flush = b := by
  rw [flush, h.pending]

/-! ## Nodes behind those that are there -/

/-- Appends nodes in order, and sets the end tags to be passed over. -/
def put (b : Builder) (nodes : List Node) (voids : List String) : Builder :=
  { nodes.foldl append b with closedVoids := voids }

theorem put_nil {b : Builder} : b.put [] b.closedVoids = b :=
  rfl

/-- Nodes appended in front of nothing else. -/
theorem put_of_frames_eq_nil {b : Builder} (h : b.frames = []) (nodes : List Node)
    (voids : List String) :
    b.put nodes voids = { b with top := nodes.reverse ++ b.top, closedVoids := voids } := by
  induction nodes generalizing b with
  | nil => rfl
  | cons n nodes ih =>
    have happend : b.append n = { b with top := n :: b.top } := by rw [append, h]
    have hput : b.put (n :: nodes) voids = (b.append n).put nodes voids := rfl
    have hframes : ({ b with top := n :: b.top } : Builder).frames = [] := h
    rw [hput, happend, ih hframes]
    simp

/-- Nodes appended to the innermost open element. -/
theorem put_of_frames_eq_cons {b : Builder} {f : Frame} {fs : List Frame} (h : b.frames = f :: fs)
    (nodes : List Node) (voids : List String) :
    b.put nodes voids =
      { b with
        frames := { f with children := nodes.reverse ++ f.children } :: fs
        closedVoids := voids } := by
  induction nodes generalizing b f with
  | nil => rw [put, List.foldl_nil, List.reverse_nil, List.nil_append, ← h]
  | cons n nodes ih =>
    have happend : b.append n =
        { b with frames := { f with children := n :: f.children } :: fs } := by
      rw [append, h]
    have hput : b.put (n :: nodes) voids = (b.append n).put nodes voids := rfl
    rw [hput, happend, ih rfl]
    simp

theorem put_put (b : Builder) (nodes nodes' : List Node) (voids voids' : List String) :
    (b.put nodes voids).put nodes' voids' = b.put (nodes ++ nodes') voids' := by
  cases hframes : b.frames with
  | nil =>
    have hput := put_of_frames_eq_nil hframes nodes voids
    have hframes' : (b.put nodes voids).frames = [] := by rw [hput, hframes]
    rw [put_of_frames_eq_nil hframes', hput, put_of_frames_eq_nil hframes]
    simp
  | cons f fs =>
    rw [put_of_frames_eq_cons hframes, put_of_frames_eq_cons hframes, put_of_frames_eq_cons rfl]
    simp

theorem textKind_put (b : Builder) (nodes : List Node) (voids : List String) :
    (b.put nodes voids).textKind = b.textKind := by
  cases hframes : b.frames with
  | nil => rw [put_of_frames_eq_nil hframes, textKind, textKind, hframes]
  | cons f fs => rw [put_of_frames_eq_cons hframes, textKind, textKind, hframes]

/-- A builder stays ready as nodes are put, as long as only void elements close at once. -/
theorem Ready.put {b : Builder} (h : b.Ready) (nodes : List Node) {voids : List String}
    (hvoids : ∀ name ∈ voids, isVoid name) : (b.put nodes voids).Ready := by
  have hpending := h.pending
  have hkeeps := h.keepsSpace
  cases hframes : b.frames with
  | nil =>
    rw [put_of_frames_eq_nil hframes]
    exact ⟨hpending, by rw [Builder.keepsSpace, hframes], hvoids⟩
  | cons f fs =>
    rw [Builder.keepsSpace, hframes] at hkeeps
    rw [put_of_frames_eq_cons hframes]
    exact ⟨hpending, hkeeps, hvoids⟩

theorem append_eq_put (b : Builder) (n : Node) : b.append n = b.put [n] b.closedVoids := by
  cases hframes : b.frames with
  | nil =>
    rw [put_of_frames_eq_nil hframes, append, hframes]
    rfl
  | cons f fs =>
    rw [put_of_frames_eq_cons hframes, append, hframes]
    rfl

/-- A string that a ready builder appends becomes one text node, its white space collapsed. -/
theorem Ready.appendString_eq {b : Builder} (h : b.Ready) (kind : TextKind) (s : List Char) :
    b.appendString kind s = b.put [.text kind (String.ofList (collapseSpace s))] b.closedVoids := by
  rw [appendString, h.keepsSpace, if_neg Bool.false_ne_true, append_eq_put]

/-! ## Text -/

/-- The nodes of a text; where nothing is written, there is none. -/
def textNodes (kind : TextKind) (s : List Char) : List Node :=
  if s = [] then [] else [.text kind (String.ofList (collapseSpace s))]

/-- Consecutive texts are held back as one text. -/
theorem foldl_texts (b : Builder) {parts : List (List Char)} (hparts : ∀ part ∈ parts, part ≠ []) :
    (parts.map Token.text).foldl add b =
      if parts.flatten = [] then b else b.addText parts.flatten := by
  induction parts generalizing b with
  | nil => rfl
  | cons part parts ih =>
    obtain ⟨hpart, hparts⟩ := List.forall_mem_cons.1 hparts
    have hadd : b.add (.text part) = b.addText part := rfl
    have hne : (part :: parts).flatten ≠ [] := by simp [hpart]
    rw [List.map_cons, List.foldl_cons, ih _ hparts, if_neg hne, hadd]
    by_cases hrest : parts.flatten = []
    · rw [if_pos hrest, List.flatten_cons, hrest, List.append_nil]
    · rw [if_neg hrest, addText, addText, addText]
      simp

/-- Text in several parts becomes one node. -/
theorem Ready.flush_foldl_texts {b : Builder} (h : b.Ready) {parts : List (List Char)}
    (hparts : ∀ part ∈ parts, part ≠ []) :
    ((parts.map Token.text).foldl add b).flush =
      b.put (textNodes b.textKind parts.flatten) b.closedVoids := by
  rw [foldl_texts b hparts, textNodes]
  by_cases hempty : parts.flatten = []
  · rw [if_pos hempty, if_pos hempty, put_nil, h.flush_eq]
  · have hpending : (b.addText parts.flatten).pending = some parts.flatten.reverse := by
      rw [addText, h.pending]
      simp
    have hbuilder : { b.addText parts.flatten with pending := none } = b := by
      rw [addText, ← h.pending]
    have hkind : (b.addText parts.flatten).textKind = b.textKind := rfl
    rw [if_neg hempty, if_neg hempty, flush, hpending]
    dsimp only
    rw [hbuilder, hkind, List.reverse_reverse, h.appendString_eq]

/-! ## Elements -/

/-- The frame of an element that is opened. -/
def frameOf (b : Builder) (name : String) (attributes : List (String × String)) : Frame :=
  { name, attributes := elementAttributes name attributes, children := []
    keepsSpace := b.keepsSpace || Html.keepsSpace name
    textKind := (ownTextKind? name).getD b.textKind }

/-- The builder inside an element that is opened. -/
def inside (b : Builder) (name : String) (attributes : List (String × String)) : Builder :=
  { b with frames := b.frameOf name attributes :: b.frames }

/-- A ready builder stays ready inside an element that does not keep its space. -/
theorem Ready.inside {b : Builder} (h : b.Ready) {name : String}
    (hname : Html.keepsSpace name = false) (attributes : List (String × String)) :
    (b.inside name attributes).Ready := by
  refine ⟨h.pending, ?_, h.voids⟩
  have hkeeps : (b.inside name attributes).keepsSpace =
      (b.keepsSpace || Html.keepsSpace name) := rfl
  rw [hkeeps, h.keepsSpace, hname, Bool.or_false]

/-- Closing the innermost open element puts it into the element around it. -/
theorem closeElement_of_frames {b : Builder} {f : Frame} {fs : List Frame}
    (h : b.flush.frames = f :: fs) :
    b.closeElement f.name = { b.flush with frames := fs }.append f.close := by
  have hopen : b.flush.frames.any (·.name == f.name) := by
    rw [h, List.any_cons]
    simp
  have hlength : b.flush.frames.length = fs.length + 1 := by rw [h, List.length_cons]
  have hpop : b.flush.pop = { b.flush with frames := fs }.append f.close := by rw [pop, h]
  rw [closeElement]
  dsimp only
  rw [if_pos hopen, hlength, popTo, h]
  dsimp only
  rw [if_pos rfl, hpop]

/-- Closing an element puts it, with what was put into it, behind what is around it. -/
theorem closeElement_of_flush {b inner : Builder} {name : String}
    {attributes : List (String × String)} {nodes : List Node} {voids : List String}
    (hinner : inner.flush = (b.inside name attributes).put nodes voids) :
    inner.closeElement name =
      b.put [.element name (elementAttributes name attributes) nodes] voids := by
  have hput := put_of_frames_eq_cons (rfl : (b.inside name attributes).frames = _) nodes voids
  rw [hput] at hinner
  have hframes : inner.flush.frames =
      { b.frameOf name attributes with
        children := nodes.reverse ++ (b.frameOf name attributes).children } :: b.frames := by
    rw [hinner]
  have hclose : ({ b.frameOf name attributes with
      children := nodes.reverse ++ (b.frameOf name attributes).children } : Frame).close =
      .element name (elementAttributes name attributes) nodes := by
    simp [Frame.close, frameOf]
  have hrest : ({ inner.flush with frames := b.frames } : Builder) = b.put [] voids := by
    rw [hinner]
    rfl
  have hname := closeElement_of_frames hframes
  rw [hclose, hrest, append_eq_put, put_put] at hname
  exact hname

/-! ## Tokens -/

/-- Tokens that put nodes behind those that are there, as soon as text that waits is put into the
tree too. The kind of text here may decide on the nodes. -/
def Puts (tokens : List Token) (nodes : TextKind → List Node) : Prop :=
  ∀ b : Builder, b.Ready → ∃ voids, (∀ name ∈ voids, isVoid name) ∧
    (tokens.foldl add b).flush = b.put (nodes b.textKind) voids

/-- Tokens that begin and end with markup: they put text that waits into the tree, and a node behind
it, and leave no text waiting. -/
def PutsBehindText (tokens : List Token) (node : TextKind → Node) : Prop :=
  ∀ b : Builder, b.flush.Ready → ∃ voids, (∀ name ∈ voids, isVoid name) ∧
    tokens.foldl add b = b.flush.put [node b.flush.textKind] voids

/-- Text tokens put the text nodes of their concatenation. -/
theorem puts_texts {parts : List (List Char)} (hparts : ∀ part ∈ parts, part ≠ []) :
    Puts (parts.map Token.text) (textNodes · parts.flatten) :=
  fun b h => ⟨b.closedVoids, h.voids, h.flush_foldl_texts hparts⟩

/-- The tokens of a text put its text nodes. -/
theorem puts_textTokens (s : List Char) : Puts (textTokens s) (textNodes · s) := by
  cases s with
  | nil => exact puts_texts (List.forall_mem_nil _)
  | cons c s =>
    have h := puts_texts (List.forall_mem_singleton.2 (List.cons_ne_nil c s))
    rw [List.flatten_singleton] at h
    exact h

/-- Text, markup, and what is behind it. -/
theorem Puts.append {before tokens behind : List Token} {node : TextKind → Node}
    {nodes nodes' : TextKind → List Node} (hbefore : Puts before nodes)
    (htokens : PutsBehindText tokens node) (hbehind : Puts behind nodes') :
    Puts (before ++ (tokens ++ behind)) (fun kind => nodes kind ++ node kind :: nodes' kind) := by
  intro b h
  obtain ⟨voids, hvoids, hput⟩ := hbefore b h
  have hflush := h.put (nodes b.textKind) hvoids
  rw [← hput] at hflush
  obtain ⟨voids', hvoids', hput'⟩ := htokens _ hflush
  rw [hput, textKind_put, put_put] at hput'
  have hready := h.put (nodes b.textKind ++ [node b.textKind]) hvoids'
  obtain ⟨voids'', hvoids'', hput''⟩ := hbehind _ hready
  refine ⟨voids'', hvoids'', ?_⟩
  rw [List.foldl_append, List.foldl_append, hput', hput'', textKind_put, put_put]
  simp

/-- A doctype puts its own node behind the text before it. -/
theorem putsBehindText_doctype (s : List Char) :
    PutsBehindText [.doctype s] fun _ => .text .doctype (String.ofList (collapseSpace s)) :=
  fun b h => ⟨b.flush.closedVoids, h.voids, h.appendString_eq .doctype s⟩

/-- An element without content is opened and closed at once. -/
theorem closeElement_openElement {b : Builder} (h : b.flush.Ready) (name : String)
    (attributes : List (String × String)) :
    (b.openElement name attributes).closeElement name =
      b.flush.put [.element name (elementAttributes name attributes) []] b.flush.closedVoids := by
  have hopen : b.openElement name attributes = b.flush.inside name attributes := rfl
  have hpending : (b.flush.inside name attributes).pending = none := h.pending
  have hflush : (b.flush.inside name attributes).flush = b.flush.inside name attributes := by
    rw [flush, hpending]
  rw [hopen]
  exact closeElement_of_flush hflush

/-- The start tag of a void element puts an element with no children. -/
theorem putsBehindText_startTag {name : String} (hname : isVoid name)
    (attributes : List (String × String)) :
    PutsBehindText [.startTag name attributes]
      fun _ => .element name (elementAttributes name attributes) [] := by
  intro b h
  refine ⟨name :: b.flush.closedVoids, List.forall_mem_cons.2 ⟨hname, h.voids⟩, ?_⟩
  rw [List.foldl_cons, List.foldl_nil, add]
  dsimp only
  rw [if_pos hname, closeElement_openElement h]
  rfl

/-- A tag closed in itself puts an element with no children. -/
theorem putsBehindText_emptyTag (name : String) (attributes : List (String × String)) :
    PutsBehindText [.emptyTag name attributes]
      fun _ => .element name (elementAttributes name attributes) [] :=
  fun b h => ⟨b.flush.closedVoids, h.voids, closeElement_openElement h name attributes⟩

theorem closedVoids_flush (b : Builder) : b.flush.closedVoids = b.closedVoids := by
  unfold flush
  cases b.pending with
  | none => rfl
  | some s =>
    dsimp only
    rw [appendString, append_eq_put]
    rfl

/-- An element with content is opened, filled and closed. -/
theorem Puts.element {tokens : List Token} {nodes : TextKind → List Node} (h : Puts tokens nodes)
    {name : String} (hvoid : isVoid name = false) (hkeeps : Html.keepsSpace name = false)
    (attributes : List (String × String)) :
    PutsBehindText (.startTag name attributes :: (tokens ++ [.endTag name])) fun kind =>
      .element name (elementAttributes name attributes)
        (nodes ((ownTextKind? name).getD kind)) := by
  intro b hb
  obtain ⟨voids, hvoids, hput⟩ := h _ (hb.inside hkeeps attributes)
  have hkind : (b.flush.inside name attributes).textKind =
      (ownTextKind? name).getD b.flush.textKind := rfl
  rw [hkind] at hput
  have hopen : b.add (.startTag name attributes) = b.flush.inside name attributes := by
    rw [add]
    dsimp only
    rw [hvoid, if_neg Bool.false_ne_true]
    rfl
  have hfirst : (tokens.foldl add (b.flush.inside name attributes)).closedVoids.contains name =
      false := by
    rw [← closedVoids_flush, hput, List.contains_eq_mem, decide_eq_false_iff_not]
    intro hmem
    have := hvoids name hmem
    rw [hvoid] at this
    exact Bool.false_ne_true this
  refine ⟨voids, hvoids, ?_⟩
  rw [List.foldl_cons, hopen, List.foldl_append, List.foldl_cons, List.foldl_nil, add, endTag,
    hfirst, if_neg Bool.false_ne_true, closeElement_of_flush hput]

/-- Tokens outside all elements make up the document. -/
theorem Puts.ofTokens {tokens : List Token} {nodes : TextKind → List Node} (h : Puts tokens nodes) :
    Document.ofTokens tokens = nodes .plain := by
  obtain ⟨voids, -, hput⟩ := h {} ready_empty
  rw [Document.ofTokens, finish, hput, put_of_frames_eq_nil rfl]
  simp [textKind]

end Builder

/-! ## What does not depend on texts -/

/-- What markup alone decides on: an element with the names of its attributes and the shapes of the
elements inside it. -/
inductive Shape where
  | element (name : String) (attributes : List String) (content : List Shape)
  deriving Repr

mutual

/-- The shape of a node; a text has none. -/
def Node.shapes : Node → List Shape
  | .text _ _ => []
  | .element name attributes children =>
    [.element name (attributes.map Prod.fst) (shapesIn children)]

/-- The shapes of nodes, in order. -/
def shapesIn : List Node → List Shape
  | [] => []
  | n :: ns => n.shapes ++ shapesIn ns

end

theorem shapesIn_textNodes (kind : TextKind) (s : List Char) :
    shapesIn (Builder.textNodes kind s) = [] := by
  rw [Builder.textNodes]
  split <;> simp [shapesIn, Node.shapes]

theorem findIn?_textNodes (p : String → List (String × String) → Bool) (kind : TextKind)
    (s : List Char) : findIn? p (Builder.textNodes kind s) = none := by
  rw [Builder.textNodes]
  split <;> simp [findIn?, Node.find?]

end SealedPage.Html
