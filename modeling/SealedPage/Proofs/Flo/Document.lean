import Mathlib.Data.List.Nodup
import SealedPage.Proofs.Flo.Interpolation
import SealedPage.Proofs.Flo.Scanning

/-!
# Documents as trees

What an author of FLO has in mind is a tree: text, placeholders, and elements that hold further
nodes. The tree is written down as a source and read as a text with tags. Here are both, and that
nothing but the tags of the tree is found in it, `eligibleTags_interpolated`.
-/

namespace SealedPage.Flo

open Text

/-! ## Trees and their sources -/

/-- An attribute of an element: its name, and what its value is written with. -/
structure Attribute where
  name : List Char
  value : List Piece
  deriving DecidableEq, Repr

/-- Nodes one behind the other. An element stands for a rule and holds a document of its own. -/
inductive Document where
  | nil
  | text (cs : List Char) (rest : Document)
  | placeholder (p : Placeholder) (rest : Document)
  | element (rule : Rule) (attributes : List Attribute) (children rest : Document)
  deriving DecidableEq, Repr

/-- Characters that stand for themselves. -/
def literal (cs : List Char) : List Piece :=
  cs.map Piece.char

/-- An attribute as it is written, with one blank in front of it. -/
def Attribute.pieces (a : Attribute) : List Piece :=
  literal (' ' :: (a.name ++ ['=', '"'])) ++ (a.value ++ literal ['"'])

/-- An opening tag as it is written. -/
def openerPieces (r : Rule) (as : List Attribute) : List Piece :=
  literal ("<flo:".toList ++ r.tag.toList) ++ (as.flatMap Attribute.pieces ++ literal ['>'])

/-- A closing tag as it is written. -/
def closerPieces (r : Rule) : List Piece :=
  literal ("</flo:".toList ++ (r.tag.toList ++ ['>']))

namespace Document

/-- A document as it is written. -/
def pieces : Document → List Piece
  | nil => []
  | text cs rest => literal cs ++ rest.pieces
  | placeholder p rest => .placeholder p :: rest.pieces
  | element r as children rest =>
    openerPieces r as ++ (children.pieces ++ (closerPieces r ++ rest.pieces))

/-- The source of a document. -/
def source (d : Document) : String :=
  String.ofList (d.pieces.flatMap Piece.source)

/-- A document as it is written, with its placeholders replaced by their values. -/
def interpolated (b : Bindings) (d : Document) : List Char :=
  d.pieces.flatMap (Piece.value b)

end Document

/-! ## Well-formed trees -/

/-- A name that a tag may have. -/
def IsTagName (name : String) : Prop :=
  ∃ c cs, name.toList = c :: cs ∧ isTagStart c ∧ ∀ d ∈ cs, isTagChar d

/-- What is demanded of an attribute: a name without blanks, and a value that cannot end too
early. -/
structure Attribute.WellFormed (b : Bindings) (a : Attribute) : Prop where
  name_ne_nil : a.name ≠ []
  name : ∀ c ∈ a.name, isAttributeChar c ∧ c ≠ '{'
  chars : ∀ c, Piece.char c ∈ a.value → c ≠ '"' ∧ c ≠ '<' ∧ c ≠ '{'
  placeholders : ∀ p, Piece.placeholder p ∈ a.value →
    p.WellFormed ∧ ∀ c ∈ (b.lookup p.identifier).toList, c ≠ '"' ∧ c ≠ '<'

/-- The name and the interpolated value of an attribute. -/
def Attribute.pair (b : Bindings) (a : Attribute) : String × String :=
  (String.ofList a.name, String.ofList (a.value.flatMap (Piece.value b)))

/-- What is demanded of an element: its rule is in the table and takes its attributes, and the
children of an inline element stand on one line. -/
structure ElementWellFormed (rules : RuleTable) (b : Bindings) (r : Rule) (as : List Attribute)
    (children : Document) : Prop where
  rule : r ∈ rules.rules
  attributes : ∀ a ∈ as, a.WellFormed b
  bare : r.acceptsAttributes = false → as = []
  href : r.takesHref → ∃ href, (as.map (Attribute.pair b)).lookup "href" = some href ∧ href ≠ ""
  inline : r.inline → '\n' ∉ children.interpolated b

/-- What is demanded of a document. Nothing is demanded of the values of placeholders among its
nodes. -/
def Document.WellFormed (rules : RuleTable) (b : Bindings) : Document → Prop
  | nil => True
  | text cs rest => (∀ c ∈ cs, c ≠ '<' ∧ c ≠ '{') ∧ rest.WellFormed rules b
  | placeholder p rest => p.WellFormed ∧ rest.WellFormed rules b
  | element r as children rest =>
    ElementWellFormed rules b r as children ∧ children.WellFormed rules b ∧
      rest.WellFormed rules b

/-- No two rules of a table have one tag, so a rule is found under its own. -/
theorem RuleTable.get?_of_mem {rules : RuleTable} {r : Rule} (h : r ∈ rules.rules) :
    rules.get? r.tag = some r := by
  obtain ⟨found, hfound⟩ : ∃ found, rules.get? r.tag = some found := by
    rw [← Option.isSome_iff_exists, get?, List.find?_isSome]
    exact ⟨r, h, by simp⟩
  have htag : found.tag = r.tag := by simpa using List.find?_some hfound
  rw [hfound, List.inj_on_of_nodup_map rules.nodup (List.mem_of_find?_eq_some hfound) h htag]

/-- The rule of a well-formed element gives an opening tag. -/
theorem ElementWellFormed.exists_openTag? {rules : RuleTable} {b : Bindings} {r : Rule}
    {as : List Attribute} {children : Document} (h : ElementWellFormed rules b r as children) :
    ∃ opening, r.openTag? (as.map (Attribute.pair b)) = some opening := by
  unfold Rule.openTag?
  by_cases haccepts : r.acceptsAttributes
  · by_cases hhref : r.takesHref
    · obtain ⟨href, hlookup, hne⟩ := h.href hhref
      have hget : Attributes.getNonempty? (as.map (Attribute.pair b)) "href" = some href := by
        rw [Attributes.getNonempty?, Attributes.get?, hlookup, Option.filter_some, if_pos]
        simpa [String.isEmpty_iff] using hne
      simp [haccepts, hhref, hget]
    · simp only [haccepts, hhref, Bool.not_true, Bool.false_eq_true, if_false]
      split
      · exact ⟨_, rfl⟩
      · exact ⟨_, rfl⟩
  · rw [Bool.not_eq_true] at haccepts
    simp [haccepts, h.bare haccepts]

/-! ## The tags of a tree -/

/-- An attribute as it stands in the interpolated text. -/
def Attribute.written (b : Bindings) (a : Attribute) : List Char × WrittenAttribute :=
  ([' '], ⟨a.name, some ⟨[], [], a.value.flatMap (Piece.value b)⟩⟩)

/-- The opening tag of an element. -/
def openerTag (b : Bindings) (r : Rule) (as : List Attribute) : Tag :=
  ⟨false, r.tag.toList, as.map (Attribute.written b), [], false⟩

/-- The closing tag of an element. -/
def closerTag (r : Rule) : Tag :=
  ⟨true, r.tag.toList, [], [], false⟩

/-- The tags of a document that is written at `position`, in order. -/
def Document.tags (b : Bindings) : (position : Nat) → Document → List Occurrence
  | _, nil => []
  | position, text cs rest => rest.tags b (position + cs.length)
  | position, placeholder p rest =>
    rest.tags b (position + (Piece.value b (.placeholder p)).length)
  | position, element r as children rest =>
    let inner := position + (openerTag b r as).length
    let outer := inner + (children.interpolated b).length
    ⟨position, openerTag b r as⟩ :: (children.tags b inner ++
      ⟨outer, closerTag r⟩ :: rest.tags b (outer + (closerTag r).length))

@[simp] theorem flatMap_value_literal (b : Bindings) (cs : List Char) :
    (literal cs).flatMap (Piece.value b) = cs := by
  rw [literal, List.flatMap_map]
  exact List.flatMap_singleton' cs

/-- With the values of its placeholders, an opening tag is the one that stands in the interpolated
text. -/
theorem flatMap_value_openerPieces (b : Bindings) (r : Rule) (as : List Attribute) :
    (openerPieces r as).flatMap (Piece.value b) = (openerTag b r as).source := by
  have hattributes : (as.flatMap Attribute.pieces).flatMap (Piece.value b) =
      (openerTag b r as).attributeSource := by
    rw [Tag.attributeSource, openerTag, List.flatMap_map, List.flatMap_assoc]
    refine List.flatMap_congr fun a _ => ?_
    simp [Attribute.pieces, Attribute.written, WrittenAttribute.source, AttributeValue.source]
  rw [openerPieces, List.flatMap_append, List.flatMap_append, hattributes, Tag.source]
  simp [openerTag, tagNamespace]

/-- A closing tag holds no placeholders and stays as it is. -/
theorem flatMap_value_closerPieces (b : Bindings) (r : Rule) :
    (closerPieces r).flatMap (Piece.value b) = (closerTag r).source := by
  simp [closerPieces, Tag.source, closerTag, Tag.attributeSource, tagNamespace]

section
variable (b : Bindings)

theorem length_value_openerPieces (r : Rule) (as : List Attribute) :
    ((openerPieces r as).flatMap (Piece.value b)).length = (openerTag b r as).length := by
  rw [flatMap_value_openerPieces, Tag.length]

theorem length_value_closerPieces (r : Rule) :
    ((closerPieces r).flatMap (Piece.value b)).length = (closerTag r).length := by
  rw [flatMap_value_closerPieces, Tag.length]

/-- A document is interpolated to a text of this length. -/
theorem length_value_pieces (d : Document) :
    (d.pieces.flatMap (Piece.value b)).length = (d.interpolated b).length :=
  rfl

theorem interpolated_text (cs : List Char) (rest : Document) :
    (Document.text cs rest).interpolated b = cs ++ rest.interpolated b := by
  simp [Document.interpolated, Document.pieces]

theorem interpolated_placeholder (p : Placeholder) (rest : Document) :
    (Document.placeholder p rest).interpolated b =
      Piece.value b (.placeholder p) ++ rest.interpolated b := by
  simp [Document.interpolated, Document.pieces]

/-- An element is interpolated to its opening tag, its children and its closing tag. -/
theorem interpolated_element (r : Rule) (as : List Attribute) (children rest : Document) :
    (Document.element r as children rest).interpolated b =
      (openerTag b r as).source ++
        (children.interpolated b ++ ((closerTag r).source ++ rest.interpolated b)) := by
  simp only [Document.interpolated, Document.pieces, List.flatMap_append,
    flatMap_value_openerPieces, flatMap_value_closerPieces]

end

section
variable {rules : RuleTable} {b : Bindings} (hrules : ∀ r ∈ rules.rules, IsTagName r.tag)

/-- An attribute of a well-formed document is one of the grammar, whatever its value. -/
theorem Attribute.WellFormed.written {a : Attribute} (h : a.WellFormed b) :
    (a.written b).2.WellFormed := by
  refine ⟨h.name_ne_nil, fun c hc => (h.name c hc).1, ?_⟩
  rintro v hv
  obtain rfl := Option.mem_some.1 hv
  refine ⟨by simp, by simp, fun c hc => ?_⟩
  -- it is a character of the author's or one of a bound value
  have hne : c ≠ '"' ∧ c ≠ '<' := by
    obtain ⟨piece, hpiece, hc⟩ := List.mem_flatMap.1 hc
    cases piece with
    | char d =>
      obtain rfl := List.mem_singleton.1 hc
      exact ⟨(h.chars c hpiece).1, (h.chars c hpiece).2.1⟩
    | placeholder p => exact (h.placeholders p hpiece).2 c hc
  simp [isValueChar, hne]

/-- The name of a tag begins with a character that may begin one. -/
theorem IsTagName.start_name {name : String} (h : IsTagName name) :
    (∃ c cs, name.toList = c :: cs ∧ isTagStart c) ∧ ∀ c ∈ name.toList, isTagChar c := by
  obtain ⟨c, cs, hname, hstart, hchars⟩ := h
  refine ⟨⟨c, cs, hname, hstart⟩, ?_⟩
  rw [hname]
  exact List.forall_mem_cons.2 ⟨isTagChar_of_isTagStart hstart, hchars⟩

include hrules

/-- The opening tag of a well-formed element is a tag of the grammar. -/
theorem wellFormed_openerTag {r : Rule} {as : List Attribute} {children : Document}
    (h : ElementWellFormed rules b r as children) : (openerTag b r as).WellFormed := by
  obtain ⟨hstart, hname⟩ := (hrules r h.rule).start_name
  refine ⟨hstart, hname, ?_, by simp [openerTag]⟩
  intro written hwritten
  obtain ⟨a, ha, rfl⟩ := List.mem_map.1 hwritten
  have hblank : ∀ c ∈ (a.written b).1, isBlank c := by simp [Attribute.written, isBlank]
  exact ⟨List.cons_ne_nil _ _, hblank, (h.attributes a ha).written⟩

/-- So is its closing tag. -/
theorem wellFormed_closerTag {r : Rule} (hr : r ∈ rules.rules) : (closerTag r).WellFormed := by
  obtain ⟨hstart, hname⟩ := (hrules r hr).start_name
  exact ⟨hstart, hname, by simp [closerTag, AttributesWellFormed], by simp [closerTag]⟩

end

/-! ## Where values stand -/

/-- For each character of a written piece, whether it is one of a value. -/
def Piece.marks (b : Bindings) : Piece → List Bool
  | .char _ => [false]
  | .placeholder p => (Piece.value b (.placeholder p)).map fun _ => true

/-- The places from `position` on are inside where the marks say so. -/
def Agrees (inside : Nat → Bool) : (position : Nat) → List Bool → Prop
  | _, [] => True
  | position, mark :: marks => inside position = mark ∧ Agrees inside (position + 1) marks

/-- Marks agree with a text if and only if both of their parts do. -/
theorem agrees_append {inside : Nat → Bool} {position : Nat} {marks marks' : List Bool} :
    Agrees inside position (marks ++ marks') ↔
      Agrees inside position marks ∧ Agrees inside (position + marks.length) marks' := by
  induction marks generalizing position with
  | nil => simp [Agrees]
  | cons mark marks ih =>
    simp only [List.cons_append, Agrees, ih, List.length_cons, and_assoc]
    rw [Nat.add_assoc, Nat.add_comm 1]

/-- Marks agree with a text if and only if each of them does. -/
theorem agrees_iff_getElem? {inside : Nat → Bool} {position : Nat} {marks : List Bool} :
    Agrees inside position marks ↔
      ∀ i mark, marks[i]? = some mark → inside (position + i) = mark := by
  induction marks generalizing position with
  | nil => simp [Agrees]
  | cons mark marks ih =>
    rw [Agrees, ih]
    constructor
    · rintro ⟨hfirst, hrest⟩ i mark' hget
      cases i with
      | zero => simpa [hfirst] using hget
      | succ i =>
        rw [← Nat.add_assoc, Nat.add_right_comm]
        exact hrest i mark' (by simpa using hget)
    · intro h
      refine ⟨h 0 mark rfl, fun i mark' hget => ?_⟩
      rw [Nat.add_right_comm, Nat.add_assoc]
      exact h (i + 1) mark' (by simpa using hget)

/-- There is one mark for each character of a value. -/
@[simp] theorem length_marks (b : Bindings) (ps : List Piece) :
    (ps.flatMap (Piece.marks b)).length = (ps.flatMap (Piece.value b)).length := by
  induction ps with
  | nil => rfl
  | cons p ps ih =>
    rw [List.flatMap_cons, List.flatMap_cons, List.length_append, List.length_append, ih]
    cases p <;> simp [Piece.marks, Piece.value]

/-- What is inside a span of a value is marked as such. -/
theorem agrees_marks {b : Bindings} {inside : Nat → Bool} {position : Nat} {ps : List Piece}
    (h : ∀ k, position ≤ k → (inside k = true ↔ ∃ s ∈ valueSpans b position ps, s.contains k)) :
    Agrees inside position (ps.flatMap (Piece.marks b)) := by
  induction ps generalizing position with
  | nil => trivial
  | cons p ps ih =>
    rw [List.flatMap_cons, agrees_append]
    cases p with
    | char c =>
      refine ⟨⟨?_, trivial⟩, ih fun k hk => h k (Nat.le_of_succ_le hk)⟩
      -- all spans lie behind the character
      rw [Bool.eq_false_iff]
      intro htrue
      obtain ⟨s, hs, hcontains⟩ := (h position (Nat.le_refl _)).1 htrue
      have hs : s ∈ valueSpans b (position + 1) ps := hs
      have hle := (bounds_of_mem_valueSpans b hs).1
      rw [Span.contains_iff] at hcontains
      omega
    | placeholder p =>
      have hlen : (Piece.marks b (.placeholder p)).length =
          (Piece.value b (.placeholder p)).length := List.length_map ..
      simp only [valueSpans] at h
      rw [hlen]
      split at h
      · rename_i hempty
        rw [Piece.marks, List.isEmpty_iff.1 hempty]
        exact ⟨trivial, ih h⟩
      · constructor
        · rw [agrees_iff_getElem?]
          intro i mark hget
          obtain ⟨hlt, hmark⟩ := List.getElem?_eq_some_iff.1 hget
          simp only [Piece.marks, List.getElem_map] at hmark
          rw [← hmark, h (position + i) (Nat.le_add_right _ _)]
          exact ⟨_, List.mem_cons_self, Span.contains_iff.2 ⟨by simp, by simpa using by omega⟩⟩
        · refine ih fun k hk => ?_
          rw [h k (by omega)]
          simp only [List.mem_cons, exists_eq_or_imp, Span.contains_iff]
          exact or_iff_right (by omega)

/-! ## What is found in a tree -/

theorem openerPieces_eq (r : Rule) (as : List Attribute) :
    openerPieces r as = .char '<' ::
      ((literal ("flo:".toList ++ r.tag.toList) ++ as.flatMap Attribute.pieces) ++
        [.char '>']) := by
  simp [openerPieces, literal]

theorem closerPieces_eq (r : Rule) :
    closerPieces r = .char '<' :: (literal ("/flo:".toList ++ r.tag.toList) ++ [.char '>']) := by
  simp [closerPieces, literal]

/-- Neither end of a tag that begins and ends with a character of its own belongs to a value. -/
theorem Agrees.ends {inside : Nat → Bool} {position : Nat} {b : Bindings} {ps middle : List Piece}
    {c d : Char} {t : Tag} (h : Agrees inside position (ps.flatMap (Piece.marks b)))
    (hps : ps = .char c :: (middle ++ [.char d]))
    (hsource : ps.flatMap (Piece.value b) = t.source) :
    inside position = false ∧ inside (position + t.length - 1) = false := by
  have hlen : t.length = (middle.flatMap (Piece.value b)).length + 2 := by
    rw [Tag.length, ← hsource, hps]
    simp [Piece.value]
  rw [hps, List.flatMap_cons, List.flatMap_append, Piece.marks, List.singleton_append, Agrees,
    agrees_append, length_marks] at h
  refine ⟨h.1, ?_⟩
  have hlast := h.2.2.1
  have hplace : position + ((middle.flatMap (Piece.value b)).length + 2) - 1 =
      position + 1 + (middle.flatMap (Piece.value b)).length := by omega
  rw [hlen, hplace]
  exact hlast

section
variable {rules : RuleTable} {b : Bindings} (hrules : ∀ r ∈ rules.rules, IsTagName r.tag)
include hrules

/-- A document that is written somewhere in a text contributes its tags and nothing else. -/
theorem eligibleFrom_interpolated {d : Document} (hd : d.WellFormed rules b)
    {inside : Nat → Bool} {position : Nat}
    (hinside : Agrees inside position (d.pieces.flatMap (Piece.marks b))) (behind : List Char) :
    eligibleFrom inside position (d.interpolated b ++ behind) =
      d.tags b position ++ eligibleFrom inside (position + (d.interpolated b).length) behind := by
  induction d generalizing position behind with
  | nil => rfl
  | text cs rest ih =>
    -- no tag begins in a text without an opening bracket
    obtain ⟨hcs, hrest⟩ := hd
    have hnone : eligibleFrom inside position (cs ++ (rest.interpolated b ++ behind)) =
        eligibleFrom inside (position + cs.length) (rest.interpolated b ++ behind) := by
      rw [eligibleFrom_drop (k := cs.length), List.drop_left]
      intro i hi
      right
      rw [List.getElem?_append_left hi]
      exact fun hget => (hcs '<' (List.mem_of_getElem? hget)).1 rfl
    rw [Document.pieces, List.flatMap_append, agrees_append, length_marks,
      flatMap_value_literal] at hinside
    rw [interpolated_text, List.append_assoc, hnone, ih hrest hinside.2, Document.tags,
      List.length_append, Nat.add_assoc]
  | placeholder p rest ih =>
    -- no tag is found where a value stands, whatever the value is
    rw [Document.pieces, List.flatMap_cons, agrees_append] at hinside
    have hlen : (Piece.marks b (.placeholder p)).length =
        (Piece.value b (.placeholder p)).length := List.length_map ..
    rw [hlen] at hinside
    have hnone : eligibleFrom inside position
        (Piece.value b (.placeholder p) ++ (rest.interpolated b ++ behind)) =
        eligibleFrom inside (position + (Piece.value b (.placeholder p)).length)
          (rest.interpolated b ++ behind) := by
      rw [eligibleFrom_drop (k := (Piece.value b (.placeholder p)).length), List.drop_left]
      intro i hi
      left
      rw [agrees_iff_getElem?] at hinside
      refine hinside.1 i true ?_
      rw [Piece.marks, List.getElem?_map, List.getElem?_eq_getElem hi]
      rfl
    rw [interpolated_placeholder, List.append_assoc, hnone, ih hd.2 hinside.2, Document.tags,
      List.length_append, Nat.add_assoc]
  | element r as children rest ihc ihr =>
    -- both tags are found, as the author wrote their first and last characters
    obtain ⟨helement, hchildren, hrest⟩ := hd
    simp only [Document.pieces, List.flatMap_append, agrees_append, length_marks,
      length_value_openerPieces, length_value_closerPieces, length_value_pieces] at hinside
    obtain ⟨hopener, hinner, hcloser, houter⟩ := hinside
    obtain ⟨hfirst, hlast⟩ := hopener.ends (openerPieces_eq r as)
      (flatMap_value_openerPieces b r as)
    obtain ⟨hfirst', hlast'⟩ := hcloser.ends (closerPieces_eq r)
      (flatMap_value_closerPieces b r)
    rw [interpolated_element, List.append_assoc, List.append_assoc, List.append_assoc,
      eligibleFrom_source_append (wellFormed_openerTag hrules helement) _ hfirst hlast,
      ihc hchildren hinner,
      eligibleFrom_source_append (wellFormed_closerTag hrules helement.rule) _ hfirst' hlast',
      ihr hrest houter]
    simp [Document.tags, Document.interpolated, Nat.add_assoc, Tag.length]

end

/-! ## Interpolating the source -/

/-- A piece that is found again when it is written down. -/
def Piece.Plain : Piece → Prop
  | .char c => c ≠ '{'
  | .placeholder p => p.WellFormed

/-- Text without braces holds no placeholder. -/
theorem plain_literal {cs : List Char} (h : '{' ∉ cs) : ∀ piece ∈ literal cs, piece.Plain := by
  intro piece hpiece
  obtain ⟨c, hc, rfl⟩ := List.mem_map.1 hpiece
  exact fun hbrace => h (hbrace ▸ hc)

/-- The name of a tag holds no brace. -/
theorem IsTagName.brace_not_mem {name : String} (h : IsTagName name) : '{' ∉ name.toList :=
  fun hbrace => absurd (h.start_name.2 '{' hbrace) (by decide)

/-- An attribute of a well-formed document holds no placeholders but its own. -/
theorem Attribute.WellFormed.plain {b : Bindings} {a : Attribute} (h : a.WellFormed b) :
    ∀ piece ∈ a.pieces, piece.Plain := by
  refine List.forall_mem_append.2 ⟨plain_literal ?_, List.forall_mem_append.2 ⟨?_, ?_⟩⟩
  · have hname : '{' ∉ a.name := fun hbrace => (h.name '{' hbrace).2 rfl
    simp [hname]
  · intro piece hpiece
    cases piece with
    | char c => exact (h.chars c hpiece).2.2
    | placeholder p => exact (h.placeholders p hpiece).1
  · exact plain_literal (by decide)

section
variable {rules : RuleTable} {b : Bindings} (hrules : ∀ r ∈ rules.rules, IsTagName r.tag)
include hrules

/-- So does the opening tag of an element. -/
theorem ElementWellFormed.plain_openerPieces {r : Rule} {as : List Attribute} {children : Document}
    (h : ElementWellFormed rules b r as children) : ∀ piece ∈ openerPieces r as, piece.Plain := by
  refine List.forall_mem_append.2 ⟨plain_literal ?_, List.forall_mem_append.2 ⟨?_, ?_⟩⟩
  · simp [(hrules r h.rule).brace_not_mem]
  · intro piece hpiece
    obtain ⟨a, ha, hpiece⟩ := List.mem_flatMap.1 hpiece
    exact (h.attributes a ha).plain piece hpiece
  · exact plain_literal (by decide)

theorem plain_closerPieces {r : Rule} (hr : r ∈ rules.rules) :
    ∀ piece ∈ closerPieces r, piece.Plain :=
  plain_literal (by simp [(hrules r hr).brace_not_mem])

/-- A well-formed document is read into the pieces that it is made of. -/
theorem Document.WellFormed.plain {d : Document} (h : d.WellFormed rules b) :
    ∀ piece ∈ d.pieces, piece.Plain := by
  induction d with
  | nil => simp [Document.pieces]
  | text cs rest ih =>
    exact List.forall_mem_append.2 ⟨plain_literal fun hbrace => (h.1 '{' hbrace).2 rfl, ih h.2⟩
  | placeholder p rest ih => exact List.forall_mem_cons.2 ⟨h.1, ih h.2⟩
  | element r as children rest ihc ihr =>
    obtain ⟨helement, hchildren, hrest⟩ := h
    exact List.forall_mem_append.2 ⟨helement.plain_openerPieces hrules,
      List.forall_mem_append.2 ⟨ihc hchildren,
        List.forall_mem_append.2 ⟨plain_closerPieces hrules helement.rule, ihr hrest⟩⟩⟩

/-- Interpolating the source of a document gives what it says it is. -/
theorem interpolateSpans_source {d : Document} (h : d.WellFormed rules b) :
    interpolateSpans d.source.toList b = (d.interpolated b, valueSpans b 0 d.pieces) := by
  have hplain := h.plain hrules
  rw [interpolateSpans_eq, Document.source, String.toList_ofList,
    pieces_flatMap_source (fun c hc => hplain _ hc) (fun p hp => hplain _ hp)]
  rfl

/-- The tags of a document are what is found in its interpolated source. -/
theorem eligibleTags_interpolated {d : Document} (h : d.WellFormed rules b) :
    eligibleTags (d.interpolated b) (valueSpans b 0 d.pieces) = d.tags b 0 := by
  have hinside : Agrees (isInside (valueSpans b 0 d.pieces)) 0
      (d.pieces.flatMap (Piece.marks b)) := by
    refine agrees_marks fun k _ => ?_
    rw [isInside, SpanIndex.isSome_containing_iff (separated_valueSpans b 0 d.pieces)]
  have hfound := eligibleFrom_interpolated hrules h hinside []
  rw [List.append_nil, eligibleFrom, List.append_nil] at hfound
  exact hfound

end

end SealedPage.Flo
