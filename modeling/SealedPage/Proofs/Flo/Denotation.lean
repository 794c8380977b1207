import SealedPage.Proofs.Flo.Document
import SealedPage.Proofs.Flo.Injection

/-!
# What a document means

The HTML of a document can be read off its tree: text stays, placeholders become their values, and
elements become those of their rules. Compiling the source of a well-formed document gives this HTML
and no anomalies, `compile_source`.
-/

namespace SealedPage.Flo

open Text

/-- The HTML of a document, if the rules take the attributes of its elements. -/
def Document.render (b : Bindings) : Document → Option (List Char)
  | nil => some []
  | text cs rest => do
    let rest ← rest.render b
    return cs ++ rest
  | placeholder p rest => do
    let rest ← rest.render b
    return (b.lookup p.identifier).toList ++ rest
  | element r as children rest => do
    let opening ← r.openTag? (as.map (Attribute.pair b))
    let children ← children.render b
    let rest ← rest.render b
    return opening.toList ++ (children ++ (r.closeTag.toList ++ rest))

/-! ## The tokens of a document -/

theorem pairs_openerTag (b : Bindings) (r : Rule) (as : List Attribute) :
    (openerTag b r as).pairs = as.map (Attribute.pair b) := by
  simp [Tag.pairs, openerTag, Attribute.written, WrittenAttribute.pair, Attribute.pair,
    Function.comp_def]

/-- The token of the opening tag of an element. -/
def openerToken (b : Bindings) (r : Rule) (as : List Attribute) (position : Nat) : Token :=
  ⟨position, position + (openerTag b r as).length, r.tag, false, r, as.map (Attribute.pair b)⟩

/-- The token of the closing tag of an element. -/
def closerToken (r : Rule) (position : Nat) : Token :=
  ⟨position, position + (closerTag r).length, r.tag, true, r, []⟩

section
variable {rules : RuleTable} {b : Bindings} (hrules : ∀ r ∈ rules.rules, IsTagName r.tag)

/-- The closing tag of an element is read as a token of its rule. -/
theorem toToken_closerTag {r : Rule} (hr : r ∈ rules.rules) (position : Nat) :
    (closerTag r).toToken rules position = .ok (closerToken r position) := by
  unfold Tag.toToken
  have hname : String.ofList (closerTag r).name = r.tag := String.ofList_toList
  rw [hname]
  dsimp only
  rw [RuleTable.get?_of_mem hr]
  rfl

include hrules

/-- The opening tag of an element is read as a token of its rule, with the attributes as they are
written. -/
theorem toToken_openerTag {r : Rule} {as : List Attribute} {children : Document}
    (h : ElementWellFormed rules b r as children) (position : Nat) :
    (openerTag b r as).toToken rules position = .ok (openerToken b r as position) := by
  unfold Tag.toToken
  have hname : String.ofList (openerTag b r as).name = r.tag := String.ofList_toList
  rw [hname]
  dsimp only
  rw [RuleTable.get?_of_mem h.rule,
    findAttributes_attributeSource (wellFormed_openerTag hrules h), pairs_openerTag]
  rfl

/-- Where the opening tag of an element occurs, its token is found. -/
theorem token?_openerTag {r : Rule} {as : List Attribute} {children : Document}
    (h : ElementWellFormed rules b r as children) (position : Nat) :
    (⟨position, openerTag b r as⟩ : Occurrence).token? rules =
      some (openerToken b r as position) := by
  rw [Occurrence.token?, toToken_openerTag hrules h]

omit hrules in
/-- Where the closing tag of an element occurs, its token is found. -/
theorem token?_closerTag {r : Rule} (hr : r ∈ rules.rules) (position : Nat) :
    (⟨position, closerTag r⟩ : Occurrence).token? rules = some (closerToken r position) := by
  rw [Occurrence.token?, toToken_closerTag hr]

/-- Every tag of a document becomes a token. -/
theorem anomaly?_of_mem_tags {d : Document} (h : d.WellFormed rules b) {position : Nat} :
    ∀ o ∈ d.tags b position, o.anomaly? rules = none := by
  induction d generalizing position with
  | nil => simp [Document.tags]
  | text cs rest ih => exact ih h.2
  | placeholder p rest ih => exact ih h.2
  | element r as children rest ihc ihr =>
    obtain ⟨helement, hchildren, hrest⟩ := h
    refine List.forall_mem_cons.2 ⟨?_, List.forall_mem_append.2 ⟨ihc hchildren,
      List.forall_mem_cons.2 ⟨?_, ihr hrest⟩⟩⟩
    · rw [Occurrence.anomaly?, toToken_openerTag hrules helement]
    · rw [Occurrence.anomaly?, toToken_closerTag helement.rule]

omit hrules in
/-- An opening token is put on the stack. -/
theorem step_openerToken (text : List Char) (m : Matching) {r : Rule} {as : List Attribute}
    {opening : String} (h : r.openTag? (as.map (Attribute.pair b)) = some opening)
    (position : Nat) :
    Matching.step text m (openerToken b r as position) =
      { m with stack := ⟨openerToken b r as position, opening⟩ :: m.stack } := by
  rw [Matching.step, if_neg (by simp [openerToken]), Matching.enter]
  simp only [openerToken, h]

omit hrules in
/-- A closing token pairs with the opening one that was taken last, unless a line feed stands
between inline ones. -/
theorem step_closerToken {text : List Char} {m : Matching} {o : Opener} {r : Rule}
    {position : Nat} (hname : o.token.name = r.tag)
    (hline : r.inline → '\n' ∉ between text o.token.stop position) :
    Matching.step text { m with stack := o :: m.stack } (closerToken r position) =
      { m with pairs := ⟨o, closerToken r position⟩ :: m.pairs } := by
  have hsearch : o.differs (closerToken r position).name = false := by
    simp [Opener.differs, closerToken, hname]
  have hnot : ((closerToken r position).rule.inline &&
      decide ('\n' ∈ between text o.token.stop (closerToken r position).start)) = false := by
    rw [Bool.and_eq_false_imp]
    exact fun hinline => decide_eq_false (hline hinline)
  rw [Matching.step, if_pos (by rfl), Matching.close]
  simp only [List.dropWhile_cons, List.takeWhile_cons, hsearch]
  simp [Matching.join, hnot]

/-- Pairing the tokens of a document leaves nothing open and reports nothing. -/
theorem foldl_step_tags {d : Document} (h : d.WellFormed rules b) {text : List Char}
    {position : Nat} (htext : d.interpolated b <+: text.drop position) (m : Matching) :
    ∃ pairs, ((d.tags b position).filterMap fun o => o.token? rules).foldl (Matching.step text) m =
      { m with pairs } := by
  induction d generalizing position m with
  | nil => exact ⟨m.pairs, rfl⟩
  | text cs rest ih =>
    rw [interpolated_text, append_isPrefix_drop_iff] at htext
    exact ih h.2 htext.2 m
  | placeholder p rest ih =>
    rw [interpolated_placeholder, append_isPrefix_drop_iff] at htext
    exact ih h.2 htext.2 m
  | element r as children rest ihc ihr =>
    obtain ⟨helement, hchildren, hrest⟩ := h
    rw [interpolated_element, append_isPrefix_drop_iff, append_isPrefix_drop_iff,
      append_isPrefix_drop_iff, ← Tag.length, ← Tag.length] at htext
    obtain ⟨-, hinner, -, houter⟩ := htext
    obtain ⟨opening, hopening⟩ := helement.exists_openTag?
    rw [Document.tags, List.filterMap_cons_some (token?_openerTag hrules helement position),
      List.foldl_cons, List.filterMap_append, List.foldl_append,
      List.filterMap_cons_some (token?_closerTag helement.rule _), List.foldl_cons,
      step_openerToken text m hopening]
    -- the children leave the opening token on the stack
    obtain ⟨pairs, hpairs⟩ := ihc hchildren hinner
      { m with stack := ⟨openerToken b r as position, opening⟩ :: m.stack }
    have hline : r.inline → '\n' ∉ between text (position + (openerTag b r as).length)
        (position + (openerTag b r as).length + (children.interpolated b).length) := by
      rw [between_of_isPrefix hinner]
      exact helement.inline
    have hstep := step_closerToken (m := { m with pairs })
      (o := ⟨openerToken b r as position, opening⟩) rfl hline
    -- so the closing token finds it, and what is behind begins with the stack as it was
    rw [hpairs, hstep]
    exact ihr hrest houter _

/-- Nothing is reported of a document. -/
theorem reports_interpolated {d : Document} (h : d.WellFormed rules b) :
    reports rules (d.interpolated b) (valueSpans b 0 d.pieces) = [] := by
  have hspans := separated_valueSpans b 0 d.pieces
  have htext : d.interpolated b <+: (d.interpolated b).drop 0 := List.prefix_refl _
  obtain ⟨pairs, hpairs⟩ := foldl_step_tags hrules h htext {}
  rw [reports, pairTokens_eq, Matching.run, tokensOf_eq hspans, scan_eq hspans,
    eligibleTags_interpolated hrules h, hpairs,
    List.filterMap_eq_nil_iff.2 (anomaly?_of_mem_tags hrules h)]
  rfl

end

/-! ## The edits of a document -/

/-- Making some edits in a text between two positions gives the HTML, whatever edits follow. -/
structure Renders (text : List Char) (i j : Nat) (es : List Edit) (html : List Char) : Prop where
  le : i ≤ j
  starts : ∀ e ∈ es, i ≤ e.start
  splice_append : ∀ es', (∀ e ∈ es', j ≤ e.start) →
    splice text i (es ++ es') = html ++ splice text j es'

namespace Renders

variable {text : List Char} {i j k : Nat}

theorem nil (text : List Char) (i : Nat) : Renders text i i [] [] :=
  ⟨Nat.le_refl _, by simp, fun _ _ => rfl⟩

/-- Without edits a text is copied. -/
theorem copy {part : List Char} (h : part <+: text.drop i) :
    Renders text i (i + part.length) [] part := by
  refine ⟨Nat.le_add_right _ _, by simp, fun es hes => ?_⟩
  rw [List.nil_append, splice_eq_append (Nat.le_add_right _ _) hes, between_of_isPrefix h]

/-- One edit gives what it writes. -/
theorem edit (hij : i ≤ j) (replacement : String) :
    Renders text i j [⟨i, j, replacement⟩] replacement.toList := by
  refine ⟨hij, by simp, fun es _ => ?_⟩
  rw [List.singleton_append, splice, between_self, List.nil_append]

/-- Stretches of a text that follow each other are rendered one after the other. -/
theorem append {es es' : List Edit} {html html' : List Char} (h : Renders text i j es html)
    (h' : Renders text j k es' html') : Renders text i k (es ++ es') (html ++ html') := by
  refine ⟨Nat.le_trans h.le h'.le, List.forall_mem_append.2 ⟨h.starts, fun e he => ?_⟩,
    fun es'' hes'' => ?_⟩
  · exact Nat.le_trans h.le (h'.starts e he)
  -- the edits behind the first part are those of the second and those that follow
  · have hbehind : ∀ e ∈ es' ++ es'', j ≤ e.start :=
      List.forall_mem_append.2 ⟨h'.starts, fun e he => Nat.le_trans h'.le (hes'' e he)⟩
    rw [List.append_assoc, h.splice_append _ hbehind, h'.splice_append _ hes'', List.append_assoc]

end Renders

section
variable {rules : RuleTable} {b : Bindings}

/-- The opening tag of an element is replaced by that of its rule. -/
theorem edit?_openerTag {r : Rule} {as : List Attribute} (hr : r ∈ rules.rules) {opening : String}
    (h : r.openTag? (as.map (Attribute.pair b)) = some opening) (position : Nat) :
    (⟨position, openerTag b r as⟩ : Occurrence).edit? rules =
      some ⟨position, position + (openerTag b r as).length, opening⟩ := by
  have hname : String.ofList (openerTag b r as).name = r.tag := String.ofList_toList
  rw [Occurrence.edit?, Tag.written?, hname, RuleTable.get?_of_mem hr, Option.bind_some,
    if_neg (by simp [openerTag]), pairs_openerTag, h]
  rfl

/-- The closing tag of an element is replaced by that of its rule. -/
theorem edit?_closerTag {r : Rule} (hr : r ∈ rules.rules) (position : Nat) :
    (⟨position, closerTag r⟩ : Occurrence).edit? rules =
      some ⟨position, position + (closerTag r).length, r.closeTag⟩ := by
  have hname : String.ofList (closerTag r).name = r.tag := String.ofList_toList
  rw [Occurrence.edit?, Tag.written?, hname, RuleTable.get?_of_mem hr, Option.bind_some,
    if_pos (by rfl)]
  rfl

/-- Making the edits of a document that is written somewhere in a text gives its HTML there. -/
theorem renders_tags {d : Document} (h : d.WellFormed rules b) {text : List Char} {position : Nat}
    (htext : d.interpolated b <+: text.drop position) :
    ∃ html, d.render b = some html ∧
      Renders text position (position + (d.interpolated b).length)
        ((d.tags b position).filterMap fun o => o.edit? rules) html := by
  induction d generalizing position with
  | nil => exact ⟨[], rfl, Renders.nil text position⟩
  | text cs rest ih =>
    rw [interpolated_text, append_isPrefix_drop_iff] at htext
    obtain ⟨html, hrender, hrest⟩ := ih h.2 htext.2
    have hcopied : (Document.text cs rest).render b = some (cs ++ html) := by
      rw [Document.render, hrender]
      rfl
    refine ⟨cs ++ html, hcopied, ?_⟩
    rw [interpolated_text, List.length_append, ← Nat.add_assoc]
    exact (Renders.copy htext.1).append hrest
  | placeholder p rest ih =>
    rw [interpolated_placeholder, append_isPrefix_drop_iff] at htext
    obtain ⟨html, hrender, hrest⟩ := ih h.2 htext.2
    have hvalue : (Document.placeholder p rest).render b =
        some (Piece.value b (.placeholder p) ++ html) := by
      rw [Document.render, hrender]
      rfl
    refine ⟨Piece.value b (.placeholder p) ++ html, hvalue, ?_⟩
    rw [interpolated_placeholder, List.length_append, ← Nat.add_assoc]
    exact (Renders.copy htext.1).append hrest
  | element r as children rest ihc ihr =>
    obtain ⟨helement, hchildren, hrest⟩ := h
    rw [interpolated_element, append_isPrefix_drop_iff, append_isPrefix_drop_iff,
      append_isPrefix_drop_iff, ← Tag.length, ← Tag.length] at htext
    obtain ⟨-, hinner, -, houter⟩ := htext
    obtain ⟨opening, hopening⟩ := helement.exists_openTag?
    obtain ⟨inner, hrenderInner, hinner⟩ := ihc hchildren hinner
    obtain ⟨outer, hrenderOuter, houter⟩ := ihr hrest houter
    refine ⟨opening.toList ++ (inner ++ (r.closeTag.toList ++ outer)),
      by simp [Document.render, hopening, hrenderInner, hrenderOuter], ?_⟩
    rw [Document.tags, List.filterMap_cons_some (edit?_openerTag helement.rule hopening position),
      List.filterMap_append, List.filterMap_cons_some (edit?_closerTag helement.rule _),
      interpolated_element, List.length_append, List.length_append, List.length_append,
      ← Tag.length, ← Tag.length, ← Nat.add_assoc, ← Nat.add_assoc, ← Nat.add_assoc]
    exact (Renders.edit (Nat.le_add_right _ _) opening).append
      (hinner.append ((Renders.edit (Nat.le_add_right _ _) r.closeTag).append houter))

/-- Compiling the source of a well-formed document gives the HTML of its tree. -/
theorem compile_source (hrules : ∀ r ∈ rules.rules, IsTagName r.tag) {d : Document}
    (h : d.WellFormed rules b) :
    ∃ html, d.render b = some html ∧ compile d.source b rules = ⟨String.ofList html, []⟩ := by
  have hspans := separated_valueSpans b 0 d.pieces
  have hreports := reports_interpolated hrules h
  have htext : d.interpolated b <+: (d.interpolated b).drop 0 := List.prefix_refl _
  obtain ⟨html, hrender, hrenders⟩ := renders_tags h htext
  refine ⟨html, hrender, ?_⟩
  -- nothing is reported, so all tags of the document are edited
  have hhtml : (rewriteTags rules (d.interpolated b) (valueSpans b 0 d.pieces)).html.toList =
      splice (d.interpolated b) 0 (edits rules (d.interpolated b) (valueSpans b 0 d.pieces)) :=
    toList_html_rewriteTags hspans
  rw [edits_of_reports_eq_nil hspans hreports, eligibleTags_interpolated hrules h] at hhtml
  have hsplice := hrenders.splice_append [] (by simp)
  rw [List.append_nil, Nat.zero_add, splice, List.drop_length, List.append_nil] at hsplice
  rw [hsplice] at hhtml
  have hanomalies := anomalies_rewriteTags rules (d.interpolated b) (valueSpans b 0 d.pieces)
  rw [hreports, List.mergeSort_nil] at hanomalies
  rw [compile, interpolateSpans_source hrules h]
  rw [← hanomalies, ← hhtml, String.ofList_toList]

end

/-- The tags of the standard rules are names that a source can spell. -/
theorem isTagName_standard : ∀ r ∈ RuleTable.standard.rules, IsTagName r.tag := by
  simp [RuleTable.standard, IsTagName, isTagStart, isTagChar]

/-- A card with placeholders in its title and its text. -/
def greetingCard : Document :=
  .element
    { tag := "card", element := "section", cssClass := "flo-card", takesTitle := true }
    [⟨"title".toList, literal "For ".toList ++ [.placeholder ⟨[], "who".toList, []⟩]⟩]
    (.placeholder ⟨[], "note".toList, []⟩ .nil) .nil

/-- A value that looks like the card's closing tag does not close it. -/
theorem compile_source_greetingCard :
    compile "<flo:card title=\"For {{who}}\">{{note}}</flo:card>"
        ⟨[("who", "Ann"), ("note", "</flo:card>")]⟩ =
      ⟨"<section class=\"flo-card\" data-title=\"For Ann\"></flo:card></section>", []⟩ := by
  have helement : ElementWellFormed RuleTable.standard
      ⟨[("who", "Ann"), ("note", "</flo:card>")]⟩
      { tag := "card", element := "section", cssClass := "flo-card", takesTitle := true }
      [⟨"title".toList, literal "For ".toList ++ [.placeholder ⟨[], "who".toList, []⟩]⟩]
      (.placeholder ⟨[], "note".toList, []⟩ .nil) := by
    refine ⟨by decide, List.forall_mem_singleton.2 ⟨by decide, ?_, ?_, ?_⟩, by decide,
      by decide, by decide⟩
    · simp [isAttributeChar, isBlank]
    · simp [literal]
    · simp only [literal, List.mem_append, List.mem_map, reduceCtorEq, and_false, exists_false,
        false_or, List.mem_singleton, Piece.placeholder.injEq]
      rintro p rfl
      refine ⟨Placeholder.wellFormed_of_name (by decide) (by decide), ?_⟩
      have hvalue : Bindings.lookup ⟨[("who", "Ann"), ("note", "</flo:card>")]⟩ "who" = "Ann" := by
        decide
      simp [Placeholder.identifier, hvalue]
  have hwellFormed : greetingCard.WellFormed RuleTable.standard
      ⟨[("who", "Ann"), ("note", "</flo:card>")]⟩ :=
    ⟨helement, ⟨Placeholder.wellFormed_of_name (by decide) (by decide), trivial⟩, trivial⟩
  obtain ⟨html, hrender, hcompile⟩ := compile_source isTagName_standard hwellFormed
  have hhtml : greetingCard.render ⟨[("who", "Ann"), ("note", "</flo:card>")]⟩ =
      some "<section class=\"flo-card\" data-title=\"For Ann\"></flo:card></section>".toList := by
    decide
  have hsource : greetingCard.source =
      "<flo:card title=\"For {{who}}\">{{note}}</flo:card>" := by
    decide
  rw [hhtml] at hrender
  rw [← hsource, hcompile, ← Option.some.inj hrender, String.ofList_toList]

end SealedPage.Flo
