import Mathlib.Algebra.Ring.Parity
import SealedPage.Proofs.Flo.Injection

/-!
# Bound values and quotes

A tag that is rewritten may hold bound values, and not only between the quotes that its author
wrote. Whether a character of a tag stands in the value of an attribute is a matter of the quotes in
front of it, `Tag.marks_eq`, so a bound value keeps to the quotes around it if it holds none and
stands behind an odd number of them. `keeps_compile` says that it does so in these cases only: a
value can end the quotes that it stands in and add to the tag what it likes, as in
`forgedLink_rewritten`.
-/

namespace SealedPage.Flo

open Text

/-! ## Characters in values -/

/-- For each character of a value with its equals sign and quotes, whether it stands between the
quotes. -/
def AttributeValue.marks (v : AttributeValue) : List Bool :=
  List.replicate v.before.length false ++ false ::
    (List.replicate v.after.length false ++ false :: (List.replicate v.text.length true ++ [false]))

/-- For each character of an attribute, whether it stands between the quotes of its value. -/
def WrittenAttribute.marks (a : WrittenAttribute) : List Bool :=
  List.replicate a.name.length false ++ (a.value.map AttributeValue.marks).getD []

/-- For each character of a tag, whether it stands between the quotes of a value. -/
def Tag.marks (t : Tag) : List Bool :=
  false :: (List.replicate (if t.closing then 1 else 0) false ++
    (List.replicate tagNamespace.length false ++ (List.replicate t.name.length false ++
      ((t.attributes.flatMap fun (blanks, a) => List.replicate blanks.length false ++ a.marks) ++
        (List.replicate t.blanks.length false ++
          List.replicate (Tag.endMark t.selfClosing).length false)))))

/-- For each character of a text, whether it stands between two quotes; `inside` says on which side
of a quote the text begins. -/
def quoted (inside : Bool) : List Char → List Bool
  | [] => []
  | c :: cs => if c = '"' then false :: quoted (!inside) cs else inside :: quoted inside cs

/-- Without a quote, all characters stand on one side of the quotes. -/
theorem quoted_append_of_not_mem {cs : List Char} (h : '"' ∉ cs) (inside : Bool)
    (rest : List Char) :
    quoted inside (cs ++ rest) = List.replicate cs.length inside ++ quoted inside rest := by
  induction cs with
  | nil => rfl
  | cons c cs ih =>
    simp only [List.mem_cons, not_or] at h
    rw [List.cons_append, quoted, if_neg (Ne.symm h.1), ih h.2]
    rfl

/-- A quote turns from the outside to the inside and back, and belongs to neither. -/
theorem quoted_quote (inside : Bool) (rest : List Char) :
    quoted inside ('"' :: rest) = false :: quoted (!inside) rest := by
  rw [quoted, if_pos rfl]

theorem quoted_cons_of_ne {c : Char} (h : c ≠ '"') (inside : Bool) (rest : List Char) :
    quoted inside (c :: rest) = inside :: quoted inside rest := by
  rw [quoted, if_neg h]

/-- The quotes in front of a character decide on which side of them it stands. -/
theorem getElem?_quoted_eq_some_true_iff {inside : Bool} {cs : List Char} {k : Nat} :
    (quoted inside cs)[k]? = some true ↔
      (∃ c, cs[k]? = some c ∧ c ≠ '"') ∧ (Odd ((cs.take k).count '"') ↔ inside = false) := by
  induction cs generalizing inside k with
  | nil => simp [quoted]
  | cons c cs ih =>
    cases k with
    | zero => by_cases hc : c = '"' <;> cases inside <;> simp [quoted, hc]
    | succ k =>
      by_cases hc : c = '"'
      · subst hc
        rw [quoted_quote, List.getElem?_cons_succ, ih, List.getElem?_cons_succ,
          List.take_succ_cons, List.count_cons_self, Nat.odd_add_one]
        cases inside <;> simp
      · rw [quoted_cons_of_ne hc, List.getElem?_cons_succ, ih, List.getElem?_cons_succ,
          List.take_succ_cons, List.count_cons_of_ne hc]

/-! ## The quotes of a tag -/

theorem quote_not_mem_of_isBlank {cs : List Char} (h : ∀ c ∈ cs, isBlank c) : '"' ∉ cs :=
  fun hmem => ne_of_isBlank (h _ hmem) rfl rfl

/-- In a value of the grammar the marks are those that it names, and the quotes are closed behind
it. -/
theorem quoted_value_append {v : AttributeValue} (hv : v.WellFormed) (rest : List Char) :
    quoted false (v.source ++ rest) = v.marks ++ quoted false rest := by
  have htext : '"' ∉ v.text := fun hmem => absurd (hv.text _ hmem) (by decide)
  have hsource : v.source ++ rest =
      v.before ++ '=' :: (v.after ++ '"' :: (v.text ++ '"' :: rest)) := by
    simp [AttributeValue.source]
  rw [hsource, quoted_append_of_not_mem (quote_not_mem_of_isBlank hv.before),
    quoted_cons_of_ne (by decide), quoted_append_of_not_mem (quote_not_mem_of_isBlank hv.after),
    quoted_quote, quoted_append_of_not_mem htext, quoted_quote]
  simp [AttributeValue.marks]

/-- So it is in an attribute. -/
theorem quoted_attribute_append {a : WrittenAttribute} (ha : a.WellFormed) (rest : List Char) :
    quoted false (a.source ++ rest) = a.marks ++ quoted false rest := by
  have hname : '"' ∉ a.name := fun hmem => absurd (ha.name _ hmem) (by decide)
  rw [WrittenAttribute.source, List.append_assoc, quoted_append_of_not_mem hname,
    WrittenAttribute.marks, List.append_assoc]
  congr 1
  cases hvalue : a.value with
  | none => rfl
  | some v => exact quoted_value_append (ha.value v hvalue) rest

/-- So it is in any number of attributes. -/
theorem quoted_attributesSource_append {as : List (List Char × WrittenAttribute)}
    (has : AttributesWellFormed as) (rest : List Char) :
    quoted false (attributesSource as ++ rest) =
      (as.flatMap fun (blanks, a) => List.replicate blanks.length false ++ a.marks) ++
        quoted false rest := by
  induction as with
  | nil => rfl
  | cons a as ih =>
    obtain ⟨blanks, a⟩ := a
    obtain ⟨-, hblanks, ha, has⟩ := has.of_cons
    rw [attributesSource_cons, List.append_assoc, List.append_assoc,
      quoted_append_of_not_mem (quote_not_mem_of_isBlank hblanks), quoted_attribute_append ha,
      ih has, List.flatMap_cons]
    simp only [List.append_assoc]

/-- What stands in the values of a tag is what stands between its quotes. -/
theorem Tag.marks_eq {t : Tag} (ht : t.WellFormed) : t.marks = quoted false t.source := by
  have hclosing : '"' ∉ (if t.closing then ['/'] else [] : List Char) := by
    cases t.closing <;> decide
  have hname : '"' ∉ t.name := fun hmem => absurd (ht.name _ hmem) (by decide)
  have hmark : '"' ∉ endMark t.selfClosing := by
    cases t.selfClosing <;> decide
  have hend : quoted false (endMark t.selfClosing) =
      List.replicate (endMark t.selfClosing).length false := by
    simpa [quoted] using quoted_append_of_not_mem hmark false []
  have hlength : (if t.closing then ['/'] else [] : List Char).length =
      if t.closing then 1 else 0 := by
    cases t.closing <;> rfl
  rw [source_eq, nameSource, quoted_cons_of_ne (by decide), quoted_append_of_not_mem hclosing,
    quoted_append_of_not_mem (by decide), quoted_append_of_not_mem hname,
    quoted_attributesSource_append ht.attributes,
    quoted_append_of_not_mem (quote_not_mem_of_isBlank ht.blanks), hend, hlength]
  rfl

/-! ## Bound characters in a tag -/

namespace Occurrence

/-- The character of the text stands in the tag, between the quotes of a value. -/
def InValue (o : Occurrence) (k : Nat) : Prop :=
  o.start ≤ k ∧ o.tag.marks[k - o.start]? = some true

/-- All that is bound within the tag stands between the quotes of its values: no bracket, slash,
name, equals sign or quote of the tag lies in a span. -/
def Keeps (o : Occurrence) (spans : List Span) : Prop :=
  ∀ s ∈ spans, ∀ k, s.contains k → o.start ≤ k → k < o.stop → o.InValue k

/-- A character of a tag stands in a value if it is no quote and an odd number of quotes is in
front of it. -/
theorem inValue_iff {o : Occurrence} {text : List Char} (h : o.In text) {k : Nat}
    (hstart : o.start ≤ k) (hstop : k < o.stop) :
    o.InValue k ↔ text[k]? ≠ some '"' ∧ Odd ((between text o.start k).count '"') := by
  obtain ⟨ht, rest, hrest⟩ := h
  rw [stop, Tag.length] at hstop
  obtain ⟨c, hc⟩ : ∃ c, o.tag.source[k - o.start]? = some c :=
    ⟨_, List.getElem?_eq_getElem (by omega)⟩
  -- the text at `k` and in front of it is that of the tag
  have hat : text[k]? = some c := by
    have hdrop : (text.drop o.start)[k - o.start]? = some c := by
      rw [← hrest, List.getElem?_append_left (by omega), hc]
    rwa [List.getElem?_drop, Nat.add_sub_cancel' hstart] at hdrop
  have hfront : between text o.start k = o.tag.source.take (k - o.start) := by
    rw [between, List.drop_take, ← hrest, List.take_append_of_le_length (by omega)]
  rw [InValue, Tag.marks_eq ht, getElem?_quoted_eq_some_true_iff, hc, hat, hfront]
  simp [hstart]

end Occurrence

section
variable {rules : RuleTable} {text : List Char} {spans : List Span} {e : Edit} {o : Occurrence}

/-- A character inside of a span is one of its slice. -/
theorem mem_slice_of_contains {s : Span} {k : Nat} {c : Char} (hk : s.contains k)
    (hc : text[k]? = some c) : c ∈ s.slice text := by
  rw [Span.contains_iff] at hk
  apply List.mem_of_getElem? (i := k - s.start)
  rw [Span.slice, between, List.getElem?_drop, Nat.add_sub_cancel' hk.1,
    List.getElem?_take_of_lt hk.2, hc]

/-- Every character of a slice stands inside of its span. -/
theorem exists_contains_of_mem_slice {s : Span} {c : Char} (hc : c ∈ s.slice text) :
    ∃ k, s.contains k ∧ text[k]? = some c := by
  obtain ⟨i, hi⟩ := List.getElem?_of_mem hc
  have hlt : i < s.stop - s.start := by
    have hlen := (List.getElem?_eq_some_iff.1 hi).1
    simp only [Span.slice, between, List.length_drop, List.length_take] at hlen
    omega
  refine ⟨s.start + i, Span.contains_iff.2 (by omega), ?_⟩
  rwa [Span.slice, between, List.getElem?_drop, List.getElem?_take_of_lt (by omega)] at hi

/-- What is bound within an edit is bound within the tag that it rewrites. -/
theorem bounds_of_encloses (hrewrites : e.Rewrites rules o) {s : Span} (hs : e.Encloses s) {k : Nat}
    (hk : s.contains k) : o.start ≤ k ∧ k < o.stop := by
  have hin := Span.contains_iff.1 hk
  obtain ⟨hstart, hstop⟩ := hs
  rw [hrewrites.start] at hstart
  rw [hrewrites.stop] at hstop
  omega

/-- A value without quotes stands in a value of the tag as a whole or not at all. -/
theorem inValue_iff_of_encloses (ho : o.In text) (hrewrites : e.Rewrites rules o) {s : Span}
    (hs : e.Encloses s) (hquote : '"' ∉ s.slice text) {k : Nat} (hk : s.contains k) :
    o.InValue k ↔ Odd ((between text e.start s.start).count '"') := by
  have hin := Span.contains_iff.1 hk
  obtain ⟨hstart, hstop⟩ := bounds_of_encloses hrewrites hs hk
  have hplain : text[k]? ≠ some '"' := fun hc => hquote (mem_slice_of_contains hk hc)
  -- from the beginning of the span on there is no quote
  have hrest : (between text s.start k).count '"' = 0 := by
    rw [List.count_eq_zero]
    intro hmem
    obtain ⟨i, hi, hc⟩ := exists_contains_of_mem_slice (s := ⟨s.start, k⟩) hmem
    rw [Span.contains_iff] at hi
    exact hquote (mem_slice_of_contains (Span.contains_iff.2 ⟨hi.1, hi.2.trans hin.2⟩) hc)
  have hfront : (between text e.start k).count '"' = (between text e.start s.start).count '"' := by
    rw [← between_append_between text (Nat.le_of_lt hs.1) hin.1, List.count_append, hrest,
      Nat.add_zero]
  rw [← hfront, hrewrites.start]
  exact (Occurrence.inValue_iff ho hstart hstop).trans (and_iff_right hplain)

/-- A rewritten tag keeps its attributes if and only if every value inside of it stands in quotes
and holds none itself. -/
theorem keeps_iff (hspans : Separated spans) (he : e ∈ edits rules text spans) (ho : o.In text)
    (hrewrites : e.Rewrites rules o) : o.Keeps spans ↔ ∀ s ∈ spans, e.Encloses s →
    '"' ∉ s.slice text ∧ Odd ((between text e.start s.start).count '"') := by
  constructor
  · intro h s hs hin
    have hall : ∀ k, s.contains k → o.InValue k := by
      intro k hk
      obtain ⟨hstart, hstop⟩ := bounds_of_encloses hrewrites hin hk
      exact h s hs k hk hstart hstop
    have hquote : '"' ∉ s.slice text := by
      intro hmem
      obtain ⟨k, hk, hc⟩ := exists_contains_of_mem_slice hmem
      obtain ⟨hstart, hstop⟩ := bounds_of_encloses hrewrites hin hk
      exact ((Occurrence.inValue_iff ho hstart hstop).1 (hall k hk)).1 hc
    have hfirst : s.contains s.start :=
      Span.contains_iff.2 ⟨Nat.le_refl _, hspans.nonempty s hs⟩
    exact ⟨hquote, (inValue_iff_of_encloses ho hrewrites hin hquote hfirst).1
      (hall s.start hfirst)⟩
  · intro h s hs k hk hstart hstop
    have hcontains := Span.contains_iff.1 hk
    have hin : e.Encloses s := by
      rcases apart_or_encloses hspans he hs with hapart | hin
      · unfold Edit.Apart at hapart
        rw [hrewrites.start, hrewrites.stop] at hapart
        omega
      · exact hin
    obtain ⟨hquote, hodd⟩ := h s hs hin
    exact (inValue_iff_of_encloses ho hrewrites hin hquote hk).2 hodd

end

/-- What is known of the bound values within a tag that an edit rewrites. -/
structure Keeping (rules : RuleTable) (text : List Char) (spans : List Span) (e : Edit)
    (o : Occurrence) : Prop where
  occurs : o.In text
  rewrites : e.Rewrites rules o
  /-- Neither the first nor the last character of the tag is bound. -/
  ends : ∀ s ∈ spans, ¬ s.contains e.start ∧ ¬ s.contains (e.stop - 1)
  /-- A value without quotes stands between the quotes of the tag as a whole or not at all. -/
  whole : ∀ s ∈ spans, e.Encloses s → '"' ∉ s.slice text → ∀ k, s.contains k →
    (o.InValue k ↔ Odd ((between text e.start s.start).count '"'))
  /-- All that is bound keeps to the quotes if and only if no value within the tag holds a quote and
  each has an odd number of them in front. -/
  keeps_iff : o.Keeps spans ↔ ∀ s ∈ spans, e.Encloses s →
    '"' ∉ s.slice text ∧ Odd ((between text e.start s.start).count '"')

/-- Which bound values keep to the quotes of the tags that are rewritten, whatever the source, the
bindings and the rules are. -/
theorem keeps_compile (source : String) (b : Bindings) (rules : RuleTable) :
    (compile source b rules).html.toList = splice (interpolateSpans source.toList b).1 0
        (edits rules (interpolateSpans source.toList b).1 (interpolateSpans source.toList b).2) ∧
      ∀ e ∈ edits rules (interpolateSpans source.toList b).1 (interpolateSpans source.toList b).2,
        ∃ o, Keeping rules (interpolateSpans source.toList b).1
          (interpolateSpans source.toList b).2 e o := by
  have hspans := separated_interpolateSpans source.toList b
  refine ⟨toList_html_rewriteTags hspans, fun e he => ?_⟩
  obtain ⟨o, ho, hrewrites⟩ := of_mem_edits hspans he
  exact ⟨o,
    { occurs := ho.occurs
      rewrites := hrewrites
      ends := fun s hs => not_contains_of_mem_edits hspans he hs
      whole := fun s _ hin hquote k hk =>
        inValue_iff_of_encloses ho.occurs hrewrites hin hquote hk
      keeps_iff := keeps_iff hspans he ho.occurs hrewrites }⟩

/-! ## A forged attribute -/

/-- A link whose title is bound. -/
def titledLink : String :=
  "<flo:link title=\"\x7b\x7bt\x7d\x7d\" href=\"/safe\">X</flo:link>"

/-- A title that ends its quotes and goes on with an address. -/
def forgingTitle : Bindings :=
  ⟨[("t", "\" href=\"/evil")]⟩

/-- The address of the link is the one in the title: the title has ended the quotes that its author
put around it, and brings an attribute of its own. -/
theorem forgedLink_rewritten :
    (compile titledLink forgingTitle).html = "<a href=\"/evil\" class=\"flo-link\">X</a>" ∧
      ∃ e ∈ edits RuleTable.standard (interpolateSpans titledLink.toList forgingTitle).1
          (interpolateSpans titledLink.toList forgingTitle).2,
        ∀ o : Occurrence, o.In (interpolateSpans titledLink.toList forgingTitle).1 →
          e.Rewrites RuleTable.standard o →
            ¬ o.Keeps (interpolateSpans titledLink.toList forgingTitle).2 := by
  have hspans := separated_interpolateSpans titledLink.toList forgingTitle
  have hinterpolated : interpolateSpans titledLink.toList forgingTitle =
      ("<flo:link title=\"\" href=\"/evil\" href=\"/safe\">X</flo:link>".toList,
        [⟨17, 30⟩]) := by
    decide +kernel
  have hedits : edits RuleTable.standard (interpolateSpans titledLink.toList forgingTitle).1
      (interpolateSpans titledLink.toList forgingTitle).2 =
        [⟨0, 45, "<a href=\"/evil\" class=\"flo-link\">"⟩, ⟨46, 57, "</a>"⟩] := by
    rw [edits_eq, pairsOf, pairTokens_eq]
    decide +kernel
  have hhtml : (compile titledLink forgingTitle).html.toList =
      "<a href=\"/evil\" class=\"flo-link\">X</a>".toList := by
    rw [compile, toList_html_rewriteTags hspans, hedits, hinterpolated]
    decide +kernel
  refine ⟨String.toList_inj.1 hhtml, ⟨0, 45, _⟩, hedits ▸ List.mem_cons_self, ?_⟩
  intro o ho hrewrites hkeeps
  -- the title stands in the opening tag, and has quotes
  have hplain := ((keeps_iff hspans (hedits ▸ List.mem_cons_self) ho hrewrites).1 hkeeps ⟨17, 30⟩
    (hinterpolated ▸ List.mem_cons_self) ⟨by decide, by decide⟩).1
  rw [hinterpolated] at hplain
  exact hplain (by decide +kernel)

end SealedPage.Flo
