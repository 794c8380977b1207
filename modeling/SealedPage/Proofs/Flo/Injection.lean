import SealedPage.Proofs.Flo.Accounting

/-!
# Bound values are no markup

Whatever the bindings hold, a tag that is rewritten was opened and closed by the author of the
source. A value stands apart from it or wholly within it; one with an opening bracket stands apart,
and is found again in the HTML. What a value says is not interpolated either. All of this is
`guards_compile`.
-/

namespace SealedPage.Flo

open Text

/-! ## Values that are found again -/

/-- The parts stand in the text one behind the other, with other characters around them. -/
def OccurInOrder : List (List Char) → List Char → Prop
  | [], _ => True
  | part :: parts, cs => ∃ front back, cs = front ++ (part ++ back) ∧ OccurInOrder parts back

/-- Parts that occur in a text occur behind anything else. -/
theorem OccurInOrder.append_left {parts : List (List Char)} {cs : List Char}
    (h : OccurInOrder parts cs) (front : List Char) : OccurInOrder parts (front ++ cs) := by
  cases parts with
  | nil => trivial
  | cons part parts =>
    obtain ⟨front', back, rfl, hback⟩ := h
    exact ⟨front ++ front', back, by rw [List.append_assoc], hback⟩

/-- An edit and a span do not overlap. -/
def Edit.Apart (e : Edit) (s : Span) : Prop :=
  e.stop ≤ s.start ∨ s.stop ≤ e.start

/-- A span stands within an edit and does not touch its ends. -/
def Edit.Encloses (e : Edit) (s : Span) : Prop :=
  e.start < s.start ∧ s.stop < e.stop

/-- What stands in front of the first edit is copied. -/
theorem splice_eq_append {text : List Char} {cursor position : Nat} (hle : cursor ≤ position)
    {es : List Edit} (hes : ∀ e ∈ es, position ≤ e.start) :
    splice text cursor es = between text cursor position ++ splice text position es := by
  cases es with
  | nil => rw [splice, splice, between_append_drop text hle]
  | cons e es =>
    rw [splice, splice, ← between_append_between text hle (hes e List.mem_cons_self)]
    simp only [List.append_assoc]

/-- Spans that no edit touches are copied, in their order. -/
theorem occurInOrder_splice (text : List Char) (es : List Edit)
    (hordered : es.Pairwise fun e e' => e.stop ≤ e'.start) (hes : ∀ e ∈ es, e.start ≤ e.stop) :
    ∀ (cursor : Nat) (spans : List Span), (∀ e ∈ es, cursor ≤ e.start) → Separated spans →
      (∀ s ∈ spans, cursor ≤ s.start) → (∀ s ∈ spans, ∀ e ∈ es, e.Apart s) →
      OccurInOrder (spans.map (Span.slice text)) (splice text cursor es) := by
  -- on the edits, and for each of them on the spans in front of it
  induction es with
  | nil =>
    intro cursor spans _ hspans hcursor _
    induction spans generalizing cursor with
    | nil => trivial
    | cons s spans ih =>
      obtain ⟨hnonempty, hrest⟩ := List.forall_mem_cons.1 hspans.nonempty
      obtain ⟨hlater, hpair⟩ := List.pairwise_cons.1 hspans.ordered
      have hs := hcursor s List.mem_cons_self
      refine ⟨between text cursor s.start, text.drop s.stop, ?_,
        ih s.stop (by simp) ⟨hrest, hpair⟩ hlater (by simp)⟩
      rw [splice, Span.slice, between_append_drop text (by omega), between_append_drop text hs]
  | cons e es ihes =>
    intro cursor spans hedits hspans hcursor hapart
    obtain ⟨hafter, hordered'⟩ := List.pairwise_cons.1 hordered
    have he := hes e List.mem_cons_self
    induction spans generalizing cursor with
    | nil => trivial
    | cons s spans ih =>
      obtain ⟨hnonempty, hrest⟩ := List.forall_mem_cons.1 hspans.nonempty
      obtain ⟨hlater, hpair⟩ := List.pairwise_cons.1 hspans.ordered
      have hs := hcursor s List.mem_cons_self
      rcases hapart s List.mem_cons_self e List.mem_cons_self with hbehind | hbefore
      · -- the first span and with it all others stand behind the edit
        have hedit := ihes hordered' (fun e' he' => hes e' (List.mem_cons_of_mem _ he')) e.stop
          (s :: spans) hafter hspans
          (List.forall_mem_cons.2 ⟨hbehind, fun s' hs' =>
            (hbehind.trans (Nat.le_of_lt hnonempty)).trans (hlater s' hs')⟩)
          (fun s' hs' e' he' => hapart s' hs' e' (List.mem_cons_of_mem _ he'))
        exact hedit.append_left _
      · -- the first span stands in front of all edits
        have hfront : ∀ e' ∈ e :: es, s.stop ≤ e'.start :=
          List.forall_mem_cons.2 ⟨hbefore, fun e' he' =>
            (hbefore.trans he).trans (hafter e' he')⟩
        refine ⟨between text cursor s.start, splice text s.stop (e :: es), ?_,
          ih s.stop hfront ⟨hrest, hpair⟩ hlater
            fun s' hs' => hapart s' (List.mem_cons_of_mem _ hs')⟩
        rw [splice_eq_append (by omega : cursor ≤ s.stop) hfront, Span.slice, ← List.append_assoc,
          between_append_between text hs (by omega)]

/-! ## Values that are not read again -/

/-- Bindings that agree on the placeholders of a source interpolate it alike. -/
theorem interpolateSpans_congr {source : List Char} {b b' : Bindings}
    (h : ∀ p : Placeholder, p.WellFormed → p.text <:+: source →
      b.lookup p.identifier = b'.lookup p.identifier) :
    interpolateSpans source b = interpolateSpans source b' := by
  have hvalue : ∀ piece ∈ pieces source, Piece.value b piece = Piece.value b' piece := by
    intro piece hpiece
    cases piece with
    | char c => rfl
    | placeholder p =>
      obtain ⟨hp, hinfix⟩ := isInfix_of_mem_pieces hpiece
      rw [Piece.value, Piece.value, h p hp hinfix]
  rw [interpolateSpans_eq, interpolateSpans_eq]
  generalize pieces source = ps at hvalue
  have hspans : ∀ position, valueSpans b position ps = valueSpans b' position ps := by
    induction ps with
    | nil => exact fun _ => rfl
    | cons piece ps ih =>
      obtain ⟨hhead, htail⟩ := List.forall_mem_cons.1 hvalue
      intro position
      cases piece with
      | char c => exact ih htail _
      | placeholder p => simp only [valueSpans, hhead, ih htail]
  rw [hspans, List.flatMap_congr hvalue]

/-- What a source is compiled to depends on no other bindings than those of its placeholders. -/
theorem compile_congr {source : String} {b b' : Bindings} (rules : RuleTable)
    (h : ∀ p : Placeholder, p.WellFormed → p.text <:+: source.toList →
      b.lookup p.identifier = b'.lookup p.identifier) :
    compile source b' rules = compile source b rules := by
  rw [compile, compile, interpolateSpans_congr h]

/-- The spans of an interpolated source hold the values of its placeholders. -/
theorem map_slice_interpolateSpans (source : List Char) (b : Bindings) :
    (interpolateSpans source b).2.map (Span.slice (interpolateSpans source b).1) =
      boundValues b (pieces source) := by
  rw [interpolateSpans_eq]
  exact map_slice_valueSpans b [] (pieces source)

/-! ## Values and edits -/

section
variable {rules : RuleTable} {text : List Char} {spans : List Span} (hspans : Separated spans)
include hspans

/-- No edit begins or ends in a span. -/
theorem not_contains_of_mem_edits {e : Edit} (he : e ∈ edits rules text spans) {s : Span}
    (hs : s ∈ spans) : ¬ s.contains e.start ∧ ¬ s.contains (e.stop - 1) := by
  obtain ⟨o, ho, hrewrites⟩ := of_mem_edits hspans he
  rw [hrewrites.start, hrewrites.stop]
  exact ⟨ho.first s hs, ho.last s hs⟩

/-- An edit replaces one character at least. -/
theorem start_lt_stop_of_mem_edits {e : Edit} (he : e ∈ edits rules text spans) :
    e.start < e.stop := by
  obtain ⟨o, -, hrewrites⟩ := of_mem_edits hspans he
  rw [hrewrites.start, hrewrites.stop]
  exact o.start_lt_stop

/-- An edit either lies apart from the span of a value, or the whole span lies inside of it. -/
theorem apart_or_encloses {e : Edit} (he : e ∈ edits rules text spans) {s : Span}
    (hs : s ∈ spans) : e.Apart s ∨ e.Encloses s := by
  obtain ⟨hfirst, hlast⟩ := not_contains_of_mem_edits hspans he hs
  rw [Span.contains_iff] at hfirst hlast
  have := start_lt_stop_of_mem_edits hspans he
  have := hspans.nonempty s hs
  unfold Edit.Apart Edit.Encloses
  omega

/-- Two edits are one, or one of them stands before the other. -/
theorem eq_or_disjoint_of_mem_edits {e e' : Edit} (he : e ∈ edits rules text spans)
    (he' : e' ∈ edits rules text spans) : e = e' ∨ e.stop ≤ e'.start ∨ e'.stop ≤ e.start := by
  have hordered : (edits rules text spans).Pairwise fun e e' => e.stop ≤ e'.start :=
    pairwise_edits hspans
  exact eq_or_of_pairwise hordered he he'

/-- A span within one edit stands apart from every other. -/
theorem apart_of_encloses {e e' : Edit} (he : e ∈ edits rules text spans)
    (he' : e' ∈ edits rules text spans) (hne : e' ≠ e) {s : Span} (hs : e.Encloses s) :
    e'.Apart s := by
  obtain ⟨hstart, hstop⟩ := hs
  unfold Edit.Apart
  rcases eq_or_disjoint_of_mem_edits hspans he he' with rfl | hdisjoint
  · exact absurd rfl hne
  · omega

/-- A span that some edit touches stands within that edit and apart from all others. -/
theorem apart_or_exists_encloses {s : Span} (hs : s ∈ spans) :
    (∀ e ∈ edits rules text spans, e.Apart s) ∨ ∃ e ∈ edits rules text spans, e.Encloses s ∧
      ∀ e' ∈ edits rules text spans, e' ≠ e → e'.Apart s := by
  by_cases hall : ∀ e ∈ edits rules text spans, e.Apart s
  · exact Or.inl hall
  · right
    obtain ⟨e, he, hnot⟩ : ∃ e ∈ edits rules text spans, ¬ e.Apart s := by
      simpa only [not_forall, exists_prop] using hall
    have hin := (apart_or_encloses hspans he hs).resolve_left hnot
    exact ⟨e, he, hin, fun e' he' hne => apart_of_encloses hspans he he' hne hin⟩

/-- Spans apart from all edits are found again in the HTML, in their order. -/
theorem occurInOrder_of_apart {ss : List Span} (hss : ss.Sublist spans)
    (hapart : ∀ s ∈ ss, ∀ e ∈ edits rules text spans, e.Apart s) :
    OccurInOrder (ss.map (Span.slice text)) (rewriteTags rules text spans).html.toList := by
  have hseparated : Separated ss :=
    ⟨fun s hs => hspans.nonempty s (hss.mem hs), hspans.ordered.sublist hss⟩
  rw [toList_html_rewriteTags hspans]
  apply occurInOrder_splice text _ (pairwise_edits hspans) _ 0 ss _ hseparated _ hapart
  · exact fun e he => Nat.le_of_lt (start_lt_stop_of_mem_edits hspans he)
  · exact fun _ _ => Nat.zero_le _
  · exact fun _ _ => Nat.zero_le _

/-- No opening bracket stands within a tag, so no value with one does. -/
theorem apart_of_bracket {e : Edit} (he : e ∈ edits rules text spans) {s : Span} (hs : s ∈ spans)
    (hbracket : '<' ∈ s.slice text) : e.Apart s := by
  rcases apart_or_encloses hspans he hs with hapart | ⟨hstart, hstop⟩
  · exact hapart
  · exfalso
    obtain ⟨o, ho, hrewrites⟩ := of_mem_edits hspans he
    rw [hrewrites.start] at hstart
    rw [hrewrites.stop] at hstop
    obtain ⟨i, hi⟩ := List.getElem?_of_mem hbracket
    have hlt : i < s.stop - s.start := by
      have hlen := (List.getElem?_eq_some_iff.1 hi).1
      simp only [Span.slice, between, List.length_drop, List.length_take] at hlen
      omega
    -- the bracket stands behind the first character of the tag and before its end
    rw [Span.slice, between, List.getElem?_drop, List.getElem?_take_of_lt (by omega)] at hi
    exact ho.occurs.ne_bracket (by omega) (by omega) hi

end

/-- How a fragment keeps bound values from becoming markup. The text is that of the source with the
bindings, the spans are those of the values, and the edits put the tags of the rules in it. -/
structure Guards (source : String) (b : Bindings) (rules : RuleTable) (text : List Char)
    (spans : List Span) (es : List Edit) (f : Fragment) : Prop where
  /-- The edits are all that is done to the text. -/
  html : f.html.toList = splice text 0 es
  /-- Each edit writes the tag of a rule in place of a tag. -/
  tags : ∀ e ∈ es, ∃ o : Occurrence, o.In text ∧ e.Rewrites rules o
  /-- Each span holds a value, in the order of the placeholders. -/
  values : spans.map (Span.slice text) = boundValues b (pieces source.toList)
  /-- No edit begins or ends in a span. -/
  ends : ∀ e ∈ es, ∀ s ∈ spans, ¬ s.contains e.start ∧ ¬ s.contains (e.stop - 1)
  /-- A span stands apart from all edits, or within one of them and apart from the others. -/
  placed : ∀ s ∈ spans, (∀ e ∈ es, e.Apart s) ∨
    ∃ e ∈ es, e.Encloses s ∧ ∀ e' ∈ es, e' ≠ e → e'.Apart s
  /-- A span with an opening bracket stands apart from all edits. -/
  bracketed : ∀ s ∈ spans, '<' ∈ s.slice text → ∀ e ∈ es, e.Apart s
  /-- Spans apart from all edits are found again in the HTML, in their order. -/
  verbatim : ∀ ss : List Span, ss.Sublist spans → (∀ s ∈ ss, ∀ e ∈ es, e.Apart s) →
    OccurInOrder (ss.map (Span.slice text)) f.html.toList
  /-- So are the values with an opening bracket. -/
  verbatim_bracketed :
    OccurInOrder ((boundValues b (pieces source.toList)).filter fun v => '<' ∈ v) f.html.toList
  /-- Nothing but the values of the placeholders in the source counts. -/
  once : ∀ b' : Bindings, (∀ p : Placeholder, p.WellFormed → p.text <:+: source.toList →
    b.lookup p.identifier = b'.lookup p.identifier) → compile source b' rules = f

/-- Whatever the source, the bindings and the rules are, no value takes part in a tag that is
rewritten. -/
theorem guards_compile (source : String) (b : Bindings) (rules : RuleTable) :
    Guards source b rules (interpolateSpans source.toList b).1 (interpolateSpans source.toList b).2
      (edits rules (interpolateSpans source.toList b).1 (interpolateSpans source.toList b).2)
      (compile source b rules) where
  html := toList_html_rewriteTags (separated_interpolateSpans _ b)
  tags e he := by
    obtain ⟨o, ho, hrewrites⟩ := of_mem_edits (separated_interpolateSpans _ b) he
    exact ⟨o, ho.occurs, hrewrites⟩
  values := map_slice_interpolateSpans source.toList b
  ends e he s hs := not_contains_of_mem_edits (separated_interpolateSpans _ b) he hs
  placed s hs := apart_or_exists_encloses (separated_interpolateSpans _ b) hs
  bracketed s hs hbracket e he :=
    apart_of_bracket (separated_interpolateSpans _ b) he hs hbracket
  verbatim ss hss hapart := occurInOrder_of_apart (separated_interpolateSpans _ b) hss hapart
  verbatim_bracketed := by
    rw [← map_slice_interpolateSpans, List.filter_map]
    apply occurInOrder_of_apart (separated_interpolateSpans _ b) List.filter_sublist
    intro s hs e he
    obtain ⟨hmem, hbracket⟩ := List.mem_filter.1 hs
    exact apart_of_bracket (separated_interpolateSpans _ b) he hmem (by simpa using hbracket)
  once b' h := compile_congr rules h

end SealedPage.Flo
