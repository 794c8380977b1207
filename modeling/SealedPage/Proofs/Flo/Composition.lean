import SealedPage.Proofs.Flo.Shifting

/-!
# Compiling one source behind another

Two sources, one behind the other, compile to their two fragments, one behind the other, if neither
a placeholder nor a tag reaches over the border and the first leaves no tag open there. The
anomalies of the second are those it has alone, moved by the length of the first interpolated text:
`composes_compile`. Tags that are left as they are may occur in both.
-/

namespace SealedPage.Flo

open Text

/-! ## Splicing -/

/-- Edits of a text are the moved edits of the text behind another one. -/
theorem splice_map_moved (cs ds : List Char) (cursor : Nat) (es : List Edit) :
    splice (cs ++ ds) (cs.length + cursor) (es.map (Edit.moved cs.length)) =
      splice ds cursor es := by
  induction es generalizing cursor with
  | nil => rw [List.map_nil, splice, splice, List.drop_length_add_append]
  | cons e es ih =>
    rw [List.map_cons, splice, splice]
    exact congrArg₂ (· ++ e.replacement.toList ++ ·) (between_append_right cs ds _ _) (ih e.stop)

/-- Edits in each of two texts are made apart. -/
theorem splice_append {cs ds : List Char} {es es' : List Edit}
    (hes : ∀ e ∈ es, e.start ≤ cs.length ∧ e.stop ≤ cs.length) {cursor : Nat}
    (hcursor : cursor ≤ cs.length) :
    splice (cs ++ ds) cursor (es ++ es'.map (Edit.moved cs.length)) =
      splice cs cursor es ++ splice ds 0 es' := by
  induction es generalizing cursor with
  | nil =>
    have hbehind : ∀ e ∈ es'.map (Edit.moved cs.length), cs.length ≤ e.start :=
      List.forall_mem_map.2 fun e _ => Nat.le_add_right _ _
    have hmoved := splice_map_moved cs ds 0 es'
    rw [Nat.add_zero] at hmoved
    rw [List.nil_append, splice_eq_append hcursor hbehind, between_append_left (Nat.le_refl _),
      hmoved, splice, between, List.take_length]
  | cons e es ih =>
    obtain ⟨⟨hstart, hstop⟩, hes⟩ := List.forall_mem_cons.1 hes
    rw [List.cons_append, splice, splice, ih hes hstop, between_append_left hstart]
    simp only [List.append_assoc]

/-! ## Rewriting two texts -/

/-- Two texts with spans that do not meet at the border between them: no tag that neither begins nor
ends in a span reaches over it, and no tag of the first text is left open. -/
structure Joins (rules : RuleTable) (cs : List Char) (spans : List Span) (ds : List Char)
    (spans' : List Span) : Prop where
  front : Separated spans
  behind : Separated spans'
  within : ∀ s ∈ spans, s.stop ≤ cs.length
  tags : ∀ o, Eligible (cs ++ ds) (spans ++ spans'.map (Span.moved cs.length)) o →
    ¬ o.Straddles cs.length
  closed : ∀ a ∈ reports rules cs spans, a.detail ≠ some "opener left unclosed"

namespace Joins

variable {rules : RuleTable} {cs ds : List Char} {spans spans' : List Span}
  (h : Joins rules cs spans ds spans')
include h

/-- The spans of a text and those of the text behind it do not touch. -/
theorem separated : Separated (spans ++ spans'.map (Span.moved cs.length)) :=
  separated_append_moved h.front h.behind h.within

omit h in
/-- Tokens lie within their text. -/
theorem stop_le_of_mem_tokensOf (hspans : Separated spans) {t : Token}
    (ht : t ∈ tokensOf rules cs spans) : t.start < cs.length ∧ t.stop ≤ cs.length := by
  obtain ⟨o, ho, hof⟩ := of_mem_tokensOf hspans ht
  have hstop := ho.occurs.stop_le
  rw [hof.start, hof.stop]
  exact ⟨o.start_lt_stop.trans_le hstop, hstop⟩

/-- The tokens of two texts, one behind the other, are those of the first and the moved ones of the
second, if the first ends outside of tags. -/
theorem tokensOf_append :
    tokensOf rules (cs ++ ds) (spans ++ spans'.map (Span.moved cs.length)) =
      tokensOf rules cs spans ++ (tokensOf rules ds spans').map (Token.moved cs.length) := by
  rw [tokensOf_eq h.separated, tokensOf_eq h.front, tokensOf_eq h.behind,
    eligibleTags_append h.front h.behind h.within h.tags, List.filterMap_append,
    filterMap_token?_moved]

/-- An open token at the border would have been reported. -/
theorem stack_eq_nil : ((tokensOf rules cs spans).foldl (Matching.step cs) {}).stack = [] := by
  rw [List.eq_nil_iff_forall_not_mem]
  intro o ho
  refine h.closed o.unclosed ?_ rfl
  rw [reports, pairTokens_eq, List.mem_append, List.mem_reverse]
  exact Or.inr (List.mem_append_left _ (List.mem_map_of_mem ho))

/-- Pairing the tokens of both texts is pairing those of the first and then those of the second, if
the first leaves nothing open. -/
theorem run_append :
    Matching.run (cs ++ ds)
        (tokensOf rules (cs ++ ds) (spans ++ spans'.map (Span.moved cs.length))) =
      (Matching.run ds (tokensOf rules ds spans')).movedOnto cs.length
        (Matching.run cs (tokensOf rules cs spans)) := by
  rw [h.tokensOf_append]
  exact Matching.run_append (fun t ht => (stop_le_of_mem_tokensOf h.front ht).1.le) h.stack_eq_nil

/-- No pair reaches from one text into the other. -/
theorem pairsOf_append :
    pairsOf rules (cs ++ ds) (spans ++ spans'.map (Span.moved cs.length)) =
      pairsOf rules cs spans ++ (pairsOf rules ds spans').map (Pair.moved cs.length) := by
  rw [pairsOf, pairsOf, pairsOf, pairTokens_eq, pairTokens_eq, pairTokens_eq, h.run_append]
  dsimp only
  rw [Matching.movedOnto, List.reverse_append, List.map_reverse]

/-- What is reported of both texts is reported of one of them. -/
theorem mem_reports_iff {a : Anomaly} :
    a ∈ reports rules (cs ++ ds) (spans ++ spans'.map (Span.moved cs.length)) ↔
      a ∈ reports rules cs spans ++ (reports rules ds spans').map (Anomaly.moved cs.length) := by
  rw [reports, reports, reports, pairTokens_eq, pairTokens_eq, pairTokens_eq, h.run_append,
    scan_eq h.separated, scan_eq h.front, scan_eq h.behind,
    eligibleTags_append h.front h.behind h.within h.tags]
  dsimp only
  rw [List.filterMap_append, filterMap_anomaly?_moved]
  simp only [Matching.movedOnto, List.mem_append, List.mem_reverse, List.map_append,
    List.map_reverse]
  tauto

/-- The anomalies of the first text come first, and then, moved, those of the second. -/
theorem anomalies_append :
    (rewriteTags rules (cs ++ ds) (spans ++ spans'.map (Span.moved cs.length))).anomalies =
      (rewriteTags rules cs spans).anomalies ++
        (rewriteTags rules ds spans').anomalies.map (Anomaly.moved cs.length) := by
  refine eq_of_pairwise_of_mem_iff (increasing_anomalies h.separated)
    (List.pairwise_append.2 ⟨increasing_anomalies h.front, List.pairwise_map.2 ?_, ?_⟩) ?_
    (fun _ _ _ _ => Nat.lt_asymm)
  · exact (increasing_anomalies h.behind).imp fun hlt => Nat.add_lt_add_left hlt _
  · intro a ha a' ha'
    obtain ⟨a', -, rfl⟩ := List.mem_map.1 ha'
    obtain ⟨o, ho, hreports⟩ := reports_of_mem h.front (mem_anomalies_rewriteTags.1 ha)
    rw [hreports.offset]
    exact (o.start_lt_stop.trans_le ho.occurs.stop_le).trans_le (Nat.le_add_right _ _)
  · intro a
    rw [mem_anomalies_rewriteTags, h.mem_reports_iff]
    simp only [List.mem_append, List.mem_map, mem_anomalies_rewriteTags]

/-- Whether a token is rewritten is decided in its own text. -/
theorem rewrittenTokens_append :
    rewrittenTokens rules (cs ++ ds) (spans ++ spans'.map (Span.moved cs.length)) =
      rewrittenTokens rules cs spans ++
        (rewrittenTokens rules ds spans').map (Token.moved cs.length) := by
  have htokens : (pairsOf rules (cs ++ ds) (spans ++ spans'.map (Span.moved cs.length))).flatMap
      Pair.tokens = (pairsOf rules cs spans).flatMap Pair.tokens ++
        ((pairsOf rules ds spans').flatMap Pair.tokens).map (Token.moved cs.length) := by
    rw [h.pairsOf_append, List.flatMap_append, List.flatMap_map, List.map_flatMap]
    rfl
  have hfront : ∀ t ∈ (pairsOf rules cs spans).flatMap Pair.tokens, t.start < cs.length := by
    intro t ht
    exact (stop_le_of_mem_tokensOf h.front (mem_tokensOf_of_mem_tokens ht)).1
  unfold rewrittenTokens
  rw [htokens, h.tokensOf_append, List.filter_append, List.filter_map]
  congr 1
  · refine List.filter_congr fun t ht => decide_eq_decide.2 ?_
    rw [List.mem_append, or_iff_left]
    intro hmem
    obtain ⟨t', -, rfl⟩ := List.mem_map.1 hmem
    have hlt := (stop_le_of_mem_tokensOf h.front ht).1
    exact absurd hlt (Nat.not_lt.2 (Nat.le_add_right _ _))
  · congr 1
    refine List.filter_congr fun t ht => decide_eq_decide.2 ?_
    rw [List.mem_append, or_iff_right, List.mem_map_of_injective Token.moved_injective]
    exact fun hmem => absurd (hfront _ hmem) (Nat.not_lt.2 (Nat.le_add_right _ _))

/-- Each text is edited as it is alone. -/
theorem edits_append :
    edits rules (cs ++ ds) (spans ++ spans'.map (Span.moved cs.length)) =
      edits rules cs spans ++ (edits rules ds spans').map (Edit.moved cs.length) := by
  have hrewrite : ∀ t : Token, (t.moved cs.length).rewrite? =
      t.rewrite?.map (Edit.moved cs.length) := by
    intro t
    rw [Token.rewrite?, Token.rewrite?, Option.map_map]
    rfl
  rw [edits_eq_filterMap_rewrite? h.separated, edits_eq_filterMap_rewrite? h.front,
    edits_eq_filterMap_rewrite? h.behind, h.rewrittenTokens_append, List.filterMap_append,
    List.filterMap_map, List.map_filterMap]
  exact congrArg _ (List.filterMap_congr fun t _ => hrewrite t)

/-- So the HTML of both is that of the first in front of that of the second. -/
theorem html_append :
    (rewriteTags rules (cs ++ ds) (spans ++ spans'.map (Span.moved cs.length))).html =
      (rewriteTags rules cs spans).html ++ (rewriteTags rules ds spans').html := by
  have hbounds : ∀ e ∈ edits rules cs spans, e.start ≤ cs.length ∧ e.stop ≤ cs.length := by
    intro e he
    obtain ⟨o, ho, hrewrites⟩ := of_mem_edits h.front he
    have hstop := ho.occurs.stop_le
    rw [hrewrites.start, hrewrites.stop]
    exact ⟨o.start_lt_stop.le.trans hstop, hstop⟩
  rw [← String.toList_inj, String.toList_append, toList_html_rewriteTags h.separated,
    toList_html_rewriteTags h.front, toList_html_rewriteTags h.behind, h.edits_append,
    splice_append hbounds (Nat.zero_le _)]

end Joins

/-! ## Compiling two sources -/

/-- What is demanded of two sources, so that neither changes how the other one is compiled. -/
structure Joinable (source source' : String) (b : Bindings) (rules : RuleTable) : Prop where
  /-- No placeholder reaches over the border between them. -/
  placeholders : ∀ s : Slot, s.In (source.toList ++ source'.toList) →
    ¬ s.Straddles source.toList.length
  /-- No tag reaches over the border between their interpolated texts. Tags that begin or end in a
  value do not count. -/
  tags : ∀ o : Occurrence,
    Eligible ((interpolateSpans source.toList b).1 ++ (interpolateSpans source'.toList b).1)
      ((interpolateSpans source.toList b).2 ++ (interpolateSpans source'.toList b).2.map
        (Span.moved (interpolateSpans source.toList b).1.length)) o →
    ¬ o.Straddles (interpolateSpans source.toList b).1.length
  /-- The first source leaves no tag open. -/
  closed : ∀ a ∈ (compile source b rules).anomalies, a.detail ≠ some "opener left unclosed"

/-- How two sources, one behind the other, are compiled. -/
structure Composes (source source' : String) (b : Bindings) (rules : RuleTable) : Prop where
  /-- Each source is interpolated as it is alone. -/
  text : (interpolateSpans (source ++ source').toList b).1 =
    (interpolateSpans source.toList b).1 ++ (interpolateSpans source'.toList b).1
  /-- The HTML is that of the two sources, one behind the other. -/
  html : (compile (source ++ source') b rules).html =
    (compile source b rules).html ++ (compile source' b rules).html
  /-- The anomalies are those of the two sources, the second ones moved by the length of the first
  interpolated text. -/
  anomalies : (compile (source ++ source') b rules).anomalies =
    (compile source b rules).anomalies ++ (compile source' b rules).anomalies.map
      (Anomaly.moved (interpolateSpans source.toList b).1.length)

/-- Sources over whose border nothing reaches are compiled apart. -/
theorem composes_compile {source source' : String} {b : Bindings} {rules : RuleTable}
    (h : Joinable source source' b rules) : Composes source source' b rules := by
  have hinterpolated := interpolateSpans_append b h.placeholders
  have hjoins : Joins rules (interpolateSpans source.toList b).1
      (interpolateSpans source.toList b).2 (interpolateSpans source'.toList b).1
      (interpolateSpans source'.toList b).2 :=
    { front := separated_interpolateSpans _ b
      behind := separated_interpolateSpans _ b
      within := fun _ => stop_le_of_mem_interpolateSpans
      tags := h.tags
      closed := fun a ha => h.closed a (mem_anomalies_rewriteTags.2 ha) }
  have hcompile : compile (source ++ source') b rules = rewriteTags rules
      ((interpolateSpans source.toList b).1 ++ (interpolateSpans source'.toList b).1)
      ((interpolateSpans source.toList b).2 ++ (interpolateSpans source'.toList b).2.map
        (Span.moved (interpolateSpans source.toList b).1.length)) := by
    rw [compile, String.toList_append, hinterpolated]
  refine ⟨?_, ?_, ?_⟩
  · rw [String.toList_append, hinterpolated]
  · rw [hcompile]
    exact hjoins.html_append
  · rw [hcompile]
    exact hjoins.anomalies_append

/-- A source with tags that are left as they are: one of no rule, one that is marked as empty, and a
closing tag without an opener. -/
def strayTags : String :=
  "<flo:card title=\"\x7b\x7bt\x7d\x7d\">\x7b\x7bt\x7d\x7d<flo:none><flo:logo/></flo:card>" ++
    "</flo:nav>"

/-- A source with a tag that its rule refuses and one that stays open. -/
def openTags : String :=
  "<flo:nav x></flo:nav><flo:main>\x7b\x7bt\x7d\x7d<flo:logo>L</flo:logo>"

/-- A value that looks like a tag. -/
def tagValue : Bindings :=
  ⟨[("t", "</flo:card>")]⟩

/-- Both have tags that are left as they are, and still they compose. -/
theorem strayTags_compose : Joinable strayTags openTags tagValue RuleTable.standard ∧
    (compile strayTags tagValue).anomalies ≠ [] ∧
    Composes strayTags openTags tagValue RuleTable.standard := by
  have hslots : ∀ s ∈ slots 0 (pieces (strayTags.toList ++ openTags.toList)),
      ¬ (s.start < strayTags.toList.length ∧ strayTags.toList.length < s.stop) := by
    decide +kernel
  have hseparated := separated_append_moved
    (separated_interpolateSpans strayTags.toList tagValue)
    (separated_interpolateSpans openTags.toList tagValue)
    (fun _ => stop_le_of_mem_interpolateSpans)
  have htags : ∀ o ∈ eligibleTags
      ((interpolateSpans strayTags.toList tagValue).1 ++
        (interpolateSpans openTags.toList tagValue).1)
      ((interpolateSpans strayTags.toList tagValue).2 ++
        (interpolateSpans openTags.toList tagValue).2.map
          (Span.moved (interpolateSpans strayTags.toList tagValue).1.length)),
      ¬ (o.start < (interpolateSpans strayTags.toList tagValue).1.length ∧
        (interpolateSpans strayTags.toList tagValue).1.length < o.stop) := by
    decide +kernel
  have hreports : (∀ a ∈ reports RuleTable.standard (interpolateSpans strayTags.toList tagValue).1
      (interpolateSpans strayTags.toList tagValue).2, a.detail ≠ some "opener left unclosed") ∧
      ∃ a ∈ reports RuleTable.standard (interpolateSpans strayTags.toList tagValue).1
        (interpolateSpans strayTags.toList tagValue).2, a.kind = .selfClosingTag := by
    rw [reports, pairTokens_eq]
    decide +kernel
  obtain ⟨a, ha, -⟩ := hreports.2
  have hjoinable : Joinable strayTags openTags tagValue RuleTable.standard :=
    { placeholders := fun s hs => hslots s (mem_slots_iff.2 hs)
      tags := fun o ho => htags o ((mem_eligibleTags_iff hseparated).2 ho)
      closed := fun a ha => hreports.1 a (mem_anomalies_rewriteTags.1 ha) }
  exact ⟨hjoinable, List.ne_nil_of_mem (mem_anomalies_rewriteTags.2 ha),
    composes_compile hjoinable⟩

end SealedPage.Flo
