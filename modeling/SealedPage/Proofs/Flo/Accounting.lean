import Mathlib.Data.List.Perm.Subperm
import SealedPage.Proofs.Flo.Interpolation
import SealedPage.Proofs.Flo.Rewriting

/-!
# Every tag is accounted for

A tag that neither begins nor ends in a bound value is rewritten, or it is left as it is and
reported once. Everything around the rewritten tags is copied. Both at once is `accounts_compile`.
-/

namespace SealedPage.Flo

/-! ## Causes -/

/-- Why a tag that is not rewritten is reported: the first cause that there is. -/
def Tag.cause (rules : RuleTable) (t : Tag) : AnomalyKind :=
  match rules.get? (String.ofList t.name) with
  | none => .unknownTag
  | some rule =>
    if t.selfClosing then .selfClosingTag
    else if t.closing then
      if t.attributes.isEmpty then .unbalancedTag else .invalidAttributes
    else if (rule.openTag? t.pairs).isSome then .unbalancedTag
    else .invalidAttributes

/-- An anomaly that tells of the given tag. -/
structure Anomaly.Reports (rules : RuleTable) (a : Anomaly) (o : Occurrence) : Prop where
  offset : a.offset = o.start
  tag : a.tag = String.ofList o.tag.name
  kind : a.kind = o.tag.cause rules

/-- The anomaly of a tag that cannot be read reports this tag. -/
theorem Occurrence.reports_of_anomaly? {rules : RuleTable} {o : Occurrence} {a : Anomaly}
    (h : o.anomaly? rules = some a) : a.Reports rules o := by
  unfold Occurrence.anomaly? Tag.toToken at h
  dsimp only at h
  cases hrule : rules.get? (String.ofList o.tag.name) with
  | none =>
    simp only [hrule, Option.some.injEq] at h
    subst h
    exact ⟨rfl, rfl, by simp [Tag.cause, hrule]⟩
  | some rule =>
    by_cases hself : o.tag.selfClosing
    · simp only [hrule, hself, if_true, Option.some.injEq] at h
      subst h
      exact ⟨rfl, rfl, by simp [Tag.cause, hrule, hself]⟩
    · by_cases hbare : o.tag.closing && !o.tag.attributes.isEmpty
      · simp only [hrule, hself, hbare, if_true] at h
        obtain rfl := Option.some.inj h
        rw [Bool.and_eq_true, Bool.not_eq_true'] at hbare
        exact ⟨rfl, rfl, by simp [Tag.cause, hrule, hself, hbare]⟩
      · simp [hrule, hself, hbare] at h

/-- What pairing reports of a token is told of its tag. -/
theorem Anomaly.Of.reports {rules : RuleTable} {a : Anomaly} {t : Token} {o : Occurrence}
    (h : a.Of t) (ht : t.Of rules o) (ho : o.tag.WellFormed) : a.Reports rules o := by
  refine ⟨h.offset.trans ht.start, h.tag.trans ht.name, h.kind.trans ?_⟩
  have hrule : t.rule.openTag? t.attributes = t.rule.openTag? o.tag.pairs := by
    rw [ht.attributes, findAttributes_attributeSource ho]
  simp only [Token.cause, Tag.cause, ht.rule, ht.selfClosing, hrule, ht.closing]
  by_cases hclosing : o.tag.closing
  · simp [hclosing, ht.bare hclosing]
  · simp [hclosing]

/-! ## The reports of a text -/

/-- What scanning and pairing report of a text, in the order in which they find it. -/
def reports (rules : RuleTable) (text : List Char) (spans : List Span) : List Anomaly :=
  (scan (SpanIndex.ofList spans) rules text).2 ++
    (pairTokens text (tokensOf rules text spans)).2

/-- The anomalies of a text are its reports in the order of their offsets. -/
theorem anomalies_rewriteTags (rules : RuleTable) (text : List Char) (spans : List Span) :
    (rewriteTags rules text spans).anomalies =
      (reports rules text spans).mergeSort fun a b => a.offset ≤ b.offset :=
  rfl

/-- Each tag is a token or is reported by the scanner. -/
theorem perm_filterMap_token? (rules : RuleTable) (os : List Occurrence) :
    ((os.filterMap fun o => o.token? rules).map Token.start ++
      (os.filterMap fun o => o.anomaly? rules).map Anomaly.offset).Perm
        (os.map Occurrence.start) := by
  induction os with
  | nil => exact List.Perm.refl _
  | cons o os ih =>
    cases hread : o.tag.toToken rules o.start with
    | ok t =>
      have ht : o.token? rules = some t := by simp [Occurrence.token?, hread]
      have ha : o.anomaly? rules = none := by simp [Occurrence.anomaly?, hread]
      rw [List.filterMap_cons_some ht, List.filterMap_cons_none ha, List.map_cons, List.map_cons,
        (Occurrence.of_token? ht).start]
      exact ih.cons _
    | error a =>
      have ht : o.token? rules = none := by simp [Occurrence.token?, hread]
      have ha : o.anomaly? rules = some a := by simp [Occurrence.anomaly?, hread]
      rw [List.filterMap_cons_none ht, List.filterMap_cons_some ha, List.map_cons, List.map_cons,
        (Occurrence.reports_of_anomaly? ha).offset]
      exact List.perm_middle.trans (ih.cons _)

section
variable {rules : RuleTable} {text : List Char} {spans : List Span} (hspans : Separated spans)
include hspans

variable (rules text) in
/-- The places of the pairs and of the reports are those of the tags that neither begin nor end in a
span, each of them once. -/
theorem perm_reports :
    ((pairsOf rules text spans).flatMap Pair.starts ++
      (reports rules text spans).map Anomaly.offset).Perm
        ((eligibleTags text spans).map Occurrence.start) := by
  have hscan := perm_filterMap_token? rules (eligibleTags text spans)
  have hpairs := Matching.perm_starts_run text (tokensOf rules text spans)
  rw [← tokensOf_eq hspans] at hscan
  -- the scanner divides the tags into tokens and anomalies, and pairing divides the tokens
  rw [pairsOf, reports, pairTokens_eq, scan_eq hspans, List.perm_iff_count]
  intro k
  have hscan := hscan.count_eq k
  have hpairs := hpairs.count_eq k
  have hrev := ((Matching.run text (tokensOf rules text spans)).pairs.reverse_perm.flatMap_right
    Pair.starts).count_eq k
  simp only [List.count_append, List.map_append, List.map_reverse, List.count_reverse]
    at hscan hpairs hrev ⊢
  omega

/-- What is reported tells of a tag that neither begins nor ends in a span. -/
theorem reports_of_mem {a : Anomaly} (h : a ∈ reports rules text spans) :
    ∃ o, Eligible text spans o ∧ a.Reports rules o := by
  rw [reports, pairTokens_eq, scan_eq hspans, List.mem_append, List.mem_filterMap] at h
  rcases h with ⟨o, ho, ha⟩ | h
  · exact ⟨o, (mem_eligibleTags_iff hspans).1 ho, Occurrence.reports_of_anomaly? ha⟩
  · obtain ⟨t, ht, ha⟩ := (Matching.sound_run _ _).anomalies a (List.mem_reverse.1 h)
    obtain ⟨o, ho, hof⟩ := of_mem_tokensOf hspans ht
    exact ⟨o, ho, ha.reports hof ho.occurs.1⟩

end

/-! ## The account of a fragment -/

/-- How a fragment accounts for the tags of an interpolated text, given the edits made in it. -/
structure Accounts (rules : RuleTable) (text : List Char) (spans : List Span) (es : List Edit)
    (f : Fragment) : Prop where
  /-- The HTML is the text with the edits made. -/
  html : f.html.toList = splice text 0 es
  /-- Without edits it is the text. -/
  unedited : es = [] → f.html.toList = text
  /-- The edits do not overlap. -/
  ordered : es.Pairwise fun e e' => e.stop ≤ e'.start
  /-- Each edit writes the tag of a rule in place of a tag. -/
  edited : ∀ e ∈ es, ∃ o, Eligible text spans o ∧ e.Rewrites rules o
  /-- Each tag is rewritten and not reported, or left as it is and reported once. -/
  once : ∀ o, Eligible text spans o →
    (∃ e ∈ es, e.Rewrites rules o) ∧ (∀ a ∈ f.anomalies, a.offset ≠ o.start) ∨
      (∀ e ∈ es, e.stop ≤ o.start ∨ o.stop ≤ e.start) ∧
        ∃ a, f.anomalies.filter (fun a => a.offset = o.start) = [a] ∧ a.Reports rules o
  /-- The anomalies stand in order, no two at one place. -/
  increasing : f.anomalies.Pairwise fun a a' => a.offset < a'.offset
  /-- Each anomaly tells of a tag. -/
  reported : ∀ a ∈ f.anomalies, ∃ o, Eligible text spans o ∧ a.Reports rules o

/-- Where offsets increase, an offset has one anomaly at most. -/
theorem filter_offset_eq_singleton {as : List Anomaly}
    (h : as.Pairwise fun a a' => a.offset < a'.offset) {a : Anomaly} (ha : a ∈ as) :
    as.filter (fun a' => a'.offset = a.offset) = [a] := by
  obtain ⟨front, back, rfl⟩ := List.append_of_mem ha
  obtain ⟨-, hback, hfront⟩ := List.pairwise_append.1 h
  have hnone : front.filter (fun a' => a'.offset = a.offset) = [] := by
    rw [List.filter_eq_nil_iff]
    intro a' ha'
    have := hfront a' ha' a List.mem_cons_self
    simp only [decide_eq_true_eq]
    omega
  have hnone' : back.filter (fun a' => a'.offset = a.offset) = [] := by
    rw [List.filter_eq_nil_iff]
    intro a' ha'
    have := (List.pairwise_cons.1 hback).1 a' ha'
    simp only [decide_eq_true_eq]
    omega
  rw [List.filter_append, hnone, List.filter_cons_of_pos (by simp), hnone', List.nil_append]

/-- No two anomalies have one offset, and they stand in order. -/
theorem increasing_anomalies {rules : RuleTable} {text : List Char} {spans : List Span}
    (hspans : Separated spans) :
    (rewriteTags rules text spans).anomalies.Pairwise fun a a' => a.offset < a'.offset := by
  rw [anomalies_rewriteTags]
  have hnodup : ((reports rules text spans).map Anomaly.offset).Nodup := by
    have h := (perm_reports rules text hspans).nodup_iff.2
      (nodup_map_start_eligibleTags text spans)
    exact (List.nodup_append.1 h).2.1
  have hperm := (List.mergeSort_perm (reports rules text spans)
    fun a b => decide (a.offset ≤ b.offset)).map Anomaly.offset
  have hne := List.pairwise_map.1 (List.nodup_iff_pairwise_ne.1 (hperm.nodup_iff.2 hnodup))
  have hle : ((reports rules text spans).mergeSort fun a b => a.offset ≤ b.offset).Pairwise
      fun a b => decide (a.offset ≤ b.offset) := by
    refine List.pairwise_mergeSort (fun a b c hab hbc => ?_) (fun a b => ?_) _
    · simp only [decide_eq_true_eq] at hab hbc ⊢
      omega
    · simp only [Bool.or_eq_true, decide_eq_true_eq]
      omega
  -- sorting gives `≤`, and no two anomalies are at one place
  refine (hle.and hne).imp fun {a a'} h => ?_
  have := of_decide_eq_true h.1
  have := h.2
  omega

theorem mem_anomalies_rewriteTags {rules : RuleTable} {text : List Char} {spans : List Span}
    {a : Anomaly} :
    a ∈ (rewriteTags rules text spans).anomalies ↔ a ∈ reports rules text spans := by
  rw [anomalies_rewriteTags, List.mem_mergeSort]

/-- A tag is reported if and only if it is not edited. -/
theorem exists_mem_reports_iff {rules : RuleTable} {text : List Char} {spans : List Span}
    (hspans : Separated spans) {o : Occurrence} (ho : Eligible text spans o) :
    (∃ a ∈ reports rules text spans, a.offset = o.start) ↔
      o.start ∉ (edits rules text spans).map Edit.start := by
  have hperm := perm_reports rules text hspans
  have hnodup := hperm.nodup_iff.2 (nodup_map_start_eligibleTags text spans)
  have hmem := hperm.mem_iff.2
    (List.mem_map.2 ⟨o, (mem_eligibleTags_iff hspans).2 ho, rfl⟩)
  -- the place of the tag is that of a pair or of a report, and not of both
  rw [mem_map_start_edits_iff, ← List.mem_map]
  rw [List.mem_append] at hmem
  constructor
  · exact fun hreport hpair => (List.nodup_append.1 hnodup).2.2 _ hpair _ hreport rfl
  · exact fun hpair => hmem.resolve_left hpair

/-- Every tag outside of the spans is either rewritten or reported once, and nothing else is. -/
theorem accounts_rewriteTags {spans : List Span} (hspans : Separated spans) (rules : RuleTable)
    (text : List Char) :
    Accounts rules text spans (edits rules text spans) (rewriteTags rules text spans) where
  html := toList_html_rewriteTags hspans
  unedited hnil := by
    rw [toList_html_rewriteTags hspans, hnil]
    rfl
  ordered := pairwise_edits hspans
  edited e he := of_mem_edits hspans he
  increasing := increasing_anomalies hspans
  reported a ha := reports_of_mem hspans (mem_anomalies_rewriteTags.1 ha)
  once o ho := by
    by_cases hedit : o.start ∈ (edits rules text spans).map Edit.start
    -- an edit begins where the tag does, so it is an edit of this tag
    · left
      constructor
      · obtain ⟨e, he, hstart⟩ := List.mem_map.1 hedit
        obtain ⟨o', ho', hrewrites⟩ := of_mem_edits hspans he
        obtain rfl := ho'.occurs.eq ho.occurs (hrewrites.start.symm.trans hstart)
        exact ⟨e, he, hrewrites⟩
      · intro a ha hoffset
        exact (exists_mem_reports_iff hspans ho).1
          ⟨a, mem_anomalies_rewriteTags.1 ha, hoffset⟩ hedit
    -- no edit begins there, so the tag is reported, and every edit is one of another tag
    · right
      constructor
      · intro e he
        obtain ⟨o', ho', hrewrites⟩ := of_mem_edits hspans he
        rcases ho'.eq_or_disjoint hspans ho with rfl | hdisjoint
        · exact absurd (List.mem_map.2 ⟨e, he, hrewrites.start⟩) hedit
        · rw [hrewrites.start, hrewrites.stop]
          exact hdisjoint
      · obtain ⟨a, ha, hoffset⟩ := (exists_mem_reports_iff hspans ho).2 hedit
        obtain ⟨o', ho', hreports⟩ := reports_of_mem hspans ha
        obtain rfl := ho'.occurs.eq ho.occurs (hreports.offset.symm.trans hoffset)
        refine ⟨a, ?_, hreports⟩
        rw [← hoffset]
        exact filter_offset_eq_singleton (increasing_anomalies hspans)
          (mem_anomalies_rewriteTags.2 ha)

/-- The edit that rewrites a tag. -/
def Occurrence.edit? (rules : RuleTable) (o : Occurrence) : Option Edit :=
  (o.tag.written? rules).map fun replacement => ⟨o.start, o.stop, replacement⟩

/-- Where nothing is reported, all tags are rewritten. -/
theorem edits_of_reports_eq_nil {rules : RuleTable} {text : List Char} {spans : List Span}
    (hspans : Separated spans) (h : reports rules text spans = []) :
    edits rules text spans = (eligibleTags text spans).filterMap fun o => o.edit? rules := by
  rw [edits, tokensOf_eq hspans, List.filterMap_filterMap]
  refine List.filterMap_congr fun o ho => ?_
  have ho := (mem_eligibleTags_iff hspans).1 ho
  -- some token stands where the tag does, and it is the one of the tag
  have hedit : o.start ∈ (edits rules text spans).map Edit.start := by
    by_contra hnot
    obtain ⟨a, ha, -⟩ := (exists_mem_reports_iff hspans ho).2 hnot
    rw [h] at ha
    simp at ha
  obtain ⟨e, he, hstart⟩ := List.mem_map.1 hedit
  rw [edits, List.mem_filterMap] at he
  obtain ⟨t, ht, hte⟩ := he
  have hread := hte
  rw [Token.edit?, Option.map_eq_some_iff] at hread
  obtain ⟨replacement, hread, rfl⟩ := hread
  rw [tokensOf_eq hspans, List.mem_filterMap] at ht
  obtain ⟨o', ho', hto⟩ := ht
  have hof := Occurrence.of_token? hto
  obtain rfl := ((mem_eligibleTags_iff hspans).1 ho').occurs.eq ho.occurs
    (hof.start.symm.trans hstart)
  have ht : t ∈ tokensOf rules text spans := by
    rw [tokensOf_eq hspans]
    exact List.mem_filterMap.2 ⟨_, ho', hto⟩
  have hwritten : t.written? = some replacement :=
    written?_of_mem_entries hspans ht (Replacements.mem_entries_of_getElem? hread)
  rw [hof.written? ho.occurs.1] at hwritten
  rw [hto, Option.bind_some, hte, Occurrence.edit?, hwritten, hof.start, hof.stop]
  rfl

/-! ## Bounds -/

section
variable {source : String} {b : Bindings} {rules : RuleTable}

/-- An anomaly stands within the interpolated text. -/
theorem offset_lt_of_mem_anomalies {a : Anomaly} (ha : a ∈ (compile source b rules).anomalies) :
    a.offset < (interpolateSpans source.toList b).1.length := by
  obtain ⟨o, ho, hreports⟩ :=
    reports_of_mem (separated_interpolateSpans _ b) (mem_anomalies_rewriteTags.1 ha)
  rw [hreports.offset]
  exact o.start_lt_stop.trans_le ho.occurs.stop_le

/-- No two anomalies stand in one place, so there are at most as many as the text has characters. -/
theorem length_anomalies_le :
    (compile source b rules).anomalies.length ≤ (interpolateSpans source.toList b).1.length := by
  have hincreasing : (compile source b rules).anomalies.Pairwise fun a a' => a.offset < a'.offset :=
    increasing_anomalies (separated_interpolateSpans _ b)
  have hnodup : ((compile source b rules).anomalies.map Anomaly.offset).Nodup :=
    List.nodup_iff_pairwise_ne.2 (List.pairwise_map.2 (hincreasing.imp Nat.ne_of_lt))
  have hrange : (compile source b rules).anomalies.map Anomaly.offset ⊆
      List.range (interpolateSpans source.toList b).1.length := by
    intro k hk
    obtain ⟨a, ha, rfl⟩ := List.mem_map.1 hk
    exact List.mem_range.2 (offset_lt_of_mem_anomalies ha)
  have hlength := (hnodup.subperm hrange).length_le
  rwa [List.length_map, List.length_range] at hlength

end

/-! ## Compilation -/

/-- Whatever the source, the bindings and the rules are, every tag of the interpolated text is
accounted for. -/
theorem accounts_compile (source : String) (b : Bindings) (rules : RuleTable) :
    Accounts rules (interpolateSpans source.toList b).1 (interpolateSpans source.toList b).2
      (edits rules (interpolateSpans source.toList b).1 (interpolateSpans source.toList b).2)
      (compile source b rules) :=
  accounts_rewriteTags (separated_interpolateSpans _ b) rules _

end SealedPage.Flo
