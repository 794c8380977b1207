import Mathlib.Data.List.Nodup
import SealedPage.Flo.Fragment
import SealedPage.Proofs.Flo.PairingInvariants
import SealedPage.Proofs.Flo.Scanning

/-!
# What rewriting writes

Rewriting copies the text and writes something else in place of some tags:

* `toList_html_rewriteTags`: the HTML is the text with the edits made;
* `of_mem_edits`: each edit puts a tag of its rule in the place of a tag that neither begins nor
  ends in a span;
* `mem_map_start_edits_iff`: the tags that are edited are those that belong to a pair.
-/

namespace SealedPage.Flo

open Text

/-! ## Edits -/

/-- What is written in place of the stretch from `start` up to but not including `stop`. -/
structure Edit where
  start : Nat
  stop : Nat
  replacement : String
  deriving DecidableEq, Repr

/-- A text from `cursor` on with some edits made; what lies between the edits is copied. -/
def splice (text : List Char) (cursor : Nat) : List Edit → List Char
  | [] => text.drop cursor
  | e :: es => between text cursor e.start ++ e.replacement.toList ++ splice text e.stop es

/-- The edit that the replacements ask for at a token. -/
def Token.edit? (replacements : Replacements) (t : Token) : Option Edit :=
  replacements[t.start]?.map fun replacement => ⟨t.start, t.stop, replacement⟩

/-- The tokens of a text with the given spans. -/
def tokensOf (rules : RuleTable) (text : List Char) (spans : List Span) : List Token :=
  (scan (SpanIndex.ofList spans) rules text).1

/-- The pairs of the tokens of a text. -/
def pairsOf (rules : RuleTable) (text : List Char) (spans : List Span) : List Pair :=
  (pairTokens text (tokensOf rules text spans)).1

/-- The edits that rewriting makes in a text, in order. -/
def edits (rules : RuleTable) (text : List Char) (spans : List Span) : List Edit :=
  (tokensOf rules text spans).filterMap
    (Token.edit? (Replacements.ofPairs (pairsOf rules text spans)))

/-- Substituting makes the edits of the tokens, which stand in order. -/
theorem substitute_eq (replacements : Replacements) (text : List Char) (tokens : List Token) :
    ∀ (done : List Char) (cursor : Nat), (∀ t ∈ tokens, cursor ≤ t.stop) →
      tokens.Pairwise (fun t t' => t.stop ≤ t'.stop) →
      substitute replacements done cursor (text.drop cursor) tokens =
        done.reverse ++ splice text cursor (tokens.filterMap (Token.edit? replacements)) := by
  induction tokens with
  | nil =>
    intro done cursor _ _
    rfl
  | cons t tokens ih =>
    intro done cursor hcursor hordered
    rw [List.forall_mem_cons] at hcursor
    rw [List.pairwise_cons] at hordered
    unfold substitute
    cases hread : replacements[t.start]? with
    | none =>
      have hedit : t.edit? replacements = none := by rw [Token.edit?, hread]; rfl
      rw [List.filterMap_cons_none hedit]
      exact ih done cursor hcursor.2 hordered.2
    | some rendered =>
      have hedit : t.edit? replacements = some ⟨t.start, t.stop, rendered⟩ := by
        rw [Token.edit?, hread]
        rfl
      -- what is left of the text is what stands behind the cursor, also after the edit
      have hrest : (text.drop cursor).drop (t.stop - cursor) = text.drop t.stop := by
        rw [List.drop_drop, Nat.add_sub_cancel' hcursor.1]
      have hbefore : (text.drop cursor).take (t.start - cursor) = between text cursor t.start := by
        rw [between, List.drop_take]
      dsimp only
      rw [List.filterMap_cons_some hedit, hrest, ih _ _ hordered.1 hordered.2, hbefore, splice]
      simp

/-! ## The replacements of pairs -/

/-- What a pair has written, and where. -/
def Pair.entries (p : Pair) : List (Nat × String) :=
  [(p.opener.token.start, p.opener.rendered), (p.closer.start, p.closer.rule.closeTag)]

namespace Replacements

variable {k : Nat} {v : String}

/-- Adds what one pair has written. -/
def insertPair (m : Replacements) (p : Pair) : Replacements :=
  (m.insert p.opener.token.start p.opener.rendered).insert p.closer.start p.closer.rule.closeTag

/-- A pair replaces its two tokens and nothing else. -/
theorem getElem?_insertPair (m : Replacements) (p : Pair) :
    (m.insertPair p)[k]? = if p.closer.start = k then some p.closer.rule.closeTag
      else if p.opener.token.start = k then some p.opener.rendered else m[k]? := by
  simp only [insertPair, Std.HashMap.getElem?_insert, beq_iff_eq]

/-- Every replacement comes from the pair or was there before. -/
theorem of_getElem?_insertPair {m : Replacements} {p : Pair}
    (h : (m.insertPair p)[k]? = some v) : (k, v) ∈ p.entries ∨ m[k]? = some v := by
  rw [getElem?_insertPair] at h
  split at h
  · rename_i hcloser
    obtain rfl := Option.some.inj h
    exact Or.inl (by simp [Pair.entries, hcloser])
  split at h
  · rename_i hopener
    obtain rfl := Option.some.inj h
    exact Or.inl (by simp [Pair.entries, hopener])
  · exact Or.inr h

/-- No replacement is lost. -/
theorem isSome_getElem?_insertPair {m : Replacements} {p : Pair}
    (h : k ∈ p.starts ∨ m[k]?.isSome) : (m.insertPair p)[k]?.isSome := by
  rw [getElem?_insertPair]
  split
  · rfl
  split
  · rfl
  · rename_i hcloser hopener
    apply h.resolve_left
    simp only [Pair.starts, List.mem_cons, List.not_mem_nil, or_false]
    rintro (rfl | rfl)
    · exact hopener rfl
    · exact hcloser rfl

/-- Every replacement comes from one of the pairs. -/
theorem of_getElem?_foldl {pairs : List Pair} {m : Replacements}
    (h : (pairs.foldl insertPair m)[k]? = some v) :
    (k, v) ∈ pairs.flatMap Pair.entries ∨ m[k]? = some v := by
  induction pairs generalizing m with
  | nil => exact Or.inr h
  | cons p pairs ih =>
    rw [List.flatMap_cons, List.mem_append]
    rcases ih h with hlater | hget
    · exact Or.inl (Or.inr hlater)
    · exact (of_getElem?_insertPair hget).imp Or.inl id

/-- Every token of a pair has a replacement. -/
theorem isSome_getElem?_foldl {pairs : List Pair} {m : Replacements}
    (h : k ∈ pairs.flatMap Pair.starts ∨ m[k]?.isSome) :
    (pairs.foldl insertPair m)[k]?.isSome := by
  induction pairs generalizing m with
  | nil => exact h.resolve_left List.not_mem_nil
  | cons p pairs ih =>
    rw [List.flatMap_cons, List.mem_append] at h
    apply ih
    rcases h with (hfirst | hlater) | hget
    · exact Or.inr (isSome_getElem?_insertPair (Or.inl hfirst))
    · exact Or.inl hlater
    · exact Or.inr (isSome_getElem?_insertPair (Or.inr hget))

/-- The last entry for a place is its replacement. -/
theorem getElem?_foldl (pairs : List Pair) (m : Replacements) :
    (pairs.foldl insertPair m)[k]? = ((pairs.flatMap Pair.entries).reverse.lookup k).or m[k]? := by
  induction pairs generalizing m with
  | nil => rfl
  | cons p pairs ih =>
    have hentries : (p.entries.reverse.lookup k).or m[k]? = (m.insertPair p)[k]? := by
      rw [getElem?_insertPair, Pair.entries]
      by_cases hcloser : p.closer.start = k
      · simp [hcloser]
      have hne : (k == p.closer.start) = false := beq_eq_false_iff_ne.2 (Ne.symm hcloser)
      by_cases hopener : p.opener.token.start = k
      · simp [List.lookup_cons, hne, hcloser, hopener]
      · have hne' : (k == p.opener.token.start) = false := beq_eq_false_iff_ne.2 (Ne.symm hopener)
        simp [List.lookup_cons, hne, hne', hcloser, hopener]
    rw [List.foldl_cons, ih, List.flatMap_cons, List.reverse_append, List.lookup_append,
      Option.or_assoc, hentries]

/-- Of several pairs that write at one place the last one counts. -/
theorem getElem?_ofPairs (pairs : List Pair) :
    (ofPairs pairs)[k]? = (pairs.flatMap Pair.entries).reverse.lookup k := by
  have h := getElem?_foldl (k := k) pairs (∅ : Replacements)
  rwa [Std.HashMap.getElem?_empty, Option.or_none] at h

/-- What is written at a place comes from a pair. -/
theorem mem_entries_of_getElem? {pairs : List Pair} (h : (ofPairs pairs)[k]? = some v) :
    (k, v) ∈ pairs.flatMap Pair.entries := by
  rcases of_getElem?_foldl h with hmem | hget
  · exact hmem
  · simp at hget

/-- At the places of a pair something is written. -/
theorem isSome_getElem? {pairs : List Pair} (h : k ∈ pairs.flatMap Pair.starts) :
    (ofPairs pairs)[k]?.isSome :=
  isSome_getElem?_foldl (Or.inl h)

end Replacements

/-- The edits are the replaced tokens, in the order of the text. -/
theorem edits_eq (rules : RuleTable) (text : List Char) (spans : List Span) :
    edits rules text spans = (tokensOf rules text spans).filterMap fun t =>
      (((pairsOf rules text spans).flatMap Pair.entries).reverse.lookup t.start).map
        (⟨t.start, t.stop, ·⟩) := by
  apply List.filterMap_congr
  intro t _
  rw [Token.edit?, Replacements.getElem?_ofPairs]

/-! ## Tokens and their tags -/

/-- What is written for a tag: the opening or the closing tag of its rule. -/
def Tag.written? (rules : RuleTable) (t : Tag) : Option String :=
  (rules.get? (String.ofList t.name)).bind fun rule =>
    if t.closing then some rule.closeTag else rule.openTag? t.pairs

/-- An edit that writes the tag of its rule in place of the given tag. -/
structure Edit.Rewrites (rules : RuleTable) (e : Edit) (o : Occurrence) : Prop where
  start : e.start = o.start
  stop : e.stop = o.stop
  written : o.tag.written? rules = some e.replacement

/-- The token of a tag. -/
structure Token.Of (rules : RuleTable) (t : Token) (o : Occurrence) : Prop where
  start : t.start = o.start
  stop : t.stop = o.stop
  name : t.name = String.ofList o.tag.name
  closing : t.closing = o.tag.closing
  rule : rules.get? (String.ofList o.tag.name) = some t.rule
  attributes : t.attributes = findAttributes o.tag.attributeSource
  selfClosing : o.tag.selfClosing = false
  bare : o.tag.closing → o.tag.attributes = []

/-- A token is that of the tag it was read from. -/
theorem Occurrence.of_token? {rules : RuleTable} {o : Occurrence} {t : Token}
    (h : o.token? rules = some t) : t.Of rules o := by
  unfold Occurrence.token? Tag.toToken at h
  dsimp only at h
  cases hrule : rules.get? (String.ofList o.tag.name) with
  | none => simp [hrule] at h
  | some rule =>
    by_cases hself : o.tag.selfClosing
    · simp [hrule, hself] at h
    · by_cases hbare : o.tag.closing && !o.tag.attributes.isEmpty
      · simp [hrule, hself, hbare] at h
      · simp only [hrule, hself, hbare] at h
        obtain rfl := Option.some.inj h
        exact ⟨rfl, rfl, rfl, rfl, hrule, rfl, by simpa using hself, by simpa using hbare⟩

/-- A token is written as its tag is. -/
theorem Token.Of.written? {rules : RuleTable} {t : Token} {o : Occurrence} (h : t.Of rules o)
    (ho : o.tag.WellFormed) : t.written? = o.tag.written? rules := by
  rw [Token.written?, Tag.written?, h.rule, h.closing, h.attributes,
    findAttributes_attributeSource ho]
  rfl

/-- Every pair joins an opener to a closer of its name that stands behind it. -/
theorem sound_of_mem_pairsOf {rules : RuleTable} {text : List Char} {spans : List Span} {p : Pair}
    (h : p ∈ pairsOf rules text spans) : p.Sound text (tokensOf rules text spans) := by
  rw [pairsOf, pairTokens_eq, List.mem_reverse] at h
  exact (Matching.sound_run _ _).pairs p h

/-- The tags that are edited are those of the pairs. -/
theorem mem_map_start_edits_iff {rules : RuleTable} {text : List Char} {spans : List Span}
    {k : Nat} :
    k ∈ (edits rules text spans).map Edit.start ↔
      k ∈ (pairsOf rules text spans).flatMap Pair.starts := by
  constructor
  · intro h
    obtain ⟨e, he, rfl⟩ := List.mem_map.1 h
    rw [edits, List.mem_filterMap] at he
    obtain ⟨t, -, hedit⟩ := he
    rw [Token.edit?, Option.map_eq_some_iff] at hedit
    obtain ⟨replacement, hread, rfl⟩ := hedit
    obtain ⟨p, hp, hentry⟩ := List.mem_flatMap.1 (Replacements.mem_entries_of_getElem? hread)
    refine List.mem_flatMap.2 ⟨p, hp, ?_⟩
    simp only [Pair.entries, List.mem_cons, Prod.mk.injEq, List.not_mem_nil, or_false] at hentry
    simp only [Pair.starts, List.mem_cons, List.not_mem_nil, or_false]
    exact hentry.imp And.left And.left
  · intro h
    -- a pair is made of tokens of the text, so one of them begins there
    obtain ⟨t, ht, rfl⟩ : ∃ t ∈ tokensOf rules text spans, t.start = k := by
      obtain ⟨p, hp, hk⟩ := List.mem_flatMap.1 h
      have hsound := sound_of_mem_pairsOf hp
      simp only [Pair.starts, List.mem_cons, List.not_mem_nil, or_false] at hk
      rcases hk with rfl | rfl
      · exact ⟨_, hsound.opener.mem, rfl⟩
      · exact ⟨_, hsound.closer, rfl⟩
    obtain ⟨replacement, hread⟩ := Option.isSome_iff_exists.1 (Replacements.isSome_getElem? h)
    refine List.mem_map.2 ⟨⟨t.start, t.stop, replacement⟩, List.mem_filterMap.2 ⟨t, ht, ?_⟩, rfl⟩
    rw [Token.edit?, hread]
    rfl

section
variable {rules : RuleTable} {text : List Char} {spans : List Span} (hspans : Separated spans)
include hspans

/-- The tokens are those of the tags outside of the spans that can be read. -/
theorem tokensOf_eq :
    tokensOf rules text spans = (eligibleTags text spans).filterMap fun o => o.token? rules := by
  rw [tokensOf, scan_eq hspans]

/-- A token is that of a tag that neither begins nor ends in a span. -/
theorem of_mem_tokensOf {t : Token} (h : t ∈ tokensOf rules text spans) :
    ∃ o, Eligible text spans o ∧ t.Of rules o := by
  rw [tokensOf_eq hspans, List.mem_filterMap] at h
  obtain ⟨o, ho, ht⟩ := h
  exact ⟨o, (mem_eligibleTags_iff hspans).1 ho, Occurrence.of_token? ht⟩

/-- No token reaches into the next one. -/
theorem pairwise_tokensOf :
    (tokensOf rules text spans).Pairwise fun t t' => t.stop ≤ t'.start := by
  rw [tokensOf_eq hspans, List.pairwise_filterMap]
  refine (pairwise_eligibleTags text spans).imp fun {o o'} hle t ht t' ht' => ?_
  rw [(Occurrence.of_token? ht).stop, (Occurrence.of_token? ht').start]
  exact hle

theorem start_lt_stop_of_mem_tokensOf {t : Token} (h : t ∈ tokensOf rules text spans) :
    t.start < t.stop := by
  obtain ⟨o, -, ht⟩ := of_mem_tokensOf hspans h
  rw [ht.start, ht.stop]
  exact o.start_lt_stop

/-- No two tokens begin at one place. -/
theorem nodup_map_start_tokensOf : ((tokensOf rules text spans).map Token.start).Nodup := by
  rw [List.nodup_iff_pairwise_ne, List.pairwise_map]
  refine (pairwise_tokensOf hspans).imp_of_mem fun {t t'} ht _ hle => ?_
  have := start_lt_stop_of_mem_tokensOf hspans ht
  omega

/-- No two tokens begin at one place. -/
theorem eq_of_mem_tokensOf {t t' : Token} (h : t ∈ tokensOf rules text spans)
    (h' : t' ∈ tokensOf rules text spans) (hstart : t.start = t'.start) : t = t' :=
  List.inj_on_of_nodup_map (nodup_map_start_tokensOf hspans) h h' hstart

/-! ## The edits of a text -/

/-- The HTML is the text with the edits made. -/
theorem toList_html_rewriteTags :
    (rewriteTags rules text spans).html.toList = splice text 0 (edits rules text spans) := by
  -- an edit may end where the next one begins, but never behind the end of the next
  have hordered : (tokensOf rules text spans).Pairwise fun t t' => t.stop ≤ t'.stop := by
    refine (pairwise_tokensOf hspans).imp_of_mem fun {t t'} _ ht' hle => ?_
    have := start_lt_stop_of_mem_tokensOf hspans ht'
    omega
  have h := substitute_eq (Replacements.ofPairs (pairsOf rules text spans)) text
    (tokensOf rules text spans) [] 0 (fun t _ => Nat.zero_le _) hordered
  rw [List.drop_zero] at h
  exact String.toList_ofList.trans h

/-- The edits stand in order and do not overlap. -/
theorem pairwise_edits :
    (edits rules text spans).Pairwise fun e e' => e.stop ≤ e'.start := by
  rw [edits, List.pairwise_filterMap]
  refine (pairwise_tokensOf hspans).imp fun {t t'} hle e he e' he' => ?_
  rw [Token.edit?, Option.map_eq_some_iff] at he he'
  obtain ⟨_, -, rfl⟩ := he
  obtain ⟨_, -, rfl⟩ := he'
  exact hle

/-- What is written at the place of a token of a pair is the tag of its rule. -/
theorem written?_of_mem_entries {t : Token} (ht : t ∈ tokensOf rules text spans)
    {replacement : String}
    (h : (t.start, replacement) ∈ (pairsOf rules text spans).flatMap Pair.entries) :
    t.written? = some replacement := by
  obtain ⟨p, hp, hentry⟩ := List.mem_flatMap.1 h
  have hsound := sound_of_mem_pairsOf hp
  simp only [Pair.entries, List.mem_cons, Prod.mk.injEq, List.not_mem_nil, or_false] at hentry
  rcases hentry with ⟨hstart, rfl⟩ | ⟨hstart, rfl⟩
  · obtain rfl := eq_of_mem_tokensOf hspans ht hsound.opener.mem hstart
    rw [Token.written?, hsound.opener.closing, if_neg (by simp)]
    exact hsound.opener.rendered
  · obtain rfl := eq_of_mem_tokensOf hspans ht hsound.closer hstart
    rw [Token.written?, if_pos hsound.closing]

/-- Each edit writes the tag of its rule in place of a tag that neither begins nor ends in a
span. -/
theorem of_mem_edits {e : Edit} (h : e ∈ edits rules text spans) :
    ∃ o, Eligible text spans o ∧ e.Rewrites rules o := by
  rw [edits, List.mem_filterMap] at h
  obtain ⟨t, ht, he⟩ := h
  rw [Token.edit?, Option.map_eq_some_iff] at he
  obtain ⟨replacement, hread, rfl⟩ := he
  obtain ⟨o, ho, hof⟩ := of_mem_tokensOf hspans ht
  have hentry := Replacements.mem_entries_of_getElem? hread
  refine ⟨o, ho, hof.start, hof.stop, ?_⟩
  rw [← hof.written? ho.occurs.1]
  exact written?_of_mem_entries hspans ht hentry

end

end SealedPage.Flo
