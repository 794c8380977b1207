import SealedPage.Html.Node
import SealedPage.Proofs.Flo.Nesting

/-!
# The tree of a fragment

A fragment consists of texts that were copied and of tags that were written, its segments. As the
tags are balanced, the segments denote a tree of elements and texts, `exists_denotes`, and only one,
`Denotes.unique`. Nothing is said here of how HTML is read.
-/

namespace SealedPage.Flo

open Html Text

/-! ## Segments -/

/-- A stretch of a fragment: text that was copied, or a tag that was written. -/
inductive Segment where
  | text (s : List Char)
  | tag (b : Bracket)
  deriving DecidableEq, Repr

/-- The characters of a segment. -/
def Segment.write : Segment → List Char
  | text s => s
  | tag b => (b.text?.getD "").toList

/-- The tokens that are rewritten in a text, in order: those of the pairs. -/
def rewrittenTokens (rules : RuleTable) (text : List Char) (spans : List Span) : List Token :=
  (tokensOf rules text spans).filter fun t =>
    t ∈ (pairsOf rules text spans).flatMap Pair.tokens

/-- The segments of a text from `cursor` up to `stop`, in which the tokens are rewritten. -/
def segmentsFrom (text : List Char) (stop cursor : Nat) : List Token → List Segment
  | [] => [.text (between text cursor stop)]
  | t :: ts =>
    .text (between text cursor t.start) :: .tag t.bracket :: segmentsFrom text stop t.stop ts

/-- The segments of the fragment that a source is compiled to. -/
def segments (source : String) (b : Bindings) (rules : RuleTable) : List Segment :=
  let interpolated := interpolateSpans source.toList b
  segmentsFrom interpolated.1 interpolated.1.length 0
    (rewrittenTokens rules interpolated.1 interpolated.2)

/-- A tag divides the segments of a text into those in front of it and those behind it. -/
theorem segmentsFrom_append (text : List Char) (stop cursor : Nat) (ts : List Token) (t : Token)
    (us : List Token) :
    segmentsFrom text stop cursor (ts ++ t :: us) =
      segmentsFrom text t.start cursor ts ++
        .tag t.bracket :: segmentsFrom text stop t.stop us := by
  induction ts generalizing cursor with
  | nil => rfl
  | cons t' ts ih =>
    rw [List.cons_append, segmentsFrom, segmentsFrom, ih]
    rfl

/-- The tags among the segments are those of the tokens. -/
theorem exists_bracket_of_mem_segmentsFrom {text : List Char} {stop cursor : Nat}
    {ts : List Token} {b : Bracket} (h : .tag b ∈ segmentsFrom text stop cursor ts) :
    ∃ t ∈ ts, t.bracket = b := by
  induction ts generalizing cursor with
  | nil => simp [segmentsFrom] at h
  | cons t ts ih =>
    simp only [segmentsFrom, List.mem_cons, reduceCtorEq, Segment.tag.injEq, false_or] at h
    rcases h with rfl | h
    · exact ⟨t, List.mem_cons_self, rfl⟩
    · obtain ⟨u, hu, hb⟩ := ih h
      exact ⟨u, List.mem_cons_of_mem _ hu, hb⟩

/-- A text in which tokens are rewritten is spelled by its segments. -/
theorem flatMap_write_segmentsFrom (text : List Char) (cursor : Nat) {ts : List Token}
    (hts : ∀ t ∈ ts, t.written?.isSome) :
    (segmentsFrom text text.length cursor ts).flatMap Segment.write =
      splice text cursor (ts.filterMap Token.rewrite?) := by
  induction ts generalizing cursor with
  | nil => simp [segmentsFrom, splice, Segment.write, between]
  | cons t ts ih =>
    obtain ⟨ht, hts⟩ := List.forall_mem_cons.1 hts
    obtain ⟨replacement, hwritten⟩ := Option.isSome_iff_exists.1 ht
    have hedit : t.rewrite? = some ⟨t.start, t.stop, replacement⟩ := by
      rw [Token.rewrite?, hwritten]
      rfl
    rw [segmentsFrom, List.flatMap_cons, List.flatMap_cons, ih _ hts,
      List.filterMap_cons_some hedit, splice, Segment.write, Segment.write, Token.text?_bracket,
      hwritten, Option.getD_some, List.append_assoc]

section
variable {rules : RuleTable} {text : List Char} {spans : List Span}

theorem mem_tokensOf_of_mem_rewrittenTokens {t : Token}
    (h : t ∈ rewrittenTokens rules text spans) : t ∈ tokensOf rules text spans :=
  List.mem_of_mem_filter h

/-- A token that is rewritten has a text to be replaced with. -/
theorem isSome_written?_of_mem_rewrittenTokens {t : Token}
    (h : t ∈ rewrittenTokens rules text spans) : t.written?.isSome := by
  obtain ⟨p, hp, ht⟩ := List.mem_flatMap.1 (of_decide_eq_true (List.mem_filter.1 h).2)
  exact (sound_of_mem_pairsOf hp).isSome_written? ht

variable (hspans : Separated spans)
include hspans

/-- The tokens that are rewritten are those whose pairs nest. -/
theorem nests_rewrittenTokens :
    Nests rules text spans (edits rules text spans) (rewrittenTokens rules text spans)
      (pairsOf rules text spans) (rewriteTags rules text spans) := by
  obtain ⟨ts, hnests⟩ := nests_rewriteTags hspans rules text
  have hmem : ∀ t ∈ ts, t ∈ tokensOf rules text spans :=
    fun _ ht => mem_tokensOf_of_mem_tokens (hnests.once.mem_iff.2 ht)
  have hnodup : (tokensOf rules text spans).Nodup := (nodup_map_start_tokensOf hspans).of_map
  have hperm : (rewrittenTokens rules text spans).Perm ts := by
    refine (List.perm_ext_iff_of_nodup (hnodup.filter _) hnests.distinct).2 fun t => ?_
    rw [List.mem_filter, decide_eq_true_iff, hnests.once.mem_iff]
    exact and_iff_right_of_imp (hmem t)
  -- both stand in the order of the text
  have heq : rewrittenTokens rules text spans = ts := by
    refine hperm.eq_of_pairwise (fun t t' ht ht' hle hle' => ?_)
      ((pairwise_tokensOf hspans).filter _) hnests.ordered
    have hlt := start_lt_stop_of_mem_tokensOf hspans (mem_tokensOf_of_mem_rewrittenTokens ht)
    have hlt' := start_lt_stop_of_mem_tokensOf hspans (hmem t' ht')
    omega
  rw [heq]
  exact hnests

/-- The edits are those of the rewritten tokens, one for each. -/
theorem edits_eq_filterMap_rewrite? :
    edits rules text spans = (rewrittenTokens rules text spans).filterMap Token.rewrite? := by
  have hedits : (edits rules text spans).map some =
      (rewrittenTokens rules text spans).map Token.rewrite? := (nests_rewrittenTokens hspans).edits
  calc edits rules text spans = ((edits rules text spans).map some).filterMap id := by
        rw [List.filterMap_map, Function.id_comp, List.filterMap_some]
    _ = (rewrittenTokens rules text spans).filterMap Token.rewrite? := by
        rw [hedits, List.filterMap_map, Function.id_comp]

end

/-! ## The tags that are written -/

/-- An opening tag that a rule writes is its element with attributes. -/
theorem exists_opening_of_openTag? {r : Rule} {attributes : Attributes} {tag : String}
    (h : r.openTag? attributes = some tag) : ∃ before behind, tag = r.opening before behind := by
  unfold Rule.openTag? at h
  split at h
  · split at h
    · exact ⟨_, _, (Option.some.inj h).symm⟩
    · cases h
  split at h
  · obtain ⟨href, -, rfl⟩ := Option.map_eq_some_iff.1 h
    exact ⟨_, _, rfl⟩
  · split at h <;> exact ⟨_, _, (Option.some.inj h).symm⟩

/-- A tag that is written is not empty. -/
theorem write_tag_ne_nil {b : Bracket} (h : b.text?.isSome) : (Segment.tag b).write ≠ [] := by
  obtain ⟨tag, htag⟩ := Option.isSome_iff_exists.1 h
  rw [Segment.write, htag, Option.getD_some]
  cases b with
  | opening rule attributes =>
    obtain ⟨before, behind, rfl⟩ := exists_opening_of_openTag? htag
    simp [Rule.opening]
  | closing rule =>
    obtain rfl := Option.some.inj htag
    simp [Rule.closeTag]

/-- The values of a tag hold neither quotes nor opening brackets. -/
theorem isValueChar_of_mem_pairs {t : Tag} (ht : t.WellFormed) :
    ∀ a ∈ t.pairs, ∀ c ∈ a.2.toList, isValueChar c := by
  intro a ha
  obtain ⟨⟨blanks, w⟩, hw, rfl⟩ := List.mem_map.1 ha
  obtain ⟨-, -, hwellFormed⟩ := ht.attributes _ hw
  rw [WrittenAttribute.pair, String.toList_ofList]
  cases hvalue : w.value with
  | none => exact fun c hc => absurd hc List.not_mem_nil
  | some v => exact (hwellFormed.value v hvalue).text

/-- No value of a well-formed tag holds a quote. -/
theorem quote_not_mem_of_mem_pairs {t : Tag} (ht : t.WellFormed) :
    ∀ a ∈ t.pairs, '"' ∉ a.2.toList :=
  fun a ha hmem => absurd (isValueChar_of_mem_pairs ht a ha _ hmem) (by decide)

/-- Something is written for each tag among the segments. -/
theorem isSome_text?_of_mem_segments {source : String} {b : Bindings} {rules : RuleTable}
    {bracket : Bracket} (h : .tag bracket ∈ segments source b rules) : bracket.text?.isSome := by
  obtain ⟨t, ht, rfl⟩ := exists_bracket_of_mem_segmentsFrom h
  rw [Token.text?_bracket]
  exact isSome_written?_of_mem_rewrittenTokens ht

/-- The attributes of a token are those of its tag, whose values hold no quotes. -/
theorem quote_not_mem_of_mem_tokensOf {rules : RuleTable} {text : List Char} {spans : List Span}
    (hspans : Separated spans) {t : Token} (ht : t ∈ tokensOf rules text spans) :
    ∀ a ∈ t.attributes, '"' ∉ a.2.toList := by
  obtain ⟨o, ho, hof⟩ := of_mem_tokensOf hspans ht
  rw [hof.attributes, findAttributes_attributeSource ho.occurs.1]
  exact quote_not_mem_of_mem_pairs ho.occurs.1

/-! ## Where tags begin -/

/-- The places at which the tags of some segments begin, if the segments stand at the given one. -/
def tagPlaces (position : Nat) : List Segment → List Nat
  | [] => []
  | .text s :: ss => tagPlaces (position + s.length) ss
  | .tag b :: ss => position :: tagPlaces (position + (Segment.tag b).write.length) ss

theorem le_of_mem_tagPlaces {position place : Nat} {ss : List Segment}
    (h : place ∈ tagPlaces position ss) : position ≤ place := by
  induction ss generalizing position with
  | nil => simp [tagPlaces] at h
  | cons g ss ih =>
    cases g with
    | text s => exact (Nat.le_add_right _ _).trans (ih h)
    | tag b =>
      rcases List.mem_cons.1 h with rfl | h
      · exact Nat.le_refl _
      · exact (Nat.le_add_right _ _).trans (ih h)

/-- If opening brackets stand only where tags begin, none stands in a text. -/
theorem not_mem_of_tagPlaces (position : Nat) {ss : List Segment}
    (hne : ∀ b, .tag b ∈ ss → (Segment.tag b).write ≠ [])
    (h : ∀ k, (ss.flatMap Segment.write)[k]? = some '<' → position + k ∈ tagPlaces position ss)
    {s : List Char} (hs : .text s ∈ ss) : '<' ∉ s := by
  induction ss generalizing position with
  | nil => simp at hs
  | cons g ss ih =>
    -- what stands behind the first segment stands that much later in all of them
    have hbehind : ∀ k, (ss.flatMap Segment.write)[k]? = some '<' →
        position + (g.write.length + k) ∈ tagPlaces position (g :: ss) := by
      intro k hk
      apply h
      rw [List.flatMap_cons, List.getElem?_append_right (Nat.le_add_right _ _),
        Nat.add_sub_cancel_left, hk]
    have hne' : ∀ b, .tag b ∈ ss → (Segment.tag b).write ≠ [] :=
      fun b hb => hne b (List.mem_cons_of_mem _ hb)
    cases g with
    | text s' =>
      rcases List.mem_cons.1 hs with heq | hs
      · obtain rfl := Segment.text.inj heq
        intro hmem
        obtain ⟨k, hk⟩ := List.getElem?_of_mem hmem
        have hlt := (List.getElem?_eq_some_iff.1 hk).1
        have hplace := h k (by rw [List.flatMap_cons, Segment.write,
          List.getElem?_append_left hlt, hk])
        have hle : position + s.length ≤ position + k := le_of_mem_tagPlaces hplace
        omega
      · refine ih (position + s'.length) hne' (fun k hk => ?_) hs
        rw [Nat.add_assoc]
        exact hbehind k hk
    | tag b =>
      have hlength := List.length_pos_iff.2 (hne b List.mem_cons_self)
      refine ih (position + (Segment.tag b).write.length) hne' (fun k hk => ?_)
        ((List.mem_cons.1 hs).resolve_left (by simp))
      rcases List.mem_cons.1 (hbehind k hk) with hfirst | hplace
      · omega
      · rwa [Nat.add_assoc]

/-! ## What segments denote -/

theorem mem_of_getNonempty? {attributes : Attributes} {name value : String}
    (h : attributes.getNonempty? name = some value) : (name, value) ∈ attributes := by
  obtain ⟨front, back, rfl, -⟩ := List.lookup_eq_some_iff.1 (Option.filter_eq_some_iff.1 h).1
  exact List.mem_append_right _ List.mem_cons_self

/-- The attributes of the element that a rule writes: an address in front of the class, or a title
behind it. -/
def Rule.shown (r : Rule) (attributes : Attributes) : List (String × String) :=
  if r.takesHref then
    ((attributes.getNonempty? "href").toList.map fun href => ("href", href)) ++
      [("class", r.cssClass)]
  else if r.takesTitle then
    ("class", r.cssClass) ::
      (attributes.getNonempty? "title").toList.map fun title => ("data-title", title)
  else [("class", r.cssClass)]

/-- A text as a node of its own; where there is none, there is no node. -/
def verbatimNodes (s : List Char) : List Node :=
  if s = [] then [] else [.text .plain (String.ofList s)]

/-- The nodes that segments denote: each tag with the one that closes it is an element, with what
stands between the two inside. -/
inductive Denotes : List Segment → List Node → Prop where
  | text (s : List Char) : Denotes [.text s] (verbatimNodes s)
  | element (s : List Char) (rule : Rule) (attributes : Attributes) {inside behind : List Segment}
    {content rest : List Node} (hinside : Denotes inside content) (hbehind : Denotes behind rest) :
    Denotes
      (.text s :: .tag (.opening rule attributes) :: (inside ++ .tag (.closing rule) :: behind))
      (verbatimNodes s ++ .element rule.element (rule.shown attributes) content :: rest)

/-- Segments that go on behind others, and not with an opening tag. -/
def GoesOn (ss : List Segment) : Prop :=
  ∀ rule attributes rest, ss ≠ .tag (.opening rule attributes) :: rest

/-- What denotes something is as long as it can be: it ends in front of a closing tag, or at the
end. -/
theorem Denotes.eq_of_append_eq {ss ss' rest rest' : List Segment} {ns ns' : List Node}
    (h : Denotes ss ns) (h' : Denotes ss' ns') (hrest : GoesOn rest) (hrest' : GoesOn rest')
    (heq : ss ++ rest = ss' ++ rest') : ss = ss' ∧ ns = ns' := by
  have hclosing : ∀ rule us, GoesOn (.tag (.closing rule) :: us) := by
    intro rule us rule' attributes rest hgoes
    simp at hgoes
  induction h generalizing ss' ns' rest rest' with
  | text s =>
    cases h' with
    | text s' =>
      obtain rfl := Segment.text.inj (List.cons.inj heq).1
      exact ⟨rfl, rfl⟩
    | element s' rule attributes =>
      exact absurd (List.cons.inj heq).2 (hrest _ _ _)
  | element s rule attributes _ _ ihinside ihbehind =>
    cases h' with
    | text s' => exact absurd (List.cons.inj heq).2.symm (hrest' _ _ _)
    | element s' rule' attributes' hinside' hbehind' =>
      simp only [List.cons_append, List.append_assoc, List.cons.injEq, Segment.text.injEq,
        Segment.tag.injEq, Bracket.opening.injEq] at heq
      obtain ⟨rfl, ⟨rfl, rfl⟩, heq⟩ := heq
      obtain ⟨rfl, rfl⟩ := ihinside hinside' (hclosing _ _) (hclosing _ _) heq
      have hbehind := (List.cons.inj (List.append_cancel_left heq)).2
      obtain ⟨rfl, rfl⟩ := ihbehind hbehind' hrest hrest' hbehind
      exact ⟨rfl, rfl⟩

/-- Segments denote one list of nodes at most. -/
theorem Denotes.unique {ss : List Segment} {ns ns' : List Node} (h : Denotes ss ns)
    (h' : Denotes ss ns') : ns = ns' := by
  have hnil : GoesOn [] := fun _ _ _ hnil => List.cons_ne_nil _ _ hnil.symm
  exact (h.eq_of_append_eq h' hnil hnil rfl).2

/-- Balanced tags with texts around them denote nodes. -/
theorem exists_denotes_segmentsFrom {bs : List Bracket} (h : Balanced bs) {ts : List Token}
    (hts : ts.map Token.bracket = bs) (text : List Char) (stop cursor : Nat) :
    ∃ ns, Denotes (segmentsFrom text stop cursor ts) ns := by
  induction h generalizing ts stop cursor with
  | nil =>
    obtain rfl := List.map_eq_nil_iff.1 hts
    exact ⟨_, .text _⟩
  | element rule attributes _ _ ihinner ihrest =>
    obtain ⟨t, us, rfl, hopening, hus⟩ := List.map_eq_cons_iff.1 hts
    obtain ⟨inner, vs, rfl, hinner, hvs⟩ := List.map_eq_append_iff.1 hus
    obtain ⟨t', rest, rfl, hclosing, hrest⟩ := List.map_eq_cons_iff.1 hvs
    obtain ⟨content, hcontent⟩ := ihinner hinner t'.start t.stop
    obtain ⟨ns, hns⟩ := ihrest hrest stop t'.stop
    rw [segmentsFrom, segmentsFrom_append, hopening, hclosing]
    exact ⟨_, .element _ rule attributes hcontent hns⟩

/-- The fragment that a source is compiled to is spelled by its segments, and they denote nodes. -/
theorem exists_denotes (source : String) (b : Bindings) (rules : RuleTable) :
    (compile source b rules).html.toList = (segments source b rules).flatMap Segment.write ∧
      ∃ ns, Denotes (segments source b rules) ns := by
  have hspans := separated_interpolateSpans source.toList b
  refine ⟨?_, exists_denotes_segmentsFrom ((nests_rewrittenTokens hspans).balanced) rfl _ _ _⟩
  rw [compile, toList_html_rewriteTags hspans, edits_eq_filterMap_rewrite? hspans, segments,
    flatMap_write_segmentsFrom _ _ fun t ht => isSome_written?_of_mem_rewrittenTokens ht]

end SealedPage.Flo
