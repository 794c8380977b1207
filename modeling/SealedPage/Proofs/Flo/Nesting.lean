import SealedPage.Proofs.Flo.Accounting
import SealedPage.Proofs.Flo.Bracketing

/-!
# Rewritten tags nest

The tokens that are rewritten in a text are those of its pairs. As pairs are brackets, the tags that
are written into the HTML are a balanced word, in which each opening tag is closed by the closing
tag of its rule. All that is known of the pairs is put together in `nests_compile`.
-/

namespace SealedPage.Flo

open Text

/-! ## Balanced words -/

/-- A tag that is written for a token. -/
inductive Bracket where
  | opening (rule : Rule) (attributes : Attributes)
  | closing (rule : Rule)
  deriving DecidableEq, Repr

/-- The text of the tag, unless its rule refuses the attributes. -/
def Bracket.text? : Bracket → Option String
  | opening rule attributes => rule.openTag? attributes
  | closing rule => some rule.closeTag

/-- Tags in which each opening one is closed by that of the same rule. -/
inductive Balanced : List Bracket → Prop where
  | nil : Balanced []
  | element (rule : Rule) (attributes : Attributes) {inner rest : List Bracket}
    (hinner : Balanced inner) (hrest : Balanced rest) :
    Balanced (.opening rule attributes :: (inner ++ .closing rule :: rest))

namespace Token

/-- The tag that is written for a token. -/
def bracket (t : Token) : Bracket :=
  if t.closing then .closing t.rule else .opening t.rule t.attributes

/-- What a token is written as is the text of its bracket. -/
theorem text?_bracket (t : Token) : t.bracket.text? = t.written? := by
  unfold bracket written?
  split <;> rfl

/-- The edit that rewrites a token. -/
def rewrite? (t : Token) : Option Edit :=
  t.written?.map fun replacement => ⟨t.start, t.stop, replacement⟩

end Token

/-- If the tokens of each pair have one rule, the tags that are written for them are balanced. -/
theorem Bracketed.balanced {ts : List Token} {ps : List Pair} (h : Bracketed ts ps)
    (hopening : ∀ p ∈ ps, p.opener.token.closing = false) (hclosing : ∀ p ∈ ps, p.closer.closing)
    (hrule : ∀ p ∈ ps, p.opener.token.rule = p.closer.rule) :
    Balanced (ts.map Token.bracket) := by
  induction h with
  | nil => exact .nil
  | @pair p inner rest ps qs _ _ ihinner ihrest =>
    simp only [List.forall_mem_cons, List.forall_mem_append] at hopening hclosing hrule
    rw [List.map_cons, List.map_append, List.map_cons, Token.bracket, hopening.1, Token.bracket,
      hclosing.1, ← hrule.1]
    exact .element _ _ (ihinner hopening.2.1 hclosing.2.1 hrule.2.1)
      (ihrest hopening.2.2 hclosing.2.2 hrule.2.2)

/-! ## The tokens that are rewritten -/

/-- What is left out of a list does not matter if nothing is made of it. -/
theorem filterMap_eq_of_sublist {α β : Type} {f : α → Option β} {as bs : List α}
    (h : as.Sublist bs) (hnodup : bs.Nodup) (hnone : ∀ b ∈ bs, b ∉ as → f b = none) :
    bs.filterMap f = as.filterMap f := by
  induction h with
  | slnil => rfl
  | @cons as bs b h ih =>
    obtain ⟨hb, hnodup⟩ := List.nodup_cons.1 hnodup
    rw [List.filterMap_cons_none (hnone b List.mem_cons_self fun hmem => hb (h.subset hmem))]
    exact ih hnodup fun b' hb' => hnone b' (List.mem_cons_of_mem _ hb')
  | @cons_cons as bs a h ih =>
    obtain ⟨ha, hnodup⟩ := List.nodup_cons.1 hnodup
    rw [List.filterMap_cons, List.filterMap_cons, ih hnodup fun b hb hmem => ?_]
    refine hnone b (List.mem_cons_of_mem _ hb) fun hcons => ?_
    rcases List.mem_cons.1 hcons with rfl | hrest
    · exact ha hb
    · exact hmem hrest

theorem map_some_filterMap {α β : Type} {f : α → Option β} {as : List α}
    (h : ∀ a ∈ as, (f a).isSome) : (as.filterMap f).map some = as.map f := by
  induction as with
  | nil => rfl
  | cons a as ih =>
    rw [List.forall_mem_cons] at h
    obtain ⟨b, hb⟩ := Option.isSome_iff_exists.1 h.1
    rw [List.filterMap_cons_some hb, List.map_cons, List.map_cons, ih h.2, hb]

/-- The tokens of the pairs are tokens of the text. -/
theorem mem_tokensOf_of_mem_tokens {rules : RuleTable} {text : List Char} {spans : List Span}
    {t : Token} (h : t ∈ (pairsOf rules text spans).flatMap Pair.tokens) :
    t ∈ tokensOf rules text spans := by
  obtain ⟨p, hp, ht⟩ := List.mem_flatMap.1 h
  have hsound := sound_of_mem_pairsOf hp
  simp only [Pair.tokens, List.mem_cons, List.not_mem_nil, or_false] at ht
  rcases ht with rfl | rfl
  · exact hsound.opener.mem
  · exact hsound.closer

section
variable {rules : RuleTable} {text : List Char} {spans : List Span} (hspans : Separated spans)
include hspans

/-- A token is rewritten if and only if it belongs to a pair. -/
theorem edit?_of_mem_tokensOf {t : Token} (ht : t ∈ tokensOf rules text spans) :
    t.edit? (Replacements.ofPairs (pairsOf rules text spans)) =
      if t ∈ (pairsOf rules text spans).flatMap Pair.tokens then t.rewrite? else none := by
  have hstarts : t.start ∈ (pairsOf rules text spans).flatMap Pair.starts ↔
      t ∈ (pairsOf rules text spans).flatMap Pair.tokens := by
    simp only [List.mem_flatMap, Pair.starts, Pair.tokens, List.mem_cons, List.not_mem_nil,
      or_false]
    -- no two tokens begin at one place, so that a token is known by its beginning
    refine exists_congr fun p => and_congr_right fun hp => ?_
    have hsound := sound_of_mem_pairsOf hp
    constructor
    · exact Or.imp (eq_of_mem_tokensOf hspans ht hsound.opener.mem)
        (eq_of_mem_tokensOf hspans ht hsound.closer)
    · exact Or.imp (congrArg Token.start) (congrArg Token.start)
  rw [Token.edit?]
  cases hread : (Replacements.ofPairs (pairsOf rules text spans))[t.start]? with
  | none =>
    have hnot : t ∉ (pairsOf rules text spans).flatMap Pair.tokens := by
      intro hmem
      have := Replacements.isSome_getElem? (hstarts.2 hmem)
      rw [hread] at this
      simp at this
    exact (if_neg hnot).symm
  | some replacement =>
    have hentry := Replacements.mem_entries_of_getElem? hread
    have hedit : t.edit? (Replacements.ofPairs (pairsOf rules text spans)) =
        some ⟨t.start, t.stop, replacement⟩ := by rw [Token.edit?, hread]; rfl
    have hstart : t.start ∈ (edits rules text spans).map Edit.start :=
      List.mem_map.2 ⟨_, List.mem_filterMap.2 ⟨t, ht, hedit⟩, rfl⟩
    rw [if_pos (hstarts.1 (mem_map_start_edits_iff.1 hstart)), Token.rewrite?,
      written?_of_mem_entries hspans ht hentry]

/-- The tokens of a pair are written by one rule. -/
theorem rule_eq_of_mem_pairsOf {p : Pair} (hp : p ∈ pairsOf rules text spans) :
    p.opener.token.rule = p.closer.rule := by
  have hsound := sound_of_mem_pairsOf hp
  obtain ⟨o, -, ho⟩ := of_mem_tokensOf hspans hsound.opener.mem
  obtain ⟨o', -, ho'⟩ := of_mem_tokensOf hspans hsound.closer
  have hrule := ho.rule
  rw [← ho.name, hsound.name, ho'.name, ho'.rule] at hrule
  exact (Option.some.inj hrule).symm

end

/-! ## The pairs of a fragment -/

/-- How the tokens that are rewritten in an interpolated text come in pairs, given the edits. -/
structure Nests (rules : RuleTable) (text : List Char) (spans : List Span) (es : List Edit)
    (ts : List Token) (ps : List Pair) (f : Fragment) : Prop where
  /-- The HTML is the text with the edits made. -/
  html : f.html.toList = splice text 0 es
  /-- Each edit rewrites a token. -/
  edits : es.map some = ts.map Token.rewrite?
  /-- Each token is that of a tag which neither begins nor ends in a bound value. -/
  tags : ∀ t ∈ ts, ∃ o, Eligible text spans o ∧ t.Of rules o
  /-- The tokens stand in order and do not overlap. -/
  ordered : ts.Pairwise fun t t' => t.stop ≤ t'.start
  /-- No token occurs twice. -/
  distinct : ts.Nodup
  /-- Each token belongs to one pair. -/
  once : (ps.flatMap Pair.tokens).Perm ts
  /-- A pair consists of an opening and a closing token of one name. If they are inline, no line
  feed stands between them. -/
  sound : ∀ p ∈ ps, p.Sound text ts
  /-- The closing token of a pair is the later one. -/
  later : ∀ p ∈ ps, p.opener.token.stop ≤ p.closer.start
  /-- One rule writes both tokens of a pair. -/
  rule : ∀ p ∈ ps, p.opener.token.rule = p.closer.rule
  /-- Of two pairs one stands before the other or within it. -/
  nested : ps.Pairwise Pair.Nests
  /-- The tags that are written are those of the tokens. -/
  written : es.map (fun e => some e.replacement) = (ts.map Token.bracket).map Bracket.text?
  /-- They are a balanced word. -/
  balanced : Balanced (ts.map Token.bracket)
  /-- An opening token that its rule takes and a closing token that fits stand in a pair if they are
  neighbours. -/
  neighbours : ∀ front back t t' rendered, tokensOf rules text spans = front ++ t :: t' :: back →
    t.closing = false → t.rule.openTag? t.attributes = some rendered → t'.closing →
    t.name = t'.name → (t'.rule.inline → '\n' ∉ between text t.stop t'.start) →
    ⟨⟨t, rendered⟩, t'⟩ ∈ ps

theorem Pair.Nests.symm {p q : Pair} (h : p.Nests q) : q.Nests p := by
  rcases h with h | h | h | h
  · exact Or.inr (Or.inl h)
  · exact Or.inl h
  · exact Or.inr (Or.inr (Or.inr h))
  · exact Or.inr (Or.inr (Or.inl h))

namespace Pair.Sound

variable {text : List Char} {tokens tokens' : List Token} {p : Pair}

/-- It matters only that the two tokens are in the list. -/
theorem mono (h : p.Sound text tokens) (hopener : p.opener.token ∈ tokens')
    (hcloser : p.closer ∈ tokens') : p.Sound text tokens' :=
  ⟨⟨hopener, h.opener.closing, h.opener.rendered⟩, hcloser, h.closing, h.name, h.line⟩

/-- Something is written for each token of a pair. -/
theorem isSome_written? (h : p.Sound text tokens) {t : Token} (ht : t ∈ p.tokens) :
    t.written?.isSome := by
  simp only [Pair.tokens, List.mem_cons, List.not_mem_nil, or_false] at ht
  rcases ht with rfl | rfl
  · rw [Token.written?, h.opener.closing, if_neg (by simp), h.opener.rendered]
    rfl
  · rw [Token.written?, if_pos h.closing]
    rfl

end Pair.Sound

/-- The tags that are written in an HTML text nest, and so do the pairs that they come from. -/
theorem nests_rewriteTags {spans : List Span} (hspans : Separated spans) (rules : RuleTable)
    (text : List Char) :
    ∃ ts, Nests rules text spans (edits rules text spans) ts (pairsOf rules text spans)
      (rewriteTags rules text spans) := by
  obtain ⟨ts, ps, hbracketed, hperm, hsub⟩ :=
    Matching.bracketed_run text (tokensOf rules text spans)
  have hps : ps.Perm (pairsOf rules text spans) := by
    rw [pairsOf, pairTokens_eq]
    exact hperm.trans (List.reverse_perm _).symm
  have hmem : ∀ {p}, p ∈ ps → p ∈ pairsOf rules text spans := fun hp => hps.subset hp
  have honce : ((pairsOf rules text spans).flatMap Pair.tokens).Perm ts :=
    (hps.flatMap_right Pair.tokens).symm.trans hbracketed.perm_tokens
  have hordered : ts.Pairwise fun t t' => t.stop ≤ t'.start :=
    (pairwise_tokensOf hspans).sublist hsub
  have hnodup : (tokensOf rules text spans).Nodup := (nodup_map_start_tokensOf hspans).of_map
  -- the tokens that have no place in a pair are not edited
  have hkept : edits rules text spans = ts.filterMap Token.rewrite? := by
    rw [edits, filterMap_eq_of_sublist hsub hnodup fun t ht hnot => ?_]
    · refine List.filterMap_congr fun t ht => ?_
      rw [edit?_of_mem_tokensOf hspans (hsub.subset ht), if_pos (honce.mem_iff.2 ht)]
    · rw [edit?_of_mem_tokensOf hspans ht, if_neg fun hmem => hnot (honce.subset hmem)]
  have hrewritten : ∀ t ∈ ts, t.rewrite?.isSome := by
    intro t ht
    obtain ⟨p, hp, htp⟩ := List.mem_flatMap.1 (honce.mem_iff.2 ht)
    rw [Token.rewrite?, Option.isSome_map]
    exact (sound_of_mem_pairsOf hp).isSome_written? htp
  have hedits : (edits rules text spans).map some = ts.map Token.rewrite? := by
    rw [hkept, map_some_filterMap hrewritten]
  refine ⟨ts, ?_⟩
  constructor
  case html => exact toList_html_rewriteTags hspans
  case edits => exact hedits
  case tags => exact fun t ht => of_mem_tokensOf hspans (hsub.subset ht)
  case ordered => exact hordered
  case distinct => exact hnodup.sublist hsub
  case once => exact honce
  case sound =>
    intro p hp
    exact (sound_of_mem_pairsOf hp).mono (hbracketed.opener_mem (hps.mem_iff.2 hp))
      (hbracketed.closer_mem (hps.mem_iff.2 hp))
  case later => exact fun p hp => hbracketed.stop_le_start hordered (hps.mem_iff.2 hp)
  case rule => exact fun p hp => rule_eq_of_mem_pairsOf hspans hp
  case nested =>
    exact (hps.pairwise_iff Pair.Nests.symm).1 (hbracketed.pairwise_nests hordered)
  case written =>
    have hread : ∀ t : Token, t.rewrite?.map Edit.replacement = t.bracket.text? := by
      intro t
      rw [Token.rewrite?, Option.map_map, Token.text?_bracket]
      exact Option.map_id'
    have := congrArg (List.map (Option.map Edit.replacement)) hedits
    simpa only [List.map_map, Function.comp_def, hread, Option.map_some] using this
  case balanced =>
    exact hbracketed.balanced (fun p hp => (sound_of_mem_pairsOf (hmem hp)).opener.closing)
      (fun p hp => (sound_of_mem_pairsOf (hmem hp)).closing)
      (fun p hp => rule_eq_of_mem_pairsOf hspans (hmem hp))
  case neighbours =>
    intro front back t t' rendered htokens hopening hrendered hclosing hname hline
    rw [pairsOf, pairTokens_eq, List.mem_reverse, htokens]
    exact Matching.mem_pairs_run hopening hrendered hclosing hname hline

/-- Whatever the source, the bindings and the rules are, the tokens that are rewritten come in pairs
that nest, and what is written for them is balanced. -/
theorem nests_compile (source : String) (b : Bindings) (rules : RuleTable) :
    ∃ ts, Nests rules (interpolateSpans source.toList b).1 (interpolateSpans source.toList b).2
      (edits rules (interpolateSpans source.toList b).1 (interpolateSpans source.toList b).2) ts
      (pairsOf rules (interpolateSpans source.toList b).1 (interpolateSpans source.toList b).2)
      (compile source b rules) :=
  nests_rewriteTags (separated_interpolateSpans _ b) rules _

end SealedPage.Flo
