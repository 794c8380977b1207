import SealedPage.Proofs.Flo.Slots
import SealedPage.Proofs.Flo.Tree

/-!
# Texts behind other texts

What is found in a text is found in it also behind another text, moved by the length of that text;
and what is found in the text in front is found there as before, whatever stands behind. Both hold
of placeholders and of tags as long as none of them reaches over the border, and of pairing as long
as no tag is open there:

* `interpolateSpans_append`: the text and the spans of two sources, one behind the other;
* `eligibleTags_append`: the tags of two texts;
* `Matching.run_append`: the pairs and the reports of two lists of tokens.
-/

namespace SealedPage.Flo

open Text

/-! ## Moving -/

section
variable (k : Nat)

/-- A span that many characters further on. -/
def Span.moved (s : Span) : Span :=
  ⟨k + s.start, k + s.stop⟩

/-- An anomaly that many characters further on. -/
def Anomaly.moved (a : Anomaly) : Anomaly :=
  { a with offset := k + a.offset }

/-- A tag that many characters further on. -/
def Occurrence.moved (o : Occurrence) : Occurrence :=
  { o with start := k + o.start }

/-- A token that many characters further on. -/
def Token.moved (t : Token) : Token :=
  { t with start := k + t.start, stop := k + t.stop }

/-- An open token that many characters further on. -/
def Opener.moved (o : Opener) : Opener :=
  { o with token := o.token.moved k }

/-- A pair that many characters further on. -/
def Pair.moved (p : Pair) : Pair :=
  ⟨p.opener.moved k, p.closer.moved k⟩

/-- An edit that many characters further on. -/
def Edit.moved (e : Edit) : Edit :=
  { e with start := k + e.start, stop := k + e.stop }

variable {k}

/-- A moved span contains the moved places. -/
theorem Span.contains_moved {s : Span} {position : Nat} :
    (s.moved k).contains position ↔ k ≤ position ∧ s.contains (position - k) := by
  rw [contains_iff, contains_iff]
  simp only [moved]
  omega

theorem Occurrence.stop_moved (o : Occurrence) : (o.moved k).stop = k + o.stop :=
  Nat.add_assoc ..

theorem Token.moved_injective : Function.Injective (Token.moved k) := by
  rintro ⟨start, stop⟩ ⟨start', stop'⟩ h
  simp only [moved, mk.injEq, Nat.add_left_cancel_iff] at h
  simpa using h

end

/-- What stands behind a text changes nothing between two places of it. -/
theorem between_append_left {cs ds : List Char} {i j : Nat} (hj : j ≤ cs.length) :
    between (cs ++ ds) i j = between cs i j := by
  rw [between, between, List.take_append_of_le_length hj]

/-- What stands in front of a text moves its places. -/
theorem between_append_right (cs ds : List Char) (i j : Nat) :
    between (cs ++ ds) (cs.length + i) (cs.length + j) = between ds i j := by
  rw [between, between, List.take_length_add_append, List.drop_length_add_append]

/-! ## Placeholders -/

/-- The placeholder reaches over the given place. -/
def Slot.Straddles (s : Slot) (k : Nat) : Prop :=
  s.start < k ∧ k < s.stop

/-- The tag reaches over the given place. -/
def Occurrence.Straddles (o : Occurrence) (k : Nat) : Prop :=
  o.start < k ∧ k < o.stop

/-- A text is cut into pieces where no placeholder reaches over. -/
theorem pieces_append {cs ds : List Char}
    (h : ∀ s : Slot, s.In (cs ++ ds) → ¬ s.Straddles cs.length) :
    pieces (cs ++ ds) = pieces cs ++ pieces ds := by
  -- what stands behind a placeholder is shorter, but it is no tail: the induction is on the length
  induction hn : cs.length using Nat.strongRecOn generalizing cs with
  | ind n ih =>
    cases cs with
    | nil => rw [List.nil_append, pieces_nil, List.nil_append]
    | cons c cs =>
      cases hread : Placeholder.atHead? (c :: (cs ++ ds)) with
      | none =>
        have hnone : Placeholder.atHead? (c :: cs) = none := by
          rw [Option.eq_none_iff_forall_ne_some] at hread ⊢
          intro p hp
          obtain ⟨hwellFormed, hprefix⟩ := Placeholder.atHead?_eq_some_iff.1 hp
          exact hread p (Placeholder.atHead?_eq_some_iff.2
            ⟨hwellFormed, hprefix.trans (List.prefix_append (c :: cs) ds)⟩)
        rw [List.cons_append, pieces_of_none hread, pieces_of_none hnone, List.cons_append,
          ih cs.length (by simp [← hn]) (fun s hs hstraddles => ?_) rfl]
        have hlater := (Slot.in_cons_iff hread).2 ⟨s.start, rfl, hs⟩
        refine h _ hlater ⟨Nat.succ_lt_succ hstraddles.1, ?_⟩
        have hstop := hstraddles.2
        simp only [Slot.stop, List.length_cons] at hstop ⊢
        omega
      | some p =>
        obtain ⟨hp, hprefix⟩ := Placeholder.atHead?_eq_some_iff.1 hread
        -- the placeholder in front does not reach over the border, so it stands in the first text
        have hlength : p.text.length ≤ (c :: cs).length := by
          by_contra hlt
          refine h ⟨0, p⟩ ⟨hp, hprefix⟩ ⟨Nat.succ_pos _, ?_⟩
          rw [Slot.stop, Nat.zero_add, ← p.length_text]
          exact Nat.lt_of_not_le hlt
        obtain ⟨rest, hrest⟩ := List.prefix_of_prefix_length_le hprefix
          (List.prefix_append (c :: cs) ds) hlength
        have hlt : rest.length < n := by
          have hsum := congrArg List.length hrest
          rw [List.length_append, p.length_text, hn] at hsum
          have := hp.length_ge
          omega
        rw [← hrest, List.append_assoc, pieces_append_of_wellFormed hp,
          pieces_append_of_wellFormed hp, List.cons_append,
          ih rest.length hlt (fun s hs hstraddles => ?_) rfl]
        rw [← hrest, List.append_assoc] at h
        refine h ⟨p.text.length + s.start, s.placeholder⟩ (Slot.in_append_iff.2 hs) ?_
        obtain ⟨hstart, hstop⟩ := hstraddles
        simp only [Slot.Straddles, Slot.stop, List.length_append] at hstart hstop ⊢
        omega

/-- The spans of values behind others begin where those end. -/
theorem valueSpans_append (b : Bindings) (position : Nat) (ps qs : List Piece) :
    valueSpans b position (ps ++ qs) = valueSpans b position ps ++
      valueSpans b (position + (ps.flatMap (Piece.value b)).length) qs := by
  induction ps generalizing position with
  | nil => rfl
  | cons p ps ih =>
    rw [List.cons_append, List.flatMap_cons, List.length_append]
    cases p with
    | char c =>
      rw [valueSpans, ih, valueSpans, Nat.add_assoc]
      rfl
    | placeholder p =>
      simp only [valueSpans]
      split
      · rename_i hempty
        rw [ih, List.isEmpty_iff.1 hempty, List.length_nil, Nat.zero_add]
      · rw [ih, List.cons_append, Nat.add_assoc]

/-- They move with the place that the text begins at. -/
theorem valueSpans_add (b : Bindings) (k position : Nat) (ps : List Piece) :
    valueSpans b (k + position) ps = (valueSpans b position ps).map (Span.moved k) := by
  induction ps generalizing position with
  | nil => rfl
  | cons p ps ih =>
    cases p with
    | char c => exact ih (position + 1)
    | placeholder p =>
      simp only [valueSpans]
      split
      · exact ih position
      · rw [List.map_cons, Span.moved, Nat.add_assoc, ih]

/-- Two sources are interpolated apart where no placeholder reaches over. -/
theorem interpolateSpans_append {cs ds : List Char} (b : Bindings)
    (h : ∀ s : Slot, s.In (cs ++ ds) → ¬ s.Straddles cs.length) :
    interpolateSpans (cs ++ ds) b =
      ((interpolateSpans cs b).1 ++ (interpolateSpans ds b).1,
        (interpolateSpans cs b).2 ++
          (interpolateSpans ds b).2.map (Span.moved (interpolateSpans cs b).1.length)) := by
  simp only [interpolateSpans_eq]
  rw [pieces_append h, List.flatMap_append, valueSpans_append, Nat.zero_add, ← valueSpans_add,
    Nat.add_zero]

/-- The spans of an interpolated text lie within it. -/
theorem stop_le_of_mem_interpolateSpans {source : List Char} {b : Bindings} {s : Span}
    (h : s ∈ (interpolateSpans source b).2) : s.stop ≤ (interpolateSpans source b).1.length := by
  rw [interpolateSpans_eq] at h ⊢
  have hstop := (bounds_of_mem_valueSpans b h).2.2
  rwa [Nat.zero_add] at hstop

/-! ## Tags -/

/-- Lists that are strictly ordered and have the same members are equal. -/
theorem eq_of_pairwise_of_mem_iff {α : Type} {r : α → α → Prop} {as bs : List α}
    (has : as.Pairwise r) (hbs : bs.Pairwise r) (hmem : ∀ a, a ∈ as ↔ a ∈ bs)
    (hasymm : ∀ a ∈ as, ∀ a' ∈ as, r a a' → ¬ r a' a) : as = bs := by
  have hnodup : ∀ cs : List α, cs ⊆ as → cs.Pairwise r → cs.Nodup := by
    intro cs hcs hordered
    refine hordered.imp_of_mem fun ha _ hr heq => ?_
    subst heq
    exact hasymm _ (hcs ha) _ (hcs ha) hr hr
  have hperm := (List.perm_ext_iff_of_nodup (hnodup as (List.Subset.refl as) has)
    (hnodup bs (fun a ha => (hmem a).2 ha) hbs)).2 hmem
  exact hperm.eq_of_pairwise
    (fun a a' ha ha' hr hr' => absurd hr' (hasymm a ha a' ((hmem a').2 ha') hr)) has hbs

section
variable {cs ds : List Char} {spans spans' : List Span}

/-- A tag that ends within the first text is one of this text. -/
theorem Occurrence.in_append_left_iff {o : Occurrence} (hstop : o.stop ≤ cs.length) :
    o.In (cs ++ ds) ↔ o.In cs := by
  have hle : o.tag.source.length ≤ (cs.drop o.start).length := by
    rw [stop, Tag.length] at hstop
    rw [List.length_drop]
    omega
  have hdrop : (cs ++ ds).drop o.start = cs.drop o.start ++ ds :=
    List.drop_append_of_le_length (o.start_lt_stop.le.trans hstop)
  rw [In, In, hdrop]
  refine and_congr_right fun _ => ⟨fun h => ?_, fun h => h.trans (List.prefix_append _ _)⟩
  exact List.prefix_of_prefix_length_le h (List.prefix_append _ _) hle

/-- A tag of the second text is one of both, at its moved place. -/
theorem Occurrence.in_append_right_iff {o : Occurrence} :
    (o.moved cs.length).In (cs ++ ds) ↔ o.In ds := by
  rw [In, In, moved, List.drop_length_add_append]

/-- A place lies outside of all spans if it does so in its own text. -/
theorem forall_not_contains_append {k position : Nat} :
    (∀ s ∈ spans ++ spans'.map (Span.moved k), ¬ s.contains position) ↔
      (∀ s ∈ spans, ¬ s.contains position) ∧
        ∀ s ∈ spans', k ≤ position → ¬ s.contains (position - k) := by
  simp only [List.forall_mem_append, List.forall_mem_map, Span.contains_moved, not_and]

/-- Spans of the second text do not touch those of the first. -/
theorem separated_append_moved (hspans : Separated spans) (hspans' : Separated spans') {k : Nat}
    (hwithin : ∀ s ∈ spans, s.stop ≤ k) : Separated (spans ++ spans'.map (Span.moved k)) := by
  constructor
  · refine List.forall_mem_append.2 ⟨hspans.nonempty, List.forall_mem_map.2 fun s hs => ?_⟩
    exact Nat.add_lt_add_left (hspans'.nonempty s hs) k
  · refine List.pairwise_append.2 ⟨hspans.ordered, List.pairwise_map.2 ?_, fun s hs s' hs' => ?_⟩
    · exact hspans'.ordered.imp fun hle => Nat.add_le_add_left hle k
    · obtain ⟨s', -, rfl⟩ := List.mem_map.1 hs'
      exact (hwithin s hs).trans (Nat.le_add_right _ _)

/-- A tag that ends at the border at the latest does not meet the spans behind it. -/
theorem eligible_append_left_iff {o : Occurrence} (hstop : o.stop ≤ cs.length) :
    Eligible (cs ++ ds) (spans ++ spans'.map (Span.moved cs.length)) o ↔ Eligible cs spans o := by
  have hlt := o.start_lt_stop
  constructor
  · rintro ⟨hin, hfirst, hlast⟩
    exact ⟨(Occurrence.in_append_left_iff hstop).1 hin, (forall_not_contains_append.1 hfirst).1,
      (forall_not_contains_append.1 hlast).1⟩
  · rintro ⟨hin, hfirst, hlast⟩
    exact ⟨(Occurrence.in_append_left_iff hstop).2 hin,
      forall_not_contains_append.2 ⟨hfirst, fun s _ hle => absurd hle (by omega)⟩,
      forall_not_contains_append.2 ⟨hlast, fun s _ hle => absurd hle (by omega)⟩⟩

/-- A tag that begins at the border or behind it does not meet the spans in front. -/
theorem eligible_append_right_iff (hwithin : ∀ s ∈ spans, s.stop ≤ cs.length) {o : Occurrence} :
    Eligible (cs ++ ds) (spans ++ spans'.map (Span.moved cs.length)) (o.moved cs.length) ↔
      Eligible ds spans' o := by
  have hapart : ∀ i, ∀ s ∈ spans, ¬ s.contains (cs.length + i) := by
    intro i s hs hcontains
    have := hwithin s hs
    have := Span.contains_iff.1 hcontains
    omega
  have hplaces : ∀ i, (∀ s ∈ spans ++ spans'.map (Span.moved cs.length),
      ¬ s.contains (cs.length + i)) ↔ ∀ s ∈ spans', ¬ s.contains i := by
    intro i
    rw [forall_not_contains_append, and_iff_right (hapart i), Nat.add_sub_cancel_left]
    exact forall₂_congr fun s _ => imp_iff_right (Nat.le_add_right _ _)
  have hlast : (o.moved cs.length).stop - 1 = cs.length + (o.stop - 1) := by
    have := o.start_lt_stop
    rw [o.stop_moved]
    omega
  constructor
  · rintro ⟨hin, hfirst, hin'⟩
    rw [hlast] at hin'
    exact ⟨Occurrence.in_append_right_iff.1 hin, (hplaces _).1 hfirst, (hplaces _).1 hin'⟩
  · rintro ⟨hin, hfirst, hin'⟩
    refine ⟨Occurrence.in_append_right_iff.2 hin, (hplaces _).2 hfirst, ?_⟩
    rw [hlast]
    exact (hplaces _).2 hin'

theorem pairwise_map_moved {os : List Occurrence}
    (h : os.Pairwise fun o o' => o.stop ≤ o'.start) (k : Nat) :
    (os.map (Occurrence.moved k)).Pairwise fun o o' => o.stop ≤ o'.start := by
  refine List.pairwise_map.2 (h.imp fun {o o'} hle => ?_)
  rw [o.stop_moved]
  exact Nat.add_le_add_left hle k

/-- The tags of two texts, one behind the other, are those of the first and, moved, those of the
second, if none reaches over the border. -/
theorem eligibleTags_append (hspans : Separated spans) (hspans' : Separated spans')
    (hwithin : ∀ s ∈ spans, s.stop ≤ cs.length)
    (h : ∀ o, Eligible (cs ++ ds) (spans ++ spans'.map (Span.moved cs.length)) o →
      ¬ o.Straddles cs.length) :
    eligibleTags (cs ++ ds) (spans ++ spans'.map (Span.moved cs.length)) =
      eligibleTags cs spans ++ (eligibleTags ds spans').map (Occurrence.moved cs.length) := by
  have hboth := separated_append_moved hspans hspans' hwithin
  have hle : ∀ o ∈ eligibleTags cs spans, o.stop ≤ cs.length :=
    fun o ho => ((mem_eligibleTags_iff hspans).1 ho).occurs.stop_le
  refine eq_of_pairwise_of_mem_iff (pairwise_eligibleTags _ _)
    (List.pairwise_append.2 ⟨pairwise_eligibleTags _ _,
      pairwise_map_moved (pairwise_eligibleTags _ _) _, ?_⟩) (fun o => ?_) ?_
  · intro o ho o' ho'
    obtain ⟨o', -, rfl⟩ := List.mem_map.1 ho'
    exact (hle o ho).trans (Nat.le_add_right _ _)
  · rw [mem_eligibleTags_iff hboth, List.mem_append, List.mem_map]
    constructor
    · intro ho
      rcases Nat.lt_or_ge o.start cs.length with hfront | hbehind
      · have hstop : o.stop ≤ cs.length := Nat.not_lt.1 fun hlt => h o ho ⟨hfront, hlt⟩
        exact Or.inl ((mem_eligibleTags_iff hspans).2 ((eligible_append_left_iff hstop).1 ho))
      · obtain ⟨o', rfl⟩ : ∃ o' : Occurrence, o'.moved cs.length = o :=
          ⟨⟨o.start - cs.length, o.tag⟩, by simp [Occurrence.moved, Nat.add_sub_cancel' hbehind]⟩
        exact Or.inr ⟨o', (mem_eligibleTags_iff hspans').2
          ((eligible_append_right_iff hwithin).1 ho), rfl⟩
    · rintro (ho | ⟨o', ho', rfl⟩)
      · exact (eligible_append_left_iff (hle o ho)).2 ((mem_eligibleTags_iff hspans).1 ho)
      · exact (eligible_append_right_iff hwithin).2 ((mem_eligibleTags_iff hspans').1 ho')
  · intro o _ o' _ hlt hlt'
    have := o.start_lt_stop
    have := o'.start_lt_stop
    omega

end

/-! ## Tokens -/

section
variable (rules : RuleTable) (k : Nat)

/-- A tag is read in the same way at any place. -/
theorem token?_moved (o : Occurrence) :
    (o.moved k).token? rules = (o.token? rules).map (Token.moved k) := by
  unfold Occurrence.token? Tag.toToken
  dsimp only [Occurrence.moved]
  cases rules.get? (String.ofList o.tag.name) with
  | none => rfl
  | some rule =>
    by_cases hself : o.tag.selfClosing
    · simp [hself]
    · by_cases hbare : o.tag.closing && !o.tag.attributes.isEmpty
      · simp [hself, hbare]
      · simp [hself, hbare, Token.moved, Nat.add_assoc]

/-- It is refused in the same way at any place. -/
theorem anomaly?_moved (o : Occurrence) :
    (o.moved k).anomaly? rules = (o.anomaly? rules).map (Anomaly.moved k) := by
  unfold Occurrence.anomaly? Tag.toToken
  dsimp only [Occurrence.moved]
  cases rules.get? (String.ofList o.tag.name) with
  | none => rfl
  | some rule =>
    by_cases hself : o.tag.selfClosing
    · simp [hself, Anomaly.moved]
    · by_cases hbare : o.tag.closing && !o.tag.attributes.isEmpty
      · simp [hself, hbare, Anomaly.moved]
      · simp [hself, hbare]

/-- So the tokens of moved tags are the moved tokens. -/
theorem filterMap_token?_moved (os : List Occurrence) :
    (os.map (Occurrence.moved k)).filterMap (fun o => o.token? rules) =
      (os.filterMap fun o => o.token? rules).map (Token.moved k) := by
  rw [List.filterMap_map, List.map_filterMap]
  exact List.filterMap_congr fun o _ => token?_moved rules k o

/-- So the anomalies of moved tags are the moved anomalies. -/
theorem filterMap_anomaly?_moved (os : List Occurrence) :
    (os.map (Occurrence.moved k)).filterMap (fun o => o.anomaly? rules) =
      (os.filterMap fun o => o.anomaly? rules).map (Anomaly.moved k) := by
  rw [List.filterMap_map, List.map_filterMap]
  exact List.filterMap_congr fun o _ => anomaly?_moved rules k o

end

/-! ## Pairing -/

namespace Matching

/-- A token of the text in front is taken as if there were no text behind. -/
theorem step_append_left {cs ds : List Char} {t : Token} (ht : t.start ≤ cs.length) (m : Matching) :
    m.step (cs ++ ds) t = m.step cs t := by
  have hjoin : ∀ (m : Matching) (o : Opener), join (cs ++ ds) m o t = join cs m o t := by
    intro m o
    rw [join, join, between_append_left ht]
  simp only [step, close, hjoin]

/-- Pairing the tokens of the first text does not depend on the second one. -/
theorem foldl_step_append_left {cs ds : List Char} {ts : List Token}
    (hts : ∀ t ∈ ts, t.start ≤ cs.length) (m : Matching) :
    ts.foldl (step (cs ++ ds)) m = ts.foldl (step cs) m := by
  induction ts generalizing m with
  | nil => rfl
  | cons t ts ih =>
    obtain ⟨ht, hts⟩ := List.forall_mem_cons.1 hts
    rw [List.foldl_cons, List.foldl_cons, step_append_left ht, ih hts]

/-- A state that many characters further on, behind the pairs and anomalies of another one. -/
def movedOnto (m : Matching) (k : Nat) (before : Matching) : Matching where
  stack := m.stack.map (Opener.moved k)
  pairs := m.pairs.map (Pair.moved k) ++ before.pairs
  anomalies := m.anomalies.map (Anomaly.moved k) ++ before.anomalies

variable {cs ds : List Char} {before : Matching}

/-- Entering a moved opener moves along with the rest. -/
theorem enter_movedOnto (m : Matching) (k : Nat) (t : Token) :
    (m.movedOnto k before).enter (t.moved k) = (m.enter t).movedOnto k before := by
  unfold enter
  cases hopen : t.rule.openTag? t.attributes with
  | none => simp [Token.moved, hopen, movedOnto, Anomaly.moved, Token.refused]
  | some rendered => simp [Token.moved, hopen, movedOnto, Opener.moved]

/-- So does making a pair. -/
theorem join_movedOnto (m : Matching) (o : Opener) (t : Token) :
    join (cs ++ ds) (m.movedOnto cs.length before) (o.moved cs.length) (t.moved cs.length) =
      (join ds m o t).movedOnto cs.length before := by
  unfold join
  have hbetween : between (cs ++ ds) (o.moved cs.length).token.stop (t.moved cs.length).start =
      between ds o.token.stop t.start :=
    between_append_right cs ds _ _
  have hinline : (t.moved cs.length).rule.inline = t.rule.inline := rfl
  rw [hbetween, hinline]
  split
  · simp [movedOnto, Anomaly.moved, Token.unbalanced, Token.moved, Opener.moved]
  · simp [movedOnto, Pair.moved]

/-- Searching a moved stack finds what is searched for at the same depth. -/
theorem close_movedOnto (m : Matching) (t : Token) :
    (m.movedOnto cs.length before).close (cs ++ ds) (t.moved cs.length) =
      (m.close ds t).movedOnto cs.length before := by
  have hdiffers : Opener.differs (t.moved cs.length).name ∘ Opener.moved cs.length =
      Opener.differs t.name := rfl
  have hstack : (m.movedOnto cs.length before).stack = m.stack.map (Opener.moved cs.length) := rfl
  have hunclosed : Opener.unclosed ∘ Opener.moved cs.length =
      Anomaly.moved cs.length ∘ Opener.unclosed := rfl
  unfold close
  rw [hstack, List.dropWhile_map, List.takeWhile_map, hdiffers]
  cases hsearch : m.stack.dropWhile (Opener.differs t.name) with
  | nil => simp [movedOnto, Anomaly.moved, Token.unbalanced, Token.moved]
  | cons opener below =>
    rw [List.map_cons]
    dsimp only
    rw [← join_movedOnto]
    simp [movedOnto, hunclosed]

/-- So does taking a token. -/
theorem step_movedOnto (m : Matching) (t : Token) :
    (m.movedOnto cs.length before).step (cs ++ ds) (t.moved cs.length) =
      (m.step ds t).movedOnto cs.length before := by
  unfold step
  have hclosing : (t.moved cs.length).closing = t.closing := rfl
  rw [hclosing]
  split
  · exact close_movedOnto m t
  · exact enter_movedOnto m cs.length t

/-- So does taking all tokens of the second text. -/
theorem foldl_step_movedOnto (ts : List Token) (m : Matching) :
    (ts.map (Token.moved cs.length)).foldl (step (cs ++ ds)) (m.movedOnto cs.length before) =
      (ts.foldl (step ds) m).movedOnto cs.length before := by
  induction ts generalizing m with
  | nil => rfl
  | cons t ts ih => rw [List.map_cons, List.foldl_cons, List.foldl_cons, step_movedOnto, ih]

/-- A state without open tokens is one that has not begun, behind its pairs and anomalies. -/
theorem movedOnto_empty {m : Matching} (h : m.stack = []) (k : Nat) :
    ({} : Matching).movedOnto k m = m := by
  obtain ⟨stack, pairs, anomalies⟩ := m
  obtain rfl : stack = [] := h
  rfl

/-- Where nothing is open at the border, the tokens of two texts are paired apart. -/
theorem run_append {ts us : List Token} (hts : ∀ t ∈ ts, t.start ≤ cs.length)
    (hopen : (ts.foldl (step cs) {}).stack = []) :
    run (cs ++ ds) (ts ++ us.map (Token.moved cs.length)) =
      (run ds us).movedOnto cs.length (run cs ts) := by
  have hunclosed : Opener.unclosed ∘ Opener.moved cs.length =
      Anomaly.moved cs.length ∘ Opener.unclosed := rfl
  have hcut := movedOnto_empty hopen cs.length
  have hfront : (run cs ts).pairs = (ts.foldl (step cs) {}).pairs ∧
      (run cs ts).anomalies = (ts.foldl (step cs) {}).anomalies := by
    rw [run, finish, hopen]
    exact ⟨rfl, rfl⟩
  rw [run, List.foldl_append, foldl_step_append_left hts, ← hcut, foldl_step_movedOnto, run]
  simp only [finish, movedOnto, hfront.1, hfront.2, List.map_nil, List.map_append, List.map_map,
    hunclosed, List.append_assoc]

end Matching

end SealedPage.Flo
