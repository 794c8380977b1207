import SealedPage.Flo.Token
import SealedPage.Proofs.Flo.SpanSearch
import SealedPage.Proofs.Flo.TagGrammar

/-!
# What scanning finds

The scanner of tags jumps: over a tag it has read, and to the end of a span in which a tag begins.
No tag is lost by that. What it finds are all the tags of the text that neither begin nor end in a
span, each of them once and in order:

* `mem_eligibleTags_iff`: which tags these are;
* `scan_eq`: each of them becomes a token or an anomaly.
-/

namespace SealedPage.Flo

/-- A tag with the place where it begins. -/
structure Occurrence where
  start : Nat
  tag : Tag
  deriving DecidableEq, Repr

namespace Occurrence

/-- The place behind the tag. -/
def stop (o : Occurrence) : Nat :=
  o.start + o.tag.length

/-- The tag is well formed and stands in the text at its place. -/
def In (o : Occurrence) (text : List Char) : Prop :=
  o.tag.WellFormed ∧ o.tag.source <+: text.drop o.start

/-- A tag takes one character at least. -/
theorem start_lt_stop (o : Occurrence) : o.start < o.stop := by
  have := o.tag.length_pos
  rw [stop]
  omega

/-- No opening bracket stands within a tag. -/
theorem In.ne_bracket {o : Occurrence} {text : List Char} (h : o.In text) {k : Nat}
    (hstart : o.start < k) (hstop : k < o.stop) : text[k]? ≠ some '<' := by
  obtain ⟨ht, rest, hrest⟩ := h
  rw [stop, Tag.length] at hstop
  have hsource : (o.tag.source ++ rest)[k - o.start]? = o.tag.source[k - o.start]? :=
    List.getElem?_append_left (by omega)
  rw [hrest, List.getElem?_drop, Nat.add_sub_cancel' (by omega)] at hsource
  rw [hsource]
  intro hget
  -- a place within the tag is not its first one
  have hsucc : k - o.start = k - o.start - 1 + 1 := by omega
  rw [hsucc, ← List.getElem?_tail] at hget
  exact Tag.ne_bracket_of_mem_tail_source ht '<' (List.mem_of_getElem? hget) rfl

end Occurrence

/-- A tag of the text whose first and last characters lie in none of the spans. -/
structure Eligible (text : List Char) (spans : List Span) (o : Occurrence) : Prop where
  occurs : o.In text
  first : ∀ s ∈ spans, ¬ s.contains o.start
  last : ∀ s ∈ spans, ¬ s.contains (o.stop - 1)

/-- The tags of a text that begins at `position` that neither begin nor end at a place that is
`inside`, in order. -/
def eligibleFrom (inside : Nat → Bool) (position : Nat) : List Char → List Occurrence
  | [] => []
  | c :: cs =>
    match Tag.atHead? (c :: cs) with
    | none => eligibleFrom inside (position + 1) cs
    | some t =>
      if inside position || inside (position + t.length - 1) then
        eligibleFrom inside (position + 1) cs
      else ⟨position, t⟩ :: eligibleFrom inside (position + 1) cs

/-! ## Which tags are found -/

/-- The walk over a text finds the tags at all of its places, but for those that begin or end
inside. -/
theorem mem_eligibleFrom_iff {inside : Nat → Bool} {position : Nat} {cs : List Char}
    {o : Occurrence} :
    o ∈ eligibleFrom inside position cs ↔
      position ≤ o.start ∧ Tag.atHead? (cs.drop (o.start - position)) = some o.tag ∧
        inside o.start = false ∧ inside (o.stop - 1) = false := by
  induction cs generalizing position with
  | nil => simp [eligibleFrom, Tag.atHead?]
  | cons c cs ih =>
    -- what is found behind the first character
    have hlater : o ∈ eligibleFrom inside (position + 1) cs ↔ o.start ≠ position ∧
        position ≤ o.start ∧ Tag.atHead? ((c :: cs).drop (o.start - position)) = some o.tag ∧
          inside o.start = false ∧ inside (o.stop - 1) = false := by
      rw [ih]
      constructor
      · rintro ⟨hle, hrest⟩
        have hsub : o.start - position = o.start - (position + 1) + 1 := by omega
        refine ⟨by omega, by omega, ?_⟩
        rw [hsub, List.drop_succ_cons]
        exact hrest
      · rintro ⟨hne, hle, hrest⟩
        have hsub : o.start - position = o.start - (position + 1) + 1 := by omega
        rw [hsub, List.drop_succ_cons] at hrest
        exact ⟨by omega, hrest⟩
    by_cases hstart : o.start = position
    -- here it depends on the tag in front, and nothing behind it begins here
    · have hnot : o ∉ eligibleFrom inside (position + 1) cs := by
        rw [hlater]
        exact fun h => h.1 hstart
      obtain ⟨start, tag⟩ := o
      obtain rfl : start = position := hstart
      rw [eligibleFrom, Nat.sub_self, List.drop_zero]
      cases hread : Tag.atHead? (c :: cs) with
      | none => simpa using hnot
      | some t =>
        dsimp only
        by_cases ht : t = tag
        · subst ht
          by_cases hin : inside start || inside (start + t.length - 1)
          · rw [if_pos hin]
            simp only [hnot, false_iff]
            rintro ⟨-, -, hfirst, hlast⟩
            rw [Occurrence.stop] at hlast
            simp [hfirst, hlast] at hin
          · rw [if_neg hin]
            simpa [Occurrence.stop] using hin
        · have hne : some t ≠ some tag := fun h => ht (Option.some.inj h)
          split
          · simp [hnot, hne]
          · simpa [hne, hnot] using fun h => absurd h.symm ht
    -- otherwise the tag in front, if there is one, is another
    · have hcons : o ∈ eligibleFrom inside position (c :: cs) ↔
          o ∈ eligibleFrom inside (position + 1) cs := by
        rw [eligibleFrom]
        split
        · rfl
        · split
          · rfl
          · rw [List.mem_cons, or_iff_right]
            rintro rfl
            exact hstart rfl
      rw [hcons, hlater]
      exact and_iff_right hstart

/-- The tags that are found stand in order and do not overlap. -/
theorem pairwise_eligibleFrom (inside : Nat → Bool) (position : Nat) (cs : List Char) :
    (eligibleFrom inside position cs).Pairwise fun o o' => o.stop ≤ o'.start := by
  induction cs generalizing position with
  | nil => exact List.Pairwise.nil
  | cons c cs ih =>
    rw [eligibleFrom]
    split
    · exact ih _
    · rename_i t hread
      split
      · exact ih _
      · refine List.pairwise_cons.2 ⟨?_, ih _⟩
        intro o ho
        obtain ⟨hle, hread', -, -⟩ := mem_eligibleFrom_iff.1 ho
        obtain ⟨-, rest, hrest⟩ := Tag.atHead?_eq_some_iff.1 hread'
        -- a tag that began before the end of the first would be an opening bracket within it
        rcases Nat.lt_or_ge o.start (position + t.length) with hlt | hge
        · exfalso
          have hfirst : (⟨0, t⟩ : Occurrence).In (c :: cs) := Tag.atHead?_eq_some_iff.1 hread
          have hstop : o.start - position < (⟨0, t⟩ : Occurrence).stop := by
            simp only [Occurrence.stop]
            omega
          refine hfirst.ne_bracket (by simp only; omega) hstop ?_
          have hsub : o.start - position = o.start - (position + 1) + 1 := by omega
          have hhead : (cs.drop (o.start - (position + 1)))[0]? = some '<' := by
            rw [← hrest, Tag.source_eq]
            rfl
          rw [hsub, List.getElem?_cons_succ]
          simpa using hhead
        · exact hge

/-- No tag is found over characters that are inside or no opening brackets. -/
theorem eligibleFrom_drop {inside : Nat → Bool} {k : Nat} :
    ∀ {position : Nat} {cs : List Char},
      (∀ i, i < k → inside (position + i) ∨ cs[i]? ≠ some '<') →
      eligibleFrom inside position cs = eligibleFrom inside (position + k) (cs.drop k) := by
  induction k with
  | zero =>
    intro position cs _
    rfl
  | succ k ih =>
    intro position cs h
    cases cs with
    | nil => simp [eligibleFrom]
    | cons c cs =>
      have htail : eligibleFrom inside (position + 1) cs =
          eligibleFrom inside (position + (k + 1)) (cs.drop k) := by
        rw [ih, Nat.add_assoc, Nat.add_comm 1]
        intro i hi
        have := h (i + 1) (by omega)
        rwa [← Nat.add_assoc, Nat.add_right_comm, List.getElem?_cons_succ] at this
      rw [List.drop_succ_cons, ← htail, eligibleFrom]
      split
      · rfl
      · rename_i t hread
        rcases h 0 (by omega) with hin | hne
        · rw [Nat.add_zero] at hin
          rw [hin, Bool.true_or, if_pos rfl]
        · have hc : c ≠ '<' := by simpa using hne
          rw [Tag.atHead?_eq_none_of_ne hc] at hread
          exact absurd hread (Option.some_ne_none t).symm

/-- A tag at the front is found, and nothing else up to its end. -/
theorem eligibleFrom_source_append {inside : Nat → Bool} {position : Nat} {t : Tag}
    (ht : t.WellFormed) (rest : List Char) (hfirst : inside position = false)
    (hlast : inside (position + t.length - 1) = false) :
    eligibleFrom inside position (t.source ++ rest) =
      ⟨position, t⟩ :: eligibleFrom inside (position + t.length) rest := by
  obtain ⟨tail, htail⟩ : ∃ tail, t.source = '<' :: tail := ⟨_, t.source_eq⟩
  have hlen : t.length = tail.length + 1 := by rw [Tag.length, htail, List.length_cons]
  have hread : Tag.atHead? ('<' :: (tail ++ rest)) = some t := by
    rw [← List.cons_append, ← htail]
    exact Tag.atHead?_append ht rest
  have hjump : eligibleFrom inside (position + 1) (tail ++ rest) =
      eligibleFrom inside (position + 1 + tail.length) ((tail ++ rest).drop tail.length) := by
    apply eligibleFrom_drop
    intro i hi
    right
    intro hget
    rw [List.getElem?_append_left hi] at hget
    have hmem : '<' ∈ t.source.tail := by
      rw [htail]
      exact List.mem_of_getElem? hget
    exact Tag.ne_bracket_of_mem_tail_source ht '<' hmem rfl
  rw [htail, List.cons_append, eligibleFrom, hread]
  dsimp only
  rw [hfirst, hlast, hjump, List.drop_left, hlen, Nat.add_assoc, Nat.add_comm 1]
  rfl

/-! ## The scanner finds them -/

/-- The token that the scanner makes of a tag. -/
def Occurrence.token? (rules : RuleTable) (o : Occurrence) : Option Token :=
  match o.tag.toToken rules o.start with
  | .ok token => some token
  | .error _ => none

/-- The anomaly that the scanner makes of a tag. -/
def Occurrence.anomaly? (rules : RuleTable) (o : Occurrence) : Option Anomaly :=
  match o.tag.toToken rules o.start with
  | .ok _ => none
  | .error anomaly => some anomaly

/-- Whether a place lies in one of the spans. -/
def isInside (spans : List Span) (position : Nat) : Bool :=
  ((SpanIndex.ofList spans).containing position).isSome

/-- The tags of a text that neither begin nor end in a span, in order. -/
def eligibleTags (text : List Char) (spans : List Span) : List Occurrence :=
  eligibleFrom (isInside spans) 0 text

/-- A place lies outside if and only if no span contains it. -/
theorem isInside_eq_false_iff {spans : List Span} (h : Separated spans) {position : Nat} :
    isInside spans position = false ↔ ∀ s ∈ spans, ¬ s.contains position := by
  rw [isInside, Bool.eq_false_iff, ne_eq, SpanIndex.isSome_containing_iff h]
  simp

/-- So the walk finds the tags that are eligible. -/
theorem mem_eligibleTags_iff {text : List Char} {spans : List Span} (h : Separated spans)
    {o : Occurrence} : o ∈ eligibleTags text spans ↔ Eligible text spans o := by
  rw [eligibleTags, mem_eligibleFrom_iff, Tag.atHead?_eq_some_iff, isInside_eq_false_iff h,
    isInside_eq_false_iff h, Nat.sub_zero]
  constructor
  · rintro ⟨-, hin, hfirst, hlast⟩
    exact ⟨hin, hfirst, hlast⟩
  · rintro ⟨hin, hfirst, hlast⟩
    exact ⟨Nat.zero_le _, hin, hfirst, hlast⟩

/-- No tag reaches into the next one. -/
theorem pairwise_eligibleTags (text : List Char) (spans : List Span) :
    (eligibleTags text spans).Pairwise fun o o' => o.stop ≤ o'.start :=
  pairwise_eligibleFrom _ _ _

theorem nodup_map_start_eligibleTags (text : List Char) (spans : List Span) :
    ((eligibleTags text spans).map Occurrence.start).Nodup := by
  rw [List.nodup_iff_pairwise_ne, List.pairwise_map]
  refine (pairwise_eligibleTags text spans).imp fun {o o'} hle => ?_
  have := o.start_lt_stop
  omega

/-- A tag of a text ends within it. -/
theorem Occurrence.In.stop_le {text : List Char} {o : Occurrence} (h : o.In text) :
    o.stop ≤ text.length := by
  obtain ⟨-, hprefix⟩ := h
  have hle := hprefix.length_le
  have hpos := o.tag.length_pos
  rw [List.length_drop, ← Tag.length] at hle
  rw [stop]
  omega

/-- Two tags that stand in one place are one. -/
theorem Occurrence.In.eq {text : List Char} {o o' : Occurrence} (h : o.In text) (h' : o'.In text)
    (hstart : o.start = o'.start) : o = o' := by
  have hread := Tag.atHead?_eq_some_iff.2 h
  rw [hstart, Tag.atHead?_eq_some_iff.2 h'] at hread
  obtain ⟨start, tag⟩ := o
  obtain ⟨start', tag'⟩ := o'
  obtain rfl : start = start' := hstart
  obtain rfl : tag' = tag := Option.some.inj hread
  rfl

/-- Two members of an ordered list are one, or one of them is before the other. -/
theorem eq_or_of_pairwise {α : Type} {r : α → α → Prop} {as : List α} (h : as.Pairwise r) {a a' : α}
    (ha : a ∈ as) (ha' : a' ∈ as) : a = a' ∨ r a a' ∨ r a' a := by
  apply List.Pairwise.forall_of_forall_of_flip (R := fun a a' => a = a' ∨ r a a' ∨ r a' a) _ _ _
    ha ha'
  · exact fun a _ => Or.inl rfl
  · exact h.imp fun hr => Or.inr (Or.inl hr)
  · exact h.imp fun hr => Or.inr (Or.inr hr)

/-- Two tags are one, or one of them stands before the other. -/
theorem Eligible.eq_or_disjoint {text : List Char} {spans : List Span} (hspans : Separated spans)
    {o o' : Occurrence} (h : Eligible text spans o) (h' : Eligible text spans o') :
    o = o' ∨ o.stop ≤ o'.start ∨ o'.stop ≤ o.start :=
  eq_or_of_pairwise (pairwise_eligibleTags text spans) ((mem_eligibleTags_iff hspans).2 h)
    ((mem_eligibleTags_iff hspans).2 h')

section
variable {spans : List Span} (hspans : Separated spans) (rules : RuleTable)
include hspans

/-- Wherever the scanner jumps to, it has found what there is to find before. -/
theorem scanFrom_eq (done : Scan) (position skip : Nat) (cs : List Char) :
    scanFrom (SpanIndex.ofList spans) rules done position skip cs =
      (eligibleFrom (isInside spans) (position + skip) (cs.drop skip)).foldl
        (fun s o => s.push (o.tag.toToken rules o.start)) done := by
  induction cs generalizing done position skip with
  | nil => simp [scanFrom, eligibleFrom]
  | cons c cs ih =>
    cases skip with
    | succ skip =>
      rw [scanFrom, ih, List.drop_succ_cons, Nat.add_assoc, Nat.add_comm 1]
    | zero =>
      rw [scanFrom, List.drop_zero]
      cases hread : Tag.atHead? (c :: cs) with
      | none => simp [ih, eligibleFrom, hread]
      | some t =>
        dsimp only
        cases hfirst : (SpanIndex.ofList spans).containing position with
        | some s =>
          -- the scanner goes on behind the span
          obtain ⟨hmem, hcontains⟩ := (SpanIndex.containing_eq_some_iff hspans).1 hfirst
          have hc := Span.contains_iff.1 hcontains
          have hjump : eligibleFrom (isInside spans) position (c :: cs) =
              eligibleFrom (isInside spans) (position + (s.stop - position - 1 + 1))
                ((c :: cs).drop (s.stop - position - 1 + 1)) := by
            apply eligibleFrom_drop
            intro i hi
            left
            rw [isInside, SpanIndex.isSome_containing_iff hspans]
            exact ⟨s, hmem, Span.contains_iff.2 (by omega)⟩
          simp only [Nat.add_zero, hjump, ih, List.drop_succ_cons, Nat.add_assoc, Nat.add_comm 1]
        | none =>
          have hout : isInside spans position = false := by rw [isInside, hfirst]; rfl
          cases hlast : (SpanIndex.ofList spans).containing (position + t.length - 1) with
          | some s =>
            have hin : isInside spans (position + t.length - 1) = true := by
              rw [isInside, hlast]
              rfl
            -- a tag that only ends in a span is passed over by one character
            simp [ih, eligibleFrom, hread, hin]
          | none =>
            -- the scanner goes on behind the tag
            have hout' : isInside spans (position + t.length - 1) = false := by
              rw [isInside, hlast]
              rfl
            obtain ⟨ht, rest, hrest⟩ := Tag.atHead?_eq_some_iff.1 hread
            have hlen := t.length_pos
            have hcs : cs.drop (t.length - 1) = rest := by
              rw [← List.drop_succ_cons (a := c), Nat.sub_add_cancel hlen, ← hrest, Tag.length,
                List.drop_left]
            dsimp only
            rw [Nat.add_zero position, ← hrest, eligibleFrom_source_append ht rest hout hout',
              List.foldl_cons, ih, hcs, Nat.add_assoc, Nat.add_sub_cancel' hlen]

end

/-- The tags that can be read are taken as tokens, and the others as anomalies. -/
theorem foldl_push_toToken (rules : RuleTable) (os : List Occurrence) (s : Scan) :
    os.foldl (fun s o => s.push (o.tag.toToken rules o.start)) s =
      { tokens := (os.filterMap fun o => o.token? rules).reverse ++ s.tokens
        anomalies := (os.filterMap fun o => o.anomaly? rules).reverse ++
          s.anomalies } := by
  induction os generalizing s with
  | nil => rfl
  | cons o os ih =>
    rw [List.foldl_cons, ih]
    cases hread : o.tag.toToken rules o.start <;>
      simp [Scan.push, hread, Occurrence.token?, Occurrence.anomaly?]

/-- Every tag that is found becomes a token or an anomaly. -/
theorem scan_eq {spans : List Span} (hspans : Separated spans) (rules : RuleTable)
    (text : List Char) :
    scan (SpanIndex.ofList spans) rules text =
      ((eligibleTags text spans).filterMap fun o => o.token? rules,
        (eligibleTags text spans).filterMap fun o => o.anomaly? rules) := by
  rw [scan, scanFrom_eq hspans, foldl_push_toToken]
  simp [eligibleTags]

end SealedPage.Flo
