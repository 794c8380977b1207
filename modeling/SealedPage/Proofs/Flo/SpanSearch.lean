import SealedPage.Flo.Span

/-!
# Searching spans

The search for the span that holds a position halves a range of the list of spans. It is exact for
spans that stand in order and do not overlap: `SpanIndex.containing_eq_some_iff`.
-/

namespace SealedPage.Flo

/-- Spans in order: none is empty, and each one ends before the next begins. -/
structure Separated (spans : List Span) : Prop where
  nonempty : ∀ s ∈ spans, s.start < s.stop
  ordered : spans.Pairwise fun s t => s.stop ≤ t.start

/-- A span contains the places from its start up to its stop, which is left out. -/
theorem Span.contains_iff {s : Span} {position : Nat} :
    s.contains position ↔ s.start ≤ position ∧ position < s.stop := by
  simp [Span.contains]

namespace Separated

variable {spans : List Span}

/-- A span ends before a later one starts. -/
theorem stop_le_start (h : Separated spans) {i j : Nat} {s t : Span} (hi : spans[i]? = some s)
    (hj : spans[j]? = some t) (hij : i < j) : s.stop ≤ t.start := by
  obtain ⟨hi', rfl⟩ := List.getElem?_eq_some_iff.1 hi
  obtain ⟨hj', rfl⟩ := List.getElem?_eq_some_iff.1 hj
  exact List.pairwise_iff_getElem.1 h.ordered i j hi' hj' hij

theorem start_le_start (h : Separated spans) {i j : Nat} {s t : Span} (hi : spans[i]? = some s)
    (hj : spans[j]? = some t) (hij : i ≤ j) : s.start ≤ t.start := by
  rcases Nat.lt_or_eq_of_le hij with hlt | rfl
  · have := h.stop_le_start hi hj hlt
    have := h.nonempty s (List.mem_of_getElem? hi)
    omega
  · rw [hi] at hj
    obtain rfl := Option.some.inj hj
    exact Nat.le_refl _

/-- Two places whose spans hold one position are the same. -/
theorem eq_of_contains (h : Separated spans) {i j : Nat} {s t : Span} (hi : spans[i]? = some s)
    (hj : spans[j]? = some t) {position : Nat} (hs : s.start ≤ position ∧ position < s.stop)
    (ht : t.start ≤ position ∧ position < t.stop) : i = j := by
  rcases Nat.lt_trichotomy i j with hlt | heq | hlt
  · have := h.stop_le_start hi hj hlt
    omega
  · exact heq
  · have := h.stop_le_start hj hi hlt
    omega

end Separated

namespace SpanIndex

/-- The range from `lo` to `hi` still holds the answer: the spans below it start at or before the
position, and those above it start behind it. -/
structure Brackets (spans : List Span) (position lo hi : Nat) : Prop where
  le : lo ≤ hi
  le_length : hi ≤ spans.length
  below : ∀ {i s}, spans[i]? = some s → i < lo → s.start ≤ position
  above : ∀ {i s}, spans[i]? = some s → hi ≤ i → position < s.start

/-- Halving keeps the answer in the range until one place is left. -/
theorem brackets_bisect {spans : List Span} (h : Separated spans) {position : Nat} :
    ∀ {fuel lo hi : Nat}, hi - lo ≤ fuel → Brackets spans position lo hi →
      Brackets spans position ((ofList spans).bisect position fuel lo hi)
        ((ofList spans).bisect position fuel lo hi) := by
  intro fuel
  induction fuel with
  | zero =>
    intro lo hi hfuel hb
    have hle := hb.le
    obtain rfl : lo = hi := by omega
    exact hb
  | succ fuel ih =>
    intro lo hi hfuel hb
    have hle := hb.le
    have hlen := hb.le_length
    rw [bisect]
    by_cases hlt : lo < hi
    · have hmid : (lo + hi) / 2 < spans.length := by omega
      have hget : spans[(lo + hi) / 2]? = some spans[(lo + hi) / 2] :=
        List.getElem?_eq_getElem hmid
      have hget' : (ofList spans).spans[(lo + hi) / 2]? = some spans[(lo + hi) / 2] := by
        simp [ofList]
      simp only [hlt, if_true, hget']
      split
      · rename_i hpos
        -- every span from the middle on starts behind the position
        refine ih (by omega) ⟨by omega, by omega, hb.below, fun hi' hle' => ?_⟩
        exact Nat.lt_of_lt_of_le hpos (h.start_le_start hget hi' hle')
      · rename_i hpos
        -- every span up to the middle starts at or before it
        refine ih (by omega) ⟨by omega, hlen, fun hi' hle' => ?_, hb.above⟩
        have := h.start_le_start hi' hget (by omega)
        omega
    · obtain rfl : lo = hi := by omega
      simp only [hlt, if_false]
      exact hb

/-- The number of spans that start in front of a place is where the bisection ends. -/
theorem brackets_countStarts {spans : List Span} (h : Separated spans) (position : Nat) :
    Brackets spans position ((ofList spans).countStarts position)
      ((ofList spans).countStarts position) := by
  have hsize : (ofList spans).spans.size = spans.length := by simp [ofList]
  rw [countStarts, hsize]
  refine brackets_bisect h (by omega) ⟨by omega, by omega, by omega, fun hi hle => ?_⟩
  obtain ⟨hlt, -⟩ := List.getElem?_eq_some_iff.1 hi
  omega

/-- The search finds the span that holds a position, and nothing where there is none. -/
theorem containing_eq_some_iff {spans : List Span} (h : Separated spans) {position : Nat}
    {s : Span} :
    (ofList spans).containing position = some s ↔ s ∈ spans ∧ s.contains position := by
  have hb := brackets_countStarts h position
  have hspans : ∀ i : Nat, (ofList spans).spans[i]? = spans[i]? := by simp [ofList]
  unfold containing
  constructor
  · intro hs
    split at hs
    · simp at hs
    · rename_i n hn
      rw [hspans, Option.filter_eq_some_iff] at hs
      exact ⟨List.mem_of_getElem? hs.1, hs.2⟩
  · rintro ⟨hmem, hcontains⟩
    obtain ⟨i, hi⟩ := List.getElem?_of_mem hmem
    have hc := Span.contains_iff.1 hcontains
    split
    · rename_i hn
      have := hb.above hi (by omega)
      omega
    · rename_i n hn
      rw [hn] at hb
      have hlen := hb.le_length
      have hget : spans[n]? = some spans[n] := List.getElem?_eq_getElem hlen
      -- a span before the last candidate ends too early, and one behind it starts too late
      rcases Nat.lt_trichotomy i n with hlt | rfl | hlt
      · have := h.stop_le_start hi hget hlt
        have := hb.below hget (by omega)
        omega
      · rw [hspans, Option.filter_eq_some_iff]
        exact ⟨hi, hcontains⟩
      · have := hb.above hi hlt
        omega

/-- A span is found for a place if and only if one contains it. -/
theorem isSome_containing_iff {spans : List Span} (h : Separated spans) {position : Nat} :
    ((ofList spans).containing position).isSome ↔ ∃ s ∈ spans, s.contains position := by
  rw [Option.isSome_iff_exists]
  exact exists_congr fun s => containing_eq_some_iff h

end SpanIndex

end SealedPage.Flo
