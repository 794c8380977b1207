import SealedPage.Proofs.Flo.Injection

/-!
# The placeholders of a source

A placeholder with its place in a source is a slot. The pieces that a source is cut into have all of
its slots, `mem_slots_iff`, which never overlap. Interpolation fills every slot with its value and
copies the rest, `splice_map_edit_slots`; taking the values out again leaves what no bindings at all
would have given, `splice_map_erasure_valueSpans`. All of this together is
`interpolates_interpolateSpans`.
-/

namespace SealedPage.Flo

open Text

/-! ## Slots -/

/-- A placeholder with the place where it begins. -/
structure Slot where
  start : Nat
  placeholder : Placeholder
  deriving DecidableEq, Repr

namespace Slot

/-- The place behind the placeholder. -/
def stop (s : Slot) : Nat :=
  s.start + s.placeholder.length

/-- The placeholder is well formed and stands in the source at its place. -/
def In (s : Slot) (source : List Char) : Prop :=
  s.placeholder.WellFormed ∧ s.placeholder.text <+: source.drop s.start

/-- The value that is bound to the identifier; without one it is empty. -/
def value (b : Bindings) (s : Slot) : String :=
  (b.get? s.placeholder.identifier).getD ""

/-- Puts the value in the place of the placeholder. -/
def edit (b : Bindings) (s : Slot) : Edit :=
  ⟨s.start, s.stop, s.value b⟩

end Slot

/-! ## Slots do not overlap -/

/-- A placeholder has its four braces and a name. -/
theorem Placeholder.WellFormed.length_ge {p : Placeholder} (hp : p.WellFormed) : 5 ≤ p.length := by
  have := List.length_pos_iff.2 hp.name_ne_nil
  rw [Placeholder.length]
  omega

/-- The only opening braces of a placeholder are its first two characters. -/
theorem Placeholder.WellFormed.ne_brace {p : Placeholder} (hp : p.WellFormed) :
    ∀ c ∈ p.text.drop 2, c ≠ '{' := by
  have hblank : ∀ c, isBlank c → c ≠ '{' := fun c hc => ne_of_isBlank hc rfl
  have hname : ∀ c, isIdentifierChar c → c ≠ '{' := by
    rintro c hc rfl
    exact absurd hc (by decide)
  intro c hc
  simp only [text, List.drop_succ_cons, List.drop_zero, List.mem_append, List.mem_cons,
    List.not_mem_nil, or_false] at hc
  rcases hc with ((hc | hc) | hc) | rfl | rfl
  · exact hblank c (hp.before c hc)
  · exact hname c (hp.name c hc)
  · exact hblank c (hp.after c hc)
  · decide
  · decide

namespace Slot.In

variable {source : List Char} {s s' : Slot}

/-- What stands in the source where the placeholder does. -/
theorem getElem? (h : s.In source) {k : Nat} (hk : k < s.placeholder.length) :
    source[s.start + k]? = s.placeholder.text[k]? := by
  obtain ⟨-, rest, hrest⟩ := h
  rw [← List.getElem?_drop, ← hrest]
  exact List.getElem?_append_left (by rwa [Placeholder.length_text])

/-- A placeholder begins with two braces. -/
theorem braces (h : s.In source) :
    source[s.start]? = some '{' ∧ source[s.start + 1]? = some '{' := by
  have hlen := h.1.length_ge
  exact ⟨h.getElem? (k := 0) (by omega), h.getElem? (k := 1) (by omega)⟩

/-- No second pair of braces opens inside of a placeholder. -/
theorem ne_brace (h : s.In source) {k : Nat} (hstart : s.start + 2 ≤ k) (hstop : k < s.stop) :
    source[k]? ≠ some '{' := by
  rw [Slot.stop] at hstop
  obtain ⟨i, rfl⟩ := Nat.exists_eq_add_of_le hstart
  rw [Nat.add_assoc, h.getElem? (by omega), ← List.getElem?_drop]
  intro hget
  exact h.1.ne_brace '{' (List.mem_of_getElem? hget) rfl

/-- At most one placeholder begins at a place. -/
theorem eq (h : s.In source) (h' : s'.In source) (hstart : s.start = s'.start) : s = s' := by
  have hread := Placeholder.atHead?_eq_some_iff.2 h
  rw [hstart, Placeholder.atHead?_eq_some_iff.2 h'] at hread
  obtain ⟨start, p⟩ := s
  obtain ⟨start', p'⟩ := s'
  obtain rfl : start = start' := hstart
  obtain rfl : p' = p := Option.some.inj hread
  rfl

/-- No placeholder begins within another one. -/
theorem stop_le_start (h : s.In source) (h' : s'.In source) (hlt : s.start < s'.start) :
    s.stop ≤ s'.start := by
  by_contra hnot
  have hlen := h.1.length_ge
  have hstop : s.start + 5 ≤ s.stop := Nat.add_le_add_left hlen _
  -- the second of its braces, if not the first, would stand behind those of the other
  rcases Nat.lt_or_ge s'.start (s.start + 2) with hnear | hfar
  · exact h.ne_brace (by omega) (by omega) h'.braces.2
  · exact h.ne_brace hfar (by omega) h'.braces.1

/-- Two placeholders of a source are one, or one of them stands before the other. -/
theorem eq_or_disjoint (h : s.In source) (h' : s'.In source) :
    s = s' ∨ s.stop ≤ s'.start ∨ s'.stop ≤ s.start := by
  rcases Nat.lt_trichotomy s.start s'.start with hlt | heq | hgt
  · exact Or.inr (Or.inl (h.stop_le_start h' hlt))
  · exact Or.inl (h.eq h' heq)
  · exact Or.inr (Or.inr (h'.stop_le_start h hgt))

end Slot.In

namespace Slot

/-- What stands in front of a text moves its placeholders. -/
theorem in_append_iff {front cs : List Char} {k : Nat} {p : Placeholder} :
    (⟨front.length + k, p⟩ : Slot).In (front ++ cs) ↔ (⟨k, p⟩ : Slot).In cs := by
  rw [In, In, List.drop_length_add_append]

/-- Where no placeholder stands in front, all of them stand behind the first character. -/
theorem in_cons_iff {c : Char} {cs : List Char} (hnone : Placeholder.atHead? (c :: cs) = none)
    {k : Nat} {p : Placeholder} :
    (⟨k, p⟩ : Slot).In (c :: cs) ↔ ∃ k', k = k' + 1 ∧ (⟨k', p⟩ : Slot).In cs := by
  constructor
  · intro h
    cases k with
    | zero =>
      have hread : Placeholder.atHead? (c :: cs) = some p := Placeholder.atHead?_eq_some_iff.2 h
      exact absurd (hread.symm.trans hnone) (Option.some_ne_none p)
    | succ k => exact ⟨k, rfl, h⟩
  · rintro ⟨k', rfl, h⟩
    exact h

/-- Besides a placeholder in front there are only those that stand behind it. -/
theorem in_text_append_iff {p : Placeholder} (hp : p.WellFormed) {rest : List Char} {k : Nat}
    {q : Placeholder} :
    (⟨k, q⟩ : Slot).In (p.text ++ rest) ↔
      k = 0 ∧ q = p ∨ ∃ k', k = p.length + k' ∧ (⟨k', q⟩ : Slot).In rest := by
  have hfirst : (⟨0, p⟩ : Slot).In (p.text ++ rest) := ⟨hp, rest, rfl⟩
  constructor
  · intro h
    rcases Nat.eq_zero_or_pos k with rfl | hpos
    · exact Or.inl ⟨rfl, (Slot.mk.inj (h.eq hfirst rfl)).2⟩
    · have hstop : (⟨0, p⟩ : Slot).stop ≤ k := hfirst.stop_le_start h hpos
      rw [stop, Nat.zero_add] at hstop
      obtain ⟨k', rfl⟩ := Nat.exists_eq_add_of_le hstop
      rw [← p.length_text, in_append_iff] at h
      exact Or.inr ⟨k', rfl, h⟩
  · rintro (⟨rfl, rfl⟩ | ⟨k', rfl, h⟩)
    · exact hfirst
    · rw [← p.length_text]
      exact in_append_iff.2 h

end Slot

/-! ## The slots of pieces -/

/-- The slots of pieces, of which the first begins at `position`. -/
def slots (position : Nat) : List Piece → List Slot
  | [] => []
  | .char _ :: ps => slots (position + 1) ps
  | .placeholder p :: ps => ⟨position, p⟩ :: slots (position + p.length) ps

theorem le_start_of_mem_slots {position : Nat} {ps : List Piece} {s : Slot}
    (h : s ∈ slots position ps) : position ≤ s.start := by
  induction ps generalizing position with
  | nil => simp [slots] at h
  | cons p ps ih =>
    cases p with
    | char c => exact Nat.le_of_succ_le (ih h)
    | placeholder p =>
      rcases List.mem_cons.1 h with rfl | h
      · exact Nat.le_refl _
      · exact Nat.le_of_add_right_le (ih h)

/-- The slots stand in order and do not overlap. -/
theorem pairwise_slots (position : Nat) (ps : List Piece) :
    (slots position ps).Pairwise fun s s' => s.stop ≤ s'.start := by
  induction ps generalizing position with
  | nil => exact List.Pairwise.nil
  | cons p ps ih =>
    cases p with
    | char c => exact ih _
    | placeholder p => exact List.pairwise_cons.2 ⟨fun _ => le_start_of_mem_slots, ih _⟩

/-- Cutting a text into pieces finds all of its placeholders. -/
theorem mem_slots_pieces_iff {position : Nat} {cs : List Char} {s : Slot} :
    s ∈ slots position (pieces cs) ↔
      ∃ k, s.start = position + k ∧ (⟨k, s.placeholder⟩ : Slot).In cs := by
  obtain ⟨start, q⟩ := s
  dsimp only
  -- what stands behind a placeholder is shorter, but it is no tail: the induction is on the length
  induction hn : cs.length using Nat.strongRecOn generalizing cs position with
  | ind n ih =>
    cases cs with
    | nil =>
      rw [pieces_nil]
      refine iff_of_false List.not_mem_nil ?_
      rintro ⟨k, -, -, hprefix⟩
      simp [Placeholder.text] at hprefix
    | cons c cs =>
      cases hread : Placeholder.atHead? (c :: cs) with
      | none =>
        rw [pieces_of_none hread, slots, ih cs.length (by simp [← hn]) rfl]
        constructor
        · rintro ⟨k, rfl, hin⟩
          exact ⟨k + 1, by omega, (Slot.in_cons_iff hread).2 ⟨k, rfl, hin⟩⟩
        · rintro ⟨_, rfl, hin⟩
          obtain ⟨k, rfl, hin⟩ := (Slot.in_cons_iff hread).1 hin
          exact ⟨k, by omega, hin⟩
      | some p =>
        obtain ⟨hp, rest, hrest⟩ := Placeholder.atHead?_eq_some_iff.1 hread
        have hlt : rest.length < n := by
          have hlength := congrArg List.length hrest
          rw [List.length_append, Placeholder.length_text, hn] at hlength
          have := hp.length_ge
          omega
        rw [← hrest, pieces_append_of_wellFormed hp, slots, List.mem_cons, ih rest.length hlt rfl,
          Slot.mk.injEq]
        constructor
        · rintro (⟨rfl, rfl⟩ | ⟨k, rfl, hin⟩)
          · exact ⟨0, rfl, (Slot.in_text_append_iff hp).2 (Or.inl ⟨rfl, rfl⟩)⟩
          · exact ⟨p.length + k, by omega,
              (Slot.in_text_append_iff hp).2 (Or.inr ⟨k, rfl, hin⟩)⟩
        · rintro ⟨k, rfl, hin⟩
          rcases (Slot.in_text_append_iff hp).1 hin with ⟨rfl, rfl⟩ | ⟨k', rfl, hrest'⟩
          · exact Or.inl ⟨rfl, rfl⟩
          · exact Or.inr ⟨k', by omega, hrest'⟩

/-- The slots of a source are its placeholders. -/
theorem mem_slots_iff {source : List Char} {s : Slot} :
    s ∈ slots 0 (pieces source) ↔ s.In source := by
  rw [mem_slots_pieces_iff]
  simp

-- of a run of braces the last two belong to the placeholder
example : slots 0 (pieces "{{{{a}}b}}".toList) = [⟨2, ⟨[], ['a'], []⟩⟩] := by decide

/-! ## Filling the slots -/

/-- A character in front of all edits is copied. -/
theorem splice_cons_of_le {front cs : List Char} {c : Char} {es : List Edit}
    (hes : ∀ e ∈ es, front.length + 1 ≤ e.start) :
    splice (front ++ c :: cs) front.length es =
      c :: splice (front ++ c :: cs) (front.length + 1) es := by
  have hprefix : [c] <+: (front ++ c :: cs).drop front.length := by
    rw [List.drop_left]
    exact ⟨cs, rfl⟩
  have hcopied : between (front ++ c :: cs) front.length (front.length + 1) = [c] :=
    between_of_isPrefix hprefix
  rw [splice_eq_append (Nat.le_succ _) hes, hcopied, List.singleton_append]

/-- Filling the slots of pieces writes the value of each piece. -/
theorem splice_map_edit_slots (b : Bindings) (front : List Char) (ps : List Piece) :
    splice (front ++ ps.flatMap Piece.source) front.length
      ((slots front.length ps).map (Slot.edit b)) = ps.flatMap (Piece.value b) := by
  induction ps generalizing front with
  | nil => simp [slots, splice]
  | cons p ps ih =>
    have ih := ih (front ++ p.source)
    rw [List.length_append, List.append_assoc, ← List.flatMap_cons] at ih
    cases p with
    | char c =>
      have hlater : ∀ e ∈ (slots (front.length + 1) ps).map (Slot.edit b),
          front.length + 1 ≤ e.start := by
        rintro _ he
        obtain ⟨s, hs, rfl⟩ := List.mem_map.1 he
        exact le_start_of_mem_slots hs
      exact (splice_cons_of_le hlater).trans (congrArg (c :: ·) ih)
    | placeholder p =>
      rw [Piece.source, p.length_text] at ih
      rw [slots, List.map_cons, splice, Slot.edit, between_self, List.nil_append]
      exact congrArg ((b.lookup p.identifier).toList ++ ·) ih

/-- The values of pieces are those of their slots, without the empty ones. -/
theorem boundValues_eq_filter (b : Bindings) (position : Nat) (ps : List Piece) :
    boundValues b ps =
      ((slots position ps).map fun s => (s.value b).toList).filter (· ≠ []) := by
  induction ps generalizing position with
  | nil => rfl
  | cons p ps ih =>
    cases p with
    | char c => exact ih _
    | placeholder p =>
      have hvalue : ((⟨position, p⟩ : Slot).value b).toList = Piece.value b (.placeholder p) := rfl
      simp only [boundValues, slots, List.map_cons, hvalue, List.filter_cons,
        ih (position + p.length)]
      by_cases hempty : Piece.value b (.placeholder p) = []
      · simp [hempty]
      · simp [hempty]

/-! ## Taking the values out -/

/-- Takes out what stands in a span. -/
def Span.erasure (s : Span) : Edit :=
  ⟨s.start, s.stop, ""⟩

/-- Without the values of placeholders nothing but the characters between them is left. -/
theorem splice_map_erasure_valueSpans (b : Bindings) (front : List Char) (ps : List Piece) :
    splice (front ++ ps.flatMap (Piece.value b)) front.length
      ((valueSpans b front.length ps).map Span.erasure) = ps.flatMap (Piece.value {}) := by
  induction ps generalizing front with
  | nil => simp [valueSpans, splice]
  | cons p ps ih =>
    have ih := ih (front ++ p.value b)
    rw [List.length_append, List.append_assoc, ← List.flatMap_cons] at ih
    cases p with
    | char c =>
      have hlater : ∀ e ∈ (valueSpans b (front.length + 1) ps).map Span.erasure,
          front.length + 1 ≤ e.start := by
        rintro _ he
        obtain ⟨s, hs, rfl⟩ := List.mem_map.1 he
        exact (bounds_of_mem_valueSpans b hs).1
      exact (splice_cons_of_le hlater).trans (congrArg (c :: ·) ih)
    | placeholder p =>
      simp only [valueSpans]
      split
      · rename_i hempty
        rw [List.isEmpty_iff.1 hempty, List.length_nil, Nat.add_zero] at ih
        exact ih
      · rw [List.map_cons, splice, Span.erasure, between_self, List.nil_append]
        exact ih

/-! ## Exact interpolation -/

/-- How a text with spans comes from a source: its slots are filled, and nothing else is done. -/
structure Interpolates (source : String) (b : Bindings) (text : List Char) (spans : List Span)
    (ss : List Slot) : Prop where
  /-- The slots are the placeholders of the source. -/
  slots : ∀ s, s ∈ ss ↔ s.In source.toList
  /-- Two placeholders do not overlap. -/
  disjoint : ∀ s s' : Slot, s.In source.toList → s'.In source.toList →
    s = s' ∨ s.stop ≤ s'.start ∨ s'.stop ≤ s.start
  /-- The slots stand in the order of the source. -/
  ordered : ss.Pairwise fun s s' => s.stop ≤ s'.start
  /-- Each slot is filled with its value; what lies between the slots is copied. -/
  filled : text = splice source.toList 0 (ss.map (Slot.edit b))
  /-- Interpolation without spans gives the same text. -/
  interpolated : (interpolate source b).toList = text
  /-- The spans are not empty, stand in order and do not overlap. -/
  separated : Separated spans
  /-- The spans lie within the text. -/
  within : ∀ s ∈ spans, s.stop ≤ text.length
  /-- The spans hold the values of the slots, without the empty ones. -/
  values : spans.map (Span.slice text) =
    (ss.map fun s => (s.value b).toList).filter (· ≠ [])
  /-- Without the spans, the text is what no bindings at all would have given. -/
  erased : splice text 0 (spans.map Span.erasure) = (interpolate source {}).toList

/-- Interpolation replaces all placeholders of a source by their values, and nothing else, and the
spans are where the values stand. -/
theorem interpolates_interpolateSpans (source : String) (b : Bindings) :
    Interpolates source b (interpolateSpans source.toList b).1
      (interpolateSpans source.toList b).2 (slots 0 (pieces source.toList)) where
  slots _ := mem_slots_iff
  disjoint _ _ h h' := h.eq_or_disjoint h'
  ordered := pairwise_slots 0 _
  filled := by
    have hfilled := splice_map_edit_slots b [] (pieces source.toList)
    rw [List.nil_append, (pieces_spec source.toList).1] at hfilled
    rw [interpolateSpans_eq]
    exact hfilled.symm
  interpolated := String.toList_ofList
  separated := separated_interpolateSpans _ b
  within s hs := by
    rw [interpolateSpans_eq] at hs ⊢
    have hstop := (bounds_of_mem_valueSpans b hs).2.2
    rwa [Nat.zero_add] at hstop
  values := by
    rw [map_slice_interpolateSpans]
    exact boundValues_eq_filter b 0 _
  erased := by
    rw [interpolate, String.toList_ofList, interpolateSpans_eq, interpolateSpans_eq]
    exact splice_map_erasure_valueSpans b [] _

end SealedPage.Flo
