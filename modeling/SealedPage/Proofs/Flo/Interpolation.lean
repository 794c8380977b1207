import SealedPage.Flo.Placeholder
import SealedPage.Proofs.Flo.SpanSearch
import SealedPage.Proofs.Text.Run

/-!
# What interpolation does

A source is a list of pieces. Interpolation writes the value of each piece, one behind the other,
and records where the values of placeholders stand:

* `interpolateSpans_eq`: the text and the spans of an interpolated source, without an accumulator;
* `separated_valueSpans`: the spans stand in order and do not overlap;
* `locates_containing`: so the search for the span at a position is exact;
* `map_slice_valueSpans`: each span holds the value it was recorded for;
* `pieces_flatMap_source`: pieces that are written down are found again.
-/

namespace SealedPage.Flo

open Text

/-! ## The grammar of placeholders -/

/-- No identifier holds a blank. -/
theorem isIdentifierChar_of_isBlank {c : Char} (h : isBlank c) : isIdentifierChar c = false := by
  simp [isIdentifierChar, isAlphanum_of_isBlank h, ne_of_isBlank h (d := '_') rfl]

/-- What the grammar demands of a placeholder. -/
structure Placeholder.WellFormed (p : Placeholder) : Prop where
  before : ∀ c ∈ p.before, isBlank c
  name_ne_nil : p.name ≠ []
  name : ∀ c ∈ p.name, isIdentifierChar c
  after : ∀ c ∈ p.after, isBlank c

/-- A name between braces is a placeholder. -/
theorem Placeholder.wellFormed_of_name {name : List Char} (hne : name ≠ [])
    (h : name.all isIdentifierChar) : Placeholder.WellFormed ⟨[], name, []⟩ :=
  ⟨by simp, hne, List.all_eq_true.1 h, by simp⟩

/-- The name that a placeholder asks a value for. -/
def Placeholder.identifier (p : Placeholder) : String :=
  String.ofList p.name

theorem Placeholder.length_text (p : Placeholder) : p.text.length = p.length := by
  simp only [text, length, List.length_cons, List.length_append, List.length_nil]

/-- A placeholder is read at the front of a text if and only if it is well formed and its characters
stand there. -/
theorem Placeholder.atHead?_eq_some_iff {cs : List Char} {p : Placeholder} :
    Placeholder.atHead? cs = some p ↔ p.WellFormed ∧ p.text <+: cs := by
  constructor
  · intro h
    unfold Placeholder.atHead? at h
    split at h
    · rename_i cs
      dsimp only at h
      split at h
      · rename_i c name rest hname hrest
        obtain rfl := Option.some.inj h
        refine ⟨⟨of_mem_takeWhile, by simp only [hname]; simp, of_mem_takeWhile,
          of_mem_takeWhile⟩, rest, ?_⟩
        conv =>
          rhs
          rw [eq_takeWhile_append (rfl : cs.dropWhile isBlank = _),
            eq_takeWhile_append (rfl : (cs.dropWhile isBlank).dropWhile isIdentifierChar = _),
            eq_takeWhile_append hrest]
        simp [text]
      · simp at h
    · simp at h
  · rintro ⟨hp, rest, rfl⟩
    obtain ⟨c, cs, hn⟩ := List.exists_cons_of_ne_nil hp.name_ne_nil
    have hafter : Stops isBlank ('}' :: '}' :: rest) := stops_cons.2 rfl
    have hname : Stops isIdentifierChar (p.after ++ '}' :: '}' :: rest) :=
      stops_append hp.after (fun _ => isIdentifierChar_of_isBlank) (stops_cons.2 rfl)
    have hbefore : Stops isBlank (p.name ++ (p.after ++ '}' :: '}' :: rest)) := by
      have hc : isIdentifierChar c := hp.name c (hn ▸ List.mem_cons_self)
      rw [hn]
      apply stops_cons.2
      rw [Bool.eq_false_iff]
      intro hb
      rw [isIdentifierChar_of_isBlank hb] at hc
      exact Bool.false_ne_true hc
    -- each run ends where the next part begins, so every `takeWhile` gives its own part
    have hs : p.text ++ rest =
        '{' :: '{' :: (p.before ++ (p.name ++ (p.after ++ '}' :: '}' :: rest))) := by
      simp [text]
    rw [hs, Placeholder.atHead?, takeWhile_append_of_stops hp.before hbefore,
      dropWhile_append_of_stops hp.before hbefore, takeWhile_append_of_stops hp.name hname,
      dropWhile_append_of_stops hp.name hname, takeWhile_append_of_stops hp.after hafter,
      dropWhile_append_of_stops hp.after hafter]
    simp only [hn]
    rw [← hn]

/-- A placeholder is found where it stands, whatever follows it. -/
theorem Placeholder.atHead?_append {p : Placeholder} (hp : p.WellFormed) (rest : List Char) :
    Placeholder.atHead? (p.text ++ rest) = some p :=
  Placeholder.atHead?_eq_some_iff.2 ⟨hp, rest, rfl⟩

/-- No placeholder begins with anything but a brace. -/
theorem Placeholder.atHead?_eq_none_of_ne {c : Char} (h : c ≠ '{') (cs : List Char) :
    Placeholder.atHead? (c :: cs) = none := by
  rw [Option.eq_none_iff_forall_ne_some]
  intro p hp
  obtain ⟨-, rest, hrest⟩ := Placeholder.atHead?_eq_some_iff.1 hp
  rw [text, List.cons_append] at hrest
  exact h (List.cons.inj hrest).1.symm

/-! ## Cutting a source into pieces -/

/-- The characters of a piece in the source. -/
def Piece.source : Piece → List Char
  | .char c => [c]
  | .placeholder p => p.text

/-- The pieces found before stand in front, and the skipped characters belong to the last of them.
-/
theorem piecesFrom_eq (done : List Piece) (skip : Nat) (cs : List Char) :
    piecesFrom done skip cs = done.reverse ++ pieces (cs.drop skip) := by
  unfold pieces
  induction cs generalizing done skip with
  | nil => simp [piecesFrom]
  | cons c cs ih =>
    cases skip with
    | succ skip => simpa [piecesFrom] using ih done skip
    | zero =>
      simp only [piecesFrom, List.drop_zero]
      split
      · rename_i p _
        rw [ih (.placeholder p :: done), ih [.placeholder p]]
        simp
      · rw [ih (.char c :: done), ih [.char c]]
        simp

theorem pieces_nil : pieces [] = [] := by
  simp [pieces, piecesFrom]

/-- A character at which no placeholder begins is a piece of its own. -/
theorem pieces_of_none {c : Char} {cs : List Char} (h : Placeholder.atHead? (c :: cs) = none) :
    pieces (c :: cs) = .char c :: pieces cs := by
  rw [pieces, piecesFrom]
  simp [h, piecesFrom_eq]

/-- A placeholder is one piece, and the text behind it is taken to pieces by itself. -/
theorem pieces_append_of_wellFormed {p : Placeholder} (hp : p.WellFormed) (cs : List Char) :
    pieces (p.text ++ cs) = .placeholder p :: pieces cs := by
  have hread := Placeholder.atHead?_append hp cs
  have hlen := p.length_text
  obtain ⟨tail, htail⟩ : ∃ tail, p.text = '{' :: tail := ⟨_, rfl⟩
  rw [htail, List.length_cons] at hlen
  rw [htail, List.cons_append] at hread ⊢
  rw [pieces, piecesFrom]
  simp [hread, piecesFrom_eq, ← hlen]

/-- The pieces of a source spell it, and their placeholders are well formed. -/
theorem pieces_spec (source : List Char) :
    (pieces source).flatMap Piece.source = source ∧
      ∀ p, Piece.placeholder p ∈ pieces source → p.WellFormed := by
  -- what stands behind a placeholder is shorter, but it is no tail: the induction is on the length
  induction hn : source.length using Nat.strongRecOn generalizing source with
  | ind n ih =>
    cases source with
    | nil => simp [pieces_nil]
    | cons c cs =>
      cases hread : Placeholder.atHead? (c :: cs) with
      | none =>
        obtain ⟨hspell, hwf⟩ := ih cs.length (by simp [← hn]) cs rfl
        rw [pieces_of_none hread]
        simp only [List.flatMap_cons, hspell, Piece.source, List.mem_cons, reduceCtorEq, false_or]
        exact ⟨rfl, hwf⟩
      | some p =>
        obtain ⟨hp, rest, hrest⟩ := Placeholder.atHead?_eq_some_iff.1 hread
        have hlt : rest.length < n := by
          have := congrArg List.length hrest
          simp only [List.length_append, Placeholder.length_text, Placeholder.length, hn] at this
          omega
        obtain ⟨hspell, hwf⟩ := ih rest.length hlt rest rfl
        rw [← hrest, pieces_append_of_wellFormed hp]
        simp only [List.flatMap_cons, hspell, Piece.source, List.mem_cons,
          Piece.placeholder.injEq]
        refine ⟨trivial, ?_⟩
        rintro q (rfl | hq)
        · exact hp
        · exact hwf q hq

/-- A placeholder among the pieces of a source occurs in it. -/
theorem isInfix_of_mem_pieces {source : List Char} {p : Placeholder}
    (h : Piece.placeholder p ∈ pieces source) : p.WellFormed ∧ p.text <:+: source := by
  obtain ⟨hspell, hwf⟩ := pieces_spec source
  refine ⟨hwf p h, ?_⟩
  obtain ⟨front, back, hsplit⟩ := List.append_of_mem h
  refine ⟨front.flatMap Piece.source, back.flatMap Piece.source, ?_⟩
  conv => rhs; rw [← hspell, hsplit]
  simp [Piece.source]

/-- Pieces that are written down are found again, as long as no single character is a brace. -/
theorem pieces_flatMap_source {ps : List Piece} (hchar : ∀ c, Piece.char c ∈ ps → c ≠ '{')
    (hplaceholder : ∀ p, Piece.placeholder p ∈ ps → p.WellFormed) :
    pieces (ps.flatMap Piece.source) = ps := by
  induction ps with
  | nil => exact pieces_nil
  | cons p ps ih =>
    have ih := ih (fun c hc => hchar c (List.mem_cons_of_mem _ hc))
      fun q hq => hplaceholder q (List.mem_cons_of_mem _ hq)
    cases p with
    | char c =>
      have hne := hchar c List.mem_cons_self
      rw [List.flatMap_cons, Piece.source, List.singleton_append,
        pieces_of_none (Placeholder.atHead?_eq_none_of_ne hne _), ih]
    | placeholder p =>
      rw [List.flatMap_cons, Piece.source,
        pieces_append_of_wellFormed (hplaceholder p List.mem_cons_self), ih]

/-! ## Writing the values -/

/-- What a piece becomes. -/
def Piece.value (b : Bindings) : Piece → List Char
  | .char c => [c]
  | .placeholder p => (b.lookup p.identifier).toList

/-- The spans of the values of pieces, of which the first is written at `position`. -/
def valueSpans (b : Bindings) (position : Nat) : List Piece → List Span
  | [] => []
  | .char _ :: ps => valueSpans b (position + 1) ps
  | .placeholder p :: ps =>
    let value := Piece.value b (.placeholder p)
    if value.isEmpty then valueSpans b position ps
    else ⟨position, position + value.length⟩ :: valueSpans b (position + value.length) ps

/-- The values of the placeholders among the pieces, without the empty ones. -/
def boundValues (b : Bindings) : List Piece → List (List Char)
  | [] => []
  | .char _ :: ps => boundValues b ps
  | .placeholder p :: ps =>
    let value := Piece.value b (.placeholder p)
    if value.isEmpty then boundValues b ps else value :: boundValues b ps

/-- Each piece adds its value to the text, and a placeholder also adds the span of the value. -/
theorem foldl_push_eq (b : Bindings) (ps : List Piece) (i : Interpolation) :
    ps.foldl (Interpolation.push b) i =
      { text := (ps.flatMap (Piece.value b)).reverse ++ i.text
        length := i.length + (ps.flatMap (Piece.value b)).length
        spans := (valueSpans b i.length ps).reverse ++ i.spans } := by
  induction ps generalizing i with
  | nil => simp [valueSpans]
  | cons p ps ih =>
    rw [List.foldl_cons, ih]
    cases p with
    | char c =>
      simp [Interpolation.push, Piece.value, valueSpans]
      omega
    | placeholder p =>
      simp only [Interpolation.push, valueSpans, List.flatMap_cons, Piece.value,
        Placeholder.identifier]
      by_cases hempty : (b.lookup (String.ofList p.name)).toList.isEmpty
      · simp [List.isEmpty_iff.1 hempty]
      · simp [hempty, Nat.add_assoc]

/-- Interpolation writes the values of the pieces one behind the other. -/
theorem interpolateSpans_eq (source : List Char) (b : Bindings) :
    interpolateSpans source b =
      ((pieces source).flatMap (Piece.value b), valueSpans b 0 (pieces source)) := by
  rw [interpolateSpans, foldl_push_eq]
  simp

section
variable (b : Bindings)

/-- The spans lie within what is written, and none is empty. -/
theorem bounds_of_mem_valueSpans {position : Nat} {ps : List Piece} {s : Span}
    (h : s ∈ valueSpans b position ps) : position ≤ s.start ∧ s.start < s.stop ∧
      s.stop ≤ position + (ps.flatMap (Piece.value b)).length := by
  induction ps generalizing position with
  | nil => simp [valueSpans] at h
  | cons p ps ih =>
    rw [List.flatMap_cons, List.length_append]
    cases p with
    | char c =>
      have := ih h
      simp only [Piece.value, List.length_cons, List.length_nil]
      omega
    | placeholder p =>
      simp only [valueSpans] at h
      split at h
      · have := ih h
        omega
      · rename_i hne
        have hpos := List.length_pos_iff.2 (by simpa using hne)
        rcases List.mem_cons.1 h with rfl | h
        · dsimp only
          omega
        · have := ih h
          omega

/-- The spans stand in order and do not overlap. -/
theorem separated_valueSpans (position : Nat) (ps : List Piece) :
    Separated (valueSpans b position ps) := by
  refine ⟨fun s hs => (bounds_of_mem_valueSpans b hs).2.1, ?_⟩
  induction ps generalizing position with
  | nil => simp [valueSpans]
  | cons p ps ih =>
    cases p with
    | char c => exact ih (position + 1)
    | placeholder p =>
      simp only [valueSpans]
      split
      · exact ih position
      · exact List.pairwise_cons.2
          ⟨fun s hs => (bounds_of_mem_valueSpans b hs).1, ih _⟩

end

/-- The spans of the values stand in order, and none of them reaches into the next one. -/
theorem separated_interpolateSpans (source : List Char) (b : Bindings) :
    Separated (interpolateSpans source b).2 := by
  rw [interpolateSpans_eq]
  exact separated_valueSpans b 0 _

/-! ## Finding a span again -/

/-- What there is at a position: the span that holds it, which has one place among the spans, or
nothing if none of them holds it. -/
inductive Locates (spans : List Span) (position : Nat) : Option Span → Prop where
  | inside {i : Nat} {s : Span} (hget : spans[i]? = some s)
      (hheld : s.start ≤ position ∧ position < s.stop)
      (hunique : ∀ j t, spans[j]? = some t → t.start ≤ position → position < t.stop → j = i) :
      Locates spans position (some s)
  | outside (hnone : ∀ s ∈ spans, ¬ (s.start ≤ position ∧ position < s.stop)) :
      Locates spans position none

/-- Whatever the source and the bindings are, the search among the spans is exact at every
position. -/
theorem locates_containing (source : List Char) (b : Bindings) (position : Nat) :
    Locates (interpolateSpans source b).2 position
      ((SpanIndex.ofList (interpolateSpans source b).2).containing position) := by
  have hspans := separated_interpolateSpans source b
  cases hfound : (SpanIndex.ofList (interpolateSpans source b).2).containing position with
  | some s =>
    obtain ⟨hmem, hcontains⟩ := (SpanIndex.containing_eq_some_iff hspans).1 hfound
    obtain ⟨i, hi⟩ := List.getElem?_of_mem hmem
    have hheld := Span.contains_iff.1 hcontains
    apply Locates.inside hi hheld
    intro j t hj hstart hstop
    exact hspans.eq_of_contains hj hi ⟨hstart, hstop⟩ hheld
  | none =>
    apply Locates.outside
    intro s hs hheld
    have hsome := (SpanIndex.containing_eq_some_iff hspans).2 ⟨hs, Span.contains_iff.2 hheld⟩
    rw [hfound] at hsome
    exact nomatch hsome

/-- Where two spans touch, the position belongs to the second one. -/
example : (SpanIndex.ofList [⟨0, 2⟩, ⟨2, 4⟩]).containing 2 = some ⟨2, 4⟩ := by
  decide

/-- The characters of a text in a span. -/
def Span.slice (text : List Char) (s : Span) : List Char :=
  between text s.start s.stop

/-- Each span holds the value that it was recorded for. -/
theorem map_slice_valueSpans (b : Bindings) (front : List Char) (ps : List Piece) :
    (valueSpans b front.length ps).map
      (Span.slice (front ++ ps.flatMap (Piece.value b))) = boundValues b ps := by
  induction ps generalizing front with
  | nil => rfl
  | cons p ps ih =>
    have ih := ih (front ++ Piece.value b p)
    rw [List.length_append, List.append_assoc, ← List.flatMap_cons] at ih
    cases p with
    | char c => exact ih
    | placeholder p =>
      simp only [valueSpans, boundValues]
      split
      · rename_i hempty
        simpa only [List.isEmpty_iff.1 hempty, List.length_nil, Nat.add_zero] using ih
      · rw [List.map_cons, ih]
        simp [Span.slice, between, List.drop_take, List.flatMap_cons]

end SealedPage.Flo
