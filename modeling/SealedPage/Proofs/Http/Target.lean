import Mathlib.Data.List.TakeWhile
import SealedPage.Http.Target
import SealedPage.Proofs.Text.Utf8

/-!
# Plain targets

A target made of plain segments, without any character that means something in a target, is its own
path: `pathOfTarget_pathOf`. Nothing in it is decoded, taken for a query or a host, or resolved.
-/

namespace SealedPage.Http

/-- Whether a character stands for itself wherever it is in a target. -/
def isPlainChar (c : Char) : Bool :=
  0x20 < c.toNat && c.toNat < 0x7F && c != '/' && c != '?' && c != '#' && c != '%' && c != ':'

/-- Whether a segment stays as it is: plain characters, at least one, and no dots alone. -/
def isPlainSegment (segment : List Char) : Bool :=
  segment.all isPlainChar && !segment.isEmpty && segment != ['.'] && segment != ['.', '.']

/-- The path of segments. -/
def pathOf (segments : List (List Char)) : List Char :=
  segments.flatMap fun segment => '/' :: segment

section

variable {segments : List (List Char)} (h : ∀ segment ∈ segments, isPlainSegment segment)

include h

/-- A path made of plain segments holds slashes and plain characters. -/
theorem isPlainChar_of_mem_pathOf {c : Char} (hc : c ∈ pathOf segments) :
    c = '/' ∨ isPlainChar c := by
  obtain ⟨segment, hsegment, hc⟩ := List.mem_flatMap.1 hc
  have hplain := h segment hsegment
  simp only [isPlainSegment, Bool.and_eq_true, List.all_eq_true] at hplain
  exact (List.mem_cons.1 hc).imp_right (hplain.1.1.1 c)

/-- A path made of plain segments is printable ASCII. -/
theorem toNat_of_mem_pathOf {c : Char} (hc : c ∈ pathOf segments) :
    0x20 < c.toNat ∧ c.toNat < 0x7F := by
  rcases isPlainChar_of_mem_pathOf h hc with rfl | hplain
  · decide
  · simp only [isPlainChar, Bool.and_eq_true, decide_eq_true_eq] at hplain
    exact hplain.1.1.1.1.1

/-! ## Percent encoding -/

omit h in
theorem percentDecode_of_not_mem {bytes : List UInt8} (hbytes : 0x25 ∉ bytes) :
    percentDecode bytes = bytes := by
  induction bytes with
  | nil => rfl
  | cons b bytes ih =>
    obtain ⟨hb, hbytes⟩ : 0x25 ≠ b ∧ 0x25 ∉ bytes := by simpa using hbytes
    have hstep : percentDecode (b :: bytes) = b :: percentDecode bytes := by
      rw [percentDecode]
      rintro a' b' rest rfl
      exact absurd rfl hb
    rw [hstep, ih hbytes]

/-- A path made of plain segments decodes to itself. -/
theorem decodeText_pathOf : decodeText (pathOf segments) = pathOf segments := by
  have hascii : ∀ c ∈ pathOf segments, c.toNat < 0x80 := by
    intro c hc
    have := toNat_of_mem_pathOf h hc
    omega
  have hpercent : 0x25 ∉ Text.Utf8.encode (pathOf segments) := by
    refine Text.Utf8.not_mem_encode hascii (d := '%') (by decide) fun hmem => ?_
    rcases isPlainChar_of_mem_pathOf h hmem with hslash | hplain
    · exact absurd hslash (by decide)
    · exact absurd hplain (by decide)
  rw [decodeText, percentDecode_of_not_mem hpercent, Text.Utf8.decodeLossy,
    Text.Utf8.decode_encode]

/-! ## Segments -/

/-- The segments of such a path are the ones it is made of. -/
theorem segmentsFrom_pathOf (segment : List Char) {run : List Char} (hrun : '/' ∉ run) :
    segmentsFrom segment (run ++ pathOf segments) = (segment.reverse ++ run) :: segments := by
  induction segments generalizing segment run with
  | nil =>
    induction run generalizing segment with
    | nil => simp [pathOf, segmentsFrom]
    | cons c run ih =>
      obtain ⟨hc, hrun⟩ : '/' ≠ c ∧ '/' ∉ run := by simpa using hrun
      rw [List.cons_append, segmentsFrom, if_neg hc.symm, ih _ hrun]
      simp
  | cons next segments ihs =>
    obtain ⟨hnext, hsegments⟩ := List.forall_mem_cons.1 h
    have hslash : '/' ∉ next := by
      simp only [isPlainSegment, Bool.and_eq_true, List.all_eq_true] at hnext
      exact fun hmem => absurd (hnext.1.1.1 _ hmem) (by decide)
    induction run generalizing segment with
    | nil =>
      rw [List.nil_append, pathOf, List.flatMap_cons, ← pathOf, List.cons_append, segmentsFrom,
        if_pos rfl, ihs hsegments _ hslash, List.append_nil]
      rfl
    | cons c run ih =>
      obtain ⟨hc, hrun⟩ : '/' ≠ c ∧ '/' ∉ run := by simpa using hrun
      rw [List.cons_append, segmentsFrom, if_neg hc.symm, ih _ hrun]
      simp

/-- No plain segment is a dot segment, so that all are taken. -/
theorem foldl_takeSegment (done : List (List Char)) :
    segments.foldl takeSegment done = segments.reverse ++ done := by
  induction segments generalizing done with
  | nil => rfl
  | cons segment segments ih =>
    obtain ⟨hsegment, hsegments⟩ := List.forall_mem_cons.1 h
    simp only [isPlainSegment, Bool.and_eq_true, bne_iff_ne, ne_eq] at hsegment
    have htake : takeSegment done segment = segment :: done := by
      unfold takeSegment
      rw [if_neg hsegment.1.2, if_neg hsegment.2]
    rw [List.foldl_cons, htake, ih hsegments, List.reverse_cons, List.append_assoc,
      List.singleton_append]

omit h in
theorem intercalate_pathOf (first : List Char) :
    ['/'].intercalate (first :: segments) = first ++ pathOf segments := by
  induction segments generalizing first with
  | nil => simp [pathOf, List.intercalate]
  | cons segment segments ih =>
    have hcons := ih segment
    rw [List.intercalate] at hcons ⊢
    rw [List.intersperse_cons_cons, List.flatten_cons, List.flatten_cons, hcons]
    simp [pathOf]

theorem dropDotSegments_pathOf : dropDotSegments (pathOf segments) = pathOf segments := by
  have hsegments := segmentsFrom_pathOf h [] (List.not_mem_nil : '/' ∉ ([] : List Char))
  rw [List.nil_append] at hsegments
  rw [dropDotSegments, hsegments, List.foldl_cons, foldl_takeSegment h]
  have hfirst : takeSegment [] ([].reverse ++ []) = [[]] := rfl
  rw [hfirst, List.reverse_append, List.reverse_reverse]
  exact intercalate_pathOf []

/-- The first character behind the slash is no slash, so no host begins there. -/
theorem exists_pathOf_eq (hne : segments ≠ []) :
    ∃ c cs, pathOf segments = '/' :: c :: cs ∧ c ≠ '/' := by
  cases segments with
  | nil => exact absurd rfl hne
  | cons segment segments =>
    have hsegment := (List.forall_mem_cons.1 h).1
    simp only [isPlainSegment, Bool.and_eq_true] at hsegment
    cases segment with
    | nil => simp at hsegment
    | cons c cs =>
      have hall := hsegment.1.1.1
      rw [List.all_cons, Bool.and_eq_true] at hall
      refine ⟨c, _, rfl, ?_⟩
      rintro rfl
      exact absurd hall.1 (by decide)

/-- A request for such a path asks for the path itself. -/
theorem decodePath_pathOf (hne : segments ≠ []) :
    decodePath (pathOf segments) = pathOf segments := by
  obtain ⟨c, cs, hcs, -⟩ := exists_pathOf_eq h hne
  have hdecoded : decodeText (decodeText (pathOf segments)) = pathOf segments := by
    rw [decodeText_pathOf h, decodeText_pathOf h]
  rw [decodePath, dropDotSegments_pathOf h]
  rw [hcs] at hdecoded ⊢
  exact hdecoded

/-! ## Targets -/

theorem dropQuery_pathOf : dropQuery (pathOf segments) = pathOf segments := by
  rw [dropQuery, List.takeWhile_eq_self_iff]
  intro c hc
  rcases isPlainChar_of_mem_pathOf h hc with rfl | hplain
  · decide
  · simp only [isPlainChar, Bool.and_eq_true] at hplain
    rw [hplain.1.1.1.2, hplain.1.1.2]
    rfl

/-- As the target of a request, such a path has no scheme and no authority. -/
theorem ofText_pathOf (hne : segments ≠ []) :
    Target.ofText (pathOf segments) = ⟨[], [], pathOf segments⟩ := by
  obtain ⟨c, cs, hcs, hc⟩ := exists_pathOf_eq h hne
  have hscheme : splitScheme ('/' :: c :: cs) = ([], '/' :: c :: cs) := rfl
  have hhost : splitHost ('/' :: c :: cs) = ([], '/' :: c :: cs) := by
    unfold splitHost
    split
    · rename_i heq
      exact absurd (List.cons.inj (List.cons.inj heq).2).1 hc
    · rfl
  rw [Target.ofText, dropQuery_pathOf h, hcs, hscheme]
  dsimp only
  rw [hhost]

theorem error?_pathOf (hne : segments ≠ []) :
    Target.error? ⟨[], [], pathOf segments⟩ = none := by
  obtain ⟨c, cs, hcs, hc⟩ := exists_pathOf_eq h hne
  rw [hcs]
  unfold Target.error?
  dsimp only
  split
  · rfl
  · split
    · rename_i heq
      exact absurd (List.cons.inj (List.cons.inj heq).2).1 hc
    · rename_i heq
      exact absurd (List.cons.inj heq).1 (by decide)
    · rfl

theorem place_pathOf (hne : segments ≠ []) :
    Target.place ⟨[], [], pathOf segments⟩ = pathOf segments := by
  obtain ⟨c, cs, hcs, hc⟩ := exists_pathOf_eq h hne
  have hslash : (c == '/') = false := by simpa using hc
  rw [hcs, Target.place]
  simp [hslash]

/-- A target of plain segments is its own path. -/
theorem pathOfTarget_pathOf (hne : segments ≠ []) :
    pathOfTarget (String.ofList (pathOf segments)) = .ok (pathOf segments) := by
  have hcontrol : (pathOf segments).findIdx? isControl = none := by
    rw [List.findIdx?_eq_none_iff]
    intro c hc
    have := toNat_of_mem_pathOf h hc
    simp only [isControl, Bool.or_eq_false_iff, decide_eq_false_iff_not, beq_eq_false_iff_ne]
    omega
  rw [pathOfTarget, String.toList_ofList, hcontrol]
  dsimp only
  rw [ofText_pathOf h hne, error?_pathOf h hne, place_pathOf h hne, decodePath_pathOf h hne]

end

end SealedPage.Http
