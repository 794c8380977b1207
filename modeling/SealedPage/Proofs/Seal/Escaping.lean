import SealedPage.Proofs.Html.Tag
import SealedPage.Seal.Shell

/-!
# Escaped text is inert

What is put into a page with its special characters escaped is read back as it was, as text,
`lexFrom_escaped`, and as the value of an attribute, `decodeValue_escaped`. None of it is taken for
markup.
-/

namespace SealedPage.Seal

open Html Text

/-- The characters that are escaped. -/
def specials : List Char :=
  ['&', '<', '>', '"', '\'']

/-- The characters of a text as they stand in a page. -/
def escaped (s : List Char) : List Char :=
  s.flatMap escapeChar

/-- A text is escaped character by character. -/
theorem toList_escape (s : String) : (escape s).toList = escaped s.toList := by
  rw [escape, String.toList_ofList, escaped]

/-- Other characters than the special ones stay. -/
theorem escapeChar_of_not_mem {c : Char} (h : c ∉ specials) : escapeChar c = [c] := by
  simp only [specials, List.mem_cons, List.not_mem_nil, or_false, not_or] at h
  obtain ⟨hamp, hlt, hgt, hquot, hapos⟩ := h
  rw [escapeChar, if_neg hamp, if_neg hlt, if_neg hgt, if_neg hquot, if_neg hapos]

/-- A text without special characters stands in a page as it is. -/
theorem escaped_of_forall_not_mem {s : List Char} (h : ∀ c ∈ s, c ∉ specials) : escaped s = s := by
  induction s with
  | nil => rfl
  | cons c s ih =>
    obtain ⟨hc, hs⟩ := List.forall_mem_cons.1 h
    have ih := ih hs
    rw [escaped] at ih ⊢
    rw [List.flatMap_cons, escapeChar_of_not_mem hc, ih, List.singleton_append]

/-- A special character is written as a reference that names it, in text and in values. -/
theorem exists_escapeChar_eq {c : Char} (h : c ∈ specials) :
    ∃ name, escapeChar c = '&' :: (name ++ [';']) ∧
      (∀ (final : Bool) (rest : List Char), reference final ('&' :: (name ++ ';' :: rest)) =
        .ok (.text [c] (name.length + 2))) ∧
      ∀ rest, valueReference? (name ++ ';' :: rest) = .ok (some ([c], name.length + 1)) := by
  simp only [specials, List.mem_cons, List.not_mem_nil, or_false] at h
  rcases h with rfl | rfl | rfl | rfl | rfl
  · exact ⟨['a', 'm', 'p'], rfl, fun _ _ => rfl, fun _ => rfl⟩
  · exact ⟨['l', 't'], rfl, fun _ _ => rfl, fun _ => rfl⟩
  · exact ⟨['g', 't'], rfl, fun _ _ => rfl, fun _ => rfl⟩
  · exact ⟨['#', '3', '4'], rfl, fun _ _ => rfl, fun _ => rfl⟩
  · exact ⟨['#', '3', '9'], rfl, fun _ _ => rfl, fun _ => rfl⟩

/-- An escaped character is no bracket and no quote. -/
theorem not_mem_escapeChar {c d : Char} (hd : d ∈ ['<', '>', '"', '\'']) : d ∉ escapeChar c := by
  by_cases hc : c ∈ specials
  · simp only [specials, List.mem_cons, List.not_mem_nil, or_false] at hc hd
    rcases hc with rfl | rfl | rfl | rfl | rfl <;>
      rcases hd with rfl | rfl | rfl | rfl <;> decide
  · rw [escapeChar_of_not_mem hc, List.mem_singleton]
    rintro rfl
    simp only [List.mem_cons, List.not_mem_nil, or_false] at hd
    exact hc (by rcases hd with rfl | rfl | rfl | rfl <;> decide)

/-- No bracket and no quote stands in an escaped text. -/
theorem not_mem_escaped {s : List Char} {d : Char} (hd : d ∈ ['<', '>', '"', '\'']) :
    d ∉ escaped s := by
  rw [escaped, List.mem_flatMap]
  rintro ⟨c, -, hc⟩
  exact not_mem_escapeChar hd hc

/-! ## Values -/

theorem decodeValueFrom_skip (done passed rest : List Char) :
    decodeValueFrom done passed.length (passed ++ rest) = decodeValueFrom done 0 rest := by
  induction passed with
  | nil => rfl
  | cons c passed ih => exact ih

/-- An escaped text decodes to the text. -/
theorem decodeValueFrom_escaped (done s : List Char) :
    decodeValueFrom done 0 (escaped s) = .ok (done.reverse ++ s) := by
  induction s generalizing done with
  | nil => simp [escaped, decodeValueFrom]
  | cons c s ih =>
    have hcons : escaped (c :: s) = escapeChar c ++ escaped s := by
      rw [escaped, List.flatMap_cons, ← escaped]
    by_cases hc : c ∈ specials
    · obtain ⟨name, hwrite, -, hread⟩ := exists_escapeChar_eq hc
      have htext : escaped (c :: s) = '&' :: ((name ++ [';']) ++ escaped s) := by
        rw [hcons, hwrite, List.cons_append]
      have hlength : name.length + 1 = (name ++ [';']).length := by simp
      have hread := hread (escaped s)
      rw [← List.singleton_append, ← List.append_assoc] at hread
      rw [htext, decodeValueFrom, if_pos rfl, hread]
      dsimp only
      rw [hlength, decodeValueFrom_skip, ih]
      simp
    · have hamp : c ≠ '&' := by
        rintro rfl
        exact hc (by decide)
      rw [hcons, escapeChar_of_not_mem hc, List.singleton_append, decodeValueFrom, if_neg hamp, ih]
      simp

/-- An escaped text is the value that it was. -/
theorem decodeValue_escaped (s : List Char) : decodeValue (escaped s) = .ok s := by
  rw [decodeValue, decodeValueFrom_escaped]
  rfl

/-- An attribute with any value. -/
def escapedAttribute (name value : String) (h : isPlainName name.toList) : Attribute where
  name
  written := some (escaped value.toList)
  value
  isPlain := h
  unquoted := by
    intro text htext
    rw [← Option.some.inj htext]
    exact not_mem_escaped (by decide)
  decodes := decodeValue_escaped value.toList

@[simp]
theorem behindBlank_escapedAttribute {name : String} (value : String)
    (hname : isPlainName name.toList) :
    (escapedAttribute name value hname).behindBlank =
      ' ' :: (name.toList ++ '=' :: '"' :: (escaped value.toList ++ ['"'])) :=
  rfl

/-! ## Text -/

/-- A reference to a special character is a text. -/
theorem lexFrom_escapeChar (final : Bool) (done : List Token) {c : Char} (hc : c ∈ specials)
    (rest : List Char) :
    lexFrom final done none 0 (escapeChar c ++ rest) =
      lexFrom final (.text [c] :: done) none 0 rest := by
  obtain ⟨name, hwrite, hread, -⟩ := exists_escapeChar_eq hc
  have hstep : step final none '&' ((name ++ [';']) ++ rest) =
      .ok (.next [.text [c]] ('&' :: (name ++ [';'])).length none) := by
    have hamp : step final none '&' ((name ++ [';']) ++ rest) =
        ampersandStep final ('&' :: ((name ++ [';']) ++ rest)) :=
      rfl
    rw [hamp, ampersandStep, List.append_assoc, List.singleton_append, hread]
    simp [Except.map, textTokens]
  rw [hwrite]
  exact lexFrom_of_step hstep done

/-- Text in front of which a run of other text stands is read with it. -/
theorem lexFrom_run_escaped (final : Bool) (s : List Char) {rest : List Char}
    (hrest : Stops isPlain rest) :
    ∀ run : List Char, (∀ c ∈ run, isPlain c) →
      ∃ parts : List (List Char), parts.flatten = run ++ s ∧ (∀ part ∈ parts, part ≠ []) ∧
        ∀ done, lexFrom final done none 0 (run ++ (escaped s ++ rest)) =
          lexFrom final ((parts.map Token.text).reverse ++ done) none 0 rest := by
  -- the parts of a run in front of something else
  have hpart : ∀ {run rest : List Char}, (∀ c ∈ run, isPlain c) → Stops isPlain rest →
      ∃ parts : List (List Char), parts.flatten = run ∧ (∀ part ∈ parts, part ≠ []) ∧
        ∀ done, lexFrom final done none 0 (run ++ rest) =
          lexFrom final ((parts.map Token.text).reverse ++ done) none 0 rest := by
    intro run rest hrun hrest
    by_cases hne : run = []
    · subst hne
      exact ⟨[], rfl, by simp, fun done => rfl⟩
    · exact ⟨[run], by simp, by simpa using hne,
        fun done => lexFrom_plain final done hne hrun hrest⟩
  induction s with
  | nil =>
    intro run hrun
    obtain ⟨parts, hflatten, hne, hread⟩ := hpart hrun hrest
    exact ⟨parts, by rw [hflatten, List.append_nil], hne, hread⟩
  | cons c s ih =>
    intro run hrun
    have hcons : escaped (c :: s) ++ rest = escapeChar c ++ (escaped s ++ rest) := by
      rw [escaped, List.flatMap_cons, List.append_assoc, ← escaped]
    by_cases hc : c ∈ specials
    · obtain ⟨name, hwrite, -⟩ := exists_escapeChar_eq hc
      have hstops : Stops isPlain (escapeChar c ++ (escaped s ++ rest)) := by
        rw [hwrite]
        exact stops_cons.2 rfl
      obtain ⟨parts, hflatten, hne, hread⟩ := hpart hrun hstops
      obtain ⟨parts', hflatten', hne', hread'⟩ := ih [] (by simp)
      refine ⟨parts ++ [c] :: parts', ?_, ?_, fun done => ?_⟩
      · simp [hflatten, hflatten']
      · simpa [or_imp, forall_and] using ⟨hne, hne'⟩
      · rw [hcons, hread, lexFrom_escapeChar final _ hc]
        rw [List.nil_append] at hread'
        rw [hread']
        simp
    · have hplain : isPlain c := by
        have hangle : c ≠ '<' := by
          rintro rfl
          exact hc (by decide)
        have hamp : c ≠ '&' := by
          rintro rfl
          exact hc (by decide)
        simp [isPlain, hangle, hamp]
      have hrun' : ∀ d ∈ run ++ [c], isPlain d := by
        simpa [or_imp, forall_and] using ⟨hrun, hplain⟩
      obtain ⟨parts, hflatten, hne, hread⟩ := ih (run ++ [c]) hrun'
      refine ⟨parts, by simpa using hflatten, hne, fun done => ?_⟩
      rw [hcons, escapeChar_of_not_mem hc, ← hread]
      simp

/-- Escaped text is read as pieces of the text it was, and as nothing else. -/
theorem lexFrom_escaped (final : Bool) (s : List Char) {rest : List Char}
    (hrest : Stops isPlain rest) :
    ∃ parts : List (List Char), parts.flatten = s ∧ (∀ part ∈ parts, part ≠ []) ∧
      ∀ done, lexFrom final done none 0 (escaped s ++ rest) =
        lexFrom final ((parts.map Token.text).reverse ++ done) none 0 rest :=
  lexFrom_run_escaped final s hrest [] (by simp)

end SealedPage.Seal
