import SealedPage.Html.Builder

/-!
# Texts that are refused

Most texts are read somehow, however broken their markup is. The reader gives up in two places only:
at a marked section of no known kind, and at a number with too many digits. So a text is read if it
holds no beginning of a marked section and no such number, `Refuses.of_ofText`.
-/

namespace SealedPage.Html

open Text

/-- A chain of two steps fails in the first or in the second. -/
theorem of_bind_eq_error {α β ε : Type} {x : Except ε α} {f : α → Except ε β} {e : ε}
    (h : (x >>= f) = .error e) : x = .error e ∨ ∃ a, x = .ok a ∧ f a = .error e := by
  cases x with
  | error e' =>
    obtain rfl : e' = e := Except.error.inj h
    exact Or.inl rfl
  | ok a => exact Or.inr ⟨a, rfl, h⟩

theorem of_map_eq_error {α β ε : Type} {x : Except ε α} {f : α → β} {e : ε}
    (h : x.map f = .error e) : x = .error e := by
  cases x with
  | error e' =>
    obtain rfl : e' = e := Except.error.inj h
    rfl
  | ok a => cases h

/-- A step taken for each element of a list fails at one of them. -/
theorem exists_of_mapM_eq_error {α β ε : Type} {f : α → Except ε β} {as : List α} {e : ε}
    (h : as.mapM f = .error e) : ∃ a ∈ as, f a = .error e := by
  induction as with
  | nil => cases h
  | cons a as ih =>
    rw [List.mapM_cons] at h
    rcases of_bind_eq_error h with ha | ⟨b, -, hrest⟩
    · exact ⟨a, List.mem_cons_self, ha⟩
    · rcases of_bind_eq_error hrest with has | ⟨bs, -, hpure⟩
      · obtain ⟨a', hmem, ha'⟩ := ih has
        exact ⟨a', List.mem_cons_of_mem _ hmem, ha'⟩
      · cases hpure

/-- What a text holds that is refused. -/
inductive Refuses (s : List Char) : ReadError → Prop where
  /-- The beginning of a marked section. -/
  | marked (h : ['<', '!', '['] <:+: s) : Refuses s .rejected
  /-- More digits next to each other than are converted. -/
  | digits {ds : List Char} (h : ds <:+: s) (hdigits : ∀ c ∈ ds, c.isDigit)
    (hlong : maxDigits < ds.length) : Refuses s (.tooManyDigits ds.length)

namespace Refuses

variable {s t : List Char} {e : ReadError}

/-- What refuses a part of a text refuses the text. -/
theorem mono (h : Refuses t e) (hts : t <:+: s) : Refuses s e := by
  cases h with
  | marked h => exact .marked (h.trans hts)
  | digits h hdigits hlong => exact .digits (h.trans hts) hdigits hlong

theorem drop {n : Nat} (h : Refuses (s.drop n) e) : Refuses s e :=
  h.mono (List.drop_suffix n s).isInfix

/-! ## References -/

/-- A decimal number is refused for its many digits alone. -/
theorem of_decimalNumber (h : decimalNumber (s.takeWhile Char.isDigit) = .error e) :
    Refuses s e := by
  unfold decimalNumber at h
  split at h
  · rename_i hlong
    obtain rfl := Except.error.inj h
    exact .digits (List.takeWhile_prefix _).isInfix (List.all_eq_true.1 List.all_takeWhile) hlong
  · cases h

theorem of_numericReference (h : numericReference s = .error e) : Refuses s e := by
  unfold numericReference at h
  dsimp only at h
  split at h
  · split at h
    -- a hexadecimal number is converted however long it is
    · split at h
      · cases h
      · split at h
        · cases h
        · split at h <;> cases h
    · split at h
      · cases h
      · split at h
        · cases h
        · split at h
          · cases h
          · rcases of_bind_eq_error h with hnumber | ⟨n, -, hpure⟩
            · exact (of_decimalNumber hnumber).drop
            · cases hpure
  · cases h

theorem of_reference {final : Bool} (h : reference final s = .error e) : Refuses s e := by
  unfold reference at h
  split at h
  · exact of_numericReference h
  · dsimp only at h
    split at h
    · split at h
      · cases h
      · split at h <;> cases h
    · cases h
  · cases h

theorem of_valueReference? (h : valueReference? s = .error e) : Refuses s e := by
  unfold valueReference? at h
  split at h
  · rename_i x ds
    split at h
    · split at h <;> cases h
    · split at h
      · cases h
      · rcases of_bind_eq_error h with hnumber | ⟨n, -, hpure⟩
        · exact (of_decimalNumber hnumber).mono (List.suffix_cons _ _).isInfix
        · cases hpure
  · split at h <;> cases h

/-- An attribute's value is refused for a number of one of its references. -/
theorem of_decodeValueFrom {done : List Char} {skip : Nat}
    (h : decodeValueFrom done skip s = .error e) : Refuses s e := by
  fun_induction decodeValueFrom done skip s with
  | case1 => cases h
  | case2 done skip c cs ih => exact (ih h).mono (List.suffix_cons c cs).isInfix
  | case3 done cs e' hread =>
    obtain rfl := Except.error.inj h
    exact (of_valueReference? hread).mono (List.suffix_cons _ cs).isInfix
  | case4 done cs hread ih => exact (ih h).mono (List.suffix_cons _ cs).isInfix
  | case5 done cs text length hread ih => exact (ih h).mono (List.suffix_cons _ cs).isInfix
  | case6 done c cs hc ih => exact (ih h).mono (List.suffix_cons c cs).isInfix

/-! ## Attributes -/

theorem of_decodeAttribute {name : List Char} {value : Option (List Char)}
    (h : decodeAttribute (name, value) = .error e) : Refuses (value.getD []) e := by
  rcases of_bind_eq_error h with hread | ⟨v, -, hpure⟩
  · exact of_decodeValueFrom hread
  · cases hpure

end Refuses

/-- A quoted value stands in the text it is read from. -/
theorem value_isInfix_of_quoted {before : Nat} {quote : Char} {cs : List Char} {v : RawValue}
    (h : valueAt?.quoted before quote cs = some v) : v.value <:+: cs := by
  unfold valueAt?.quoted at h
  dsimp only at h
  split at h
  · cases h
  · obtain rfl := Option.some.inj h
    exact (List.takeWhile_prefix _).isInfix

/-- An attribute's value stands in the text it is read from. -/
theorem value_isInfix_of_valueAt? {before : Nat} {cs : List Char} {v : RawValue}
    (h : valueAt? before cs = some v) : v.value <:+: cs := by
  unfold valueAt? at h
  split at h
  · exact (value_isInfix_of_quoted h).trans (List.suffix_cons _ _).isInfix
  · exact (value_isInfix_of_quoted h).trans (List.suffix_cons _ _).isInfix
  · obtain rfl := Option.some.inj h
    exact (List.takeWhile_prefix _).isInfix

/-- The value of an attribute stands in the text. -/
theorem value_isInfix_of_attributeValue? {cs : List Char} {v : RawValue}
    (h : attributeValue? cs = some v) : v.value <:+: cs := by
  unfold attributeValue? at h
  dsimp only at h
  split at h
  · cases h
  · split at h
    · rename_i hread
      obtain rfl := Option.some.inj h
      exact (value_isInfix_of_valueAt? hread).trans (List.drop_suffix _ cs).isInfix
    · split at h
      · obtain rfl := Option.some.inj h
        exact List.nil_infix
      · split at h
        · exact (value_isInfix_of_valueAt? h).trans (List.drop_suffix _ cs).isInfix
        · cases h

/-- Attributes that are found are those from before, and others whose values stand in the text. -/
theorem value_isInfix_of_mem_attributesFrom {done : List (List Char × Option (List Char))}
    {length skip : Nat} {before : Char} {cs : List Char} {p : List Char × Option (List Char)}
    (h : p ∈ (attributesFrom done length before skip cs).attributes) :
    p ∈ done ∨ p.2.getD [] <:+: cs := by
  fun_induction attributesFrom done length before skip cs with
  | case1 => exact Or.inl (by simpa using h)
  | case2 done length before skip c cs ih =>
    exact (ih h).imp_right fun hvalue => hvalue.trans (List.suffix_cons c cs).isInfix
  | case3 done length before c cs hstart =>
    rename_i name behind value _ _ _ ih
    rcases ih h with hmem | hvalue
    · rcases List.mem_cons.1 hmem with rfl | hmem
      · right
        cases hread : attributeValue? behind with
        | none => simp [value, hread]
        | some v =>
          have hbehind := (value_isInfix_of_attributeValue? hread).trans
            (List.drop_suffix _ cs).isInfix
          simpa [value, hread] using hbehind.trans (List.suffix_cons c cs).isInfix
      · exact Or.inl hmem
    · exact Or.inr (hvalue.trans (List.suffix_cons c cs).isInfix)
  | case4 => exact Or.inl (by simpa using h)

/-- Where reading stops the rest of the text is left. -/
theorem rest_isSuffix_of_lexFrom {final : Bool} {done : List Token} {raw : Option RawElement}
    {skip : Nat} {s : List Char} {l : Lexed} (h : lexFrom final done raw skip s = .ok l) :
    l.rest <:+ s := by
  fun_induction lexFrom final done raw skip s with
  | case1 =>
    obtain rfl := Except.ok.inj h
    exact List.suffix_rfl
  | case2 done raw skip c cs ih => exact (ih h).trans (List.suffix_cons c cs)
  | case3 => cases h
  | case4 done raw c cs tokens length raw' hstep ih =>
    exact (ih h).trans (List.suffix_cons c cs)
  | case5 =>
    obtain rfl := Except.ok.inj h
    exact List.drop_suffix _ _

namespace Refuses

variable {s : List Char} {e : ReadError}

/-! ## Markup -/

/-- A start tag is refused for a value of one of its attributes. -/
theorem of_startTag (h : startTag s = .error e) : Refuses s e := by
  -- wherever the attributes begin, only what they hold can be refused
  have hattributes : ∀ {length : Nat} {before : Char} {n m : Nat},
      (attributesFrom [] length before 0 ((s.drop n).drop m)).attributes.mapM decodeAttribute =
        .error e → Refuses s e := by
    intro length before n m hread
    obtain ⟨⟨name, value⟩, hmem, hvalue⟩ := exists_of_mapM_eq_error hread
    have hinfix := (value_isInfix_of_mem_attributesFrom hmem).resolve_left List.not_mem_nil
    exact ((of_decodeAttribute hvalue).mono hinfix).drop.drop
  unfold startTag at h
  dsimp only at h
  split at h
  · rcases of_bind_eq_error h with hread | ⟨_, -, hpure⟩
    · exact hattributes hread
    · cases hpure
  · rcases of_bind_eq_error h with hread | ⟨_, -, hpure⟩
    · exact hattributes hread
    · cases hpure
  · cases h
  · split at h
    · cases h
    · rcases of_bind_eq_error h with hread | ⟨_, -, hpure⟩
      · exact hattributes hread
      · cases hpure

/-- A marked section is refused in one way only. -/
theorem eq_rejected_of_markedSection (h : markedSection s = .error e) : e = .rejected := by
  unfold markedSection at h
  dsimp only at h
  split at h
  · cases h
  · split at h
    · exact (Except.error.inj h).symm
    · split at h
      · cases h
      · split at h
        · cases h
        · split at h
          · cases h
          · exact (Except.error.inj h).symm

/-- A declaration is refused for a marked section. -/
theorem of_declaration (h : declaration ('<' :: '!' :: s) = .error e) :
    Refuses ('<' :: '!' :: s) e := by
  unfold declaration at h
  split at h
  · rename_i hsection
    obtain rfl := eq_rejected_of_markedSection h
    obtain ⟨rest, rfl⟩ : ∃ rest, s = '[' :: rest := by
      rw [List.drop_succ_cons, List.drop_succ_cons, List.drop_zero,
        List.head?_eq_some_iff] at hsection
      exact hsection
    exact .marked ⟨[], rest, rfl⟩
  · split at h
    · split at h <;> cases h
    · split at h <;> cases h

theorem of_bracketStep {final : Bool} (h : bracketStep final ('<' :: s) = .error e) :
    Refuses ('<' :: s) e := by
  unfold bracketStep at h
  split at h
  · rename_i c d rest heq
    obtain ⟨rfl, rfl⟩ := List.cons.inj heq
    split at h
    · exact of_startTag (of_map_eq_error h)
    · split at h
      · cases h
      · split at h
        · rename_i hmark
          subst hmark
          split at h
          · cases h
          · exact of_declaration (of_map_eq_error h)
        · split at h <;> cases h
  · cases h

/-- A step of the lexer is refused for something that stands in the rest of the text. -/
theorem of_step {final : Bool} {raw : Option RawElement} {c : Char}
    (h : step final raw c s = .error e) : Refuses (c :: s) e := by
  unfold step at h
  split at h
  · cases h
  · split at h
    · rename_i hbracket
      subst hbracket
      exact of_bracketStep h
    · split at h
      · exact of_reference (of_map_eq_error h)
      · cases h

/-! ## Whole texts -/

/-- By induction on the text, the lexer is refused for something that stands in it. -/
theorem of_lexFrom {final : Bool} {done : List Token} {raw : Option RawElement} {skip : Nat}
    (h : lexFrom final done raw skip s = .error e) : Refuses s e := by
  fun_induction lexFrom final done raw skip s with
  | case1 => cases h
  | case2 done raw skip c cs ih => exact (ih h).mono (List.suffix_cons c cs).isInfix
  | case3 done raw c cs e' hstep =>
    obtain rfl := Except.error.inj h
    exact of_step hstep
  | case4 done raw c cs tokens length raw' hstep ih =>
    exact (ih h).mono (List.suffix_cons c cs).isInfix
  | case5 => cases h

theorem of_lex (h : lex s = .error e) : Refuses s e := by
  rcases of_bind_eq_error h with hfirst | ⟨first, hfirst, hrest⟩
  · exact of_lexFrom hfirst
  · rcases of_bind_eq_error hrest with hsecond | ⟨second, -, hpure⟩
    -- the second reading takes up what the first one left
    · exact (of_lexFrom hsecond).mono (rest_isSuffix_of_lexFrom hfirst).isInfix
    · cases hpure

/-- A text that is not read holds the beginning of a marked section, or a number that is too
long. -/
theorem of_ofText (h : Document.ofText s = .error e) : Refuses s e :=
  of_lex (of_map_eq_error h)

end Refuses

end SealedPage.Html
