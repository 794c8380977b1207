import Mathlib.Data.Nat.Digits.Defs
import SealedPage.Json.Reader
import SealedPage.Json.Writer
import SealedPage.Proofs.Text.Run

/-!
# Strings and integers in JSON

What is written for a string or an integer is read as this string or integer again, whatever stands
behind it: `stringFrom_escaped` and `number_intText`. An integer with more digits than are converted
is told apart from a text that is no JSON, `rereadInt`.
-/

namespace SealedPage.Json

open Text

/-! ## Strings -/

/-- The digit of a number below sixteen has that number as its value. -/
theorem hexValue?_hexDigit (n : Nat) : hexValue? (hexDigit n) = some (n % 16) := by
  have hall : ∀ k < 16, hexValue? (Nat.digitChar k) = some k := by decide
  exact hall (n % 16) (Nat.mod_lt n (by omega))

theorem unitChar_toNat (c : Char) : unitChar c.toNat = c := by
  have hvalid : c.toNat.isValidChar := c.valid
  rw [unitChar, if_pos hvalid, Char.ofNat_toNat]

/-- The escape of a control character stands for it. -/
theorem unicodeEscape?_control {c : Char} (hc : c.toNat < 0x20) (rest : List Char) :
    unicodeEscape? ('0' :: '0' :: hexDigit (c.toNat / 16) :: hexDigit c.toNat :: rest) =
      some (c, rest) := by
  have hzero : hexValue? '0' = some 0 := by decide
  have hunit : 0 * 4096 + 0 * 256 + c.toNat / 16 % 16 * 16 + c.toNat % 16 = c.toNat := by omega
  have hlow : ¬ (0xD800 ≤ c.toNat ∧ c.toNat < 0xDC00) := by omega
  simp only [unicodeEscape?, codeUnit?, hzero, hexValue?_hexDigit, hunit, Bool.and_eq_true,
    decide_eq_true_eq, if_neg hlow, unitChar_toNat]

/-- The letters that stand for a character of their own behind a backslash. -/
def escapeLetters : List Char :=
  ['"', '\\', 'n', 'r', 't', 'b', 'f']

/-- A character is written with a letter, with its number, or as it is. -/
theorem escapeChar_cases (c : Char) :
    (∃ e ∈ escapeLetters, simpleEscape? e = some c ∧ escapeChar c = ['\\', e]) ∨
      (c.toNat < 0x20 ∧
        escapeChar c = ['\\', 'u', '0', '0', hexDigit (c.toNat / 16), hexDigit c.toNat]) ∨
      (c ≠ '"' ∧ c ≠ '\\' ∧ 0x20 ≤ c.toNat ∧ escapeChar c = [c]) := by
  by_cases hletter : c ∈ ['"', '\\', '\n', '\r', '\t', '\x08', '\x0C']
  · left
    -- these have a letter of their own, also those that are control characters
    simp only [List.mem_cons, List.not_mem_nil, or_false] at hletter
    rcases hletter with rfl | rfl | rfl | rfl | rfl | rfl | rfl
    · exact ⟨'"', by decide, rfl, rfl⟩
    · exact ⟨'\\', by decide, rfl, rfl⟩
    · exact ⟨'n', by decide, rfl, rfl⟩
    · exact ⟨'r', by decide, rfl, rfl⟩
    · exact ⟨'t', by decide, rfl, rfl⟩
    · exact ⟨'b', by decide, rfl, rfl⟩
    · exact ⟨'f', by decide, rfl, rfl⟩
  · right
    simp only [List.mem_cons, List.not_mem_nil, or_false, not_or] at hletter
    obtain ⟨hquote, hbackslash, hline, hreturn, htab, hback, hfeed⟩ := hletter
    by_cases hcontrol : c.toNat < 0x20
    · left
      simp [escapeChar, hquote, hbackslash, hline, hreturn, htab, hback, hfeed, hcontrol]
    · right
      refine ⟨hquote, hbackslash, by omega, ?_⟩
      simp [escapeChar, hquote, hbackslash, hline, hreturn, htab, hback, hfeed, hcontrol]

/-- However a character is written, it takes one round to read it. -/
theorem stringFrom_escapeChar (done : List Char) (fuel : Nat) (c : Char) (rest : List Char) :
    stringFrom done (fuel + 1) (escapeChar c ++ rest) = stringFrom (c :: done) fuel rest := by
  rcases escapeChar_cases c with ⟨e, he, hread, h⟩ | ⟨hcontrol, h⟩ | ⟨hquote, hbackslash, hle, h⟩
  · have hletters : ∀ e ∈ escapeLetters, e ≠ 'u' := by simp [escapeLetters]
    rw [h]
    simp [stringFrom, hletters e he, hread]
  · have hescape := unicodeEscape?_control hcontrol rest
    rw [h]
    simp [stringFrom, hescape]
  · have hcontrol : ¬ c.toNat < 0x20 := by omega
    rw [h]
    simp [stringFrom, hquote, hbackslash, hcontrol]

/-- A string that is escaped is read back up to its quote. -/
theorem stringFrom_escaped {s : List Char} (done : List Char) {fuel : Nat} (hfuel : s.length < fuel)
    (rest : List Char) :
    stringFrom done fuel (s.flatMap escapeChar ++ '"' :: rest) =
      some (String.ofList (done.reverse ++ s), rest) := by
  induction s generalizing done fuel with
  | nil =>
    obtain ⟨fuel, rfl⟩ := Nat.exists_eq_succ_of_ne_zero (Nat.ne_zero_of_lt hfuel)
    simp [stringFrom]
  | cons c s ih =>
    obtain ⟨fuel, rfl⟩ := Nat.exists_eq_succ_of_ne_zero (Nat.ne_zero_of_lt hfuel)
    rw [List.flatMap_cons, List.append_assoc, stringFrom_escapeChar,
      ih (c :: done) (Nat.lt_of_succ_lt_succ hfuel), List.reverse_cons, List.append_assoc,
      List.singleton_append]

/-- A quoted string is its escaped characters between quotes. -/
theorem toList_quote (s : String) :
    (quote s).toList = '"' :: (s.toList.flatMap escapeChar ++ ['"']) := by
  rw [quote, String.toList_ofList]

/-- Escaping makes no string shorter. -/
theorem length_le_length_escaped (s : List Char) : s.length ≤ (s.flatMap escapeChar).length := by
  induction s with
  | nil => exact Nat.le_refl _
  | cons c s ih =>
    have hone : 1 ≤ (escapeChar c).length := by
      rcases escapeChar_cases c with ⟨e, -, -, h⟩ | ⟨-, h⟩ | ⟨-, -, -, h⟩
      · rw [h]
        simp
      · rw [h]
        simp
      · rw [h]
        simp
    rw [List.flatMap_cons, List.length_append, List.length_cons]
    omega

/-- A string in quotes is read behind its first quote. -/
theorem stringFrom_quote {s : String} {fuel : Nat} (hfuel : (quote s).toList.length ≤ fuel + 1)
    (rest : List Char) :
    ∃ cs, (quote s).toList ++ rest = '"' :: cs ∧ stringFrom [] fuel cs = some (s, rest) := by
  refine ⟨s.toList.flatMap escapeChar ++ '"' :: rest, ?_, ?_⟩
  · rw [toList_quote]
    simp
  · -- a character takes one round, and at least one character of the text
    have hle := length_le_length_escaped s.toList
    rw [toList_quote] at hfuel
    simp only [List.length_cons, List.length_append, List.length_nil] at hfuel
    rw [stringFrom_escaped [] (by omega), List.reverse_nil, List.nil_append, String.ofList_toList]

/-- Nothing that is written for a character is a control character. -/
theorem le_toNat_of_mem_escapeChar {c d : Char} (h : d ∈ escapeChar c) : 0x20 ≤ d.toNat := by
  have hdigit : ∀ k < 16, 0x20 ≤ (Nat.digitChar k).toNat := by decide
  have hhex : ∀ n, 0x20 ≤ (hexDigit n).toNat := by
    intro n
    exact hdigit (n % 16) (Nat.mod_lt n (by omega))
  rcases escapeChar_cases c with ⟨e, he, -, hc⟩ | ⟨-, hc⟩ | ⟨-, -, hle, hc⟩
  · have hletter : ∀ e ∈ escapeLetters, 0x20 ≤ e.toNat := by simp [escapeLetters]
    rw [hc] at h
    rcases List.mem_cons.1 h with rfl | hd
    · decide
    · rw [List.mem_singleton.1 hd]
      exact hletter e he
  · rw [hc] at h
    simp only [List.mem_cons, List.not_mem_nil, or_false] at h
    rcases h with rfl | rfl | rfl | rfl | rfl | rfl
    · decide
    · decide
    · decide
    · decide
    · exact hhex _
    · exact hhex _
  · rw [hc] at h
    rw [List.mem_singleton.1 h]
    exact hle

theorem le_toNat_of_mem_quote {s : String} {d : Char} (h : d ∈ (quote s).toList) :
    0x20 ≤ d.toNat := by
  rw [toList_quote, List.mem_cons, List.mem_append, List.mem_singleton, List.mem_flatMap] at h
  rcases h with rfl | ⟨c, -, hc⟩ | rfl
  · decide
  · exact le_toNat_of_mem_escapeChar hc
  · decide

/-! ## Integers -/

/-- Whether a character goes on with a number. -/
def continuesNumber (c : Char) : Bool :=
  c.isDigit || c == '.' || c == 'e' || c == 'E'

theorem fractionPart?_of_stops {rest : List Char} (h : Stops continuesNumber rest) :
    fractionPart? rest = none := by
  unfold fractionPart?
  split
  · rw [stops_cons] at h
    simp [continuesNumber] at h
  · rfl

theorem exponentPart?_of_stops {rest : List Char} (h : Stops continuesNumber rest) :
    exponentPart? rest = none := by
  cases rest with
  | nil => rfl
  | cons c rest =>
    rw [stops_cons] at h
    have hmark : ¬ ((c = 'e' || c = 'E') = true) := by
      intro hc
      simp only [continuesNumber, Bool.or_eq_false_iff, beq_eq_false_iff_ne] at h
      simp [h.1.2, h.2] at hc
    exact if_neg hmark

theorem digitsValue_toDigits (n : Nat) : digitsValue (Nat.toDigits 10 n) = n :=
  Nat.ofDigitChars_toDigits (by omega) (by omega)

theorem isDigit_of_mem_toDigits {n : Nat} : ∀ c ∈ Nat.toDigits 10 n, c.isDigit := by
  intro c hc
  exact Nat.isDigit_of_mem_toDigits (by omega) (by omega) hc

/-- Only zero is written with a zero in front. -/
theorem toDigits_cases (n : Nat) :
    Nat.toDigits 10 n = ['0'] ∨ ∃ d ds, Nat.toDigits 10 n = d :: ds ∧ d ≠ '0' := by
  induction n using Nat.strongRecOn with
  | ind n ih =>
    by_cases hn : n < 10
    · rw [Nat.toDigits_of_lt_base hn]
      have hall : ∀ k < 10, Nat.digitChar k = '0' ∨ Nat.digitChar k ≠ '0' := by decide
      rcases hall n hn with h | h
      · exact Or.inl (by rw [h])
      · exact Or.inr ⟨_, [], rfl, h⟩
    · right
      rw [Nat.toDigits_of_base_le (by omega) (by omega)]
      rcases ih (n / 10) (by omega) with h | ⟨d, ds, h, hd⟩
      · -- the digits in front would write zero, but `n` has more than one digit
        have hvalue := digitsValue_toDigits (n / 10)
        rw [h] at hvalue
        have hzero : digitsValue ['0'] = 0 := by decide
        omega
      · exact ⟨d, ds ++ [(n % 10).digitChar], by rw [h, List.cons_append], hd⟩

/-- The decimal digits of a number are read up to where they stop. -/
theorem wholePart?_toDigits {rest : List Char} (h : Stops Char.isDigit rest) (n : Nat) :
    wholePart? (Nat.toDigits 10 n ++ rest) = some (Nat.toDigits 10 n, rest) := by
  have hdigits : ∀ c ∈ Nat.toDigits 10 n, c.isDigit := isDigit_of_mem_toDigits
  rcases toDigits_cases n with hzero | ⟨d, ds, hds, hd⟩
  · rw [hzero]
    rfl
  · have htake := takeWhile_append_of_stops hdigits h
    have hdrop := dropWhile_append_of_stops hdigits h
    rw [hds] at hdigits htake hdrop ⊢
    rw [List.cons_append] at htake hdrop ⊢
    have hdigit : d.isDigit := hdigits d List.mem_cons_self
    unfold wholePart?
    split
    · rename_i heq
      exact absurd (List.cons.inj heq).1 hd
    · rename_i heq
      obtain ⟨rfl, rfl⟩ := List.cons.inj heq
      rw [if_pos hdigit, digits, htake, hdrop]
    · rename_i heq
      exact nomatch heq

theorem le_toNat_of_isDigit {c : Char} (h : c.isDigit) : 0x20 ≤ c.toNat := by
  have hbound : 48 ≤ c.toNat ∧ c.toNat ≤ 57 := by
    simpa [Char.isDigit, UInt32.le_iff_toNat_le] using h
  omega

/-- A number has few digits if and only if it is below a power of ten. -/
theorem digitCount_le_iff {n k : Nat} (hk : 0 < k) : digitCount n ≤ k ↔ n < 10 ^ k := by
  rw [digitCount, Int.natAbs_natCast, Nat.length_toDigits_le_iff (by omega) hk]

/-- An integer is written as its sign and its decimal digits. -/
theorem toList_intText (n : Int) :
    (intText n).toList = (if n < 0 then ['-'] else []) ++ Nat.toDigits 10 n.natAbs := by
  have hrepr : (Nat.repr n.natAbs).toList = Nat.toDigits 10 n.natAbs := String.toList_ofList
  unfold intText
  split
  · rw [String.toList_append, hrepr]
    rfl
  · rw [hrepr, List.nil_append]

theorem le_toNat_of_mem_intText {n : Int} {d : Char} (h : d ∈ (intText n).toList) :
    0x20 ≤ d.toNat := by
  rw [toList_intText, List.mem_append] at h
  rcases h with h | h
  · split at h
    · rw [List.mem_singleton.1 h]
      decide
    · exact nomatch h
  · exact le_toNat_of_isDigit (isDigit_of_mem_toDigits d h)

theorem stops_isDigit {rest : List Char} (h : Stops continuesNumber rest) :
    Stops Char.isDigit rest := by
  intro c hc
  have hcontinues := h c hc
  simp only [continuesNumber, Bool.or_eq_false_iff] at hcontinues
  exact hcontinues.1.1.1

/-- What is read at the front of a text for an integer that stands there. -/
def rereadInt (n : Int) (rest : List Char) : Except ReadError (Value × List Char) :=
  if maxDigits < digitCount n then .error (.tooManyDigits (digitCount n)) else .ok (.int n, rest)

theorem exists_cons_toDigits (n : Nat) :
    ∃ d ds, Nat.toDigits 10 n = d :: ds ∧ d.isDigit := by
  cases h : Nat.toDigits 10 n with
  | nil => exact absurd h Nat.toDigits_ne_nil
  | cons d ds => exact ⟨d, ds, rfl, isDigit_of_mem_toDigits d (h ▸ List.mem_cons_self)⟩

/-- A written integer is read back, or refused for its many digits. -/
theorem number_intText {rest : List Char} (h : Stops continuesNumber rest) (n : Int) :
    number ((intText n).toList ++ rest) = rereadInt n rest := by
  have hwhole := wholePart?_toDigits (stops_isDigit h) n.natAbs
  have hfraction := fractionPart?_of_stops h
  have hexponent := exponentPart?_of_stops h
  rw [toList_intText]
  by_cases hneg : n < 0
  · have hvalue : -(n.natAbs : Int) = n := by omega
    rw [if_pos hneg, List.append_assoc, List.singleton_append]
    simp only [number, hwhole, hfraction, hexponent, rereadInt, digitCount, digitsValue_toDigits,
      Option.map_none, Option.getD_none, if_true, hvalue]
    rfl
  · rw [if_neg hneg, List.nil_append]
    obtain ⟨d, ds, hds, hd⟩ := exists_cons_toDigits n.natAbs
    have hsign : d ≠ '-' := by
      rintro rfl
      exact absurd hd (by decide)
    have hvalue : (digitsValue (d :: ds) : Int) = n := by
      rw [← hds, digitsValue_toDigits]
      omega
    rw [rereadInt, digitCount, hds]
    rw [hds, List.cons_append] at hwhole
    rw [List.cons_append]
    simp [number, hwhole, hfraction, hexponent, hsign, hvalue]

/-- The characters that an integer can begin with. -/
def beginsInt (c : Char) : Bool :=
  c.isDigit || c == '-'

/-- A written integer begins with a digit or with a sign. -/
theorem exists_cons_intText (n : Int) :
    ∃ c cs, (intText n).toList = c :: cs ∧ beginsInt c := by
  rw [toList_intText]
  by_cases hneg : n < 0
  · rw [if_pos hneg]
    exact ⟨'-', _, rfl, rfl⟩
  · obtain ⟨d, ds, hds, hd⟩ := exists_cons_toDigits n.natAbs
    rw [if_neg hneg, hds]
    exact ⟨d, ds, rfl, by rw [beginsInt, hd, Bool.true_or]⟩

theorem scalar_of_isDigit {d : Char} (hd : d.isDigit) (cs : List Char) :
    scalar (d :: cs) = number (d :: cs) := by
  have hnot : ∀ c ∈ ['n', 't', 'f', 'N', 'I', '-'], c.isDigit = false := by simp
  have hword : ∀ c ∈ ['n', 't', 'f', 'N', 'I', '-'], d ≠ c := by
    rintro c hc rfl
    rw [hnot d hc] at hd
    exact nomatch hd
  simp only [List.forall_mem_cons] at hword
  obtain ⟨hn, ht, hf, hN, hI, hsign, -⟩ := hword
  simp [scalar, hn, ht, hf, hN, hI, hsign]

theorem scalar_of_sign {d : Char} (hd : d.isDigit) (cs : List Char) :
    scalar ('-' :: d :: cs) = number ('-' :: d :: cs) := by
  have hword : d ≠ 'I' := by
    rintro rfl
    exact absurd hd (by decide)
  simp [scalar, hword]

/-- No word stands at the front of a text that begins with an integer. -/
theorem scalar_intText {rest : List Char} (h : Stops continuesNumber rest) (n : Int) :
    scalar ((intText n).toList ++ rest) = rereadInt n rest := by
  rw [← number_intText h, toList_intText]
  obtain ⟨d, ds, hds, hd⟩ := exists_cons_toDigits n.natAbs
  rw [hds]
  by_cases hneg : n < 0
  · rw [if_pos hneg]
    exact scalar_of_sign hd _
  · rw [if_neg hneg]
    exact scalar_of_isDigit hd _

end SealedPage.Json
