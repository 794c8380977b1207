import SealedPage.Proofs.Json.Scalar
import SealedPage.Render.Identifier
import SealedPage.Render.Time

/-!
# Stamps are read again

The identifier and the time of an event are read from the texts that are written for them:
`Identifier.read_text` and `Time.read_text`.
-/

namespace SealedPage.Render

open Text

/-! ## Identifiers -/

namespace Identifier

open Codec

theorem value?_digit {n : Nat} (h : n < 16) : Hex.value? (Hex.digit n) = some n := by
  have hall : ∀ k < 16, Hex.value? (Hex.digit k) = some k := by decide
  exact hall n h

/-- Bytes are decoded from their digits. -/
theorem decode?_encode (bytes : Bytes) : Hex.decode? (Hex.encode bytes) = some bytes := by
  have hfrom : ∀ done : Bytes, Hex.decodeFrom done (Hex.encode bytes) =
      some (done.reverse ++ bytes) := by
    induction bytes with
    | nil =>
      intro done
      rw [List.append_nil]
      rfl
    | cons b bytes ih =>
      intro done
      have hb : b.toNat < 256 := b.toNat_lt
      have hpair : Hex.encode (b :: bytes) =
          Hex.digit (b.toNat / 16) :: Hex.digit (b.toNat % 16) :: Hex.encode bytes := rfl
      have hbyte : (b.toNat / 16 * 16 + b.toNat % 16).toUInt8 = b := by
        rw [Nat.div_add_mod']
        exact UInt8.ofNat_toNat
      rw [hpair, Hex.decodeFrom, value?_digit (by omega), value?_digit (by omega)]
      dsimp only
      rw [hbyte, ih, List.reverse_cons, List.append_assoc, List.singleton_append]
  exact hfrom []

/-- The characters of an identifier. -/
def isIdentifierDigit (c : Char) : Bool :=
  (Hex.value? c).isSome

theorem isIdentifierDigit_of_mem_encode {bytes : Bytes} {c : Char} (h : c ∈ Hex.encode bytes) :
    isIdentifierDigit c := by
  rw [Hex.encode, List.mem_flatMap] at h
  obtain ⟨b, -, hc⟩ := h
  have hb : b.toNat < 256 := b.toNat_lt
  rcases List.mem_cons.1 hc with rfl | hc
  · rw [isIdentifierDigit, value?_digit (by omega)]
    rfl
  · rw [List.mem_singleton.1 hc, isIdentifierDigit, value?_digit (by omega)]
    rfl

theorem length_encode (bytes : Bytes) : (Hex.encode bytes).length = 2 * bytes.length := by
  induction bytes with
  | nil => rfl
  | cons b bytes ih =>
    have hpair : Hex.encode (b :: bytes) =
        Hex.digit (b.toNat / 16) :: Hex.digit (b.toNat % 16) :: Hex.encode bytes := rfl
    rw [hpair, List.length_cons, List.length_cons, List.length_cons, ih]
    omega

/-- Without the hyphens only the digits are left. -/
theorem filter_group {digits : List Char} (h : '-' ∉ digits) :
    (group digits).filter (· != '-') = digits := by
  have hkeep : ∀ part : List Char, (∀ c ∈ part, c ∈ digits) → part.filter (· != '-') = part := by
    intro part hpart
    rw [List.filter_eq_self]
    intro c hc
    rw [bne_iff_ne]
    rintro rfl
    exact h (hpart _ hc)
  have hdrop : ∀ n : Nat, ∀ c ∈ digits.drop n, c ∈ digits := fun n c hc => List.mem_of_mem_drop hc
  have hpart : ∀ n : Nat, ((digits.drop n).take 4).filter (· != '-') = (digits.drop n).take 4 :=
    fun n => hkeep _ fun c hc => hdrop n c (List.mem_of_mem_take hc)
  have hjoin : ∀ n : Nat, (digits.drop n).take 4 ++ digits.drop (n + 4) = digits.drop n := by
    intro n
    rw [← List.drop_drop, List.take_append_drop]
  have hhyphen : ∀ part : List Char, ('-' :: part).filter (· != '-') = part.filter (· != '-') :=
    fun _ => rfl
  simp only [group, List.filter_append, List.cons_append, hhyphen, hpart, hkeep _ (hdrop 20),
    List.append_assoc, hkeep _ fun c hc => List.mem_of_mem_take hc]
  -- what is left are the groups, joined from the last one on
  rw [hjoin 16, hjoin 12, hjoin 8, List.take_append_drop]

/-- A group of an identifier is not empty. -/
theorem exists_cons_group {bytes : Bytes} (h : 0 < bytes.length) :
    ∃ d tail, group (Hex.encode bytes) = d :: tail ∧ isIdentifierDigit d := by
  cases bytes with
  | nil => exact absurd h (by decide)
  | cons b bytes =>
    have hb : b.toNat < 256 := b.toNat_lt
    refine ⟨Hex.digit (b.toNat / 16), _, rfl, ?_⟩
    rw [isIdentifierDigit, value?_digit (by omega)]
    rfl

/-- An identifier is read back from its text. -/
theorem read_text (i : Identifier) : read (.str i.text) = .ok i := by
  obtain ⟨bytes, hsize⟩ := i
  have hlength : (Hex.encode bytes).length = 32 := by rw [length_encode, hsize]
  have hhyphen : '-' ∉ Hex.encode bytes := by
    intro hmem
    exact absurd (isIdentifierDigit_of_mem_encode hmem) (by decide)
  have hgroups : ofGroups? (group (Hex.encode bytes)) = some ⟨bytes, hsize⟩ := by
    rw [ofGroups?, filter_group hhyphen, hlength]
    simp only [BEq.rfl, decide_true, Bool.and_self, if_true]
    rw [ofDigits?, decode?_encode]
    exact dif_pos hsize
  have htext : ofText? (String.ofList (group (Hex.encode bytes))) = some ⟨bytes, hsize⟩ := by
    -- the text is none of the other forms: digits alone, a name, or one in braces
    obtain ⟨d, tail, hgroup, hd⟩ := exists_cons_group (show 0 < bytes.length by omega)
    have hlong : (group (Hex.encode bytes)).length ≠ 32 := by
      simp [group, hlength]
    have hname : nameMark.isPrefixOf (group (Hex.encode bytes)) = false := by
      have hletter : 'u' ≠ d := by
        rintro rfl
        exact absurd hd (by decide)
      have hmark : nameMark = 'u' :: ['r', 'n', ':', 'u', 'u', 'i', 'd', ':'] := by decide
      rw [hgroup, hmark]
      simp [List.isPrefixOf, hletter]
    have hbrace : d ≠ '{' := by
      rintro rfl
      exact absurd hd (by decide)
    rw [hgroup] at hlong hname hgroups ⊢
    rw [List.length_cons] at hlong
    simp [ofText?, hbrace, show ¬ tail.length = 31 by omega, hname, hgroups]
  rw [read, text, htext]

end Identifier

/-! ## Points in time -/

namespace Time

/-- All parts of a point in time lie in their ranges, the fraction and the offset included. -/
structure IsProper (t : Time) : Prop where
  valid : t.isValid
  micro_lt : t.micro < 1000000
  offset_lt : ∀ m ∈ t.offset, m.natAbs < 1440

/-! ### Digits -/

theorem isDigit_of_mem_padded {width n : Nat} : ∀ c ∈ padded width n, c.isDigit := by
  intro c hc
  rcases List.mem_append.1 hc with hc | hc
  · rw [List.eq_of_mem_replicate hc]
    decide
  · exact Json.isDigit_of_mem_toDigits c hc

theorem length_padded {width n : Nat} (hwidth : 0 < width) (h : n < 10 ^ width) :
    (padded width n).length = width := by
  have hle := (Nat.length_toDigits_le_iff (b := 10) (by omega) hwidth).2 h
  rw [padded, List.length_append, List.length_replicate]
  omega

theorem digitsValue_padded (width n : Nat) : digitsValue (padded width n) = n := by
  have hzeros : ∀ count : Nat, (List.replicate count '0').foldl
      (fun n c => 10 * n + (c.toNat - 48)) 0 = 0 := by
    intro count
    induction count with
    | zero => rfl
    | succ count ih => exact ih
  rw [digitsValue, padded, List.foldl_append, hzeros]
  exact Json.digitsValue_toDigits n

/-- As many digits as are wanted are read. -/
theorem number?_append {ds : List Char} (hds : ∀ c ∈ ds, c.isDigit) (n : Nat) (rest : List Char) :
    number? n ds.length (ds ++ rest) =
      some (ds.foldl (fun n c => 10 * n + (c.toNat - 48)) n, rest) := by
  induction ds generalizing n with
  | nil => rfl
  | cons c ds ih =>
    obtain ⟨hc, hds⟩ := List.forall_mem_cons.1 hds
    rw [List.length_cons, List.cons_append, number?, if_pos hc, ih hds, List.foldl_cons]

/-- A padded number is read back. -/
theorem number?_padded {width n : Nat} (hwidth : 0 < width) (h : n < 10 ^ width)
    (rest : List Char) : number? 0 width (padded width n ++ rest) = some (n, rest) := by
  have hdigits : ∀ c ∈ padded width n, c.isDigit := isDigit_of_mem_padded
  have hread := number?_append hdigits 0 rest
  rw [length_padded hwidth h] at hread
  rw [hread, ← digitsValue, digitsValue_padded]

/-- A number of two digits behind a mark is read back. -/
theorem marked?_padded {marks : List Char} {mark : Char} (hmark : marks.contains mark)
    {n : Nat} (h : n < 100) (rest : List Char) :
    marked? marks 2 (mark :: (padded 2 n ++ rest)) = some (n, rest) := by
  rw [marked?, if_pos hmark]
  exact number?_padded (by omega) h rest

/-! ### The parts of a text -/

/-- An offset is written as its sign, its hours and its minutes. -/
theorem offsetText_of_ne_zero {m : Int} (h : m ≠ 0) : offsetText (some m) =
    (if m < 0 then '-' else '+') ::
      (padded 2 (m.natAbs / 60) ++ ':' :: padded 2 (m.natAbs % 60)) := by
  unfold offsetText
  split
  · rename_i heq
    exact nomatch heq
  · rename_i heq
    exact absurd (Option.some.inj heq) h
  · rename_i heq
    rw [← Option.some.inj heq]
    rfl

/-- An offset begins with none of the marks of a fraction. -/
theorem stops_offsetText (offset : Option Int) :
    Stops (fun c => c.isDigit || c == '.' || c == ',') (offsetText offset) := by
  cases offset with
  | none => exact stops_nil _
  | some m =>
    by_cases hm : m = 0
    · rw [hm]
      exact stops_cons.2 (by decide)
    · rw [offsetText_of_ne_zero hm]
      split
      · exact stops_cons.2 (by decide)
      · exact stops_cons.2 (by decide)

/-- An offset is read from its sign, its hours and its minutes. -/
theorem offset?_marked {mark : Char} (hmark : mark = '+' ∨ mark = '-') {hours minutes : Nat}
    (hhours : hours < 24) (hminutes : minutes < 60) :
    offset? (mark :: (padded 2 hours ++ ':' :: padded 2 minutes)) =
      some (some (if mark = '+' then Int.ofNat (60 * hours + minutes)
        else -Int.ofNat (60 * hours + minutes))) := by
  have hfirst := number?_padded (Nat.succ_pos 1) (show hours < 10 ^ 2 by omega)
    (':' :: padded 2 minutes)
  have hsecond := number?_padded (Nat.succ_pos 1) (show minutes < 10 ^ 2 by omega) []
  rw [List.append_nil] at hsecond
  rcases hmark with rfl | rfl
  · simp [offset?, hfirst, hsecond, hhours, hminutes]
  · simp [offset?, hfirst, hsecond, hhours, hminutes]

/-- An offset of less than a day is read back. -/
theorem offset?_offsetText {offset : Option Int} (h : ∀ m ∈ offset, m.natAbs < 1440) :
    offset? (offsetText offset) = some offset := by
  cases offset with
  | none => rfl
  | some m =>
    have hm : m.natAbs < 1440 := h m rfl
    have htotal : 60 * (m.natAbs / 60) + m.natAbs % 60 = m.natAbs := Nat.div_add_mod ..
    by_cases hzero : m = 0
    · rw [hzero]
      rfl
    · rw [offsetText_of_ne_zero hzero]
      by_cases hneg : m < 0
      · have hvalue : -(m.natAbs : Int) = m := by omega
        rw [if_pos hneg, offset?_marked (.inr rfl) (by omega) (by omega), if_neg (by decide),
          htotal, Int.ofNat_eq_natCast, hvalue]
      · have hvalue : (m.natAbs : Int) = m := by omega
        rw [if_neg hneg, offset?_marked (.inl rfl) (by omega) (by omega), if_pos rfl, htotal,
          Int.ofNat_eq_natCast, hvalue]

/-- The text of a fraction. -/
def fractionText (micro : Nat) : List Char :=
  if micro = 0 then [] else '.' :: padded 6 micro

theorem millionths_padded {micro : Nat} (h : micro < 1000000) :
    millionths (padded 6 micro) = micro := by
  have hlength := length_padded (Nat.succ_pos 5) (show micro < 10 ^ 6 from h)
  have htake : (padded 6 micro).take 6 = padded 6 micro :=
    List.take_of_length_le (Nat.le_of_eq hlength)
  rw [millionths]
  rw [htake, hlength, ← digitsValue, digitsValue_padded]
  exact Nat.mul_one _

/-- The seconds and their fraction are read back, up to the offset. -/
theorem seconds?_text {second micro : Nat} (hsecond : second < 60) (hmicro : micro < 1000000)
    (offset : Option Int) :
    seconds? (':' :: (padded 2 second ++ (fractionText micro ++ offsetText offset))) =
      some (second, micro, offsetText offset) := by
  have hmarked := marked?_padded (show [':'].contains ':' by decide) (show second < 100 by omega)
    (fractionText micro ++ offsetText offset)
  rw [seconds?, hmarked]
  have hstops := stops_offsetText offset
  by_cases hzero : micro = 0
  · rw [fractionText, if_pos hzero, List.nil_append, hzero]
    generalize offsetText offset = rest at hstops ⊢
    cases rest with
    | nil => rfl
    | cons c rest =>
      have hc := stops_cons.1 hstops
      simp only [Bool.or_eq_false_iff, beq_eq_false_iff_ne] at hc
      dsimp only
      split
      · rename_i heq
        exact absurd (List.cons.inj heq).1 hc.1.2
      · rename_i heq
        exact absurd (List.cons.inj heq).1 hc.2
      · rfl
  · have hdigits : Stops Char.isDigit (offsetText offset) := by
      intro c hc
      have := hstops c hc
      simp only [Bool.or_eq_false_iff] at this
      exact this.1.1
    have hne : padded 6 micro ≠ [] := by
      intro hnil
      have hlength := length_padded (Nat.succ_pos 5) (show micro < 10 ^ 6 from hmicro)
      rw [hnil] at hlength
      exact absurd hlength (by decide)
    rw [fractionText, if_neg hzero, List.cons_append]
    simp only [takeWhile_append_of_stops isDigit_of_mem_padded hdigits,
      dropWhile_append_of_stops isDigit_of_mem_padded hdigits, List.isEmpty_iff, hne, if_false,
      millionths_padded hmicro]

/-- A time is written field by field. -/
theorem toList_text (t : Time) :
    t.text.toList = padded 4 t.year ++ ('-' :: (padded 2 t.month ++ ('-' :: (padded 2 t.day ++
      ('T' :: (padded 2 t.hour ++ (':' :: (padded 2 t.minute ++ (':' :: (padded 2 t.second ++
        (fractionText t.micro ++ offsetText t.offset))))))))))) := by
  rw [text, String.toList_ofList]
  simp [fractionText]

theorem monthDays_le (year month : Nat) : monthDays year month ≤ 31 := by
  unfold monthDays
  split
  · split <;> omega
  · split <;> omega

/-- The time of day is read back. -/
theorem clock?_text {t : Time} (h : t.IsProper) (hhour : t.hour < 24) (hminute : t.minute < 60)
    (hsecond : t.second < 60) (date : Time) :
    clock? date ('T' :: (padded 2 t.hour ++ (':' :: (padded 2 t.minute ++ (':' ::
      (padded 2 t.second ++ (fractionText t.micro ++ offsetText t.offset))))))) =
      some { date with hour := t.hour, minute := t.minute, second := t.second, micro := t.micro,
                       offset := t.offset } := by
  rw [clock?, marked?_padded (by decide) (by omega)]
  dsimp only
  rw [marked?_padded (by decide) (by omega)]
  dsimp only
  rw [seconds?_text hsecond h.micro_lt]
  dsimp only
  rw [offset?_offsetText h.offset_lt]
  rfl

/-- A proper time is read back from its text. -/
theorem ofDate?_text {t : Time} (h : t.IsProper) : ofDate? t.text.toList = some t := by
  have hvalid := h.valid
  simp only [isValid, Bool.and_eq_true, decide_eq_true_eq] at hvalid
  obtain ⟨⟨⟨⟨⟨⟨⟨⟨-, hyear⟩, -⟩, hmonth⟩, -⟩, hday⟩, hhour⟩, hminute⟩, hsecond⟩ := hvalid
  have hdays := monthDays_le t.year t.month
  rw [toList_text, ofDate?, number?_padded (by omega) (by omega)]
  dsimp only
  rw [marked?_padded (by decide) (by omega)]
  dsimp only
  rw [marked?_padded (by decide) (by omega)]
  dsimp only
  rw [clock?_text h hhour hminute hsecond]
  exact Option.filter_eq_some_iff.2 ⟨rfl, h.valid⟩

theorem read_text {t : Time} (h : t.IsProper) : read (.str t.text) = .ok t := by
  rw [read, ofText?, ofDate?_text h]
  rfl

end Time

end SealedPage.Render
