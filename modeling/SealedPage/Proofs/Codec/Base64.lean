import SealedPage.Codec.Base64
import SealedPage.Proofs.Text.Utf8
import SealedPage.Text.Blank

/-!
# Base64 there and back

The reader takes the groups of the writer one by one and gives the bytes back: `decode_encode`. What
is written consists of characters of the alphabet with padding behind them, so it holds no blank and
no character of markup, `isBase64Char_of_mem_encode`.
-/

namespace SealedPage.Codec.Base64

open Text.Utf8 (toUInt8_eq)

/-! ## The alphabet -/

/-- The digit of a value below 64 has this value. -/
theorem value?_digit {n : Nat} (h : n < 64) : value? (digit n) = some n := by
  have hall : ∀ i : Fin 64, value? (digit i) = some i.val := by decide
  exact hall ⟨n, h⟩

theorem digit_ne_padding {n : Nat} (h : n < 64) : digit n ≠ '=' := by
  have hall : ∀ i : Fin 64, digit i ≠ '=' := by decide
  exact hall ⟨n, h⟩

/-- The characters that encodings consist of. -/
def isBase64Char (c : Char) : Bool :=
  (value? c).isSome || c == '='

theorem isBase64Char_digit {n : Nat} (h : n < 64) : isBase64Char (digit n) := by
  rw [isBase64Char, value?_digit h]
  rfl

/-- A character of an encoding is a letter, a digit, a plus sign, a slash or an equals sign. -/
theorem toNat_of_isBase64Char {c : Char} (h : isBase64Char c) :
    c.toNat = 43 ∨ (47 ≤ c.toNat ∧ c.toNat ≤ 57) ∨ c.toNat = 61 ∨
      (65 ≤ c.toNat ∧ c.toNat ≤ 90) ∨ (97 ≤ c.toNat ∧ c.toNat ≤ 122) := by
  have hle : ∀ a b : Char, a ≤ b ↔ a.toNat ≤ b.toNat := fun a b => Iff.rfl
  simp only [isBase64Char, Bool.or_eq_true, beq_iff_eq] at h
  rcases h with h | rfl
  · simp only [value?, Bool.and_eq_true, decide_eq_true_eq, hle, Char.reduceToNat] at h
    split at h
    · omega
    · split at h
      · omega
      · split at h
        · omega
        · split at h
          · subst c
            decide
          · split at h
            · subst c
              decide
            · simp at h
  · decide

/-- No character of base64 is a blank, so taking blanks out leaves an encoding as it is. -/
theorem isBlank_of_isBase64Char {c : Char} (h : isBase64Char c) : Text.isBlank c = false := by
  have := toNat_of_isBase64Char h
  simp only [Text.isBlank, Bool.or_eq_false_iff, Bool.and_eq_false_iff, decide_eq_false_iff_not,
    beq_eq_false_iff_ne]
  omega

/-! ## Groups -/

/-- What holds of no bytes, of one byte, of two bytes, and with three more bytes of whatever it
holds of, holds of all bytes. -/
theorem groupInduction {motive : List UInt8 → Prop} (nil : motive [])
    (one : ∀ a, motive [a]) (two : ∀ a b, motive [a, b])
    (three : ∀ a b c bytes, motive bytes → motive (a :: b :: c :: bytes)) :
    ∀ bytes, motive bytes
  | [] => nil
  | [a] => one a
  | [a, b] => two a b
  | a :: b :: c :: bytes => three a b c bytes (groupInduction nil one two three bytes)

/-- What was encoded before stands in front, in order. -/
theorem encodeFrom_eq (done : List Char) (bytes : List UInt8) :
    encodeFrom done bytes = done.reverse ++ encode bytes := by
  induction bytes using groupInduction generalizing done with
  | nil => rw [encode, encodeFrom, encodeFrom, List.reverse_nil, List.append_nil]
  | one a => rw [encode, encodeFrom, encodeFrom, List.reverse_nil, List.nil_append]
  | two a b => rw [encode, encodeFrom, encodeFrom, List.reverse_nil, List.nil_append]
  | three a b c bytes ih =>
    -- what is written so far stands in reverse, the new group included
    rw [encode, encodeFrom, encodeFrom, ih, ih]
    simp

theorem encode_nil : encode [] = [] :=
  rfl

/-- A single byte at the end takes two digits and two padding characters. -/
theorem encode_one (a : UInt8) : encode [a] = (group a 0 0).take 2 ++ ['=', '='] := by
  rw [encode, encodeFrom, List.reverse_nil, List.nil_append]

/-- Two bytes at the end take three digits and one padding character. -/
theorem encode_two (a b : UInt8) : encode [a, b] = (group a b 0).take 3 ++ ['='] := by
  rw [encode, encodeFrom, List.reverse_nil, List.nil_append]

/-- Three bytes at the front are one group of digits. -/
theorem encode_cons (a b c : UInt8) (bytes : List UInt8) :
    encode (a :: b :: c :: bytes) = group a b c ++ encode bytes := by
  rw [encode, encodeFrom, encodeFrom_eq]
  simp

/-! ## Reading a group -/

/-- The reader at the front of a group. -/
def Reader.start (done : List UInt8) : Reader :=
  { done }

/-- A digit is read as its value, if no padding was met. -/
theorem read_digit (r : Reader) (hpadded : r.padded = false) {n : Nat} (h : n < 64)
    (cs : List Char) : r.read (digit n :: cs) = (r.push n).read cs := by
  rw [Reader.read, if_neg (digit_ne_padding h), value?_digit h]
  simp [hpadded]

/-- The bytes that the characters of a group add: one byte for each character but the first. -/
theorem push_start (done : List UInt8) (v w x y : Nat) :
    ((((Reader.start done).push v).push w).push x).push y =
      Reader.start ((x % 4 * 64 + y).toUInt8 :: (w % 16 * 16 + x / 4).toUInt8 ::
        (v * 4 + w / 16).toUInt8 :: done) :=
  rfl

/-- A group of four digits is read as the three bytes it was written for. -/
theorem read_group (done : List UInt8) (a b c : UInt8) (cs : List Char) :
    (Reader.start done).read (group a b c ++ cs) =
      (Reader.start (c :: b :: a :: done)).read cs := by
  have ha := a.toNat_lt
  have hb := b.toNat_lt
  have hc := c.toNat_lt
  simp only [group, List.cons_append, List.nil_append]
  rw [read_digit _ rfl (by omega), read_digit _ rfl (by omega), read_digit _ rfl (by omega),
    read_digit _ rfl (by omega), push_start]
  rw [toUInt8_eq (b := c) (by omega), toUInt8_eq (b := b) (by omega),
    toUInt8_eq (b := a) (by omega)]

theorem read_one (done : List UInt8) (a : UInt8) :
    (Reader.start done).read ((group a 0 0).take 2 ++ ['=', '=']) = .ok (a :: done).reverse := by
  have ha := a.toNat_lt
  simp only [group, UInt8.reduceToNat, List.take_succ_cons, List.take_zero, List.cons_append,
    List.nil_append]
  rw [read_digit _ rfl (by omega), read_digit _ rfl (by omega)]
  simp only [Reader.start, Reader.push]
  rw [toUInt8_eq (b := a) (by omega)]
  rfl

theorem read_two (done : List UInt8) (a b : UInt8) :
    (Reader.start done).read ((group a b 0).take 3 ++ ['=']) = .ok (b :: a :: done).reverse := by
  have ha := a.toNat_lt
  have hb := b.toNat_lt
  simp only [group, UInt8.reduceToNat, List.take_succ_cons, List.take_zero, List.cons_append,
    List.nil_append]
  rw [read_digit _ rfl (by omega), read_digit _ rfl (by omega), read_digit _ rfl (by omega)]
  simp only [Reader.start, Reader.push]
  rw [toUInt8_eq (b := b) (by omega), toUInt8_eq (b := a) (by omega)]
  rfl

/-- An encoding is read as the bytes it was written for, behind those read before. -/
theorem read_encode (done bytes : List UInt8) :
    (Reader.start done).read (encode bytes) = .ok (done.reverse ++ bytes) := by
  induction bytes using groupInduction generalizing done with
  | nil => simp [encode_nil, Reader.read, Reader.finish, Reader.start]
  | one a => rw [encode_one, read_one, List.reverse_cons]
  | two a b => rw [encode_two, read_two]; simp
  | three a b c bytes ih => rw [encode_cons, read_group, ih]; simp

/-! ## Whole texts -/

theorem isBase64Char_of_mem_group {a b c : UInt8} {d : Char} (h : d ∈ group a b c) :
    isBase64Char d := by
  have ha := a.toNat_lt
  have hb := b.toNat_lt
  have hc := c.toNat_lt
  simp only [group, List.mem_cons, List.not_mem_nil, or_false] at h
  rcases h with rfl | rfl | rfl | rfl <;> exact isBase64Char_digit (by omega)

/-- An encoding holds no other characters than those of base64. -/
theorem isBase64Char_of_mem_encode {bytes : List UInt8} {c : Char} (h : c ∈ encode bytes) :
    isBase64Char c := by
  induction bytes using groupInduction with
  | nil => simp [encode_nil] at h
  | one a =>
    rw [encode_one, List.mem_append] at h
    rcases h with h | h
    · exact isBase64Char_of_mem_group (List.mem_of_mem_take h)
    · have hc : c = '=' := by simpa using h
      rw [hc]
      rfl
  | two a b =>
    rw [encode_two, List.mem_append] at h
    rcases h with h | h
    · exact isBase64Char_of_mem_group (List.mem_of_mem_take h)
    · have hc : c = '=' := by simpa using h
      rw [hc]
      rfl
  | three a b c' bytes ih =>
    rw [encode_cons, List.mem_append] at h
    rcases h with h | h
    · exact isBase64Char_of_mem_group h
    · exact ih h

/-- Only no bytes have an empty encoding, and no encoding begins with padding. -/
theorem head?_encode (bytes : List UInt8) :
    (bytes = [] ∧ encode bytes = []) ∨
      ∃ n cs, n < 64 ∧ encode bytes = digit n :: cs := by
  cases bytes using groupInduction with
  | nil => exact Or.inl ⟨rfl, rfl⟩
  | one a =>
    have ha := a.toNat_lt
    exact Or.inr ⟨_, _, by simp only [UInt8.reduceToNat]; omega, rfl⟩
  | two a b =>
    have ha := a.toNat_lt
    have hb := b.toNat_lt
    exact Or.inr ⟨_, _, by simp only [UInt8.reduceToNat]; omega, rfl⟩
  | three a b c bytes =>
    have ha := a.toNat_lt
    have hb := b.toNat_lt
    have hc := c.toNat_lt
    rw [encode_cons]
    exact Or.inr ⟨_, _, by omega, rfl⟩

theorem encode_ne_nil {bytes : List UInt8} (h : bytes ≠ []) : encode bytes ≠ [] := by
  rcases head?_encode bytes with ⟨hnil, -⟩ | ⟨n, cs, -, hcons⟩
  · exact absurd hnil h
  · rw [hcons]
    exact List.cons_ne_nil _ _

/-- A text of characters that encodings consist of is read, unless it begins with padding. -/
theorem decode_of_isBase64Char {cs : List Char} (h : ∀ c ∈ cs, isBase64Char c)
    (hhead : cs.head? ≠ some '=') : decode cs = Reader.read {} cs := by
  have hascii : cs.any (fun c => decide (0x80 ≤ c.toNat)) = false := by
    rw [List.any_eq_false]
    intro c hc
    have := toNat_of_isBase64Char (h c hc)
    simp only [decide_eq_true_eq]
    omega
  rw [decode, if_neg (by rw [hascii]; exact Bool.false_ne_true), if_neg hhead]

/-- What is written for bytes is read back. -/
theorem decode_encode (bytes : List UInt8) : decode (encode bytes) = .ok bytes := by
  have hhead : (encode bytes).head? ≠ some '=' := by
    rcases head?_encode bytes with ⟨-, hnil⟩ | ⟨n, cs, hn, hcons⟩
    · simp [hnil]
    · simp [hcons, digit_ne_padding hn]
  rw [decode_of_isBase64Char (fun _ => isBase64Char_of_mem_encode) hhead]
  exact read_encode [] bytes

/-- Blanks do not count, and an encoding has none. -/
theorem dropBlanks_encode (bytes : List UInt8) : Text.dropBlanks (encode bytes) = encode bytes := by
  rw [Text.dropBlanks, List.filter_eq_self]
  intro c hc
  rw [isBlank_of_isBase64Char (isBase64Char_of_mem_encode hc)]
  rfl

end SealedPage.Codec.Base64
