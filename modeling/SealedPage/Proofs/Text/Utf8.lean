import SealedPage.Text.Utf8

/-!
# UTF-8 there and back

Reading gives a text exactly for the bytes that are written for it: `decode_encode` and
`encode_of_decode`. So no two byte sequences spell one text, and what cannot be read is written for
none.
-/

namespace SealedPage.Text.Utf8

/-! ## One sequence of bytes -/

theorem isContinuation_iff {b : UInt8} : isContinuation b ↔ 0x80 ≤ b.toNat ∧ b.toNat ≤ 0xBF := by
  rw [isContinuation, Bool.and_eq_true, decide_eq_true_iff, decide_eq_true_iff,
    UInt8.le_iff_toNat_le, UInt8.le_iff_toNat_le]
  rfl

/-- A second byte is a continuation byte, with a narrower range behind four of the first bytes. -/
theorem isSecond_iff {b₀ b₁ : UInt8} :
    isSecond b₀ b₁ ↔ 0x80 ≤ b₁.toNat ∧ b₁.toNat ≤ 0xBF ∧ (b₀.toNat = 0xE0 → 0xA0 ≤ b₁.toNat) ∧
      (b₀.toNat = 0xED → b₁.toNat ≤ 0x9F) ∧ (b₀.toNat = 0xF0 → 0x90 ≤ b₁.toNat) ∧
      (b₀.toNat = 0xF4 → b₁.toNat ≤ 0x8F) := by
  have heq : ∀ n : UInt8, (b₀ == n) = decide (b₀.toNat = n.toNat) := by
    intro n
    rw [Bool.eq_iff_iff, beq_iff_eq, decide_eq_true_iff, UInt8.toNat_inj]
  have hrange : (secondRange b₀).1.toNat =
      (if b₀.toNat = 0xE0 then 0xA0 else if b₀.toNat = 0xF0 then 0x90 else 0x80) ∧
      (secondRange b₀).2.toNat =
      (if b₀.toNat = 0xED then 0x9F else if b₀.toNat = 0xF4 then 0x8F else 0xBF) := by
    simp only [secondRange, heq, decide_eq_true_eq, UInt8.reduceToNat]
    repeat' split
    all_goals first | omega | exact ⟨rfl, rfl⟩
  rw [isSecond, Bool.and_eq_true, decide_eq_true_iff, decide_eq_true_iff, UInt8.le_iff_toNat_le,
    UInt8.le_iff_toNat_le, hrange.1, hrange.2]
  repeat' split
  all_goals omega

/-- The bytes of one character, with its number. -/
inductive Sequence : List UInt8 → Nat → Prop where
  | one {b₀ : UInt8} (h₀ : b₀.toNat < 0x80) : Sequence [b₀] b₀.toNat
  | two {b₀ b₁ : UInt8} (h₀ : 0xC2 ≤ b₀.toNat ∧ b₀.toNat < 0xE0) (h₁ : isSecond b₀ b₁) :
    Sequence [b₀, b₁] (b₀.toNat % 0x20 * 0x40 + payload b₁)
  | three {b₀ b₁ b₂ : UInt8} (h₀ : 0xE0 ≤ b₀.toNat ∧ b₀.toNat < 0xF0) (h₁ : isSecond b₀ b₁)
    (h₂ : isContinuation b₂) :
    Sequence [b₀, b₁, b₂] (b₀.toNat % 0x10 * 0x1000 + payload b₁ * 0x40 + payload b₂)
  | four {b₀ b₁ b₂ b₃ : UInt8} (h₀ : 0xF0 ≤ b₀.toNat ∧ b₀.toNat ≤ 0xF4) (h₁ : isSecond b₀ b₁)
    (h₂ : isContinuation b₂) (h₃ : isContinuation b₃) :
    Sequence [b₀, b₁, b₂, b₃]
      (b₀.toNat % 0x08 * 0x40000 + payload b₁ * 0x1000 + payload b₂ * 0x40 + payload b₃)

/-- Reading takes a sequence from the front. -/
theorem decodeFrom_append {bs : List UInt8} {n : Nat} (h : Sequence bs n) (pos : Nat)
    (done : List Char) (rest : List UInt8) :
    decodeFrom pos done (bs ++ rest) =
      decodeFrom (pos + bs.length) (Char.ofNat n :: done) rest := by
  cases h with
  | one h₀ =>
    rw [List.singleton_append, decodeFrom.eq_def]
    simp [UInt8.lt_iff_toNat_lt, h₀]
  | two h₀ h₁ =>
    rw [List.cons_append, List.singleton_append, decodeFrom.eq_def]
    simp only [UInt8.lt_iff_toNat_lt, UInt8.reduceToNat, h₁]
    rw [if_neg (by omega), if_neg (by simp; omega), if_neg (by simp), if_pos (by omega)]
    rfl
  | three h₀ h₁ h₂ =>
    rw [List.cons_append, List.cons_append, List.singleton_append, decodeFrom.eq_def]
    simp only [UInt8.lt_iff_toNat_lt, UInt8.reduceToNat, h₁, h₂]
    rw [if_neg (by omega), if_neg (by simp; omega), if_neg (by simp), if_neg (by omega),
      if_neg (by simp), if_pos (by omega)]
    rfl
  | four h₀ h₁ h₂ h₃ =>
    rw [List.cons_append, List.cons_append, List.cons_append, List.singleton_append,
      decodeFrom.eq_def]
    simp only [UInt8.lt_iff_toNat_lt, UInt8.reduceToNat, h₁, h₂, h₃]
    rw [if_neg (by omega), if_neg (by simp; omega), if_neg (by simp), if_neg (by omega),
      if_neg (by simp), if_neg (by omega), if_neg (by simp)]
    rfl

/-! ## Sequences and characters -/

theorem payload_eq {b : UInt8} (h : 0x80 ≤ b.toNat ∧ b.toNat ≤ 0xBF) :
    payload b = b.toNat - 0x80 := by
  rw [payload]
  omega

/-- The number of a sequence is that of a character. -/
theorem Sequence.isValidChar {bs : List UInt8} {n : Nat} (h : Sequence bs n) : n.isValidChar := by
  unfold Nat.isValidChar
  cases h with
  | one h₀ => omega
  | two h₀ h₁ =>
    rw [isSecond_iff] at h₁
    rw [payload_eq (by omega)]
    omega
  | three h₀ h₁ h₂ =>
    rw [isSecond_iff] at h₁
    rw [isContinuation_iff] at h₂
    rw [payload_eq (by omega), payload_eq h₂]
    omega
  | four h₀ h₁ h₂ h₃ =>
    rw [isSecond_iff] at h₁
    rw [isContinuation_iff] at h₂ h₃
    rw [payload_eq (by omega), payload_eq h₂, payload_eq h₃]
    omega

theorem toUInt8_eq {m : Nat} {b : UInt8} (h : m = b.toNat) : m.toUInt8 = b := by
  rw [h]
  exact UInt8.ofNat_toNat

/-- A sequence is what is written for its character. -/
theorem encodeChar_of_sequence {bs : List UInt8} {n : Nat} (h : Sequence bs n) :
    encodeChar (Char.ofNat n) = bs := by
  have hn : (Char.ofNat n).toNat = n := by
    rw [Char.ofNat, dif_pos h.isValidChar]
    rfl
  unfold encodeChar
  dsimp only
  rw [hn]
  cases h with
  | one h₀ => rw [if_pos h₀, toUInt8_eq rfl]
  | two h₀ h₁ =>
    rw [isSecond_iff] at h₁
    rw [payload_eq (by omega), if_neg (by omega), if_pos (by omega)]
    simp only [List.cons.injEq]
    exact ⟨toUInt8_eq (by omega), toUInt8_eq (by omega), trivial⟩
  | three h₀ h₁ h₂ =>
    rw [isSecond_iff] at h₁
    rw [isContinuation_iff] at h₂
    rw [payload_eq (by omega), payload_eq h₂, if_neg (by omega), if_neg (by omega),
      if_pos (by omega)]
    simp only [List.cons.injEq]
    exact ⟨toUInt8_eq (by omega), toUInt8_eq (by omega), toUInt8_eq (by omega), trivial⟩
  | four h₀ h₁ h₂ h₃ =>
    rw [isSecond_iff] at h₁
    rw [isContinuation_iff] at h₂ h₃
    rw [payload_eq (by omega), payload_eq h₂, payload_eq h₃, if_neg (by omega),
      if_neg (by omega), if_neg (by omega)]
    simp only [List.cons.injEq]
    exact ⟨toUInt8_eq (by omega), toUInt8_eq (by omega), toUInt8_eq (by omega),
      toUInt8_eq (by omega), trivial⟩

theorem toNat_toUInt8 {m : Nat} (h : m < 0x100) : m.toUInt8.toNat = m :=
  UInt8.toNat_ofNat_of_lt' h

theorem Sequence.of_eq {bs : List UInt8} {m n : Nat} (h : Sequence bs m) (hmn : m = n) :
    Sequence bs n := by
  rwa [← hmn]

/-- What is written for a character is a sequence with its number. -/
theorem sequence_encodeChar (c : Char) : Sequence (encodeChar c) c.toNat := by
  -- the surrogates are excluded, which the range behind a first byte `0xED` depends on
  have hvalid : c.toNat < 0xD800 ∨ 0xDFFF < c.toNat ∧ c.toNat < 0x110000 := c.valid
  unfold encodeChar
  dsimp only
  generalize c.toNat = n at hvalid ⊢
  split
  · have h₀ : n.toUInt8.toNat = n := toNat_toUInt8 (by omega)
    exact Sequence.of_eq (.one (by omega)) h₀
  · have hlast : (0x80 + n % 0x40).toUInt8.toNat = 0x80 + n % 0x40 := toNat_toUInt8 (by omega)
    split
    · have h₀ : (0xC0 + n / 0x40).toUInt8.toNat = 0xC0 + n / 0x40 := toNat_toUInt8 (by omega)
      refine Sequence.of_eq (.two (by omega) (isSecond_iff.2 (by omega))) ?_
      rw [payload_eq (by omega), h₀, hlast]
      omega
    · have hlow : (0x80 + n / 0x40 % 0x40).toUInt8.toNat = 0x80 + n / 0x40 % 0x40 :=
        toNat_toUInt8 (by omega)
      split
      · have h₀ : (0xE0 + n / 0x1000).toUInt8.toNat = 0xE0 + n / 0x1000 :=
          toNat_toUInt8 (by omega)
        refine Sequence.of_eq (.three (by omega) (isSecond_iff.2 (by omega))
          (isContinuation_iff.2 (by omega))) ?_
        rw [payload_eq (by omega), payload_eq (by omega), h₀, hlow, hlast]
        omega
      · have h₀ : (0xF0 + n / 0x40000).toUInt8.toNat = 0xF0 + n / 0x40000 :=
          toNat_toUInt8 (by omega)
        have hhigh : (0x80 + n / 0x1000 % 0x40).toUInt8.toNat = 0x80 + n / 0x1000 % 0x40 :=
          toNat_toUInt8 (by omega)
        refine Sequence.of_eq (.four (by omega) (isSecond_iff.2 (by omega))
          (isContinuation_iff.2 (by omega)) (isContinuation_iff.2 (by omega))) ?_
        rw [payload_eq (by omega), payload_eq (by omega), payload_eq (by omega), h₀, hhigh, hlow,
          hlast]
        omega

/-! ## Texts -/

/-- Reading takes the bytes of a character from the front. -/
theorem decodeFrom_encode (pos : Nat) (done s : List Char) :
    decodeFrom pos done (encode s) = .ok (done.reverse ++ s) := by
  induction s generalizing pos done with
  | nil => simp [encode, decodeFrom]
  | cons c s ih =>
    rw [encode, List.flatMap_cons, decodeFrom_append (sequence_encodeChar c), Char.ofNat_toNat]
    rw [← encode, ih, List.reverse_cons, List.append_assoc, List.singleton_append]

/-- What is written for a text is read back. -/
theorem decode_encode (s : List Char) : decode (encode s) = .ok s :=
  decodeFrom_encode 0 [] s

/-- A sequence before encoded characters encodes one more. -/
theorem encode_of_sequence {bs rest : List UInt8} {n : Nat} {done cs : List Char}
    (h : Sequence bs n)
    (hrest : ∃ s, cs = (Char.ofNat n :: done).reverse ++ s ∧ rest = encode s) :
    ∃ s, cs = done.reverse ++ s ∧ bs ++ rest = encode s := by
  obtain ⟨s, rfl, rfl⟩ := hrest
  refine ⟨Char.ofNat n :: s, by simp, ?_⟩
  rw [encode, encode, List.flatMap_cons, encodeChar_of_sequence h]

/-- Bytes that are decoded encode what they are decoded to. -/
theorem encode_of_decodeFrom {pos : Nat} {done cs : List Char} {bytes : List UInt8}
    (h : decodeFrom pos done bytes = .ok cs) :
    ∃ s, cs = done.reverse ++ s ∧ bytes = encode s := by
  -- one case for each way in which reading ends or goes on behind a sequence
  fun_induction decodeFrom pos done bytes with
  | case1 pos done => exact ⟨[], by simpa using (Except.ok.inj h).symm, rfl⟩
  | case2 pos done b₀ bytes h₀ ih =>
    exact encode_of_sequence (.one (UInt8.lt_iff_toNat_lt.1 h₀)) (ih h)
  | case3 => simp at h
  | case4 => simp at h
  | case5 => simp at h
  | case6 pos done b₀ h₀ hstart b₁ bytes h₁ hlast ih =>
    rw [Bool.not_eq_true', Bool.not_eq_false] at h₁
    simp only [UInt8.lt_iff_toNat_lt, UInt8.reduceToNat, Bool.or_eq_true, decide_eq_true_eq]
      at hstart hlast
    exact encode_of_sequence (.two (by omega) h₁) (ih h)
  | case7 => simp at h
  | case8 => simp at h
  | case9 pos done b₀ h₀ hstart b₁ h₁ hlong b₂ bytes h₂ hlast ih =>
    rw [Bool.not_eq_true', Bool.not_eq_false] at h₁ h₂
    simp only [UInt8.lt_iff_toNat_lt, UInt8.reduceToNat] at hlong hlast
    exact encode_of_sequence (.three (by omega) h₁ h₂) (ih h)
  | case10 => simp at h
  | case11 => simp at h
  | case12 pos done b₀ h₀ hstart b₁ h₁ hlong b₂ h₂ hlonger b₃ bytes h₃ ih =>
    rw [Bool.not_eq_true', Bool.not_eq_false] at h₁ h₂ h₃
    simp only [UInt8.lt_iff_toNat_lt, UInt8.reduceToNat, Bool.or_eq_true, decide_eq_true_eq]
      at hstart hlonger
    exact encode_of_sequence (.four (by omega) h₁ h₂ h₃) (ih h)

/-- What can be read was written for what is read. -/
theorem encode_of_decode {bytes : List UInt8} {s : List Char} (h : decode bytes = .ok s) :
    encode s = bytes := by
  obtain ⟨s', rfl, rfl⟩ := encode_of_decodeFrom h
  rfl

/-- No two strings are written with the same bytes. -/
theorem eq_of_ofString_eq {s s' : String} (h : ofString s = ofString s') : s = s' := by
  rw [ofString, ofString] at h
  have hread := decode_encode s.toList
  rw [h, decode_encode] at hread
  exact (String.toList_injective (Except.ok.inj hread)).symm

/-- Bytes spell a string if and only if they are written for it. -/
theorem toString_eq_ok_iff {bytes : List UInt8} {s : String} :
    toString bytes = .ok s ↔ ofString s = bytes := by
  constructor
  · intro h
    rw [toString] at h
    cases hread : decode bytes with
    | error e => simp [hread, Except.map] at h
    | ok cs =>
      rw [hread] at h
      obtain rfl := Except.ok.inj h
      rw [ofString, String.toList_ofList]
      exact encode_of_decode hread
  · rintro rfl
    rw [toString, ofString, decode_encode]
    exact congrArg Except.ok String.ofList_toList

/-! ## ASCII -/

/-- ASCII characters have bytes of their own. -/
theorem byte_injective {c d : Char} (hc : c.toNat < 0x80) (hd : d.toNat < 0x80)
    (h : c.toNat.toUInt8 = d.toNat.toUInt8) : c = d := by
  have htoNat := congrArg UInt8.toNat h
  rw [toNat_toUInt8 (by omega), toNat_toUInt8 (by omega)] at htoNat
  exact Char.toNat_inj.1 htoNat

/-- The bytes of characters of ASCII. -/
theorem encode_ascii {s : List Char} (h : ∀ c ∈ s, c.toNat < 0x80) :
    encode s = s.map fun c => c.toNat.toUInt8 := by
  induction s with
  | nil => rfl
  | cons c s ih =>
    obtain ⟨hc, hs⟩ := List.forall_mem_cons.1 h
    rw [encode, List.flatMap_cons, ← encode, ih hs, encodeChar, if_pos hc, List.map_cons,
      List.singleton_append]

/-- A character that is not in a text of ASCII is not in its bytes. -/
theorem not_mem_encode {s : List Char} (h : ∀ c ∈ s, c.toNat < 0x80) {d : Char}
    (hd : d.toNat < 0x80) (hmem : d ∉ s) : d.toNat.toUInt8 ∉ encode s := by
  rw [encode_ascii h, List.mem_map]
  rintro ⟨c, hc, hcd⟩
  obtain rfl := byte_injective (h c hc) hd hcd
  exact hmem hc

end SealedPage.Text.Utf8
