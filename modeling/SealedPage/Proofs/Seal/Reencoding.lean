import SealedPage.Proofs.Seal.ShellTransport

/-!
# What is decoded is written again

Bytes in base64 are read back whatever blanks are put in between. In the other direction, a text
that is accepted is written again from its bytes as it stood, up to blanks, padding and those bits
of its last character that belong to no byte. So there is one text without all of these for each
sequence of bytes, and nothing else is lost on the way: `keepsData_decodeBase64`.
-/

namespace SealedPage.Codec.Base64

open Text (isBlank dropBlanks)
open Text.Utf8 (toUInt8_eq)

/-! ## Blanks in between -/

/-- The second text is the first one with blanks put in, at any places and in any number. -/
inductive Spaced : List Char → List Char → Prop where
  | nil : Spaced [] []
  | keep {cs ds : List Char} (c : Char) (h : Spaced cs ds) : Spaced (c :: cs) (c :: ds)
  | blank {cs ds : List Char} {c : Char} (hc : isBlank c) (h : Spaced cs ds) : Spaced cs (c :: ds)

/-- White space that is put in is dropped again. -/
theorem Spaced.dropBlanks_eq {cs ds : List Char} (h : Spaced cs ds) :
    dropBlanks ds = dropBlanks cs := by
  unfold dropBlanks
  induction h with
  | nil => rfl
  | keep c _ ih => rw [List.filter_cons, List.filter_cons, ih]
  | blank hc _ ih => rw [List.filter_cons_of_neg (by simp [hc]), ih]

/-! ## Data -/

/-- A text without its padding. -/
def withoutPadding (cs : List Char) : List Char :=
  cs.filter (· ≠ '=')

/-- The character whose value is that of the given one with its lowest bits cleared, as many as
told. -/
def clearBits (count : Nat) (c : Char) : Char :=
  match value? c with
  | some v => digit (v / 2 ^ count * 2 ^ count)
  | none => c

/-- The data with the lowest bits of its last character cleared. -/
def clearLast (count : Nat) : List Char → List Char
  | [] => []
  | [c] => [clearBits count c]
  | c :: d :: cs => c :: clearLast count (d :: cs)

/-- The data with those bits cleared that belong to no byte. A character has six bits, a byte has
eight, and the bytes are filled from the front. -/
def canonical (data : List Char) : List Char :=
  clearLast (6 * data.length % 8) data

example : canonical "QR".toList = "QQ".toList := by decide

theorem withoutPadding_cons {c : Char} {v : Nat} (h : alphabet[v]? = some c) (cs : List Char) :
    withoutPadding (c :: cs) = c :: withoutPadding cs :=
  List.filter_cons_of_pos (by simpa using ne_padding_of_value? (value?_eq_some_iff.2 h))

theorem withoutPadding_replicate (n : Nat) : withoutPadding (List.replicate n '=') = [] := by
  rw [withoutPadding, List.filter_eq_nil_iff]
  intro c hc
  simp [List.eq_of_mem_replicate hc]

theorem withoutPadding_append (cs ds : List Char) :
    withoutPadding (cs ++ ds) = withoutPadding cs ++ withoutPadding ds :=
  List.filter_append ..

/-- Clearing the low bits of a character rounds its value down. -/
theorem clearBits_eq {c : Char} {v : Nat} (h : alphabet[v]? = some c) (count : Nat) :
    clearBits count c = digit (v / 2 ^ count * 2 ^ count) := by
  rw [clearBits, value?_eq_some_iff.2 h]

/-- A character of the alphabet is the digit of its value. -/
theorem digit_of_alphabet {c : Char} {v : Nat} (h : alphabet[v]? = some c) : v < 64 ∧ digit v = c :=
  digit_of_value? (value?_eq_some_iff.2 h)

/-- A complete group has no bits to clear. -/
theorem canonical_group (a b c : Char) {d : Char} {y : Nat} (hd : alphabet[y]? = some d)
    (cs : List Char) : canonical (a :: b :: c :: d :: cs) = a :: b :: c :: d :: canonical cs := by
  have hcount : 6 * (a :: b :: c :: d :: cs).length % 8 = 6 * cs.length % 8 := by
    simp only [List.length_cons]
    omega
  rw [canonical, canonical, hcount]
  cases cs with
  | nil =>
    have hclear := clearBits_eq hd 0
    rw [pow_zero, Nat.div_one, Nat.mul_one, (digit_of_alphabet hd).2] at hclear
    simp [clearLast, hclear]
  | cons e es => rfl

/-! ## Writing what was read -/

/-- A group is written from the values of its characters. -/
theorem group_of_values {v w x y : Nat} (hv : v < 64) (hw : w < 64) (hx : x < 64) (hy : y < 64) :
    group (v * 4 + w / 16).toUInt8 (w % 16 * 16 + x / 4).toUInt8 (x % 4 * 64 + y).toUInt8 =
      [digit v, digit w, digit x, digit y] := by
  have htoNat : ∀ n : Nat, n < 256 → n.toUInt8.toNat = n := fun n hn => Nat.mod_eq_of_lt hn
  have hbits : (v * 4 + w / 16) * 0x10000 + (w % 16 * 16 + x / 4) * 0x100 + (x % 4 * 64 + y) =
      ((v * 64 + w) * 64 + x) * 64 + y := by
    omega
  have hfirst : (((v * 64 + w) * 64 + x) * 64 + y) / 0x40000 = v := by omega
  have hsecond : (((v * 64 + w) * 64 + x) * 64 + y) / 0x1000 % 0x40 = w := by omega
  have hthird : (((v * 64 + w) * 64 + x) * 64 + y) / 0x40 % 0x40 = x := by omega
  have hfourth : (((v * 64 + w) * 64 + x) * 64 + y) % 0x40 = y := by omega
  rw [group, htoNat _ (by omega), htoNat _ (by omega), htoNat _ (by omega), hbits]
  rw [hfirst, hsecond, hthird, hfourth]

/-- The bytes of a last group are written with the bits cleared that belong to no byte. -/
theorem encode_last {v w x : Nat} (hv : v < 64) (hw : w < 64) (hx : x < 64) :
    encode [(v * 4 + w / 16).toUInt8] = [digit v, digit (w / 16 * 16), '=', '='] ∧
      encode [(v * 4 + w / 16).toUInt8, (w % 16 * 16 + x / 4).toUInt8] =
        [digit v, digit w, digit (x / 4 * 4), '='] := by
  constructor
  · have hgroup := group_of_values hv (w := w / 16 * 16) (by omega) (x := 0) (by decide)
      (y := 0) (by decide)
    rw [Nat.mul_div_cancel _ (by decide), Nat.mul_mod_left] at hgroup
    rw [encode_one]
    exact congrArg (fun cs => cs.take 2 ++ ['=', '=']) hgroup
  · have hgroup := group_of_values hv hw (x := x / 4 * 4) (by omega) (y := 0) (by decide)
    rw [Nat.mul_div_cancel _ (by decide), Nat.mul_mod_left] at hgroup
    rw [encode_two]
    exact congrArg (fun cs => cs.take 3 ++ ['=']) hgroup

/-- What is written for the bytes of a text of the grammar are its data, with the bits cleared that
belong to no byte. -/
theorem Groups.withoutPadding_encode {cs : List Char} {bytes : List UInt8} (h : Groups cs bytes) :
    withoutPadding (encode bytes) = canonical (withoutPadding cs) := by
  induction h with
  | nil => rfl
  | @one a b v w ha hb =>
    obtain ⟨hv, rfl⟩ := digit_of_alphabet ha
    obtain ⟨hw, -⟩ := digit_of_alphabet hb
    have hcleared : alphabet[w / 16 * 16]? = some (digit (w / 16 * 16)) :=
      getElem?_alphabet (by omega)
    have hclear : digit (w / 16 * 16) = clearBits 4 b := (clearBits_eq hb 4).symm
    have hpadding : withoutPadding ['=', '='] = [] := withoutPadding_replicate 2
    rw [(encode_last hv hw hw).1, withoutPadding_cons ha, withoutPadding_cons ha,
      withoutPadding_cons hb, withoutPadding_cons hcleared, hpadding, hclear]
    simp [canonical, clearLast]
  | @two a b c v w x ha hb hc =>
    obtain ⟨hv, rfl⟩ := digit_of_alphabet ha
    obtain ⟨hw, rfl⟩ := digit_of_alphabet hb
    obtain ⟨hx, -⟩ := digit_of_alphabet hc
    have hcleared : alphabet[x / 4 * 4]? = some (digit (x / 4 * 4)) :=
      getElem?_alphabet (by omega)
    have hclear : digit (x / 4 * 4) = clearBits 2 c := (clearBits_eq hc 2).symm
    have hpadding : withoutPadding ['='] = [] := withoutPadding_replicate 1
    rw [(encode_last hv hw hx).2, withoutPadding_cons ha, withoutPadding_cons hb,
      withoutPadding_cons ha, withoutPadding_cons hb, withoutPadding_cons hc,
      withoutPadding_cons hcleared, hpadding, hclear]
    simp [canonical, clearLast]
  | three ha hb hc hd _ ih =>
    rw [encode_cons, group_of_values (digit_of_alphabet ha).1 (digit_of_alphabet hb).1
      (digit_of_alphabet hc).1 (digit_of_alphabet hd).1, (digit_of_alphabet ha).2,
      (digit_of_alphabet hb).2, (digit_of_alphabet hc).2, (digit_of_alphabet hd).2]
    simp only [List.cons_append, List.nil_append]
    rw [withoutPadding_cons ha, withoutPadding_cons hb, withoutPadding_cons hc,
      withoutPadding_cons hd, withoutPadding_cons ha, withoutPadding_cons hb,
      withoutPadding_cons hc, withoutPadding_cons hd, canonical_group _ _ _ hd, ih]

/-- The same of everything that is read. Padding that is not due leaves no trace. -/
theorem withoutPadding_encode_of_decode {cs : List Char} {bytes : List UInt8}
    (h : decode cs = .ok bytes) :
    withoutPadding (encode bytes) = canonical (withoutPadding cs) := by
  rcases decode_eq_ok_iff.1 h with hgroups | ⟨body, surplus, rfl, -, -, hbody⟩
  · exact hgroups.withoutPadding_encode
  · rw [withoutPadding_append, withoutPadding_replicate, List.append_nil]
    exact hbody.withoutPadding_encode

/-! ## Bytes from data -/

/-- Three bytes are those of four values. -/
theorem exists_values (a b c : UInt8) : ∃ v w x y : Nat, (v < 64 ∧ w < 64 ∧ x < 64 ∧ y < 64) ∧
    (v * 4 + w / 16).toUInt8 = a ∧ (w % 16 * 16 + x / 4).toUInt8 = b ∧
      (x % 4 * 64 + y).toUInt8 = c := by
  have ha := a.toNat_lt
  have hb := b.toNat_lt
  have hc := c.toNat_lt
  exact ⟨a.toNat / 4, a.toNat % 4 * 16 + b.toNat / 16, b.toNat % 16 * 4 + c.toNat / 64,
    c.toNat % 64, by omega, toUInt8_eq (by omega), toUInt8_eq (by omega), toUInt8_eq (by omega)⟩

/-- What is written is in the grammar. -/
theorem groups_encode (bytes : List UInt8) : Groups (encode bytes) bytes := by
  induction bytes using groupInduction with
  | nil => exact .nil
  | one a =>
    obtain ⟨v, w, -, -, ⟨hv, hw, -, -⟩, rfl, -, -⟩ := exists_values a 0 0
    have hgroups := Groups.one (getElem?_alphabet hv)
      (getElem?_alphabet (v := w / 16 * 16) (by omega))
    rw [Nat.mul_div_cancel _ (by decide)] at hgroups
    rwa [(encode_last hv hw hw).1]
  | two a b =>
    obtain ⟨v, w, x, -, ⟨hv, hw, hx, -⟩, rfl, rfl, -⟩ := exists_values a b 0
    have hgroups := Groups.two (getElem?_alphabet hv) (getElem?_alphabet hw)
      (getElem?_alphabet (v := x / 4 * 4) (by omega))
    rw [Nat.mul_div_cancel _ (by decide)] at hgroups
    rwa [(encode_last hv hw hx).2]
  | three a b c bytes ih =>
    obtain ⟨v, w, x, y, ⟨hv, hw, hx, hy⟩, rfl, rfl, rfl⟩ := exists_values a b c
    rw [encode_cons, group_of_values hv hw hx hy]
    exact .three (getElem?_alphabet hv) (getElem?_alphabet hw) (getElem?_alphabet hx)
      (getElem?_alphabet hy) ih

/-- A text of the grammar is its data with the padding that fills the last group. -/
theorem Groups.eq_append {cs : List Char} {bytes : List UInt8} (h : Groups cs bytes) :
    cs = withoutPadding cs ++
      List.replicate ((4 - (withoutPadding cs).length % 4) % 4) '=' := by
  induction h with
  | nil => rfl
  | one ha hb =>
    have hpadding : withoutPadding ['=', '='] = [] := withoutPadding_replicate 2
    rw [withoutPadding_cons ha, withoutPadding_cons hb, hpadding]
    rfl
  | two ha hb hc =>
    have hpadding : withoutPadding ['='] = [] := withoutPadding_replicate 1
    rw [withoutPadding_cons ha, withoutPadding_cons hb, withoutPadding_cons hc, hpadding]
    rfl
  | @three _ _ _ _ _ _ _ _ cs _ ha hb hc hd _ ih =>
    rw [withoutPadding_cons ha, withoutPadding_cons hb, withoutPadding_cons hc,
      withoutPadding_cons hd]
    simp only [List.length_cons, List.cons_append, Nat.add_mod_right, Nat.add_assoc]
    rw [← ih]

/-- Bytes are determined by the data that is written for them. -/
theorem eq_of_withoutPadding_encode {bytes bytes' : List UInt8}
    (h : withoutPadding (encode bytes) = withoutPadding (encode bytes')) : bytes = bytes' := by
  have hencode : encode bytes = encode bytes' := by
    rw [(groups_encode bytes).eq_append, (groups_encode bytes').eq_append, h]
  have hdecode := decode_encode bytes
  rw [hencode, decode_encode] at hdecode
  exact (Except.ok.inj hdecode).symm

end SealedPage.Codec.Base64

namespace SealedPage.Seal

open Text (dropBlanks)
open Codec.Base64 (Spaced encode withoutPadding canonical)

/-! ## Transport -/

/-- Encoding what was decoded gives the text back, up to padding and unused bits. -/
theorem withoutPadding_encode_of_decodeBase64 {part : Render.Part} {text : String} {bytes : Bytes}
    (h : Render.decodeBase64 part text = .ok bytes) :
    withoutPadding (encode bytes) = canonical (withoutPadding (dropBlanks text.toList)) :=
  Codec.Base64.withoutPadding_encode_of_decode (Render.decodeBase64_iff.1 h).read

/-- What becomes of data in transport. -/
structure KeepsData (part : Render.Part) : Prop where
  /-- Bytes, at least one, are read back from what is written for them, whatever blanks are put in
  between. -/
  bytes : ∀ bytes text, bytes ≠ [] → Spaced (encode bytes) text.toList →
    Render.decodeBase64 part text = .ok bytes
  /-- A document that is not empty is decoded to its bytes, and these are encoded to the same text
  again. -/
  source : ∀ s : String, s ≠ "" → ∃ bytes, Render.decodeBase64 part (encodeSource s) = .ok bytes ∧
    bytes = Text.Utf8.ofString s ∧ String.ofList (encode bytes) = encodeSource s
  /-- What is accepted is written again as it stood, but for blanks, padding and the bits that
  belong to no byte. -/
  text : ∀ text bytes, Render.decodeBase64 part text = .ok bytes →
    withoutPadding (encode bytes) = canonical (withoutPadding (dropBlanks text.toList))
  /-- Two texts that are accepted stand for the same bytes exactly if nothing else sets them
  apart. -/
  apart : ∀ text text' bytes bytes', Render.decodeBase64 part text = .ok bytes →
    Render.decodeBase64 part text' = .ok bytes' →
      (bytes = bytes' ↔ canonical (withoutPadding (dropBlanks text.toList)) =
        canonical (withoutPadding (dropBlanks text'.toList)))

/-- Whatever part of the transport it is, its decoder keeps the data. -/
theorem keepsData_decodeBase64 (part : Render.Part) : KeepsData part where
  bytes bytes text hbytes hspaced := by
    refine Render.decodeBase64_iff.2 (Render.decodes_of_dropBlanks hbytes ?_)
    rw [hspaced.dropBlanks_eq, Codec.Base64.dropBlanks_encode]
  source s hs := by
    have hdecodes := Render.decodes_encode (ofString_ne_nil hs)
    exact ⟨_, Render.decodeBase64_iff.2 hdecodes, rfl, rfl⟩
  text _ _ h := withoutPadding_encode_of_decodeBase64 h
  apart text text' bytes bytes' h h' := by
    rw [← withoutPadding_encode_of_decodeBase64 h, ← withoutPadding_encode_of_decodeBase64 h']
    exact ⟨fun heq => by rw [heq], Codec.Base64.eq_of_withoutPadding_encode⟩

end SealedPage.Seal
