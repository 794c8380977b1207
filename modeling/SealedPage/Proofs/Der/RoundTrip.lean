import SealedPage.Proofs.Der.Number

/-!
# DER there and back

A value of the kinds that keys are made of is read back from its encoding, as long as its content is
not longer than lengths can say: `read?_write`. A longer content is not read at all,
`read?_tagged_eq_none`. What is read as an integer is the content that the integer has,
`integerContent_of_readInteger`.
-/

namespace SealedPage.Der

/-! ## Lengths -/

/-- The first length that takes more bytes than are read. -/
def lengthLimit : Nat := 2 ^ 32

/-- Four bytes are read as a length, and no more. -/
theorem lengthLimit_eq : lengthLimit = 256 ^ 4 := by
  decide

theorem length_lengthBytes_pos (n : Nat) : 1 ≤ (lengthBytes n).length := by
  unfold lengthBytes
  split <;> simp

/-- Lengths below `256 ^ 5` take at most six bytes. -/
theorem length_lengthBytes_le {n : Nat} (h : n < 256 ^ 5) : (lengthBytes n).length ≤ 6 := by
  unfold lengthBytes
  split
  · simp
  · have := length_numberBytes_le h
    simp only [List.length_cons]
    omega

/-- A long length: how many bytes it takes, and these bytes. -/
theorem lengthBytes_long {n : Nat} (h : 128 ≤ n) (hlimit : n < 256 ^ 127) (rest : Bytes) :
    ∃ b count, lengthBytes n ++ rest = b :: (numberBytes n ++ rest) ∧ b.toNat = 128 + count ∧
      count = (numberBytes n).length := by
  have hle := length_numberBytes_le hlimit
  refine ⟨(128 + (numberBytes n).length).toUInt8, (numberBytes n).length, ?_, ?_, rfl⟩
  · rw [lengthBytes, if_neg (by omega), List.cons_append]
  · rw [toNat_toUInt8]
    omega

theorem not_lt_of_toNat {b : UInt8} {count : Nat} (h : b.toNat = 128 + count) : ¬ b < 128 := by
  rw [UInt8.lt_iff_toNat_lt, h]
  change ¬ 128 + count < 128
  omega

/-- A length that is not too large is read from its encoding, whatever follows it. -/
theorem readLength_lengthBytes {n : Nat} (h : n < lengthLimit) (rest : Bytes) :
    readLength (lengthBytes n ++ rest) = some (n, rest) := by
  rw [lengthLimit_eq] at h
  by_cases hshort : n < 128
  · have hb : n.toUInt8.toNat = n := by
      rw [toNat_toUInt8]
      omega
    have hlt : n.toUInt8 < 128 := by
      rw [UInt8.lt_iff_toNat_lt, hb]
      exact hshort
    rw [lengthBytes, if_pos hshort, List.singleton_append, readLength, if_pos hlt, hb]
  · obtain ⟨b, count, hbytes, hb, hcount⟩ := lengthBytes_long (n := n) (by omega) (by omega) rest
    have hle := length_numberBytes_le h
    have hpos : 0 < count := by
      rw [hcount]
      exact lt_length_numberBytes (k := 0) (by omega)
    have hsub : b.toNat - 128 = (numberBytes n).length := by omega
    have hhead := isShortest_numberBytes n
    rw [IsShortest] at hhead
    rw [hbytes, readLength, if_neg (not_lt_of_toNat hb)]
    dsimp only
    rw [hsub, List.take_left, List.drop_left, number_numberBytes]
    have hform : ¬ ((decide ((numberBytes n).length = 0) || decide (4 < (numberBytes n).length) ||
        decide ((numberBytes n).length < (numberBytes n).length) ||
        decide ((numberBytes n).head? = some 0)) = true) := by
      simp only [Bool.or_eq_true, decide_eq_true_eq, hhead, or_false, not_or]
      omega
    rw [if_neg hform, if_neg hshort]

/-- A length of five bytes or more is not read. -/
theorem readLength_eq_none {n : Nat} (h : lengthLimit ≤ n) (hlimit : n < 256 ^ 127) (rest : Bytes) :
    readLength (lengthBytes n ++ rest) = none := by
  rw [lengthLimit_eq] at h
  obtain ⟨b, count, hbytes, hb, hcount⟩ := lengthBytes_long (by omega) hlimit rest
  have hlt := lt_length_numberBytes h
  have hsub : 4 < b.toNat - 128 := by omega
  rw [hbytes, readLength, if_neg (not_lt_of_toNat hb)]
  dsimp only
  rw [if_pos (by simp [hsub])]

/-- No length that is too large is read. -/
theorem lt_lengthLimit_of_readLength {bytes rest : Bytes} {n : Nat}
    (h : readLength bytes = some (n, rest)) : n < lengthLimit := by
  rw [lengthLimit_eq]
  unfold readLength at h
  split at h
  · simp at h
  · rename_i b bytes
    split at h
    · obtain ⟨rfl, -⟩ := Prod.mk.inj (Option.some.inj h)
      have := b.toNat_lt
      omega
    · dsimp only at h
      split at h
      · simp at h
      · rename_i hcount
        split at h
        · simp at h
        · obtain ⟨rfl, -⟩ := Prod.mk.inj (Option.some.inj h)
          simp only [Bool.or_eq_true, decide_eq_true_eq, not_or, Nat.not_lt] at hcount
          have hlength : (bytes.take (b.toNat - 128)).length ≤ 4 := by
            rw [List.length_take]
            omega
          exact Nat.lt_of_lt_of_le (number_lt _) (Nat.pow_le_pow_right (by decide) hlength)

/-! ## Tags -/

/-- A content is read with its tag, whatever follows it. -/
theorem readTagged_tagged {tag : UInt8} (htag : tag &&& 0x1F ≠ 0x1F) {content : Bytes}
    (h : content.length < lengthLimit) (rest : Bytes) :
    readTagged (tagged tag content ++ rest) = some (tag, content, rest) := by
  rw [tagged, List.cons_append, List.append_assoc, readTagged, if_neg htag,
    readLength_lengthBytes h]
  dsimp only
  rw [if_neg (by simp), List.take_left, List.drop_left]

/-- No content that is too long is read. -/
theorem length_content_of_readTagged {bytes content rest : Bytes} {tag : UInt8}
    (h : readTagged bytes = some (tag, content, rest)) : content.length < lengthLimit := by
  unfold readTagged at h
  split at h
  · simp at h
  · split at h
    · simp at h
    · split at h
      · simp at h
      · rename_i hlength
        split at h
        · simp at h
        · obtain ⟨-, rfl, -⟩ : _ ∧ _ ∧ _ := by simpa using h
          have := lt_lengthLimit_of_readLength hlength
          rw [List.length_take]
          omega

/-- A content that lengths cannot tell is not read. -/
theorem read?_tagged_eq_none {tag : UInt8} {content : Bytes} (h : lengthLimit ≤ content.length)
    (hlimit : content.length < 256 ^ 127) : read? (tagged tag content) = none := by
  have hread : readTagged (tagged tag content) = none := by
    rw [tagged, readTagged, readLength_eq_none h hlimit]
    split <;> rfl
  rw [read?, readValue, hread]

/-! ## Integers -/

theorem integerContent_of_nil {n : Nat} (h : numberBytes n = []) : integerContent n = [0] := by
  rw [integerContent, h]

/-- A zero keeps a number whose first bit is set from being taken for a negative one. -/
theorem integerContent_of_cons {n : Nat} {b : UInt8} {bytes : Bytes}
    (h : numberBytes n = b :: bytes) :
    integerContent n = if b < 128 then b :: bytes else 0 :: b :: bytes := by
  rw [integerContent, h]

/-- An integer is read from its content again. -/
theorem readInteger_integerContent (n : Nat) : readInteger (integerContent n) = some n := by
  obtain ⟨hnumber, hshortest⟩ := numberBytes_spec n
  cases hbytes : numberBytes n with
  | nil =>
    rw [hbytes, number_nil] at hnumber
    rw [integerContent_of_nil hbytes, ← hnumber]
    rfl
  | cons b bytes =>
    rw [hbytes] at hnumber hshortest
    have hb : b ≠ 0 := fun hb => hshortest (by rw [hb, List.head?_cons])
    rw [integerContent_of_cons hbytes]
    split
    · rename_i hlt
      cases bytes with
      | nil =>
        rw [number_cons, number_nil] at hnumber
        rw [readInteger, if_pos hlt, ← hnumber]
        simp
      | cons c bytes =>
        have hle : ¬ 128 ≤ b := by rwa [UInt8.not_le]
        rw [readInteger, if_neg (by simp [hle, hb]), hnumber]
    · rename_i hlt
      rw [readInteger, if_neg (by simp [hlt]), number_cons, hnumber]
      simp

/-- An integer has one content. -/
theorem integerContent_of_readInteger {content : Bytes} {n : Nat}
    (h : readInteger content = some n) : integerContent n = content := by
  unfold readInteger at h
  split at h
  · simp at h
  · rename_i b
    split at h
    · rename_i hlt
      obtain rfl := Option.some.inj h
      by_cases hb : b = 0
      · subst hb
        rfl
      · have hbytes : numberBytes b.toNat = [b] := by
          have hshortest : IsShortest [b] := by simpa [IsShortest] using hb
          rw [← numberBytes_number hshortest, number_cons, number_nil]
          simp
        rw [integerContent_of_cons hbytes, if_pos hlt]
    · simp at h
  · rename_i b c bytes
    split at h
    · simp at h
    · rename_i hform
      obtain rfl := Option.some.inj h
      simp only [Bool.or_eq_true, Bool.and_eq_true, decide_eq_true_eq, not_or, not_and,
        UInt8.not_le] at hform
      obtain ⟨hlt, hzero⟩ := hform
      by_cases hb : b = 0
      -- the zero in front is there because of the byte behind it
      · subst hb
        have hc := hzero rfl
        have hc0 : c ≠ 0 := by
          rintro rfl
          exact hc (by decide)
        have hbytes : numberBytes (number (0 :: c :: bytes)) = c :: bytes := by
          have hshortest : IsShortest (c :: bytes) := by simpa [IsShortest] using hc0
          have hnumber : number (0 :: c :: bytes) = number (c :: bytes) := by
            rw [number_cons]
            simp
          rw [hnumber, numberBytes_number hshortest]
        rw [integerContent_of_cons hbytes, if_neg hc]
      · have hbytes : numberBytes (number (b :: c :: bytes)) = b :: c :: bytes :=
          numberBytes_number (by simpa [IsShortest] using hb)
        rw [integerContent_of_cons hbytes, if_pos hlt]

/-! ## Values -/

mutual

/-- Whether a value is of the kinds that keys are made of, with the content that its kind has. -/
def Value.isRegular : Value → Bool
  | .integer _ | .octetString _ | .null => true
  | .bitString unused _ => unused == 0
  | .oid content => !content.isEmpty && areParts false content
  | .sequence items => areRegular items
  | .context _ _ | .other _ _ => false

/-- Whether all values are. -/
def areRegular : List Value → Bool
  | [] => true
  | v :: vs => v.isRegular && areRegular vs

end

/-- The tag of a value. -/
def Value.tag : Value → UInt8
  | .integer _ => 0x02
  | .bitString _ _ => 0x03
  | .octetString _ => 0x04
  | .null => 0x05
  | .oid _ => 0x06
  | .sequence _ => 0x30
  | .context number _ => (0xA0 + number).toUInt8
  | .other tag _ => tag

/-- The content of a value. -/
def Value.content : Value → Bytes
  | .integer n => integerContent n
  | .bitString unused bytes => unused :: bytes
  | .octetString bytes => bytes
  | .null => []
  | .oid content => content
  | .sequence items => writeAll items
  | .context _ items => writeAll items
  | .other _ content => content

/-- Every value is written as its content behind its tag. -/
theorem Value.write_eq (v : Value) : v.write = tagged v.tag v.content := by
  cases v <;> simp [Value.write, Value.tag, Value.content]

/-- A content grows by its tag and the encoding of its length. -/
theorem length_tagged (tag : UInt8) (content : Bytes) :
    (tagged tag content).length = 1 + (lengthBytes content.length).length + content.length := by
  rw [tagged, List.length_cons, List.length_append]
  omega

/-- Tag and length take two bytes at least. -/
theorem Value.length_content_le (v : Value) : v.content.length + 2 ≤ v.write.length := by
  have := length_lengthBytes_pos v.content.length
  rw [v.write_eq, length_tagged]
  omega

theorem readBits_zero (bytes : Bytes) : readBits (0 :: bytes) = some (.bitString 0 bytes) := by
  unfold readBits
  cases hlast : bytes.getLast? with
  | none =>
    rw [List.getLast?_eq_none_iff] at hlast
    simp [hlast]
  | some last => simp [hlast]

/-- A value that is written is read as its tag and its content. -/
theorem readTagged_write {v : Value} (hv : v.isRegular) (hsize : v.content.length < lengthLimit)
    (rest : Bytes) : readTagged (v.write ++ rest) = some (v.tag, v.content, rest) := by
  have htag : v.tag &&& 0x1F ≠ 0x1F := by
    cases v <;> simp [Value.isRegular] at hv <;> rw [Value.tag] <;> decide
  rw [v.write_eq, readTagged_tagged htag hsize]

mutual

/-- A value that is written is read again, whatever follows it. -/
theorem readValue_write {v : Value} (hv : v.isRegular) (hsize : v.content.length < lengthLimit)
    (rest : Bytes) {fuel : Nat} (hfuel : v.write.length ≤ fuel + 1) :
    readValue fuel (v.write ++ rest) = some (v, rest) := by
  have hlength := v.length_content_le
  cases fuel with
  | zero => omega
  | succ fuel =>
    rw [readValue, readTagged_write hv hsize]
    dsimp only
    cases v with
    | integer n => simp [Value.tag, Value.content, readInteger_integerContent]
    | bitString unused bytes =>
      obtain rfl : unused = 0 := by simpa [Value.isRegular] using hv
      simp [Value.tag, Value.content, readBits_zero]
    | octetString bytes => simp [Value.tag, Value.content]
    | null => simp [Value.tag, Value.content]
    | oid content =>
      obtain ⟨hempty, hparts⟩ : content.isEmpty = false ∧ areParts false content := by
        simpa [Value.isRegular] using hv
      simp [Value.tag, Value.content, hempty, hparts]
    | sequence items =>
      rw [Value.content] at hsize hlength
      have hregular : areRegular items := by simpa [Value.isRegular] using hv
      have hitems := readAll_writeAll hregular hsize (by omega : (writeAll items).length ≤ fuel)
      simp [Value.tag, Value.content, hitems]
    | context number items => simp [Value.isRegular] at hv
    | other tag content => simp [Value.isRegular] at hv

/-- Values that are written one behind the other are read again, all of them. -/
theorem readAll_writeAll {vs : List Value} (hvs : areRegular vs)
    (hsize : (writeAll vs).length < lengthLimit) {fuel : Nat}
    (hfuel : (writeAll vs).length ≤ fuel) : readAll fuel (writeAll vs) = some vs := by
  cases vs with
  | nil => cases fuel <;> simp [readAll, writeAll]
  | cons v vs =>
    obtain ⟨hv, hvs⟩ : v.isRegular ∧ areRegular vs := by simpa [areRegular] using hvs
    have hlength := v.length_content_le
    rw [writeAll, List.length_append] at hsize hfuel
    cases fuel with
    | zero => omega
    | succ fuel =>
      have hne : (v.write ++ writeAll vs).isEmpty = false := by
        rw [List.isEmpty_eq_false_iff, ← List.length_pos_iff, List.length_append]
        omega
      rw [writeAll, readAll, hne, if_neg Bool.false_ne_true,
        readValue_write hv (by omega) (writeAll vs) (by omega)]
      dsimp only
      rw [readAll_writeAll hvs (by omega) (by omega)]
      rfl

end

/-- What is written for a value is read back. -/
theorem read?_write {v : Value} (hv : v.isRegular) (hsize : v.content.length < lengthLimit) :
    read? v.write = some v := by
  have h := readValue_write hv hsize [] (by omega : v.write.length ≤ v.write.length + 1 + 1)
  rw [List.append_nil] at h
  rw [read?, h]

/-! ## Integers that were read -/

/-- Bits are read as nothing else. -/
theorem eq_bitString_of_readBits {bytes : Bytes} {v : Value} (h : readBits bytes = some v) :
    ∃ unused bits, v = .bitString unused bits := by
  unfold readBits at h
  repeat' split at h
  all_goals simp at h
  all_goals exact ⟨_, _, h.symm⟩

/-- An integer that was read is short enough to be written again. -/
theorem length_integerContent_of_readValue {fuel : Nat} {bytes rest : Bytes} {n : Nat}
    (h : readValue fuel bytes = some (.integer n, rest)) :
    (integerContent n).length < lengthLimit := by
  cases fuel with
  | zero => simp [readValue] at h
  | succ fuel =>
    rw [readValue] at h
    split at h
    · simp at h
    · rename_i tag content rest' hread
      have hlength := length_content_of_readTagged hread
      by_cases htag : tag = 0x02
      · rw [if_pos htag] at h
        obtain ⟨m, hm, hmn⟩ := Option.map_eq_some_iff.1 h
        simp only [Prod.mk.injEq, Value.integer.injEq] at hmn
        obtain ⟨rfl, -⟩ := hmn
        rwa [integerContent_of_readInteger hm]
      -- no other tag gives an integer
      · rw [if_neg htag] at h
        split at h
        · obtain ⟨v, hbits, hv⟩ := Option.map_eq_some_iff.1 h
          obtain ⟨unused, bits, rfl⟩ := eq_bitString_of_readBits hbits
          simp at hv
        · repeat' split at h
          all_goals simp at h

/-- The items of a sequence that was read were all read from its content. -/
theorem exists_readAll_of_readValue {fuel : Nat} {bytes rest : Bytes} {items : List Value}
    (h : readValue fuel bytes = some (.sequence items, rest)) :
    ∃ fuel content, readAll fuel content = some items := by
  cases fuel with
  | zero => simp [readValue] at h
  | succ fuel =>
    rw [readValue] at h
    split at h
    · simp at h
    · rename_i tag content rest' hread
      by_cases hinteger : tag = 0x02
      · rw [if_pos hinteger] at h
        obtain ⟨m, -, hm⟩ := Option.map_eq_some_iff.1 h
        simp at hm
      · rw [if_neg hinteger] at h
        by_cases hbits : tag = 0x03
        · rw [if_pos hbits] at h
          obtain ⟨v, hv, hitems⟩ := Option.map_eq_some_iff.1 h
          obtain ⟨unused, bits, rfl⟩ := eq_bitString_of_readBits hv
          simp at hitems
        · rw [if_neg hbits] at h
          repeat' split at h
          all_goals simp at h
          -- what is left is the tag of sequences
          exact ⟨fuel, content, h.1⟩

/-- So is every integer among values that were read. -/
theorem length_integerContent_of_readAll {fuel : Nat} {bytes : Bytes} {vs : List Value}
    (h : readAll fuel bytes = some vs) {n : Nat} (hn : .integer n ∈ vs) :
    (integerContent n).length < lengthLimit := by
  induction fuel generalizing bytes vs with
  | zero =>
    rw [readAll] at h
    split at h
    · obtain rfl := Option.some.inj h
      simp at hn
    · simp at h
  | succ fuel ih =>
    rw [readAll] at h
    split at h
    · obtain rfl := Option.some.inj h
      simp at hn
    · split at h
      · simp at h
      · rename_i v rest hv
        obtain ⟨vs', hvs', rfl⟩ := Option.map_eq_some_iff.1 h
        rcases List.mem_cons.1 hn with rfl | hn
        · exact length_integerContent_of_readValue hv
        · exact ih hvs' hn

/-- The contents of integers that were read can be told by lengths. -/
theorem length_integerContent_of_read? {bytes : Bytes} {items : List Value}
    (h : read? bytes = some (.sequence items)) {n : Nat} (hn : .integer n ∈ items) :
    (integerContent n).length < lengthLimit := by
  unfold read? at h
  split at h
  · rename_i v hread
    rw [Option.some.inj h] at hread
    obtain ⟨fuel, content, hitems⟩ := exists_readAll_of_readValue hread
    exact length_integerContent_of_readAll hitems hn
  · simp at h

end SealedPage.Der
