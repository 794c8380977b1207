import SealedPage.Proofs.Codec.Base64

/-!
# Which texts are base64

The grammar of padded base64 is written down here without a reader: complete groups of four
characters, of which the last one may end in one or two equals signs. The strict reader takes every
text of the grammar for the bytes that it stands for. Beyond it the reader takes one thing more,
padding behind complete groups, where none is due: `decode_eq_ok_iff`.
-/

namespace SealedPage.Codec.Base64

/-! ## The grammar -/

/-- The characters of values, in the order of their values. -/
def alphabet : List Char :=
  "ABCDEFGHIJKLMNOPQRSTUVWXYZabcdefghijklmnopqrstuvwxyz0123456789+/".toList

/-- A text consists of groups of four characters for the given bytes. Only the last group may end in
padding; bits of its last character that belong to no byte are free. -/
inductive Groups : List Char → List UInt8 → Prop where
  | nil : Groups [] []
  | one {a b : Char} {v w : Nat} (ha : alphabet[v]? = some a) (hb : alphabet[w]? = some b) :
      Groups [a, b, '=', '='] [(v * 4 + w / 16).toUInt8]
  | two {a b c : Char} {v w x : Nat} (ha : alphabet[v]? = some a) (hb : alphabet[w]? = some b)
      (hc : alphabet[x]? = some c) :
      Groups [a, b, c, '='] [(v * 4 + w / 16).toUInt8, (w % 16 * 16 + x / 4).toUInt8]
  | three {a b c d : Char} {v w x y : Nat} {cs : List Char} {bytes : List UInt8}
      (ha : alphabet[v]? = some a) (hb : alphabet[w]? = some b) (hc : alphabet[x]? = some c)
      (hd : alphabet[y]? = some d) (hcs : Groups cs bytes) :
      Groups (a :: b :: c :: d :: cs)
        ((v * 4 + w / 16).toUInt8 :: (w % 16 * 16 + x / 4).toUInt8 ::
          (x % 4 * 64 + y).toUInt8 :: bytes)

/-- A text consists of complete groups for the given bytes, at least one, and of padding that stands
behind them without being due. -/
def Overpadded (cs : List Char) (bytes : List UInt8) : Prop :=
  ∃ body surplus, cs = body ++ List.replicate (surplus + 1) '=' ∧ body ≠ [] ∧ '=' ∉ body ∧
    Groups body bytes

/-- A character that has a value is the one that is written for it. -/
theorem digit_of_value? {c : Char} {v : Nat} (h : value? c = some v) : v < 64 ∧ digit v = c := by
  have hle : ∀ a b : Char, a ≤ b ↔ a.toNat ≤ b.toNat := fun a b => Iff.rfl
  simp only [value?, Bool.and_eq_true, decide_eq_true_eq, hle, Char.reduceToNat] at h
  have hofNat : ∀ n, n = c.toNat → Char.ofNat n = c := by
    rintro _ rfl
    exact Char.ofNat_toNat c
  split at h
  · obtain rfl := Option.some.inj h
    rw [digit, if_pos (by omega)]
    exact ⟨by omega, hofNat _ (by simp only [Char.reduceToNat]; omega)⟩
  split at h
  · obtain rfl := Option.some.inj h
    rw [digit, if_neg (by omega), if_pos (by omega)]
    exact ⟨by omega, hofNat _ (by simp only [Char.reduceToNat]; omega)⟩
  split at h
  · obtain rfl := Option.some.inj h
    rw [digit, if_neg (by omega), if_neg (by omega), if_pos (by omega)]
    exact ⟨by omega, hofNat _ (by simp only [Char.reduceToNat]; omega)⟩
  split at h
  · rename_i hplus
    obtain rfl := Option.some.inj h
    exact ⟨by decide, hplus.symm⟩
  split at h
  · rename_i hslash
    obtain rfl := Option.some.inj h
    exact ⟨by decide, hslash.symm⟩
  · exact absurd h.symm (Option.some_ne_none v)

/-- The alphabet lists the digits in the order of their values. -/
theorem getElem?_alphabet {v : Nat} (h : v < 64) : alphabet[v]? = some (digit v) := by
  have hall : ∀ i : Fin 64, alphabet[i.val]? = some (digit i) := by decide +kernel
  exact hall ⟨v, h⟩

/-- A character has a value if and only if the alphabet has the character at this place. -/
theorem value?_eq_some_iff {c : Char} {v : Nat} : value? c = some v ↔ alphabet[v]? = some c := by
  constructor
  · intro h
    obtain ⟨hlt, hdigit⟩ := digit_of_value? h
    rw [getElem?_alphabet hlt, hdigit]
  · intro h
    obtain ⟨hlt, -⟩ := List.getElem?_eq_some_iff.1 h
    rw [getElem?_alphabet hlt] at h
    rw [← Option.some.inj h]
    exact value?_digit hlt

theorem ne_padding_of_value? {c : Char} {v : Nat} (h : value? c = some v) : c ≠ '=' := by
  rintro rfl
  have hnone : value? '=' = none := by decide
  rw [hnone] at h
  exact nomatch h

theorem isBase64Char_of_value? {c : Char} {v : Nat} (h : value? c = some v) : isBase64Char c := by
  rw [isBase64Char, h]
  rfl

/-- Texts made of groups hold no other characters than those of base64. -/
theorem Groups.isBase64Char {cs : List Char} {bytes : List UInt8} (h : Groups cs bytes) :
    ∀ c ∈ cs, isBase64Char c := by
  have hdigit : ∀ {c : Char} {v : Nat}, alphabet[v]? = some c → Base64.isBase64Char c :=
    fun h => isBase64Char_of_value? (value?_eq_some_iff.2 h)
  have hpadding : Base64.isBase64Char '=' := by decide
  induction h with
  | nil => simp
  | one ha hb => simp [hdigit ha, hdigit hb, hpadding]
  | two ha hb hc => simp [hdigit ha, hdigit hb, hdigit hc, hpadding]
  | three ha hb hc hd _ ih =>
    simp only [List.mem_cons, forall_eq_or_imp]
    exact ⟨hdigit ha, hdigit hb, hdigit hc, hdigit hd, ih⟩

/-- A text of the grammar does not begin with padding. -/
theorem Groups.head?_ne {cs : List Char} {bytes : List UInt8} (h : Groups cs bytes) :
    cs.head? ≠ some '=' := by
  have hdigit : ∀ {c : Char} {v : Nat}, alphabet[v]? = some c → c ≠ '=' :=
    fun h => ne_padding_of_value? (value?_eq_some_iff.2 h)
  cases h with
  | nil => simp
  | one ha => simpa using hdigit ha
  | two ha => simpa using hdigit ha
  | three ha => simpa using hdigit ha

/-! ## One character -/

namespace Reader

theorem read_of_value? {r : Reader} (hr : r.padded = false) {c : Char} {v : Nat}
    (h : value? c = some v) (cs : List Char) : r.read (c :: cs) = (r.push v).read cs := by
  rw [read, if_neg (ne_padding_of_value? h), h]
  simp [hr]

/-- How a reader that takes a text goes on from its first character: with data, if it has met no
padding; with padding that does not count; with padding that counts; or with padding that ends
everything. -/
theorem read_cons_eq_ok_iff {r : Reader} {c : Char} {cs : List Char} {bytes : List UInt8} :
    r.read (c :: cs) = .ok bytes ↔
      (∃ v, value? c = some v ∧ r.padded = false ∧ (r.push v).read cs = .ok bytes) ∨
      c = '=' ∧ r.quad < 2 ∧ ({ r with padded := true } : Reader).read cs = .ok bytes ∨
      c = '=' ∧ 2 ≤ r.quad ∧ r.quad + (r.pads + 1) < 4 ∧
        ({ r with pads := r.pads + 1, padded := true } : Reader).read cs = .ok bytes ∨
      c = '=' ∧ 2 ≤ r.quad ∧ 4 ≤ r.quad + (r.pads + 1) ∧ cs = [] ∧ bytes = r.done.reverse := by
  by_cases hc : c = '='
  · subst hc
    have hvalue : value? '=' = none := by decide
    rw [read, if_pos rfl]
    by_cases hquad : 2 ≤ r.quad
    · by_cases hfull : 4 ≤ r.quad + (r.pads + 1)
      · cases cs with
        | nil => simp [hvalue, hquad, hfull, Nat.not_lt.2 hquad, Nat.not_lt.2 hfull,
            eq_comm (a := bytes)]
        | cons d ds => simp [hvalue, hquad, hfull, Nat.not_lt.2 hquad, Nat.not_lt.2 hfull]
      · simp [hvalue, hquad, hfull, Nat.not_lt.2 hquad, Nat.not_le.1 hfull]
    · simp [hvalue, hquad, Nat.not_le.1 hquad]
  · rw [read, if_neg hc]
    cases hvalue : value? c with
    | none => simp [hc]
    | some v => cases hpadded : r.padded <;> simp [hc]

/-! ## Padding -/

/-- Whether padding of the given length may stand behind the data characters of a group. -/
def Closes (quad pads : Nat) : Prop :=
  quad = 0 ∨ quad = 2 ∧ pads = 2 ∨ 3 ≤ quad ∧ pads = 1

/-- The end of the text is taken if and only if no group was left open. -/
theorem finish_eq_ok_iff {r : Reader} {bytes : List UInt8} :
    r.finish = .ok bytes ↔ r.quad = 0 ∧ bytes = r.done.reverse := by
  unfold finish
  split
  · rename_i hquad
    simp [hquad, eq_comm (a := bytes)]
  · rename_i hquad
    simp [hquad]
  · rename_i hzero _
    simp [show r.quad ≠ 0 from hzero]

/-- Behind complete groups any padding is passed over. -/
theorem read_replicate {r : Reader} (hquad : r.quad = 0) (n : Nat) :
    r.read (List.replicate n '=') = .ok r.done.reverse := by
  induction n generalizing r with
  | zero => exact finish_eq_ok_iff.2 ⟨hquad, rfl⟩
  | succ n ih =>
    rw [List.replicate_succ, read_cons_eq_ok_iff]
    exact Or.inr (Or.inl ⟨rfl, by omega, ih hquad⟩)

/-- Padding that does not count is followed by padding only, and only behind complete groups. -/
theorem of_read_padded {r : Reader} {cs : List Char} {bytes : List UInt8}
    (hpadded : r.padded = true) (hquad : r.quad < 2) (h : r.read cs = .ok bytes) :
    r.quad = 0 ∧ (∃ n, cs = List.replicate n '=') ∧ bytes = r.done.reverse := by
  induction cs generalizing r with
  | nil =>
    obtain ⟨hzero, hbytes⟩ := finish_eq_ok_iff.1 h
    exact ⟨hzero, ⟨0, rfl⟩, hbytes⟩
  | cons c cs ih =>
    rcases read_cons_eq_ok_iff.1 h with ⟨-, -, hnot, -⟩ | ⟨rfl, -, hread⟩ | ⟨-, hle, -⟩ |
      ⟨-, hle, -⟩
    · exact absurd (hpadded.symm.trans hnot) (by decide)
    · obtain ⟨hzero, ⟨n, rfl⟩, hbytes⟩ := ih (r := { r with padded := true }) rfl hquad hread
      exact ⟨hzero, ⟨n + 1, rfl⟩, hbytes⟩
    · omega
    · omega

/-- What a reader takes that has met no padding yet: padding that may stand there, or data and what
is taken behind it. -/
theorem read_eq_ok_iff {r : Reader} {cs : List Char} {bytes : List UInt8}
    (hpadded : r.padded = false) (hpads : r.pads = 0) :
    r.read cs = .ok bytes ↔
      (∃ n, cs = List.replicate n '=' ∧ Closes r.quad n ∧ bytes = r.done.reverse) ∨
      ∃ c v cs', cs = c :: cs' ∧ value? c = some v ∧ (r.push v).read cs' = .ok bytes := by
  constructor
  · intro h
    cases cs with
    | nil =>
      obtain ⟨hzero, hbytes⟩ := finish_eq_ok_iff.1 h
      exact Or.inl ⟨0, rfl, Or.inl hzero, hbytes⟩
    | cons c cs =>
      rcases read_cons_eq_ok_iff.1 h with ⟨v, hv, -, hread⟩ | ⟨rfl, hlt, hread⟩ |
        ⟨rfl, hle, hlt, hread⟩ | ⟨rfl, hle, hge, rfl, hbytes⟩
      · exact Or.inr ⟨c, v, cs, rfl, hv, hread⟩
      · obtain ⟨hzero, ⟨n, rfl⟩, hbytes⟩ :=
          of_read_padded (r := { r with padded := true }) rfl hlt hread
        exact Or.inl ⟨n + 1, rfl, Or.inl hzero, hbytes⟩
      · -- one character of padding in a group of two: exactly one more has to follow
        cases cs with
        | nil =>
          obtain ⟨hzero, -⟩ := finish_eq_ok_iff.1 hread
          dsimp only at hzero
          omega
        | cons d cs =>
          rcases read_cons_eq_ok_iff.1 hread with ⟨-, -, hnot, -⟩ | ⟨-, hlt', -⟩ |
            ⟨-, -, hlt', -⟩ | ⟨rfl, -, -, rfl, hbytes⟩
          · exact nomatch hnot
          · dsimp only at hlt'
            omega
          · dsimp only at hlt'
            omega
          · exact Or.inl ⟨2, rfl, Or.inr (Or.inl ⟨by omega, rfl⟩), hbytes⟩
      · exact Or.inl ⟨1, rfl, Or.inr (Or.inr ⟨by omega, rfl⟩), hbytes⟩
  · rintro (⟨n, rfl, hzero | ⟨htwo, rfl⟩ | ⟨hthree, rfl⟩, rfl⟩ | ⟨c, v, cs', rfl, hv, hread⟩)
    · exact read_replicate hzero n
    · simp [read, htwo, hpads]
    · have hfull : 4 ≤ r.quad + (r.pads + 1) := by omega
      simp [read, hfull, Nat.le_of_succ_le hthree]
    · rw [read_of_value? hpadded hv, hread]

end Reader

/-! ## Groups -/

theorem mem_padding_cons_iff {c : Char} {v : Nat} (h : value? c = some v) {cs : List Char} :
    '=' ∈ c :: cs ↔ '=' ∈ cs := by
  rw [List.mem_cons, or_iff_right (ne_padding_of_value? h).symm]

/-- Groups are read at the front of a group, also with padding behind them if they have none. -/
theorem Groups.read_append {body : List Char} {bytes : List UInt8} (h : Groups body bytes) {n : Nat}
    (hn : n = 0 ∨ '=' ∉ body) (done : List UInt8) :
    (Reader.start done).read (body ++ List.replicate n '=') = .ok (done.reverse ++ bytes) := by
  induction h generalizing done with
  | nil =>
    rw [List.nil_append, List.append_nil]
    exact Reader.read_replicate rfl n
  | one ha hb =>
    obtain rfl : n = 0 := hn.resolve_right (by simp)
    rw [← value?_eq_some_iff] at ha hb
    rw [List.replicate_zero, List.append_nil, Reader.read_of_value? rfl ha,
      Reader.read_of_value? rfl hb]
    simp [Reader.read, Reader.push, Reader.start]
  | two ha hb hc =>
    obtain rfl : n = 0 := hn.resolve_right (by simp)
    rw [← value?_eq_some_iff] at ha hb hc
    rw [List.replicate_zero, List.append_nil, Reader.read_of_value? rfl ha,
      Reader.read_of_value? rfl hb, Reader.read_of_value? rfl hc]
    simp [Reader.read, Reader.push, Reader.start]
  | three ha hb hc hd _ ih =>
    rw [← value?_eq_some_iff] at ha hb hc hd
    rw [mem_padding_cons_iff ha, mem_padding_cons_iff hb, mem_padding_cons_iff hc,
      mem_padding_cons_iff hd] at hn
    simp only [List.cons_append]
    rw [Reader.read_of_value? rfl ha, Reader.read_of_value? rfl hb, Reader.read_of_value? rfl hc,
      Reader.read_of_value? rfl hd, push_start, ih hn]
    simp

/-- What is read at the front of a group are groups, with padding behind them only if they have
none. -/
theorem exists_groups_of_read (done : List UInt8) {cs : List Char} {bytes : List UInt8}
    (h : (Reader.start done).read cs = .ok bytes) :
    ∃ body n tail, cs = body ++ List.replicate n '=' ∧ (n = 0 ∨ '=' ∉ body) ∧ Groups body tail ∧
      bytes = done.reverse ++ tail := by
  -- one group is taken at a time, so the rest of the text is shorter by four characters
  induction hlen : cs.length using Nat.strongRecOn generalizing cs done with
  | ind k ih =>
    rcases (Reader.read_eq_ok_iff rfl rfl).1 h with
      ⟨n, rfl, -, rfl⟩ | ⟨a, v, cs, rfl, ha, h⟩
    · exact ⟨[], n, [], rfl, Or.inr List.not_mem_nil, .nil, by simp [Reader.start]⟩
    rcases (Reader.read_eq_ok_iff rfl rfl).1 h with
      ⟨n, -, hcloses, -⟩ | ⟨b, w, cs, rfl, hb, h⟩
    · simp [Reader.Closes, Reader.push, Reader.start] at hcloses
    rcases (Reader.read_eq_ok_iff rfl rfl).1 h with
      ⟨n, rfl, hcloses, rfl⟩ | ⟨c, x, cs, rfl, hc, h⟩
    · obtain rfl : n = 2 := by simpa [Reader.Closes, Reader.push, Reader.start] using hcloses
      exact ⟨[a, b, '=', '='], 0, _, rfl, Or.inl rfl,
        .one (value?_eq_some_iff.1 ha) (value?_eq_some_iff.1 hb),
        by simp [Reader.push, Reader.start]⟩
    rcases (Reader.read_eq_ok_iff rfl rfl).1 h with
      ⟨n, rfl, hcloses, rfl⟩ | ⟨d, y, cs, rfl, hd, h⟩
    · obtain rfl : n = 1 := by simpa [Reader.Closes, Reader.push, Reader.start] using hcloses
      exact ⟨[a, b, c, '='], 0, _, rfl, Or.inl rfl,
        .two (value?_eq_some_iff.1 ha) (value?_eq_some_iff.1 hb) (value?_eq_some_iff.1 hc),
        by simp [Reader.push, Reader.start]⟩
    rw [push_start] at h
    obtain ⟨body, n, tail, rfl, hn, hbody, rfl⟩ :=
      ih cs.length (by simp only [List.length_cons] at hlen; omega) _ h rfl
    refine ⟨a :: b :: c :: d :: body, n, _, rfl, ?_,
      .three (value?_eq_some_iff.1 ha) (value?_eq_some_iff.1 hb) (value?_eq_some_iff.1 hc)
        (value?_eq_some_iff.1 hd) hbody, by simp⟩
    rwa [mem_padding_cons_iff ha, mem_padding_cons_iff hb, mem_padding_cons_iff hc,
      mem_padding_cons_iff hd]

/-! ## Whole texts -/

/-- Only the empty text stands for no bytes. -/
theorem Groups.eq_nil_iff {cs : List Char} {bytes : List UInt8} (h : Groups cs bytes) :
    cs = [] ↔ bytes = [] := by
  cases h <;> simp

/-- Padding behind a whole group needs a group. -/
theorem Overpadded.ne_nil {cs : List Char} {bytes : List UInt8} (h : Overpadded cs bytes) :
    cs ≠ [] ∧ bytes ≠ [] := by
  obtain ⟨body, surplus, rfl, hne, -, hbody⟩ := h
  exact ⟨List.append_ne_nil_of_left_ne_nil hne _, fun hnil => hne (hbody.eq_nil_iff.2 hnil)⟩

/-- The strict reader takes the texts of the grammar and, beyond them, complete groups with surplus
padding behind them. -/
theorem decode_eq_ok_iff {cs : List Char} {bytes : List UInt8} :
    decode cs = .ok bytes ↔ Groups cs bytes ∨ Overpadded cs bytes := by
  constructor
  · intro h
    unfold decode at h
    split at h
    · exact nomatch h
    split at h
    · exact nomatch h
    · rename_i hhead
      obtain ⟨body, n, tail, rfl, hn, hbody, rfl⟩ := exists_groups_of_read [] h
      cases n with
      | zero => exact Or.inl (by simpa using hbody)
      | succ n =>
        refine Or.inr ⟨body, n, rfl, ?_, hn.resolve_left (by simp), hbody⟩
        rintro rfl
        exact hhead (by simp [List.replicate_succ])
  · rintro (hbody | ⟨body, n, rfl, hne, hmem, hbody⟩)
    · have hread := hbody.read_append (Or.inl rfl) []
      rw [List.replicate_zero, List.append_nil] at hread
      rw [decode_of_isBase64Char hbody.isBase64Char hbody.head?_ne]
      exact hread
    · have hchar : ∀ c ∈ body ++ List.replicate (n + 1) '=', isBase64Char c := by
        intro c hc
        rcases List.mem_append.1 hc with hc | hc
        · exact hbody.isBase64Char c hc
        · rw [List.eq_of_mem_replicate hc]
          decide
      have hhead : (body ++ List.replicate (n + 1) '=').head? ≠ some '=' := by
        obtain ⟨c, cs, rfl⟩ := List.exists_cons_of_ne_nil hne
        simpa using hbody.head?_ne
      rw [decode_of_isBase64Char hchar hhead]
      exact hbody.read_append (Or.inr hmem) []

end SealedPage.Codec.Base64
