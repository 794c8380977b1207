import Mathlib.Data.List.Chain
import Mathlib.Data.List.Infix
import SealedPage.Key.Pem
import SealedPage.Proofs.Codec.Base64
import SealedPage.Proofs.Text.Utf8

/-!
# Armour there and back

A block without headers is found in any text that it stands in, and it is the only one there:
`frames_of_standsIn`, `find?_of_standsIn`. The base64 between the marks holds no hyphen, so the
search for the mark at the end stops at that mark, and no empty line, so nothing of it is taken for
headers. How long the lines are and how they end does not matter. What is written is such a text,
`standsIn_write`.
-/

namespace SealedPage.Key.Pem

open Text
open Codec.Base64 (encode isBase64Char)

/-! ## Searching for a mark -/

/-- The search passes over bytes that do not begin the mark. -/
theorem splitAtMark?_pass {m : UInt8} {mark run : Bytes} (hrun : m ∉ run) (before rest : Bytes) :
    splitAtMark? (m :: mark) (m :: mark) before (run ++ rest) =
      splitAtMark? (m :: mark) (m :: mark) (run.reverse ++ before) rest := by
  induction run generalizing before with
  | nil => rfl
  | cons b run ih =>
    obtain ⟨hb, hrun⟩ : m ≠ b ∧ m ∉ run := by simpa using hrun
    rw [List.cons_append, splitAtMark?, if_neg hb.symm, ih hrun, List.reverse_cons,
      List.append_assoc, List.singleton_append]

/-- Once the rest of the mark follows, the search ends behind it. -/
theorem splitAtMark?_found (mark : Bytes) {left : Bytes} (hleft : left ≠ [])
    (before rest : Bytes) :
    splitAtMark? mark left before (left ++ rest) =
      some (((left.reverse ++ before).drop mark.length).reverse, rest) := by
  induction left generalizing before with
  | nil => exact absurd rfl hleft
  | cons b left ih =>
    rw [List.cons_append, splitAtMark?, if_pos rfl]
    cases left with
    | nil => simp
    | cons b' left =>
      rw [if_neg (by simp), ih (List.cons_ne_nil _ _)]
      simp

/-- The search finds a mark behind a run that has no byte like its first one. -/
theorem splitAt?_append (mark : String) {m : UInt8} {ms : Bytes}
    (hmark : Utf8.ofString mark = m :: ms) {run : Bytes} (hrun : m ∉ run) (rest : Bytes) :
    splitAt? mark (run ++ (Utf8.ofString mark ++ rest)) = some (run, rest) := by
  rw [splitAt?, hmark, splitAtMark?_pass hrun, splitAtMark?_found _ (List.cons_ne_nil _ _),
    List.append_nil, ← List.length_reverse, List.drop_left, List.reverse_reverse]

/-- Bytes in which no mark begins: at no place do five hyphens follow one another. -/
def IsPlain (s : Bytes) : Prop :=
  ¬ List.replicate 5 0x2D <:+: s

instance (s : Bytes) : Decidable (IsPlain s) :=
  inferInstanceAs (Decidable (¬ _))

/-- A part of a plain text is plain. -/
theorem IsPlain.of_isInfix {s t : Bytes} (h : IsPlain s) (hts : t <:+: s) : IsPlain t :=
  fun ht => h (ht.trans hts)

/-- A plain text does not begin with five hyphens. -/
theorem IsPlain.lt_five {n : Nat} {s : Bytes} (h : IsPlain (List.replicate n 0x2D ++ s)) :
    n < 5 := by
  by_contra hn
  refine h (List.IsInfix.trans ?_ (List.prefix_append _ _).isInfix)
  rw [show n = 5 + (n - 5) by omega, List.replicate_add]
  exact (List.prefix_append _ _).isInfix

/-- The part of a mark that is to come begins with a hyphen until five of them have come. -/
theorem drop_mark {mark tail : Bytes} (hmark : mark = List.replicate 5 0x2D ++ tail) {met : Nat}
    (hmet : met < 5) : mark.drop met = 0x2D :: mark.drop (met + 1) := by
  have hlength : met < mark.length := by simp [hmark]; omega
  have hhyphen : mark[met] = 0x2D := by
    simp only [hmark]
    rw [List.getElem_append_left (by rwa [List.length_replicate]), List.getElem_replicate]
  rw [List.drop_eq_getElem_cons hlength, hhyphen]

/-- In plain bytes the search never gets behind the hyphens of a mark, and behind any other byte it
starts over; `met` and `met'` count the hyphens that it has met. -/
theorem splitAtMark?_plain {mark tail : Bytes} (hmark : mark = List.replicate 5 0x2D ++ tail)
    (met : Nat) {run : Bytes} (hrun : IsPlain (List.replicate met 0x2D ++ run))
    (before rest : Bytes) :
    ∃ met', splitAtMark? mark (mark.drop met) before (run ++ rest) =
        splitAtMark? mark (mark.drop met') (run.reverse ++ before) rest ∧
      (run = [] ∧ met' = met ∨ run.getLast? = some 0x2D ∨ met' = 0) := by
  induction run generalizing met before with
  | nil => exact ⟨met, rfl, Or.inl ⟨rfl, rfl⟩⟩
  | cons b run ih =>
    have hdrop := drop_mark hmark hrun.lt_five
    by_cases hb : b = 0x2D
    · subst hb
      have hrun' : IsPlain (List.replicate (met + 1) 0x2D ++ run) := by
        simpa [List.replicate_succ'] using hrun
      have hleft : (mark.drop (met + 1)).isEmpty = false := by
        rw [drop_mark hmark hrun'.lt_five]
        rfl
      obtain ⟨met', heq, hmet'⟩ := ih (met + 1) hrun' (0x2D :: before)
      refine ⟨met', ?_, ?_⟩
      · rw [List.cons_append, hdrop, splitAtMark?, if_pos rfl, hleft, if_neg Bool.false_ne_true,
          heq, List.reverse_cons, List.append_assoc, List.singleton_append]
      · obtain ⟨rfl, -⟩ | hlast | hzero := hmet'
        · exact Or.inr (Or.inl rfl)
        · exact Or.inr (Or.inl (by simp [List.getLast?_cons, hlast]))
        · exact Or.inr (Or.inr hzero)
    · have hrun' : IsPlain (List.replicate 0 0x2D ++ run) := by
        refine hrun.of_isInfix ?_
        exact ⟨List.replicate met 0x2D ++ [b], [], by simp⟩
      obtain ⟨met', heq, hmet'⟩ := ih 0 hrun' (b :: before)
      refine ⟨met', ?_, ?_⟩
      · rw [List.drop_zero] at heq
        rw [List.cons_append, hdrop, splitAtMark?, if_neg hb, heq, List.reverse_cons,
          List.append_assoc, List.singleton_append]
      · obtain ⟨rfl, hzero⟩ | hlast | hzero := hmet'
        · exact Or.inr (Or.inr hzero)
        · exact Or.inr (Or.inl (by simp [List.getLast?_cons, hlast]))
        · exact Or.inr (Or.inr hzero)

theorem ofString_begin :
    Utf8.ofString "-----BEGIN " = List.replicate 5 0x2D ++ Utf8.ofString "BEGIN " :=
  rfl

/-- The first mark is found behind plain bytes, unless a hyphen stands right in front of it. -/
theorem splitAt?_plain {front : Bytes} (hfront : IsPlain front)
    (hlast : front.getLast? ≠ some 0x2D) (rest : Bytes) :
    splitAt? "-----BEGIN " (front ++ (Utf8.ofString "-----BEGIN " ++ rest)) =
      some (front, rest) := by
  obtain ⟨met, heq, hmet⟩ :=
    splitAtMark?_plain ofString_begin 0 hfront [] (Utf8.ofString "-----BEGIN " ++ rest)
  obtain rfl : met = 0 := by
    obtain ⟨-, hzero⟩ | hhyphen | hzero := hmet
    · exact hzero
    · exact absurd hhyphen hlast
    · exact hzero
  rw [List.drop_zero] at heq
  have hmark : Utf8.ofString "-----BEGIN " ≠ [] := List.cons_ne_nil _ _
  rw [splitAt?, heq, splitAtMark?_found _ hmark, List.append_nil, ← List.length_reverse,
    List.drop_left, List.reverse_reverse]

/-- No block begins in a plain text. -/
theorem splitAt?_plain_eq_none {back : Bytes} (hback : IsPlain back) :
    splitAt? "-----BEGIN " back = none := by
  obtain ⟨met, heq, -⟩ := splitAtMark?_plain ofString_begin 0 hback [] []
  rw [List.drop_zero, List.append_nil] at heq
  rw [splitAt?, heq]
  rfl

/-- What the search goes through is what it started with: some bytes that are passed, the part of
the mark that was met, and the bytes to come. -/
theorem eq_of_splitAtMark? {mark met left passed s front rest : Bytes} (hmark : mark = met ++ left)
    (h : splitAtMark? mark left (met.reverse ++ passed.reverse) s = some (front, rest)) :
    passed ++ met ++ s = front ++ mark ++ rest := by
  induction s generalizing met left passed with
  | nil => simp [splitAtMark?] at h
  | cons b s ih =>
    unfold splitAtMark? at h
    cases left with
    | nil => simp at h
    | cons m left =>
      dsimp only at h
      split at h
      · rename_i hb
        subst hb
        split at h
        · rename_i hleft
          obtain rfl := List.isEmpty_iff.1 hleft
          obtain ⟨hfront, rfl⟩ := Prod.mk.inj (Option.some.inj h)
          have hlength : mark.length = (b :: met.reverse).length := by simp [hmark]
          rw [hlength, ← List.cons_append, List.drop_left, List.reverse_reverse] at hfront
          simp [← hfront, hmark]
        · have hon : mark = met ++ [b] ++ left := by simp [hmark]
          simpa using ih hon (by simpa using h)
      · have hback : splitAtMark? mark mark ([].reverse ++ (passed ++ met ++ [b]).reverse) s =
            some (front, rest) := by
          simpa using h
        simpa using ih (List.nil_append mark).symm hback

/-- What the search finds is the mark, between the two parts that it gives. -/
theorem eq_of_splitAt? {mark : String} {s front rest : Bytes}
    (h : splitAt? mark s = some (front, rest)) : s = front ++ Utf8.ofString mark ++ rest := by
  have hsearch : splitAtMark? (Utf8.ofString mark) (Utf8.ofString mark)
      (([] : Bytes).reverse ++ ([] : Bytes).reverse) s = some (front, rest) := h
  exact eq_of_splitAtMark? (List.nil_append _).symm hsearch

/-! ## Lines -/

section Lines

variable {width : Nat}

/-- What is done stands before the lines to come. -/
theorem linesFrom_eq (done : List Char) (room : Nat) (cs : List Char) :
    linesFrom width done room cs = done.reverse ++ linesFrom width [] room cs := by
  induction cs generalizing done room with
  | nil =>
    rw [linesFrom, linesFrom]
    split <;> simp
  | cons c cs ih =>
    rw [linesFrom, linesFrom]
    split
    · rw [ih, ih ['\n', c]]
      simp
    · rw [ih, ih [c]]
      simp

theorem linesFrom_nil (room : Nat) :
    linesFrom width [] room [] = if room = width then [] else ['\n'] := by
  rw [linesFrom]
  split <;> rfl

theorem linesFrom_cons (room : Nat) (c : Char) (cs : List Char) :
    linesFrom width [] room (c :: cs) =
      if room ≤ 1 then c :: '\n' :: linesFrom width [] width cs
      else c :: linesFrom width [] (room - 1) cs := by
  rw [linesFrom]
  split <;> rw [linesFrom_eq] <;> rfl

/-- Apart from the ends of the lines, the characters are there in order. -/
theorem filter_linesFrom {p : Char → Bool} (hend : p '\n' = false) (room : Nat) {cs : List Char}
    (hcs : ∀ c ∈ cs, p c) : (linesFrom width [] room cs).filter p = cs := by
  induction cs generalizing room with
  | nil =>
    rw [linesFrom_nil]
    split <;> simp [hend]
  | cons c cs ih =>
    obtain ⟨hc, hcs⟩ := List.forall_mem_cons.1 hcs
    rw [linesFrom_cons]
    split <;> simp [hend, hc, ih _ hcs]

/-- Breaking a text into lines adds line ends alone. -/
theorem mem_linesFrom {room : Nat} {cs : List Char} {c : Char}
    (h : c ∈ linesFrom width [] room cs) : c = '\n' ∨ c ∈ cs := by
  induction cs generalizing room with
  | nil =>
    rw [linesFrom_nil] at h
    split at h <;> simp_all
  | cons d cs ih =>
    rw [linesFrom_cons] at h
    split at h
    · rw [List.mem_cons, List.mem_cons] at h
      rcases h with rfl | rfl | h
      · simp
      · simp
      · exact (ih h).imp_right (List.mem_cons_of_mem d)
    · rcases List.mem_cons.1 h with rfl | h
      · simp
      · exact (ih h).imp_right (List.mem_cons_of_mem d)

/-- No line is empty: no end of a line stands behind another one, nor in front of the first
line. -/
theorem isChain_linesFrom (room : Nat) {cs : List Char} (hcs : '\n' ∉ cs) :
    (linesFrom width [] room cs).IsChain (fun a b => a ≠ '\n' ∨ b ≠ '\n') ∧
      (room = width → (linesFrom width [] room cs).head? ≠ some '\n') := by
  induction cs generalizing room with
  | nil =>
    rw [linesFrom_nil]
    split
    · simp
    · rename_i hroom
      exact ⟨by simp, fun h => absurd h hroom⟩
  | cons c cs ih =>
    obtain ⟨hc, hcs⟩ : '\n' ≠ c ∧ '\n' ∉ cs := by simpa using hcs
    rw [linesFrom_cons]
    split
    · obtain ⟨hchain, hhead⟩ := ih width hcs
      refine ⟨?_, by simpa using fun _ => hc.symm⟩
      refine List.isChain_cons_cons.2 ⟨Or.inl hc.symm, List.isChain_cons.2 ⟨?_, hchain⟩⟩
      intro d hd
      exact Or.inr fun h => hhead rfl (by rw [← h]; exact hd)
    · refine ⟨?_, by simpa using fun _ => hc.symm⟩
      exact List.isChain_cons.2 ⟨fun _ _ => Or.inl hc.symm, (ih _ hcs).1⟩

end Lines

/-! ## Armoured base64 -/

/-- The characters that end lines. -/
def isLineEnd (c : Char) : Bool :=
  c == '\n' || c == '\r'

/-- Base64 of bytes in lines. They have any lengths, and a carriage return at their ends or none,
but no line is empty. -/
structure IsArmour (bytes : Bytes) (text : List Char) : Prop where
  chars : ∀ c ∈ text, isLineEnd c ∨ isBase64Char c
  base64 : text.filter isBase64Char = encode bytes
  head : ∀ c ∈ text.head?, isBase64Char c
  /-- What stands behind the end of a line belongs to a line again. -/
  lines : text.IsChain fun a b => a = '\n' → isBase64Char b

theorem isLineEnd_iff {c : Char} : isLineEnd c ↔ c = '\n' ∨ c = '\r' := by
  simp [isLineEnd]

/-- A line end is no base64 character. -/
theorem isBase64Char_of_isLineEnd {c : Char} (h : isLineEnd c) : isBase64Char c = false := by
  rcases isLineEnd_iff.1 h with rfl | rfl <;> decide

namespace IsArmour

variable {bytes : Bytes} {text : List Char} (h : IsArmour bytes text)

include h

theorem toNat_lt {c : Char} (hc : c ∈ text) : c.toNat < 0x80 := by
  rcases h.chars c hc with hend | hbase64
  · rcases isLineEnd_iff.1 hend with rfl | rfl <;> decide
  · have := Codec.Base64.toNat_of_isBase64Char hbase64
    omega

theorem not_mem {c : Char} (hend : isLineEnd c = false) (hc : isBase64Char c = false) :
    c ∉ text := by
  intro hmem
  rcases h.chars c hmem with h | h
  · exact Bool.false_ne_true (hend.symm.trans h)
  · exact Bool.false_ne_true (hc.symm.trans h)

/-- Whatever tells the ends of lines from base64 leaves the base64. -/
theorem filter_eq {p : Char → Bool} (hend : ∀ c, isLineEnd c → p c = false)
    (hp : ∀ c, isBase64Char c → p c) : text.filter p = encode bytes := by
  rw [← h.base64]
  refine List.filter_congr fun c hc => ?_
  rcases h.chars c hc with hc | hc
  · rw [hend c hc, isBase64Char_of_isLineEnd hc]
  · rw [hp c hc, hc]

/-- The armour of a block decodes to its bytes. -/
theorem decodeBase64?_eq : decodeBase64? text = some bytes := by
  have hend : ∀ c, isLineEnd c → (!isMargin c) = false := by
    intro c hc
    rcases isLineEnd_iff.1 hc with rfl | rfl <;> decide
  have hbase64 : ∀ c, isBase64Char c → !isMargin c := by
    intro c hc
    simp [isMargin, Codec.Base64.isBlank_of_isBase64Char hc]
  rw [decodeBase64?, h.filter_eq hend hbase64, Codec.Base64.decode_encode]
  exact if_pos rfl

theorem hyphen_not_mem : 0x2D ∉ Utf8.encode text :=
  Utf8.not_mem_encode (fun _ => h.toNat_lt) (d := '-') (by decide)
    (h.not_mem (by decide) (by decide))

/-- A line feed has no other end of a line behind it. -/
theorem isChain_encode :
    (Utf8.encode text).IsChain fun a b => a = 0x0A → b ≠ 0x0A ∧ b ≠ 0x0D := by
  rw [Utf8.encode_ascii fun _ => h.toNat_lt]
  refine (List.isChain_map _).2 (h.lines.imp_of_mem_imp fun a b ha hb hab hfeed => ?_)
  have hbase64 : isBase64Char b :=
    hab (Utf8.byte_injective (d := '\n') (h.toNat_lt ha) (by decide) hfeed)
  have hne : ∀ c, isLineEnd c → b.toNat.toUInt8 ≠ c.toNat.toUInt8 := by
    intro c hc heq
    have hlt : c.toNat < 0x80 := by
      rcases isLineEnd_iff.1 hc with rfl | rfl <;> decide
    obtain rfl := Utf8.byte_injective (h.toNat_lt hb) hlt heq
    exact Bool.false_ne_true ((isBase64Char_of_isLineEnd hc).symm.trans hbase64)
  exact ⟨hne '\n' rfl, hne '\r' rfl⟩

/-- A mark with an empty line in it does not occur in armour. -/
theorem splitAt?_eq_none (mark : String) (front : Bytes) {back : Bytes} {b : UInt8}
    (hmark : Utf8.ofString mark = front ++ (0x0A :: b :: back)) (hb : b = 0x0A ∨ b = 0x0D) :
    splitAt? mark (Utf8.encode text) = none := by
  rw [← Option.not_isSome_iff_eq_none, Option.isSome_iff_exists]
  rintro ⟨⟨before, rest⟩, hsplit⟩
  have hchain := h.isChain_encode
  rw [eq_of_splitAt? hsplit, hmark, List.append_assoc, List.append_assoc] at hchain
  have hpair := (List.isChain_append.1 (List.isChain_append.1 hchain).2.1).2.1
  rw [List.cons_append, List.cons_append, List.isChain_cons_cons] at hpair
  obtain ⟨hfeed, hreturn⟩ := hpair.1 rfl
  exact hb.elim hfeed hreturn

/-- Nothing of armoured base64 is taken for headers. -/
theorem splitHeaders_eq : splitHeaders (Utf8.encode text) = ([], Utf8.encode text) := by
  have hfeeds := h.splitAt?_eq_none "\n\n" [] rfl (Or.inl rfl)
  have hreturns := h.splitAt?_eq_none "\r\n\r\n" [0x0D] rfl (Or.inr rfl)
  rw [splitHeaders, hfeeds, hreturns]
  rfl

/-- The base64 begins behind the blanks that stand in front of it. -/
theorem skipBlanks_eq {gap rest : Bytes} (hgap : skipBlanks gap = [])
    (hrest : rest.head? = some 0x2D) :
    skipBlanks (gap ++ (Utf8.encode text ++ rest)) = Utf8.encode text ++ rest := by
  have hskip : skipBlanks (gap ++ (Utf8.encode text ++ rest)) =
      skipBlanks (Utf8.encode text ++ rest) := by
    rw [skipBlanks] at hgap
    rw [skipBlanks, List.dropWhile_append, hgap]
    rfl
  rw [hskip, Utf8.encode_ascii fun _ => h.toNat_lt]
  cases text with
  | nil =>
    cases rest with
    | nil => simp at hrest
    | cons b rest =>
      obtain rfl : b = 0x2D := by simpa using hrest
      rfl
  | cons c cs =>
    have hc := Codec.Base64.toNat_of_isBase64Char (h.head c rfl)
    have hne : ∀ n : Nat, n < 0x80 → c.toNat ≠ n → c.toNat.toUInt8 ≠ n.toUInt8 := by
      intro n hn hcn heq
      have := congrArg UInt8.toNat heq
      rw [Utf8.toNat_toUInt8 (by omega), Utf8.toNat_toUInt8 (by omega)] at this
      exact hcn this
    have hblank : (c.toNat.toUInt8 == 0x20 || c.toNat.toUInt8 == 0x09 ||
        c.toNat.toUInt8 == 0x0A || c.toNat.toUInt8 == 0x0D) = false := by
      simp only [Bool.or_eq_false_iff, beq_eq_false_iff_ne]
      exact ⟨⟨⟨hne 0x20 (by decide) (by omega), hne 0x09 (by decide) (by omega)⟩,
        hne 0x0A (by decide) (by omega)⟩, hne 0x0D (by decide) (by omega)⟩
    rw [skipBlanks, List.map_cons, List.cons_append,
      List.dropWhile_cons_of_neg (by rw [hblank]; exact Bool.false_ne_true)]

end IsArmour

/-- The base64 of bytes, in lines. -/
def armoured (bytes : Bytes) : List Char :=
  linesFrom 64 [] 64 (encode bytes)

/-- Armoured bytes are line ends and base64 characters. -/
theorem mem_armoured {bytes : Bytes} {c : Char} (h : c ∈ armoured bytes) :
    c = '\n' ∨ isBase64Char c :=
  (mem_linesFrom h).imp_right Codec.Base64.isBase64Char_of_mem_encode

theorem newline_not_mem_encode (bytes : Bytes) : '\n' ∉ encode bytes :=
  fun h => absurd (Codec.Base64.isBase64Char_of_mem_encode h) (by decide)

theorem isArmour_armoured (bytes : Bytes) : IsArmour bytes (armoured bytes) where
  chars _ hc := (mem_armoured hc).imp_left fun h => isLineEnd_iff.2 (Or.inl h)
  base64 := filter_linesFrom (by decide) 64 fun _ => Codec.Base64.isBase64Char_of_mem_encode
  head c hc := by
    have hhead := (isChain_linesFrom 64 (newline_not_mem_encode bytes)).2 rfl
    refine (mem_armoured (List.mem_of_mem_head? hc)).resolve_left ?_
    rintro rfl
    exact hhead hc
  lines := by
    have hchain : (armoured bytes).IsChain fun a b => a ≠ '\n' ∨ b ≠ '\n' :=
      (isChain_linesFrom 64 (newline_not_mem_encode bytes)).1
    refine hchain.imp_of_mem_imp fun a b _ hb hab hfeed => ?_
    exact (mem_armoured hb).resolve_left (hab.resolve_left (not_not_intro hfeed))

/-- The same text with a carriage return in front of every line feed. -/
def withReturns (text : List Char) : List Char :=
  text.flatMap fun c => if c = '\n' then ['\r', '\n'] else [c]

theorem withReturns_cons (c : Char) (text : List Char) :
    withReturns (c :: text) = (if c = '\n' then ['\r', '\n'] else [c]) ++ withReturns text :=
  List.flatMap_cons

/-- Other line ends leave the base64 characters as they are. -/
theorem filter_withReturns (text : List Char) :
    (withReturns text).filter isBase64Char = text.filter isBase64Char := by
  induction text with
  | nil => rfl
  | cons c text ih =>
    rw [withReturns_cons, List.filter_append, ih]
    split
    · rename_i hc
      rw [hc]
      rfl
    · rw [← List.filter_append, List.singleton_append]

/-- What holds behind each line end holds with other line ends too. -/
theorem isChain_withReturns {p : Char → Prop} {text : List Char}
    (h : text.IsChain fun a b => a = '\n' → p b) (hp : ¬ p '\n') :
    (withReturns text).IsChain fun a b => a = '\n' → p b := by
  induction text with
  | nil => exact .nil
  | cons c text ih =>
    obtain ⟨hnext, htext⟩ := List.isChain_cons.1 h
    -- behind a line feed stands no other one, so no carriage return is put there
    have hhead : c = '\n' → ∀ d ∈ (withReturns text).head?, p d := by
      intro hc
      cases text with
      | nil => simp [withReturns]
      | cons d text =>
        have hd : p d := hnext d rfl hc
        have hfeed : d ≠ '\n' := fun heq => hp (heq ▸ hd)
        simpa [withReturns_cons, hfeed] using hd
    rw [withReturns_cons]
    split
    · rename_i hc
      refine List.isChain_cons_cons.2 ⟨fun h => absurd h (by decide), ?_⟩
      exact List.isChain_cons.2 ⟨fun d hd _ => hhead hc d hd, ih htext⟩
    · rename_i hc
      exact List.isChain_cons.2 ⟨fun d _ h => absurd h hc, ih htext⟩

/-- Armour stays armour with carriage returns in it. -/
theorem IsArmour.withReturns {bytes : Bytes} {text : List Char} (h : IsArmour bytes text) :
    IsArmour bytes (withReturns text) where
  chars c hc := by
    obtain ⟨d, hd, hcd⟩ := List.mem_flatMap.1 hc
    split at hcd
    · exact Or.inl (isLineEnd_iff.2 (by simpa [or_comm] using hcd))
    · rw [List.mem_singleton.1 hcd]
      exact h.chars d hd
  base64 := (filter_withReturns text).trans h.base64
  head := by
    intro c hc
    cases text with
    | nil => simp [Pem.withReturns] at hc
    | cons d text =>
      have hd : isBase64Char d := h.head d rfl
      have hfeed : d ≠ '\n' := by
        rintro rfl
        exact absurd hd (by decide)
      rw [withReturns_cons, if_neg hfeed] at hc
      rwa [← Option.some.inj hc]
  lines := isChain_withReturns h.lines (by decide)

/-! ## Blocks -/

/-- Whether a label can stand in a mark: characters of ASCII other than the hyphen, at least one. -/
def isLabel (label : String) : Bool :=
  !label.isEmpty && label.toList.all fun c => c.toNat < 0x80 && c != '-'

theorem hyphen_not_mem_label {label : String} (h : isLabel label) :
    0x2D ∉ Utf8.ofString label := by
  obtain ⟨-, hlabel⟩ : _ ∧ ∀ c ∈ label.toList, c.toNat < 0x80 ∧ c ≠ '-' := by
    simpa [isLabel] using h
  exact Utf8.not_mem_encode (fun c hc => (hlabel c hc).1) (d := '-') (by decide)
    fun hmem => (hlabel _ hmem).2 rfl

/-- A block without headers stands in a text, with plain texts around it. Its base64 is in lines of
any kind, and behind its first mark there may be blanks. -/
inductive Block.StandsIn (b : Block) : String → Prop
  | intro {front gap lines back : String} (hfront : IsPlain (Utf8.ofString front))
      (hlast : (Utf8.ofString front).getLast? ≠ some 0x2D)
      (hgap : skipBlanks (Utf8.ofString gap) = []) (hlines : IsArmour b.bytes lines.toList)
      (hback : IsPlain (Utf8.ofString back)) :
      b.StandsIn (front ++ "-----BEGIN " ++ b.label ++ "-----" ++ gap ++ lines ++ "-----END " ++
        b.label ++ "-----" ++ back)

/-- The parts of a block that stands in a text, given its lines. -/
def frameOf (b : Block) (lines : String) : Frame :=
  ⟨Utf8.ofString b.label, Utf8.ofString lines, Utf8.ofString b.label⟩

theorem ofString_append (s t : String) :
    Utf8.ofString (s ++ t) = Utf8.ofString s ++ Utf8.ofString t := by
  rw [Utf8.ofString, String.toList_append, Utf8.encode, List.flatMap_append]
  rfl

/-- A plain text holds no block. -/
theorem frame?_eq_none {s : Bytes} (h : IsPlain s) : frame? s = none := by
  rw [frame?, splitAt?_plain_eq_none h]

/-- The block is what is found first, and no mark begins in the text behind it. -/
theorem frame?_of_standsIn {b : Block} {text : String} (h : b.StandsIn text)
    (hlabel : isLabel b.label) :
    ∃ lines back, IsArmour b.bytes lines.toList ∧ IsPlain back ∧
      frame? (Utf8.ofString text) = some (frameOf b lines, back) := by
  obtain ⟨hfront, hlast, hgap, hlines, hback⟩ := h
  rename_i front gap lines back
  have hmark := splitAt?_append "-----" rfl (hyphen_not_mem_label hlabel)
  have hhyphen : 0x2D ∉ Utf8.ofString lines := hlines.hyphen_not_mem
  have hend := splitAt?_append "-----END " rfl hhyphen
  have hskip : ∀ rest : Bytes, rest.head? = some 0x2D →
      skipBlanks (Utf8.ofString gap ++ (Utf8.ofString lines ++ rest)) =
        Utf8.ofString lines ++ rest :=
    fun _ => hlines.skipBlanks_eq hgap
  refine ⟨lines, skipBlanks (Utf8.ofString back), hlines,
    hback.of_isInfix (List.dropWhile_suffix _).isInfix, ?_⟩
  simp only [ofString_append, List.append_assoc]
  rw [frame?, splitAt?_plain hfront hlast]
  dsimp only
  rw [hmark]
  dsimp only
  rw [hskip _ rfl, hend]
  dsimp only
  rw [hmark]
  rfl

theorem lines_nil : lines (String.ofList []) = [] := by
  have hsplit : (String.ofList []).splitOn "\n" = [""] := by
    rw [String.splitOn, String.splitOnAux]
    decide +kernel
  rw [lines, hsplit]
  decide +kernel

/-- The frame of a block without headers holds the block. -/
theorem read?_frameOf {b : Block} {lines : String} (hlines : IsArmour b.bytes lines.toList)
    (hlabel : isLabel b.label) (hheaders : b.headers = []) :
    (frameOf b lines).read? = some b := by
  obtain ⟨hne, -⟩ : b.label ≠ "" ∧ _ := by simpa [isLabel] using hlabel
  have hchars : b.label.toList ≠ [] := by simpa using hne
  have hempty : Utf8.decode [] = .ok [] := rfl
  rw [Frame.read?]
  simp only [frameOf, hlines.splitHeaders_eq, Utf8.ofString, Utf8.decode_encode, hempty,
    lines_nil, hlines.decodeBase64?_eq, Option.map_some, String.ofList_toList]
  cases b
  simp_all

section StandsIn

variable {b : Block} {text : String} (h : b.StandsIn text) (hlabel : isLabel b.label)
  (hheaders : b.headers = [])

include h hlabel hheaders

/-- A block is the only one in a text that it stands in. -/
theorem frames_of_standsIn : (frames (Utf8.ofString text)).mapM Frame.read? = some [b] := by
  obtain ⟨lines, back, hlines, hback, hframe⟩ := frame?_of_standsIn h hlabel
  have hnil : frames back = [] := by
    rw [frames, frame?_eq_none hback]
  rw [frames, hframe]
  dsimp only
  rw [hnil, ite_self, List.mapM_cons, read?_frameOf hlines hlabel hheaders]
  rfl

/-- The block is found under its label. -/
theorem find?_of_standsIn {labels : List String} (hmem : b.label ∈ labels) :
    find? labels (Utf8.ofString text) = some b := by
  rw [find?, frames_of_standsIn h hlabel hheaders]
  simp [hmem]

/-- A block that stands in a text is read from it. -/
theorem read?_of_standsIn : read? (Utf8.ofString text) = some b := by
  obtain ⟨lines, back, hlines, -, hframe⟩ := frame?_of_standsIn h hlabel
  rw [read?, hframe]
  exact read?_frameOf hlines hlabel hheaders

end StandsIn

/-! ## Blocks that are written -/

/-- The text of a block in the lines that it is written in, with `back` behind it. -/
def Block.textBefore (b : Block) (back : String) : String :=
  "" ++ "-----BEGIN " ++ b.label ++ "-----" ++ "\n" ++ String.ofList (armoured b.bytes) ++
    "-----END " ++ b.label ++ "-----" ++ back

/-- A block stands in its own text before plain text. -/
theorem standsIn_textBefore (b : Block) (back : String) (hback : IsPlain (Utf8.ofString back)) :
    b.StandsIn (b.textBefore back) :=
  .intro (by decide) (by decide) rfl
    (by rw [String.toList_ofList]; exact isArmour_armoured _) hback

theorem write_eq (b : Block) : b.write = b.textBefore "\n" := by
  have hend : "-----\n" = "-----" ++ "\n" := String.toList_injective (by simp)
  unfold Block.write Block.textBefore armoured
  rw [hend, String.empty_append]
  simp only [String.append_assoc]

/-- A block stands in the text that is written for it. -/
theorem standsIn_write (b : Block) : b.StandsIn b.write := by
  rw [write_eq]
  exact standsIn_textBefore b "\n" (by decide)

/-- The end of the last line may be missing from this text. -/
theorem standsIn_of_append_newline {b : Block} {text : String} (h : text ++ "\n" = b.write) :
    b.StandsIn text := by
  have hstands := standsIn_textBefore b "" (by decide)
  unfold Block.textBefore at hstands
  rw [write_eq] at h
  unfold Block.textBefore at h
  rw [String.append_left_inj] at h
  rwa [String.append_empty, ← h] at hstands

end SealedPage.Key.Pem
