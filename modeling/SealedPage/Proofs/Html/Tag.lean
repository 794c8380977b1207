import SealedPage.Html.Lexer
import SealedPage.Proofs.Text.Run

/-!
# Tags are read as they are written

A writer that keeps to small names and to double quotes is understood: a start tag is read with its
name and its attributes, `startTag_writeTag`, and what is in front of the rest of a page has no say
in how that is read, `lexFrom_writeTag`. The same holds of end tags, of the document type, and of
the content of raw elements.
-/

namespace SealedPage.Html

open Text

/-! ## Names -/

/-- Whether a character is a small letter of ASCII or a hyphen. -/
def isPlainNameChar (c : Char) : Bool :=
  c.isLower || c == '-'

/-- Whether a name is a small letter with small letters and hyphens behind it. -/
def isPlainName : List Char → Bool
  | [] => false
  | c :: cs => c.isLower && cs.all isPlainNameChar

/-- The code point of a plain character is that of the hyphen or of a small letter. -/
theorem toNat_of_isPlainNameChar {c : Char} (h : isPlainNameChar c) :
    c.toNat = 45 ∨ 97 ≤ c.toNat ∧ c.toNat ≤ 122 := by
  have hclasses : c.isLower = (decide (97 ≤ c.toNat) && decide (c.toNat ≤ 122)) := rfl
  simp only [isPlainNameChar, hclasses, Bool.or_eq_true, Bool.and_eq_true, decide_eq_true_eq,
    beq_iff_eq] at h
  rcases h with h | rfl
  · exact Or.inr h
  · exact Or.inl rfl

/-- Every character of a plain name is plain. -/
theorem all_isPlainNameChar {name : List Char} (h : isPlainName name) :
    ∀ c ∈ name, isPlainNameChar c := by
  cases name with
  | nil => simp
  | cons c cs =>
    obtain ⟨hc, hcs⟩ : c.isLower ∧ ∀ c ∈ cs, isPlainNameChar c := by simpa [isPlainName] using h
    intro d hd
    rcases List.mem_cons.1 hd with rfl | hd
    · simp [isPlainNameChar, hc]
    · exact hcs d hd

/-- A plain name begins with a letter. -/
theorem exists_cons_of_isPlainName {name : List Char} (h : isPlainName name) :
    ∃ c cs, name = c :: cs ∧ c.isAlpha := by
  cases name with
  | nil => exact nomatch h
  | cons c cs =>
    have hc : c.isLower := (Bool.and_eq_true_iff.1 h).1
    exact ⟨c, cs, rfl, Bool.or_eq_true_iff.2 (Or.inr hc)⟩

theorem ne_of_isPlainNameChar {c d : Char} (h : isPlainNameChar c)
    (hd : isPlainNameChar d = false) : c ≠ d := by
  rintro rfl
  rw [h] at hd
  simp at hd

theorem isBlank_of_isPlainNameChar {c : Char} (h : isPlainNameChar c) : isBlank c = false := by
  have := toNat_of_isPlainNameChar h
  rw [Bool.eq_false_iff]
  simp only [isBlank, ne_eq, Bool.or_eq_true, Bool.and_eq_true, decide_eq_true_eq, beq_iff_eq]
  omega

theorem isNameChar_of_isPlainNameChar {c : Char} (h : isPlainNameChar c) : isNameChar c := by
  simp (disch := decide) [isNameChar, ne_of_isPlainNameChar h]

theorem isAttributeNameChar_of_isPlainNameChar {c : Char} (h : isPlainNameChar c) :
    isAttributeNameChar c := by
  simp (disch := decide) [isAttributeNameChar, isBlank_of_isPlainNameChar h,
    ne_of_isPlainNameChar h]

theorem isEndNameChar_of_isPlainNameChar {c : Char} (h : isPlainNameChar c) : isEndNameChar c := by
  rcases (Bool.or_eq_true _ _).mp h with hlower | hhyphen
  · have hletter : c.isAlpha := Bool.or_eq_true_iff.2 (Or.inr hlower)
    simp [isEndNameChar, Char.isAlphanum, hletter]
  · simp [isEndNameChar, hhyphen]

theorem toLower_of_isPlainNameChar {c : Char} (h : isPlainNameChar c) : c.toLower = c := by
  have hnat := toNat_of_isPlainNameChar h
  have hupper : ¬ (c.val ≥ 'A'.val ∧ c.val ≤ 'Z'.val) := by
    change ¬ (65 ≤ c.toNat ∧ c.toNat ≤ 90)
    omega
  exact dif_neg hupper

/-- A small name is its own lower-case form. -/
theorem lower_of_isPlainName {name : List Char} (h : isPlainName name) : lower name = name := by
  have hfrom : ∀ (cs done before : List Char), (∀ c ∈ cs, isPlainNameChar c) →
      lowerFrom done before cs = done.reverse ++ cs := by
    intro cs
    induction cs with
    | nil => simp [lowerFrom]
    | cons c cs ih =>
      intro done before hcs
      obtain ⟨hc, hcs⟩ := List.forall_mem_cons.1 hcs
      have hnat := toNat_of_isPlainNameChar hc
      have hsigma : c ≠ 'Σ' := by
        rintro rfl
        exact absurd hnat (by decide)
      have hlower : lowerChar c = [c] := by
        rw [lowerChar, if_pos (by omega), toLower_of_isPlainNameChar hc]
      rw [lowerFrom, if_neg hsigma, hlower, ih _ _ hcs]
      simp
  exact hfrom name [] [] (all_isPlainNameChar h)

/-! ## Attributes -/

/-- An attribute as a careful writer writes it, and what it says: a small name, alone or with an
equals sign and a text in double quotes. -/
structure Attribute where
  name : String
  /-- What stands between the quotes. -/
  written : Option (List Char)
  value : String
  isPlain : isPlainName name.toList
  unquoted : ∀ text ∈ written, '"' ∉ text
  decodes : decodeValue (written.getD []) = .ok value.toList

namespace Attribute

/-- The part of an attribute behind its name. -/
def writeValue (a : Attribute) : List Char :=
  match a.written with
  | none => []
  | some text => '=' :: '"' :: (text ++ ['"'])

/-- An attribute in a tag. -/
def write (a : Attribute) : List Char :=
  a.name.toList ++ a.writeValue

/-- An attribute as the name and the value it says. -/
def entry (a : Attribute) : String × String :=
  (a.name, a.value)

/-- An attribute as it is found, before its references are replaced. -/
def raw (a : Attribute) : List Char × Option (List Char) :=
  (a.name.toList, a.written)

theorem decodeAttribute_raw (a : Attribute) : decodeAttribute a.raw = .ok a.entry := by
  rw [decodeAttribute, raw]
  simp [a.decodes, lower_of_isPlainName a.isPlain, bind, Except.bind, pure, Except.pure, entry]

end Attribute

/-- A value without references says what is written. -/
theorem decodeValueFrom_of_not_mem {s : List Char} (h : '&' ∉ s) (done : List Char) :
    decodeValueFrom done 0 s = .ok (done.reverse ++ s) := by
  induction s generalizing done with
  | nil => simp [decodeValueFrom]
  | cons c s ih =>
    obtain ⟨hc, hs⟩ : '&' ≠ c ∧ '&' ∉ s := by simpa using h
    rw [decodeValueFrom, if_neg (Ne.symm hc), ih hs]
    simp

/-- Whether a value may stand between quotes as it is. -/
def isVerbatim (value : String) : Bool :=
  value.toList.all fun c => c != '&' && c != '"'

/-- An attribute with a value that is written as it is. -/
def verbatimAttribute (name value : String) (hname : isPlainName name.toList)
    (hvalue : isVerbatim value) : Attribute where
  name
  written := some value.toList
  value
  isPlain := hname
  unquoted := by
    intro text htext hquote
    have hall := List.all_eq_true.1 hvalue '"' (Option.some.inj htext ▸ hquote)
    simp at hall
  decodes := by
    have hamp : '&' ∉ value.toList := by
      intro hmem
      have hall := List.all_eq_true.1 hvalue '&' hmem
      simp at hall
    exact decodeValueFrom_of_not_mem hamp []

/-- An attribute without a value. -/
def bareAttribute (name : String) (hname : isPlainName name.toList) : Attribute where
  name
  written := none
  value := ""
  isPlain := hname
  unquoted := by simp
  decodes := rfl

/-! ## Reading attributes -/

/-- The cut of a text behind an attribute: blanks, and a text that is no part of the attribute. -/
structure EndsAttribute (blanks cs : List Char) : Prop where
  areBlank : ∀ c ∈ blanks, isBlank c
  stops : Stops isBlank cs
  unequal : Stops (· == '=') cs
  ends : Stops isAttributeNameChar (blanks ++ cs)
  separate : separators (blanks ++ cs) = blanks

/-- Where an attribute ends, no value follows. -/
theorem attributeValue?_eq_none {blanks cs : List Char} (h : EndsAttribute blanks cs) :
    attributeValue? (blanks ++ cs) = none := by
  have hblanks : (blanks ++ cs).takeWhile isBlank = blanks :=
    takeWhile_append_of_stops h.areBlank h.stops
  have hsigns : cs.takeWhile (· == '=') = [] :=
    takeWhile_append_of_stops (List.forall_mem_nil _) h.unequal
  unfold attributeValue?
  dsimp only
  rw [hblanks, List.drop_left, hsigns]
  rfl

/-- A quoted value is read up to its second quote. -/
theorem attributeValue?_quoted {text : List Char} (h : '"' ∉ text) (cs : List Char) :
    attributeValue? ('=' :: '"' :: (text ++ ['"']) ++ cs) = some ⟨text.length + 3, text⟩ := by
  have htext : (text ++ '"' :: cs).takeWhile (· != '"') = text :=
    takeWhile_append_of_stops (fun c hc => by
      rw [bne_iff_ne]
      exact fun he => h (he ▸ hc)) (stops_cons.2 rfl)
  have hquoted : valueAt?.quoted 1 '"' (text ++ '"' :: cs) = some ⟨text.length + 3, text⟩ := by
    rw [valueAt?.quoted, htext, List.drop_left, List.isEmpty_cons, if_neg Bool.false_ne_true]
    congr 2
    omega
  have hequals : ∀ cs : List Char, ('=' :: '"' :: cs).takeWhile isBlank = [] := fun _ => rfl
  have hquote : ∀ cs : List Char, ('"' :: cs).takeWhile isBlank = [] := fun _ => rfl
  have hsigns : ∀ cs : List Char, ('=' :: '"' :: cs).takeWhile (· == '=') = ['='] := fun _ => rfl
  simp only [List.cons_append, List.append_assoc, List.nil_append, attributeValue?, hequals,
    List.length_nil, List.drop_zero, hsigns, List.isEmpty_cons, Bool.false_eq_true, if_false,
    List.length_singleton, Nat.zero_add, List.drop_succ_cons, hquote, Nat.add_zero]
  rw [valueAt?, hquoted]

namespace Attribute

/-- The value that an attribute writes is the value that is read. -/
theorem attributeValue?_writeValue (a : Attribute) {blanks cs : List Char}
    (h : EndsAttribute blanks cs) :
    attributeValue? (a.writeValue ++ (blanks ++ cs)) =
      a.written.map fun text => ⟨a.writeValue.length, text⟩ := by
  cases hwritten : a.written with
  | none =>
    rw [writeValue, hwritten]
    dsimp only [List.nil_append, Option.map]
    exact attributeValue?_eq_none h
  | some text =>
    have hunquoted : '"' ∉ text := a.unquoted text (by rw [hwritten]; rfl)
    rw [writeValue, hwritten]
    dsimp only
    rw [attributeValue?_quoted hunquoted]
    simp

theorem exists_write (a : Attribute) : ∃ c cs, a.write = c :: cs ∧ isPlainNameChar c := by
  obtain ⟨c, cs, hname, -⟩ := exists_cons_of_isPlainName a.isPlain
  refine ⟨c, cs ++ a.writeValue, by rw [write, hname, List.cons_append], ?_⟩
  exact all_isPlainNameChar a.isPlain c (by simp [hname])

end Attribute

/-- Passing over characters. -/
theorem attributesFrom_skip (done : List (List Char × Option (List Char))) (length : Nat)
    (before : Char) (passed rest : List Char) :
    attributesFrom done length before passed.length (passed ++ rest) =
      attributesFrom done length (passed.getLast?.getD before) 0 rest := by
  induction passed generalizing before with
  | nil => rfl
  | cons c passed ih =>
    rw [List.cons_append, List.length_cons, attributesFrom, ih, List.getLast?_cons]
    rfl

/-- One attribute is read, with the blanks behind it. -/
theorem attributesFrom_cons (done : List (List Char × Option (List Char))) (length : Nat)
    {before : Char} (hbefore : mayPrecedeAttribute before) (a : Attribute) {blanks cs : List Char}
    (h : EndsAttribute blanks cs) :
    attributesFrom done length before 0 (a.write ++ (blanks ++ cs)) =
      attributesFrom (a.raw :: done) (length + (a.write ++ blanks).length)
        ((a.write ++ blanks).getLast?.getD before) 0 cs := by
  obtain ⟨c, name, hname, -⟩ := exists_cons_of_isPlainName a.isPlain
  obtain ⟨hc, hchars⟩ := List.forall_mem_cons.1 (hname ▸ all_isPlainNameChar a.isPlain)
  have hstart : mayPrecedeAttribute before && isAttributeStart c := by
    rw [hbefore, isAttributeStart, isBlank_of_isPlainNameChar hc]
    simp (disch := decide) [ne_of_isPlainNameChar hc]
  have htake : (name ++ (a.writeValue ++ (blanks ++ cs))).takeWhile isAttributeNameChar = name := by
    refine takeWhile_append_of_stops
      (fun d hd => isAttributeNameChar_of_isPlainNameChar (hchars d hd)) ?_
    rw [Attribute.writeValue]
    cases a.written with
    | none => exact h.ends
    | some text => exact stops_cons.2 rfl
  have hvalue := a.attributeValue?_writeValue h
  have hlength : ((a.written.map fun text => (⟨a.writeValue.length, text⟩ : RawValue)).map
      RawValue.length).getD 0 = a.writeValue.length := by
    cases hwritten : a.written with
    | none => rw [Attribute.writeValue, hwritten]; rfl
    | some text => rfl
  have hraw : (a.written.map fun text => (⟨a.writeValue.length, text⟩ : RawValue)).map
      RawValue.value = a.written := by
    cases a.written <;> rfl
  have hpassed : a.write ++ blanks = c :: (name ++ (a.writeValue ++ blanks)) := by
    simp [Attribute.write, hname]
  have htext : a.write ++ (blanks ++ cs) = c :: (name ++ (a.writeValue ++ (blanks ++ cs))) := by
    simp [Attribute.write, hname]
  have hused : (c :: name).length + a.writeValue.length + blanks.length =
      (name ++ (a.writeValue ++ blanks)).length + 1 := by
    simp only [List.length_cons, List.length_append]
    omega
  have hskip : name ++ (a.writeValue ++ (blanks ++ cs)) =
      name ++ (a.writeValue ++ blanks) ++ cs := by
    simp only [List.append_assoc]
  rw [htext, attributesFrom, if_pos hstart, htake]
  simp only [List.length_cons, Nat.add_sub_cancel, List.drop_left, hvalue, hlength, hraw,
    h.separate] at hused ⊢
  rw [hused, hskip, Nat.add_sub_cancel, attributesFrom_skip, hpassed, List.getLast?_cons,
    List.length_cons, Attribute.raw, hname]
  rfl

/-! ## Start tags -/

/-- An attribute with the blank in front of it. -/
def Attribute.behindBlank (a : Attribute) : List Char :=
  ' ' :: a.write

/-- The blanks at the end of a tag. -/
def gap (closed : Bool) : List Char :=
  if closed then [' '] else []

/-- The end of a tag, with a slash if the tag closes its element too. -/
def bracket (closed : Bool) : List Char :=
  if closed then ['/', '>'] else ['>']

/-- A start tag, or the tag of an element without content. -/
def writeTag (closed : Bool) (name : String) (attributes : List Attribute) : List Char :=
  '<' :: (name.toList ++
    (attributes.flatMap Attribute.behindBlank ++ (gap closed ++ bracket closed)))

@[simp]
theorem writeTag_false (name : String) (attributes : List Attribute) :
    writeTag false name attributes =
      '<' :: (name.toList ++ (attributes.flatMap Attribute.behindBlank ++ ['>'])) :=
  rfl

@[simp]
theorem writeTag_true (name : String) (attributes : List Attribute) :
    writeTag true name attributes =
      '<' :: (name.toList ++ (attributes.flatMap Attribute.behindBlank ++ [' ', '/', '>'])) :=
  rfl

/-- An attribute whose value needs no reference is written as it is. -/
@[simp]
theorem behindBlank_verbatimAttribute {name value : String} (hname : isPlainName name.toList)
    (hvalue : isVerbatim value) :
    (verbatimAttribute name value hname hvalue).behindBlank =
      ' ' :: (name.toList ++ '=' :: '"' :: (value.toList ++ ['"'])) :=
  rfl

/-- An attribute with no value is written as its name. -/
@[simp]
theorem behindBlank_bareAttribute {name : String} (hname : isPlainName name.toList) :
    (bareAttribute name hname).behindBlank = ' ' :: name.toList :=
  congrArg (' ' :: ·) (List.append_nil _)

/-- What a tag says. -/
def tagToken (closed : Bool) (name : String) (attributes : List Attribute) : Token :=
  if closed then .emptyTag name (attributes.map Attribute.entry)
  else .startTag name (attributes.map Attribute.entry)

/-- The bracket that closes a tag ends the attribute before it. -/
theorem endsAttribute_bracket (closed : Bool) (rest : List Char) :
    EndsAttribute (gap closed) (bracket closed ++ rest) := by
  have hspace : isBlank ' ' := rfl
  have hslash : isBlank '/' = false := rfl
  have hangle : isBlank '>' = false := rfl
  cases closed <;> constructor <;>
    simp [gap, bracket, stops_cons, isAttributeNameChar, separators, hspace, hslash, hangle]

/-- The next attribute ends the one before it. -/
theorem endsAttribute_write (a : Attribute) (rest : List Char) :
    EndsAttribute [' '] (a.write ++ rest) := by
  obtain ⟨c, cs, hwrite, hc⟩ := a.exists_write
  have hblank := isBlank_of_isPlainNameChar hc
  have hslash : c ≠ '/' := ne_of_isPlainNameChar hc (by decide)
  have hequals : c ≠ '=' := ne_of_isPlainNameChar hc (by decide)
  rw [hwrite, List.cons_append]
  constructor
  · exact List.forall_mem_singleton.2 rfl
  · exact stops_cons.2 hblank
  · exact stops_cons.2 (beq_false_of_ne hequals)
  · exact stops_cons.2 rfl
  · have hspace : isBlank ' ' := rfl
    simp [separators, hspace, hblank, hslash]

/-- The text behind the last attribute, and behind the name if there is no attribute. -/
theorem attributesFrom_bracket (done : List (List Char × Option (List Char))) (length : Nat)
    (before : Char) (closed : Bool) (rest : List Char) :
    attributesFrom done length before 0 (bracket closed ++ rest) = ⟨done.reverse, length⟩ := by
  cases closed <;> simp [bracket, attributesFrom, isAttributeStart]

/-- All attributes of a tag are read. -/
theorem attributesFrom_write (closed : Bool) (rest : List Char) (attributes : List Attribute) :
    ∀ (a : Attribute) (done : List (List Char × Option (List Char))) (length : Nat)
      {before : Char}, mayPrecedeAttribute before →
      attributesFrom done length before 0
          (a.write ++ (attributes.flatMap Attribute.behindBlank ++
            (gap closed ++ (bracket closed ++ rest)))) =
        ⟨done.reverse ++ (a :: attributes).map Attribute.raw, length +
          (a.write ++ (attributes.flatMap Attribute.behindBlank ++ gap closed)).length⟩ := by
  induction attributes with
  | nil =>
    intro a done length before hbefore
    rw [List.flatMap_nil, List.nil_append, List.nil_append,
      attributesFrom_cons _ _ hbefore _ (endsAttribute_bracket closed rest),
      attributesFrom_bracket, List.reverse_cons]
    rfl
  | cons b attributes ih =>
    intro a done length before hbefore
    have htail : (b :: attributes).flatMap Attribute.behindBlank ++
        (gap closed ++ (bracket closed ++ rest)) =
        [' '] ++ (b.write ++ (attributes.flatMap Attribute.behindBlank ++
          (gap closed ++ (bracket closed ++ rest)))) := by
      simp [Attribute.behindBlank]
    have hlast : (a.write ++ [' ']).getLast?.getD before = ' ' := by simp
    rw [htail, attributesFrom_cons _ _ hbefore _ (endsAttribute_write b _), hlast, ih _ _ _ rfl]
    simp [Attribute.behindBlank]
    omega

/-- What is behind the name of a tag: blanks, and then the attributes up to the bracket. -/
theorem exists_attributesFrom (closed : Bool) (attributes : List Attribute) (rest : List Char)
    (last : Char) :
    ∃ (blanks tail : List Char) (length : Nat),
      attributes.flatMap Attribute.behindBlank ++ (gap closed ++ (bracket closed ++ rest)) =
        blanks ++ tail ∧
      separators (blanks ++ tail) = blanks ∧
      attributesFrom [] 0 (blanks.getLast?.getD last) 0 tail =
        ⟨attributes.map Attribute.raw, length⟩ ∧
      blanks.length + length =
        (attributes.flatMap Attribute.behindBlank ++ gap closed).length := by
  cases attributes with
  | nil =>
    exact ⟨gap closed, bracket closed ++ rest, 0, rfl, (endsAttribute_bracket closed rest).separate,
      attributesFrom_bracket _ _ _ _ _, rfl⟩
  | cons a attributes =>
    have hread := attributesFrom_write closed rest attributes a [] 0
      (rfl : mayPrecedeAttribute ' ' = true)
    refine ⟨[' '], _, _, ?_, (endsAttribute_write a _).separate, hread, ?_⟩
    · simp [Attribute.behindBlank]
    · simp [Attribute.behindBlank]
      omega

theorem mapM_decodeAttribute (attributes : List Attribute) :
    (attributes.map Attribute.raw).mapM decodeAttribute =
      .ok (attributes.map Attribute.entry) := by
  induction attributes with
  | nil => rfl
  | cons a attributes ih =>
    rw [List.map_cons, List.mapM_cons, a.decodeAttribute_raw, ih]
    rfl

/-- A start tag is read as it is written. -/
theorem startTag_writeTag (closed : Bool) {name : String} (hname : isPlainName name.toList)
    (attributes : List Attribute) (rest : List Char) :
    startTag (writeTag closed name attributes ++ rest) =
      .ok (.found [tagToken closed name attributes] (writeTag closed name attributes).length) := by
  obtain ⟨blanks, tail, length, htail, hblanks, hread, hlength⟩ :=
    exists_attributesFrom closed attributes rest (name.toList.getLast?.getD '<')
  have htake : (name.toList ++ (blanks ++ tail)).takeWhile isNameChar = name.toList := by
    refine takeWhile_append_of_stops
      (fun c hc => isNameChar_of_isPlainNameChar (all_isPlainNameChar hname c hc)) ?_
    rw [← htail]
    cases attributes <;> cases closed <;> exact stops_cons.2 rfl
  have htext : writeTag closed name attributes ++ rest =
      '<' :: (name.toList ++ (blanks ++ tail)) := by
    rw [← htail]
    simp [writeTag]
  -- behind the blanks and the attributes stands the bracket
  have hbracket : ('<' :: (name.toList ++ (blanks ++ tail))).drop
      (1 + name.toList.length + blanks.length + length) = bracket closed ++ rest := by
    have hcut : '<' :: (name.toList ++ (blanks ++ tail)) =
        ('<' :: (name.toList ++ (attributes.flatMap Attribute.behindBlank ++ gap closed))) ++
          (bracket closed ++ rest) := by
      rw [← htail]
      simp
    rw [hcut]
    refine List.drop_left' ?_
    rw [List.length_cons, List.length_append, ← hlength]
    omega
  have hwhole : (writeTag closed name attributes).length =
      1 + name.toList.length + blanks.length + length + (bracket closed).length := by
    rw [Nat.add_assoc _ blanks.length, hlength]
    simp [writeTag]
    omega
  rw [htext, hwhole]
  unfold startTag
  simp only [List.drop_succ_cons, List.drop_zero, htake, Nat.add_comm 1 name.toList.length,
    List.drop_left, hblanks, hread]
  rw [Nat.add_comm name.toList.length 1, hbracket, mapM_decodeAttribute,
    lower_of_isPlainName hname, String.ofList_toList]
  cases closed <;> rfl

/-! ## End tags -/

/-- An end tag. -/
def writeEndTag (name : String) : List Char :=
  '<' :: '/' :: (name.toList ++ ['>'])

theorem closingBracket?_bracket (before : Nat) (rest : List Char) :
    closingBracket? before ('>' :: rest) = some (before + 1) :=
  rfl

/-- A written end tag is a plain end tag. -/
theorem plainEndTag?_writeEndTag {name : String} (hname : isPlainName name.toList)
    (rest : List Char) :
    plainEndTag? (writeEndTag name ++ rest) = some (name.toList, (writeEndTag name).length) := by
  obtain ⟨c, cs, hcons, halpha⟩ := exists_cons_of_isPlainName hname
  have hchars := all_isPlainNameChar hname
  have hblank : (name.toList ++ '>' :: rest).takeWhile isBlank = [] := by
    rw [hcons]
    exact takeWhile_append_of_stops (List.forall_mem_nil _)
      (stops_cons.2 (isBlank_of_isPlainNameChar (hchars c (by simp [hcons]))))
  have htake : (name.toList ++ '>' :: rest).takeWhile isEndNameChar = name.toList :=
    takeWhile_append_of_stops
      (fun c hc => isEndNameChar_of_isPlainNameChar (hchars c hc)) (stops_cons.2 rfl)
  have htext : writeEndTag name ++ rest = '<' :: '/' :: (name.toList ++ '>' :: rest) := by
    simp [writeEndTag]
  have hcase : name.toList ++ '>' :: rest = c :: (cs ++ '>' :: rest) := by
    rw [hcons, List.cons_append]
  rw [htext]
  unfold plainEndTag?
  simp only [List.drop_succ_cons, List.drop_zero, hblank, List.length_nil, Nat.add_zero]
  rw [hcase]
  dsimp only
  rw [if_pos halpha, ← hcase, htake, List.drop_left, closingBracket?_bracket]
  simp [writeEndTag]
  omega

/-- The next closing bracket is the first one behind the place. -/
theorem bracketAfter?_eq {place : Nat} {cs front rest : List Char}
    (hcs : cs.drop place = front ++ '>' :: rest) (hfront : '>' ∉ front) :
    bracketAfter? place cs = some (place + front.length + 1) := by
  have hnone : front.findIdx? (· == '>') = none := by
    rw [List.findIdx?_eq_none_iff]
    exact fun c hc => beq_false_of_ne fun he => hfront (he ▸ hc)
  rw [bracketAfter?, hcs, List.findIdx?_append, hnone, List.findIdx?_cons]
  simp

/-- A written end tag is read as the end tag of its name. -/
theorem endTag_writeEndTag {name : String} (hname : isPlainName name.toList) (rest : List Char) :
    endTag (writeEndTag name ++ rest) = .found [.endTag name] (writeEndTag name).length := by
  have hfront : '>' ∉ '/' :: name.toList := by
    intro h
    rcases List.mem_cons.1 h with h | h
    · exact absurd h (by decide)
    · exact absurd (all_isPlainNameChar hname _ h) (by decide)
  have hdrop : (writeEndTag name ++ rest).drop 1 = ('/' :: name.toList) ++ '>' :: rest := by
    simp [writeEndTag]
  have hbracket := bracketAfter?_eq hdrop hfront
  rw [endTag, hbracket, plainEndTag?_writeEndTag hname]
  dsimp only
  rw [lower_of_isPlainName hname, String.ofList_toList]

/-! ## The document type -/

/-- The declaration of a document type. -/
def writeDoctype (name : List Char) : List Char :=
  '<' :: '!' :: 'd' :: 'o' :: 'c' :: 't' :: 'y' :: 'p' :: 'e' :: ' ' :: (name ++ ['>'])

/-- A written doctype is read as a doctype. -/
theorem declaration_writeDoctype {name : List Char} (hname : '>' ∉ name) (rest : List Char) :
    declaration (writeDoctype name ++ rest) =
      .ok (.found [.doctype name] (writeDoctype name).length) := by
  have hdrop : (writeDoctype name ++ rest).drop 9 = (' ' :: name) ++ '>' :: rest := by
    simp [writeDoctype]
  have hbracket := bracketAfter?_eq hdrop (by simpa using hname)
  have hkeyword : ((writeDoctype name ++ rest).take 9).map Char.toLower =
      "<!doctype".toList := by
    simp [writeDoctype]
  have hsection : ((writeDoctype name ++ rest).drop 2).head? ≠ some '[' := by
    simp [writeDoctype]
  have hinside : (writeDoctype name ++ rest).drop 10 = name ++ '>' :: rest := by
    simp [writeDoctype]
  unfold declaration
  have hlength : (writeDoctype name).length = 9 + (' ' :: name).length + 1 := by
    simp [writeDoctype]
    omega
  have htake : 9 + (' ' :: name).length + 1 - 11 = name.length := by
    rw [List.length_cons]
    omega
  rw [if_neg hsection, if_pos hkeyword, hbracket, hinside]
  dsimp only
  rw [htake, List.take_left, hlength]

/-! ## Reading on behind a piece -/

/-- The lexer passes over the characters it has already read. -/
theorem lexFrom_skip (final : Bool) (done : List Token) (raw : Option RawElement)
    (passed rest : List Char) :
    lexFrom final done raw passed.length (passed ++ rest) = lexFrom final done raw 0 rest := by
  induction passed with
  | nil => rfl
  | cons c passed ih => exact ih

/-- A piece is read as a whole: the tokens are put to those read before, and reading goes on behind
the piece. -/
theorem lexFrom_of_step {final : Bool} {raw raw' : Option RawElement} {tokens : List Token}
    {c : Char} {cs rest : List Char}
    (h : step final raw c (cs ++ rest) = .ok (.next tokens (c :: cs).length raw'))
    (done : List Token) :
    lexFrom final done raw 0 (c :: cs ++ rest) =
      lexFrom final (tokens ++ done) raw' 0 rest := by
  rw [List.cons_append, lexFrom, h]
  dsimp only
  rw [List.length_cons, Nat.add_sub_cancel, lexFrom_skip]

/-- A step at a bracket that reads a whole prefix leaves the rest to be read. -/
theorem lexFrom_of_bracketStep {final : Bool} {raw : Option RawElement} {tokens : List Token}
    {cs rest : List Char}
    (h : bracketStep final ('<' :: cs ++ rest) = .ok (.next tokens ('<' :: cs).length raw))
    (done : List Token) :
    lexFrom final done none 0 ('<' :: cs ++ rest) =
      lexFrom final (tokens ++ done) raw 0 rest := by
  have hstep : step final none '<' (cs ++ rest) = .ok (.next tokens ('<' :: cs).length raw) := h
  exact lexFrom_of_step hstep done

/-- A written tag is read as its token, and a raw element's start tag puts the lexer inside of it.
-/
theorem lexFrom_writeTag (final : Bool) (done : List Token) (closed : Bool) {name : String}
    (hname : isPlainName name.toList) (attributes : List Attribute) (rest : List Char) :
    lexFrom final done none 0 (writeTag closed name attributes ++ rest) =
      lexFrom final (tagToken closed name attributes :: done)
        (if closed then none else RawElement.ofName? name) 0 rest := by
  obtain ⟨c, cs, hcons, halpha⟩ := exists_cons_of_isPlainName hname
  have hbracket : bracketStep final (writeTag closed name attributes ++ rest) =
      (startTag (writeTag closed name attributes ++ rest)).map
        (Reading.step final (writeTag closed name attributes ++ rest)) := by
    rw [writeTag, hcons, List.cons_append, List.cons_append, List.cons_append]
    unfold bracketStep
    dsimp only
    rw [if_pos halpha]
  have hraw : rawAfter [tagToken closed name attributes] =
      if closed then none else RawElement.ofName? name := by
    cases closed <;> rfl
  rw [startTag_writeTag closed hname, Except.map, Reading.step, hraw] at hbracket
  exact lexFrom_of_bracketStep hbracket done

theorem lexFrom_writeEndTag (final : Bool) (done : List Token) {name : String}
    (hname : isPlainName name.toList) (rest : List Char) :
    lexFrom final done none 0 (writeEndTag name ++ rest) =
      lexFrom final (.endTag name :: done) none 0 rest := by
  have hbracket : bracketStep final (writeEndTag name ++ rest) =
      .ok ((endTag (writeEndTag name ++ rest)).step final (writeEndTag name ++ rest)) :=
    rfl
  rw [endTag_writeEndTag hname, Reading.step] at hbracket
  exact lexFrom_of_bracketStep hbracket done

/-- A written doctype is read as its token. -/
theorem lexFrom_writeDoctype (final : Bool) (done : List Token) {name : List Char}
    (hname : '>' ∉ name) (rest : List Char) :
    lexFrom final done none 0 (writeDoctype name ++ rest) =
      lexFrom final (.doctype name :: done) none 0 rest := by
  have hbracket : bracketStep final (writeDoctype name ++ rest) =
      (declaration (writeDoctype name ++ rest)).map
        (Reading.step final (writeDoctype name ++ rest)) :=
    rfl
  rw [declaration_writeDoctype hname, Except.map, Reading.step] at hbracket
  exact lexFrom_of_bracketStep hbracket done

/-- Text without markup is one token, if markup or the end of the page follows. -/
theorem lexFrom_plain (final : Bool) (done : List Token) {run rest : List Char} (hne : run ≠ [])
    (hrun : ∀ c ∈ run, isPlain c) (hrest : Stops isPlain rest) :
    lexFrom final done none 0 (run ++ rest) = lexFrom final (.text run :: done) none 0 rest := by
  obtain ⟨c, cs, rfl⟩ := List.exists_cons_of_ne_nil hne
  obtain ⟨hc, hcs⟩ := List.forall_mem_cons.1 hrun
  obtain ⟨hangle, hampersand⟩ : c ≠ '<' ∧ c ≠ '&' := by simpa [isPlain] using hc
  have hstep : step final none c (cs ++ rest) =
      .ok (.next [.text (c :: cs)] (c :: cs).length none) := by
    simp only [step, if_neg hangle, if_neg hampersand, takeWhile_append_of_stops hcs hrest]
  exact lexFrom_of_step hstep done

/-! ## Raw elements -/

/-- A search passes over the characters at which nothing begins. -/
theorem searchFrom_pass {length? : List Char → Option Nat} {front rest : List Char}
    (hfront : ∀ c ∈ front, ∀ cs, length? (c :: cs) = none) (place : Nat) {n : Nat}
    (hrest : length? rest = some n) (hne : rest ≠ []) :
    searchFrom length? place (front ++ rest) = some (place + front.length, n) := by
  induction front generalizing place with
  | nil =>
    obtain ⟨c, cs, rfl⟩ := List.exists_cons_of_ne_nil hne
    rw [List.nil_append, searchFrom, hrest]
    rfl
  | cons c front ih =>
    obtain ⟨hc, hfront⟩ := List.forall_mem_cons.1 hfront
    rw [List.cons_append, searchFrom, hc]
    dsimp only
    rw [ih hfront, List.length_cons, Nat.add_right_comm, Nat.add_assoc]

namespace RawElement

/-- The raw elements have plain names. -/
theorem isPlainName_name (e : RawElement) : isPlainName e.name.toList := by
  cases e <;> simp [name, isPlainName] <;> decide

/-- The name of an end tag is matched letter by letter. -/
theorem afterName?_append {letters : List Char} (h : ∀ c ∈ letters, isPlainNameChar c)
    (rest : List Char) : afterName? letters (letters ++ rest) = some rest := by
  induction letters with
  | nil => rfl
  | cons c letters ih =>
    obtain ⟨hc, hletters⟩ := List.forall_mem_cons.1 h
    have hsame : sameLetter c c := by simp [sameLetter, toLower_of_isPlainNameChar hc]
    rw [List.cons_append, afterName?, if_pos hsame, ih hletters]

theorem endTag?_cons (e : RawElement) (cs : List Char) :
    e.endTag? ('<' :: '/' :: cs) =
      (afterName? e.name.toList (cs.drop (cs.takeWhile isBlank).length)).bind
        (closingBracket? (2 + (cs.takeWhile isBlank).length + e.name.length)) := by
  rw [endTag?]
  cases afterName? e.name.toList (cs.drop (cs.takeWhile isBlank).length) <;> rfl

/-- A raw element ends at its written end tag. -/
theorem endTag?_writeEndTag (e : RawElement) (rest : List Char) :
    e.endTag? (writeEndTag e.name ++ rest) = some (writeEndTag e.name).length := by
  have hchars := all_isPlainNameChar e.isPlainName_name
  obtain ⟨c, cs, hcons, -⟩ := exists_cons_of_isPlainName e.isPlainName_name
  have hblank : (e.name.toList ++ '>' :: rest).takeWhile isBlank = [] := by
    rw [hcons]
    exact takeWhile_append_of_stops (List.forall_mem_nil _)
      (stops_cons.2 (isBlank_of_isPlainNameChar (hchars c (by simp [hcons]))))
  have htext : writeEndTag e.name ++ rest = '<' :: '/' :: (e.name.toList ++ '>' :: rest) := by
    simp [writeEndTag]
  have hlength : (writeEndTag e.name).length = 2 + e.name.length + 1 := by
    rw [← String.length_toList]
    simp only [writeEndTag, List.length_cons, List.length_append, List.length_nil]
    omega
  rw [htext, endTag?_cons, hblank, List.length_nil, List.drop_zero, afterName?_append hchars,
    Option.bind_some, closingBracket?_bracket, hlength, Nat.add_zero]

end RawElement

/-- The content of a raw element is text up to the end tag, if it has no opening bracket. -/
theorem lexFrom_raw (final : Bool) (done : List Token) (e : RawElement) {content : List Char}
    (hcontent : '<' ∉ content) (rest : List Char) :
    lexFrom final done (some e) 0 (content ++ writeEndTag e.name ++ rest) =
      lexFrom final (.endTag e.name :: (textTokens content ++ done)) none 0 rest := by
  have hpass : ∀ c ∈ content, ∀ cs, e.endTag? (c :: cs) = none := by
    intro c hc cs
    have hangle : c ≠ '<' := fun he => hcontent (he ▸ hc)
    unfold RawElement.endTag?
    split
    · rename_i h
      exact absurd (List.cons.inj h).1 hangle
    · rfl
  have hsearch : search e.endTag? (content ++ (writeEndTag e.name ++ rest)) =
      some (content.length, (writeEndTag e.name).length) := by
    rw [search, searchFrom_pass hpass 0 (e.endTag?_writeEndTag rest) (by simp [writeEndTag]),
      Nat.zero_add]
  have hmark : plainEndTag? (writeEndTag e.name) =
      some (e.name.toList, (writeEndTag e.name).length) := by
    simpa using plainEndTag?_writeEndTag e.isPlainName_name []
  have hraw : rawStep e (content ++ writeEndTag e.name ++ rest) =
      .next (.endTag e.name :: textTokens content) (content ++ writeEndTag e.name).length none := by
    rw [List.append_assoc]
    unfold rawStep
    rw [hsearch]
    dsimp only
    rw [List.take_left, List.drop_left, List.take_left, hmark, List.length_append]
  obtain ⟨c, cs, hcons⟩ : ∃ c cs, content ++ writeEndTag e.name = c :: cs :=
    List.exists_cons_of_ne_nil (by simp [writeEndTag])
  rw [hcons] at hraw ⊢
  have hstep : step final (some e) c (cs ++ rest) = .ok (.next _ (c :: cs).length none) :=
    congrArg Except.ok hraw
  exact lexFrom_of_step hstep done

end SealedPage.Html
