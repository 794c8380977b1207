import SealedPage.Flo.Tag
import SealedPage.Proofs.Text.Run

/-!
# The grammar of tags

The reader of tags takes the longest run of blanks, of a name or of a value at every step. Here the
grammar is written down without a reader, as conditions on the parts of a tag, and the two are shown
to agree:

* `Tag.atHead?_eq_some_iff`: a tag is read at the front of a text if and only if it is well formed
  and the text begins with its characters, so at most one tag begins at a place;
* `findAttributes_attributeSource`: searching the characters of a tag's attributes finds exactly
  these attributes, in order.
-/

namespace SealedPage.Flo

open Text

/-! ## Classes of characters -/

/-- What begins a name may also go on with it. -/
theorem isTagChar_of_isTagStart {c : Char} (h : isTagStart c) : isTagChar c := by
  rw [isTagStart] at h
  rw [isTagChar, Char.isAlphanum, h]
  rfl

/-- No name holds a blank. -/
theorem isTagChar_of_isBlank {c : Char} (h : isBlank c) : isTagChar c = false := by
  simp [isTagChar, isAlphanum_of_isBlank h, ne_of_isBlank h (d := '_') rfl,
    ne_of_isBlank h (d := '-') rfl]

/-- No name of an attribute holds a blank. -/
theorem isAttributeChar_of_isBlank {c : Char} (h : isBlank c) : isAttributeChar c = false := by
  simp [isAttributeChar, h]

theorem isBlank_of_isAttributeChar {c : Char} (h : isAttributeChar c) : isBlank c = false := by
  rw [Bool.eq_false_iff]
  intro hb
  simp [isAttributeChar_of_isBlank hb] at h

/-! ## Values -/

/-- What the grammar demands of a value: blanks around the equals sign, and a text without quotes
and opening brackets. -/
structure AttributeValue.WellFormed (v : AttributeValue) : Prop where
  before : ∀ c ∈ v.before, isBlank c
  after : ∀ c ∈ v.after, isBlank c
  text : ∀ c ∈ v.text, isValueChar c

/-- A value is read exactly where its characters stand. -/
theorem AttributeValue.atHead?_eq_some_iff {cs rest : List Char} {v : AttributeValue} :
    AttributeValue.atHead? cs = some (v, rest) ↔ v.WellFormed ∧ cs = v.source ++ rest := by
  constructor
  · intro h
    unfold AttributeValue.atHead? at h
    dsimp only at h
    split at h
    · rename_i cs₁ h₁
      split at h
      · rename_i cs₂ h₂
        split at h
        · rename_i cs₃ h₃
          obtain ⟨rfl, rfl⟩ := Prod.mk.inj (Option.some.inj h)
          refine ⟨⟨of_mem_takeWhile, of_mem_takeWhile, of_mem_takeWhile⟩, ?_⟩
          conv =>
            lhs
            rw [eq_takeWhile_append h₁, eq_takeWhile_append h₂, eq_takeWhile_append h₃]
          simp [source]
        · simp at h
      · simp at h
    · simp at h
  · rintro ⟨hv, rfl⟩
    -- each run stops at the mark that follows it
    have hb : Stops isBlank ('=' :: (v.after ++ '"' :: (v.text ++ '"' :: rest))) :=
      stops_cons.2 rfl
    have ha : Stops isBlank ('"' :: (v.text ++ '"' :: rest)) := stops_cons.2 rfl
    have ht : Stops isValueChar ('"' :: rest) := stops_cons.2 rfl
    have hs : v.source ++ rest =
        v.before ++ '=' :: (v.after ++ '"' :: (v.text ++ '"' :: rest)) := by
      simp [source]
    rw [hs, atHead?]
    simp only [takeWhile_append_of_stops hv.before hb, dropWhile_append_of_stops hv.before hb,
      takeWhile_append_of_stops hv.after ha, dropWhile_append_of_stops hv.after ha,
      takeWhile_append_of_stops hv.text ht, dropWhile_append_of_stops hv.text ht]

/-- Without an equals sign behind the blanks there is no value. -/
theorem AttributeValue.atHead?_eq_none {cs : List Char}
    (h : Stops (· == '=') (cs.dropWhile isBlank)) : AttributeValue.atHead? cs = none := by
  unfold AttributeValue.atHead?
  dsimp only
  split
  · rename_i cs₁ h₁
    rw [h₁] at h
    simp [stops_cons] at h
  · rfl

/-! ## Attributes -/

/-- What the grammar demands of an attribute. -/
structure WrittenAttribute.WellFormed (a : WrittenAttribute) : Prop where
  name_ne_nil : a.name ≠ []
  name : ∀ c ∈ a.name, isAttributeChar c
  value : ∀ v ∈ a.value, v.WellFormed

/-- A text that can stand behind an attribute: it goes on neither with the name nor with an equals
sign. -/
structure EndsAttribute (rest : List Char) : Prop where
  name : Stops isAttributeChar rest
  value : Stops (· == '=') (rest.dropWhile isBlank)

theorem endsAttribute_nil : EndsAttribute [] :=
  ⟨stops_nil _, stops_nil _⟩

/-- Blanks and then anything but an equals sign can stand behind an attribute; without blanks it
must not go on with the name. -/
theorem endsAttribute_append {blanks : List Char} {c : Char} {cs : List Char}
    (hb : ∀ b ∈ blanks, isBlank b) (hc : isBlank c = false) (he : c ≠ '=')
    (hn : blanks = [] → isAttributeChar c = false) : EndsAttribute (blanks ++ c :: cs) := by
  constructor
  · cases blanks with
    | nil => exact stops_cons.2 (hn rfl)
    | cons b blanks => exact stops_cons.2 (isAttributeChar_of_isBlank (hb b List.mem_cons_self))
  · rw [dropWhile_append_of_stops hb (stops_cons.2 hc), stops_cons]
    simpa using he

namespace WrittenAttribute

/-- An attribute that is read is well formed and stands at the front. -/
theorem of_atHead?_eq_some {cs rest : List Char} {a : WrittenAttribute}
    (h : WrittenAttribute.atHead? cs = some (a, rest)) : a.WellFormed ∧ cs = a.source ++ rest := by
  unfold WrittenAttribute.atHead? at h
  split at h
  · simp at h
  · rename_i name hne
    have hname : ∀ c ∈ cs.takeWhile isAttributeChar, isAttributeChar c := of_mem_takeWhile
    dsimp only at h
    split at h
    · rename_i v rest' hv
      obtain ⟨rfl, rfl⟩ := Prod.mk.inj (Option.some.inj h)
      obtain ⟨hwf, hrest⟩ := AttributeValue.atHead?_eq_some_iff.1 hv
      refine ⟨⟨hne, hname, ?_⟩, ?_⟩
      · rintro v' ⟨⟩
        exact hwf
      · conv => lhs; rw [eq_takeWhile_append hrest]
        simp [source]
    · obtain ⟨rfl, rfl⟩ := Prod.mk.inj (Option.some.inj h)
      refine ⟨⟨hne, hname, ?_⟩, ?_⟩
      · rintro v' ⟨⟩
      · simp [source]

/-- An attribute is read where it stands, unless the text behind it goes on with it. -/
theorem atHead?_append {a : WrittenAttribute} {rest : List Char} (ha : a.WellFormed)
    (hr : EndsAttribute rest) :
    WrittenAttribute.atHead? (a.source ++ rest) = some (a, rest) := by
  obtain ⟨name, value⟩ := a
  have hname : ∀ c ∈ name, isAttributeChar c := ha.name
  have hne : name ≠ [] := ha.name_ne_nil
  cases value with
  | none =>
    have hs : (⟨name, none⟩ : WrittenAttribute).source ++ rest = name ++ rest := by simp [source]
    rw [hs, WrittenAttribute.atHead?, takeWhile_append_of_stops hname hr.name,
      dropWhile_append_of_stops hname hr.name]
    split
    · exact absurd rfl hne
    · simp only [AttributeValue.atHead?_eq_none hr.value]
  | some v =>
    have hv : v.WellFormed := ha.value v rfl
    have hs : (⟨name, some v⟩ : WrittenAttribute).source ++ rest = name ++ (v.source ++ rest) := by
      simp [source]
    have hstop : Stops isAttributeChar (v.source ++ rest) := by
      rw [AttributeValue.source, List.append_assoc]
      exact stops_append hv.before (fun _ => isAttributeChar_of_isBlank) (stops_cons.2 rfl)
    rw [hs, WrittenAttribute.atHead?, takeWhile_append_of_stops hname hstop,
      dropWhile_append_of_stops hname hstop]
    split
    · exact absurd rfl hne
    · simp only [AttributeValue.atHead?_eq_some_iff.2 ⟨hv, rfl⟩]

/-- No attribute begins with a character that cannot stand in its name. -/
theorem atHead?_eq_none {cs : List Char} (h : Stops isAttributeChar cs) :
    WrittenAttribute.atHead? cs = none := by
  have : cs.takeWhile isAttributeChar = [] := by
    have hrun : ∀ c ∈ ([] : List Char), isAttributeChar c := by simp
    exact takeWhile_append_of_stops hrun h
  rw [WrittenAttribute.atHead?, this]

/-- The characters of an attribute begin with one of its name. -/
theorem stops_source {a : WrittenAttribute} (ha : a.WellFormed) {p : Char → Bool}
    (hp : ∀ c, isAttributeChar c → p c = false) (rest : List Char) :
    Stops p (a.source ++ rest) := by
  have hne := ha.name_ne_nil
  obtain ⟨c, cs, hn⟩ := List.exists_cons_of_ne_nil hne
  rw [source, hn]
  exact stops_cons.2 (hp c (ha.name c (hn ▸ List.mem_cons_self)))

end WrittenAttribute

/-! ## Lists of attributes -/

/-- The characters of attributes with the blanks in front of each. -/
def attributesSource (as : List (List Char × WrittenAttribute)) : List Char :=
  as.flatMap fun (blanks, a) => blanks ++ a.source

/-- Every attribute is well formed and has blanks in front of it. -/
def AttributesWellFormed (as : List (List Char × WrittenAttribute)) : Prop :=
  ∀ a ∈ as, a.1 ≠ [] ∧ (∀ c ∈ a.1, isBlank c) ∧ a.2.WellFormed

theorem attributesSource_cons (blanks : List Char) (a : WrittenAttribute)
    (as : List (List Char × WrittenAttribute)) :
    attributesSource ((blanks, a) :: as) = blanks ++ (a.source ++ attributesSource as) := by
  simp [attributesSource]

/-- The first of several attributes is well-formed, stands behind blanks, and so do the others. -/
theorem AttributesWellFormed.of_cons {blanks : List Char} {a : WrittenAttribute}
    {as : List (List Char × WrittenAttribute)} (h : AttributesWellFormed ((blanks, a) :: as)) :
    blanks ≠ [] ∧ (∀ c ∈ blanks, isBlank c) ∧ a.WellFormed ∧ AttributesWellFormed as := by
  obtain ⟨h₁, h₂, h₃⟩ := h (blanks, a) List.mem_cons_self
  exact ⟨h₁, h₂, h₃, fun b hb => h b (List.mem_cons_of_mem _ hb)⟩

/-- Each attribute has at least one character. -/
theorem length_le_length_attributesSource {as : List (List Char × WrittenAttribute)}
    (h : AttributesWellFormed as) : as.length ≤ (attributesSource as).length := by
  induction as with
  | nil => simp
  | cons a as ih =>
    obtain ⟨blanks, a⟩ := a
    obtain ⟨hne, -, -, has⟩ := h.of_cons
    have := ih has
    have := List.length_pos_iff.2 hne
    rw [attributesSource_cons]
    simp only [List.length_cons, List.length_append]
    omega

/-- Further attributes can stand behind an attribute. -/
theorem endsAttribute_attributesSource {as : List (List Char × WrittenAttribute)}
    (h : AttributesWellFormed as) {rest : List Char} (hr : EndsAttribute rest) :
    EndsAttribute (attributesSource as ++ rest) := by
  cases as with
  | nil => exact hr
  | cons a as =>
    obtain ⟨blanks, a⟩ := a
    obtain ⟨hne, hblanks, ha, -⟩ := h.of_cons
    obtain ⟨c, cs, hn⟩ := List.exists_cons_of_ne_nil ha.name_ne_nil
    have hc : isAttributeChar c := ha.name c (hn ▸ List.mem_cons_self)
    rw [attributesSource_cons, WrittenAttribute.source, hn, List.append_assoc]
    refine endsAttribute_append hblanks (isBlank_of_isAttributeChar hc) ?_ (absurd · hne)
    rintro rfl
    simp [isAttributeChar] at hc

/-- Reading attributes splits a text into well-formed attributes and a rest. -/
theorem attributesFrom_eq (done : List (List Char × WrittenAttribute)) (fuel : Nat)
    (cs : List Char) :
    ∃ as rest, attributesFrom done fuel cs = (done.reverse ++ as, rest) ∧
      AttributesWellFormed as ∧ cs = attributesSource as ++ rest := by
  have hnil : AttributesWellFormed [] := by
    intro a ha
    simp at ha
  induction fuel generalizing done cs with
  | zero => exact ⟨[], cs, by simp [attributesFrom], hnil, by simp [attributesSource]⟩
  | succ fuel ih =>
    unfold attributesFrom
    split
    · exact ⟨[], cs, by simp, hnil, by simp [attributesSource]⟩
    · rename_i hne
      split
      · rename_i a rest ha
        -- one more attribute in front of those that are read behind it
        obtain ⟨hwf, hrest⟩ := WrittenAttribute.of_atHead?_eq_some ha
        obtain ⟨as, rest', hread, has, hsource⟩ := ih ((cs.takeWhile isBlank, a) :: done) rest
        refine ⟨(cs.takeWhile isBlank, a) :: as, rest', by simp [hread], ?_, ?_⟩
        · intro b hb
          rcases List.mem_cons.1 hb with rfl | hb
          · exact ⟨hne, of_mem_takeWhile, hwf⟩
          · exact has b hb
        · conv => lhs; rw [eq_takeWhile_append hrest, hsource]
          simp [attributesSource_cons]
      · exact ⟨[], cs, by simp, hnil, by simp [attributesSource]⟩

/-- A text that can stand behind the attributes of a tag. -/
structure EndsAttributes (rest : List Char) : Prop extends EndsAttribute rest where
  further : Stops isAttributeChar (rest.dropWhile isBlank)

/-- Attributes are read where they stand, up to a text that goes on with no further one. -/
theorem attributesFrom_append (done : List (List Char × WrittenAttribute)) {fuel : Nat}
    {as : List (List Char × WrittenAttribute)} (has : AttributesWellFormed as)
    (hfuel : as.length ≤ fuel) {rest : List Char} (hr : EndsAttributes rest) :
    attributesFrom done fuel (attributesSource as ++ rest) = (done.reverse ++ as, rest) := by
  induction as generalizing done fuel with
  | nil =>
    cases fuel with
    | zero => simp [attributesFrom, attributesSource]
    | succ fuel =>
      simp only [attributesFrom, attributesSource, List.flatMap_nil, List.nil_append,
        List.append_nil, WrittenAttribute.atHead?_eq_none hr.further]
      split <;> rfl
  | cons a as ih =>
    obtain ⟨blanks, a⟩ := a
    obtain ⟨hne, hblanks, ha, has⟩ := has.of_cons
    cases fuel with
    | zero => simp at hfuel
    | succ fuel =>
      have hstop : Stops isBlank (a.source ++ (attributesSource as ++ rest)) :=
        WrittenAttribute.stops_source ha (fun _ => isBlank_of_isAttributeChar) _
      have hs : attributesSource ((blanks, a) :: as) ++ rest =
          blanks ++ (a.source ++ (attributesSource as ++ rest)) := by
        simp [attributesSource_cons]
      rw [hs, attributesFrom, takeWhile_append_of_stops hblanks hstop,
        dropWhile_append_of_stops hblanks hstop,
        WrittenAttribute.atHead?_append ha
          (endsAttribute_attributesSource has hr.toEndsAttribute)]
      have hfuel : as.length ≤ fuel := by simpa using hfuel
      have hread := ih ((blanks, a) :: done) has hfuel
      split
      · exact absurd rfl hne
      · simpa using hread

/-! ## Tags -/

namespace Tag

/-- What the grammar demands of a tag. -/
structure WellFormed (t : Tag) : Prop where
  start : ∃ c cs, t.name = c :: cs ∧ isTagStart c
  name : ∀ c ∈ t.name, isTagChar c
  attributes : AttributesWellFormed t.attributes
  blanks : ∀ c ∈ t.blanks, isBlank c

/-- The characters that end a tag. -/
def endMark (selfClosing : Bool) : List Char :=
  (if selfClosing then ['/'] else []) ++ ['>']

/-- The characters of a tag from its name on. -/
def nameSource (t : Tag) : List Char :=
  t.name ++ (attributesSource t.attributes ++ (t.blanks ++ endMark t.selfClosing))

/-- A tag is a bracket, a slash if it closes, and its name with all that follows. -/
theorem source_eq (t : Tag) :
    t.source = '<' :: ((if t.closing then ['/'] else []) ++ (tagNamespace ++ t.nameSource)) := by
  simp [source, nameSource, attributeSource, attributesSource, endMark]

/-- The end of a tag goes on with neither a blank, nor a name, nor an attribute. -/
theorem exists_endMark (selfClosing : Bool) :
    ∃ c cs, endMark selfClosing = c :: cs ∧ isBlank c = false ∧ isTagChar c = false ∧
      isAttributeChar c = false ∧ c ≠ '=' := by
  cases selfClosing
  · exact ⟨'>', [], rfl, by decide⟩
  · exact ⟨'/', ['>'], rfl, by decide⟩

/-- The end of a tag is found where blanks and its mark stand. -/
theorem endAtHead?_eq_some_iff {cs blanks : List Char} {selfClosing : Bool} :
    endAtHead? cs = some (blanks, selfClosing) ↔
      (∀ c ∈ blanks, isBlank c) ∧ blanks ++ endMark selfClosing <+: cs := by
  constructor
  · intro h
    unfold endAtHead? at h
    split at h
    · rename_i rest hrest
      obtain ⟨rfl, rfl⟩ := Prod.mk.inj (Option.some.inj h)
      refine ⟨of_mem_takeWhile, rest, ?_⟩
      conv => rhs; rw [eq_takeWhile_append hrest]
      simp [endMark]
    · rename_i rest hrest
      obtain ⟨rfl, rfl⟩ := Prod.mk.inj (Option.some.inj h)
      refine ⟨of_mem_takeWhile, rest, ?_⟩
      conv => rhs; rw [eq_takeWhile_append hrest]
      simp [endMark]
    · simp at h
  · rintro ⟨hb, rest, rfl⟩
    have hstop : Stops isBlank (endMark selfClosing ++ rest) := by
      obtain ⟨c, cs, hmark, hc, -⟩ := exists_endMark selfClosing
      rw [hmark]
      exact stops_cons.2 hc
    rw [endAtHead?, List.append_assoc, takeWhile_append_of_stops hb hstop,
      dropWhile_append_of_stops hb hstop]
    cases selfClosing <;> rfl

/-- The blanks and the mark at the end of a tag can stand behind its attributes. -/
theorem endsAttributes_end {blanks : List Char} (hb : ∀ c ∈ blanks, isBlank c)
    (selfClosing : Bool) (rest : List Char) :
    EndsAttributes (blanks ++ (endMark selfClosing ++ rest)) := by
  obtain ⟨c, cs, hmark, hc, -, ha, he⟩ := exists_endMark selfClosing
  rw [hmark, List.cons_append]
  refine ⟨endsAttribute_append hb hc he fun _ => ha, ?_⟩
  rw [dropWhile_append_of_stops hb (stops_cons.2 hc)]
  exact stops_cons.2 ha

/-! ### No tag reaches over an opening bracket -/

theorem ne_bracket_of_isBlank {c : Char} (h : isBlank c) : c ≠ '<' :=
  ne_of_isBlank h rfl

theorem ne_bracket_of_mem_attributesSource {as : List (List Char × WrittenAttribute)}
    (h : AttributesWellFormed as) : ∀ c ∈ attributesSource as, c ≠ '<' := by
  have hname : ∀ c, isAttributeChar c → c ≠ '<' := by
    rintro c hc rfl
    simp [isAttributeChar] at hc
  have htext : ∀ c, isValueChar c → c ≠ '<' := by
    rintro c hc rfl
    simp [isValueChar] at hc
  intro c hc
  obtain ⟨⟨blanks, a⟩, hmem, hc⟩ := List.mem_flatMap.1 hc
  obtain ⟨-, hblanks, ha⟩ := h _ hmem
  -- it is a blank, or in the name, or a mark or a part of the value
  rcases List.mem_append.1 hc with hc | hc
  · exact ne_bracket_of_isBlank (hblanks c hc)
  rcases List.mem_append.1 hc with hc | hc
  · exact hname c (ha.name c hc)
  cases hv : a.value with
  | none => simp [hv] at hc
  | some v =>
    have hwf := ha.value v hv
    simp only [hv, AttributeValue.source, Option.map_some, Option.getD_some, List.mem_append,
      List.mem_cons, List.not_mem_nil, or_false] at hc
    rcases hc with hc | rfl | hc | rfl | hc | rfl
    · exact ne_bracket_of_isBlank (hwf.before c hc)
    · decide
    · exact ne_bracket_of_isBlank (hwf.after c hc)
    · decide
    · exact htext c (hwf.text c hc)
    · decide

/-- No tag holds a second opening bracket. -/
theorem ne_bracket_of_mem_nameSource {t : Tag} (h : t.WellFormed) :
    ∀ c ∈ t.nameSource, c ≠ '<' := by
  have hname : ∀ c, isTagChar c → c ≠ '<' := by
    rintro c hc rfl
    exact absurd hc (by decide)
  have hmark : ∀ c ∈ endMark t.selfClosing, c ≠ '<' := by
    cases t.selfClosing <;> simp [endMark]
  intro c hc
  rcases List.mem_append.1 hc with hc | hc
  · exact hname c (h.name c hc)
  rcases List.mem_append.1 hc with hc | hc
  · exact ne_bracket_of_mem_attributesSource h.attributes c hc
  rcases List.mem_append.1 hc with hc | hc
  · exact ne_bracket_of_isBlank (h.blanks c hc)
  · exact hmark c hc

/-- The only opening bracket of a tag is its first character. -/
theorem ne_bracket_of_mem_tail_source {t : Tag} (h : t.WellFormed) :
    ∀ c ∈ t.source.tail, c ≠ '<' := by
  have hclosing : ∀ c ∈ (if t.closing then ['/'] else [] : List Char), c ≠ '<' := by
    cases t.closing <;> simp
  have hnamespace : ∀ c ∈ tagNamespace, c ≠ '<' := by simp [tagNamespace]
  rw [source_eq, List.tail_cons]
  intro c hc
  rcases List.mem_append.1 hc with hc | hc
  · exact hclosing c hc
  rcases List.mem_append.1 hc with hc | hc
  · exact hnamespace c hc
  · exact ne_bracket_of_mem_nameSource h c hc

/-! ### Reading a tag -/

/-- A name does not go on with attributes. -/
theorem stops_attributesSource_append {as : List (List Char × WrittenAttribute)}
    (h : AttributesWellFormed as) {rest : List Char} (hr : Stops isTagChar rest) :
    Stops isTagChar (attributesSource as ++ rest) := by
  cases as with
  | nil => exact hr
  | cons a as =>
    obtain ⟨blanks, a⟩ := a
    obtain ⟨hne, hblanks, -, -⟩ := h.of_cons
    obtain ⟨b, bs, rfl⟩ := List.exists_cons_of_ne_nil hne
    rw [attributesSource_cons]
    exact stops_cons.2 (isTagChar_of_isBlank (hblanks b List.mem_cons_self))

/-- The characters before the next opening bracket are fuel enough for attributes: none of them has
a bracket, and each takes a character. -/
theorem length_le_length_takeWhile {as : List (List Char × WrittenAttribute)}
    (h : AttributesWellFormed as) (rest : List Char) :
    as.length ≤ ((attributesSource as ++ rest).takeWhile (· != '<')).length := by
  have hne : ∀ c ∈ attributesSource as, (c != '<') = true := by
    simpa using ne_bracket_of_mem_attributesSource h
  have := length_le_length_attributesSource h
  rw [List.takeWhile_append_of_pos hne, List.length_append]
  omega

/-- A name with all that follows is found if and only if it stands there and is well-formed. -/
theorem nameAtHead?_eq_some_iff {closing : Bool} {cs : List Char} {t : Tag} :
    nameAtHead? closing cs = some t ↔ t.closing = closing ∧ t.WellFormed ∧ t.nameSource <+: cs := by
  constructor
  · intro h
    unfold nameAtHead? at h
    split at h
    · rename_i c cs
      split at h
      · rename_i hc
        dsimp only at h
        obtain ⟨as, rest, hread, has, hsource⟩ := attributesFrom_eq []
          (((c :: cs).dropWhile isTagChar).takeWhile (· != '<')).length
          ((c :: cs).dropWhile isTagChar)
        rw [hread] at h
        obtain ⟨⟨blanks, selfClosing⟩, hend, rfl⟩ := Option.map_eq_some_iff.1 h
        obtain ⟨hblanks, rest', rfl⟩ := endAtHead?_eq_some_iff.1 hend
        refine ⟨rfl, ⟨?_, of_mem_takeWhile, by simpa using has, hblanks⟩, rest', ?_⟩
        · refine ⟨c, cs.takeWhile isTagChar, ?_, hc⟩
          simp [isTagChar_of_isTagStart hc]
        · conv => rhs; rw [eq_takeWhile_append hsource]
          simp [nameSource]
      · simp at h
    · simp at h
  · rintro ⟨rfl, ht, rest, rfl⟩
    obtain ⟨c, name, hname, hc⟩ := ht.start
    obtain ⟨m, ms, hmark, -, hm, -⟩ := exists_endMark t.selfClosing
    have hends := endsAttributes_end ht.blanks t.selfClosing rest
    -- the name ends in front of the attributes, the blanks or the end
    have hstop : Stops isTagChar (attributesSource t.attributes ++
        (t.blanks ++ (endMark t.selfClosing ++ rest))) := by
      apply stops_attributesSource_append ht.attributes
      rw [hmark]
      exact stops_append ht.blanks (fun _ => isTagChar_of_isBlank) (stops_cons.2 hm)
    have hs : t.nameSource ++ rest = t.name ++ (attributesSource t.attributes ++
        (t.blanks ++ (endMark t.selfClosing ++ rest))) := by
      simp [nameSource]
    have hhead : t.nameSource ++ rest = c :: (name ++ (attributesSource t.attributes ++
        (t.blanks ++ (endMark t.selfClosing ++ rest)))) := by
      simp [hs, hname]
    have hfuel := length_le_length_takeWhile ht.attributes
      (t.blanks ++ (endMark t.selfClosing ++ rest))
    have hread := attributesFrom_append [] ht.attributes hfuel hends
    have hend : endAtHead? (t.blanks ++ (endMark t.selfClosing ++ rest)) =
        some (t.blanks, t.selfClosing) :=
      endAtHead?_eq_some_iff.2 ⟨ht.blanks, rest, by simp⟩
    unfold nameAtHead?
    rw [hhead]
    simp only [hc, if_true]
    rw [← hhead, hs, takeWhile_append_of_stops ht.name hstop,
      dropWhile_append_of_stops ht.name hstop, hread]
    simp [hend]

/-- A tag is read at the front of a text if and only if it is well formed and its characters stand
there. -/
theorem atHead?_eq_some_iff {cs : List Char} {t : Tag} :
    atHead? cs = some t ↔ t.WellFormed ∧ t.source <+: cs := by
  constructor
  · intro h
    unfold atHead? at h
    split at h
    · obtain ⟨hclosing, ht, rest, rfl⟩ := nameAtHead?_eq_some_iff.1 h
      refine ⟨ht, rest, ?_⟩
      simp [source_eq, hclosing, tagNamespace]
    · obtain ⟨hclosing, ht, rest, rfl⟩ := nameAtHead?_eq_some_iff.1 h
      refine ⟨ht, rest, ?_⟩
      simp [source_eq, hclosing, tagNamespace]
    · simp at h
  · rintro ⟨ht, rest, rfl⟩
    have hread : nameAtHead? t.closing (t.nameSource ++ rest) = some t :=
      nameAtHead?_eq_some_iff.2 ⟨rfl, ht, rest, rfl⟩
    rw [source_eq]
    cases hclosing : t.closing with
    | true =>
      rw [hclosing] at hread
      simpa [tagNamespace, atHead?] using hread
    | false =>
      rw [hclosing] at hread
      simpa [tagNamespace, atHead?] using hread

/-- A tag that stands at the front of a text is the one that is read there. -/
theorem atHead?_append {t : Tag} (ht : t.WellFormed) (rest : List Char) :
    atHead? (t.source ++ rest) = some t :=
  atHead?_eq_some_iff.2 ⟨ht, rest, rfl⟩

/-- No tag begins with anything but a bracket. -/
theorem atHead?_eq_none_of_ne {c : Char} (h : c ≠ '<') (cs : List Char) :
    atHead? (c :: cs) = none := by
  rw [Option.eq_none_iff_forall_ne_some]
  intro t ht
  obtain ⟨-, rest, hrest⟩ := atHead?_eq_some_iff.1 ht
  rw [source_eq, List.cons_append] at hrest
  exact h (List.cons.inj hrest).1.symm

theorem length_pos (t : Tag) : 0 < t.length := by
  rw [length, source_eq, List.length_cons]
  omega

end Tag

/-! ## Searching attributes -/

theorem findAttributesFrom_nil (done : List (String × String)) (skip : Nat) :
    findAttributesFrom done skip [] = done.reverse := by
  cases skip <;> rfl

theorem findAttributesFrom_succ (done : List (String × String)) (skip : Nat) (c : Char)
    (cs : List Char) :
    findAttributesFrom done (skip + 1) (c :: cs) = findAttributesFrom done skip cs :=
  rfl

theorem findAttributesFrom_zero (done : List (String × String)) (c : Char) (cs : List Char) :
    findAttributesFrom done 0 (c :: cs) =
      findAttributesFrom (takeAttribute done (c :: cs)).1 (takeAttribute done (c :: cs)).2 cs :=
  (rfl)

/-- Where no attribute begins, the search goes on behind the character. -/
theorem findAttributesFrom_of_none (done : List (String × String)) {c : Char} {cs : List Char}
    (h : WrittenAttribute.atHead? (c :: cs) = none) :
    findAttributesFrom done 0 (c :: cs) = findAttributesFrom done 0 cs := by
  rw [findAttributesFrom_zero, takeAttribute, h]

/-- An attribute is taken, and the search goes on behind it. -/
theorem findAttributesFrom_of_some (done : List (String × String)) {c : Char}
    {cs rest : List Char} {a : WrittenAttribute}
    (h : WrittenAttribute.atHead? (c :: cs) = some (a, rest)) :
    findAttributesFrom done 0 (c :: cs) =
      findAttributesFrom (a.pair :: done) (a.source.length - 1) cs := by
  rw [findAttributesFrom_zero, takeAttribute, h]

/-- Passing over characters that belong to the attribute found last. -/
theorem findAttributesFrom_append (done : List (String × String)) (skipped cs : List Char) :
    findAttributesFrom done skipped.length (skipped ++ cs) = findAttributesFrom done 0 cs := by
  induction skipped with
  | nil => rfl
  | cons c skipped ih => rw [List.length_cons, List.cons_append, findAttributesFrom_succ, ih]

/-- Blanks in front are passed over. -/
theorem findAttributesFrom_blanks (done : List (String × String)) {blanks : List Char}
    (h : ∀ c ∈ blanks, isBlank c) (cs : List Char) :
    findAttributesFrom done 0 (blanks ++ cs) = findAttributesFrom done 0 cs := by
  induction blanks with
  | nil => rfl
  | cons c blanks ih =>
    have hc : isAttributeChar c = false := isAttributeChar_of_isBlank (h c List.mem_cons_self)
    rw [List.cons_append,
      findAttributesFrom_of_none done (WrittenAttribute.atHead?_eq_none (stops_cons.2 hc))]
    exact ih fun b hb => h b (List.mem_cons_of_mem _ hb)

/-- Searching finds the attribute that stands in front. -/
theorem findAttributesFrom_attribute (done : List (String × String)) {a : WrittenAttribute}
    (ha : a.WellFormed) {rest : List Char} (hr : EndsAttribute rest) :
    findAttributesFrom done 0 (a.source ++ rest) = findAttributesFrom (a.pair :: done) 0 rest := by
  have hread := WrittenAttribute.atHead?_append ha hr
  obtain ⟨c, cs, hn⟩ := List.exists_cons_of_ne_nil ha.name_ne_nil
  obtain ⟨tail, hs⟩ : ∃ tail, a.source = c :: tail := by
    simp [WrittenAttribute.source, hn]
  rw [hs, List.cons_append] at hread
  rw [hs, List.cons_append, findAttributesFrom_of_some done hread, hs, List.length_cons,
    Nat.add_sub_cancel, findAttributesFrom_append]

/-- The search finds the attributes of a well-formed tag, and no others. -/
theorem findAttributesFrom_attributesSource (done : List (String × String))
    {as : List (List Char × WrittenAttribute)} (h : AttributesWellFormed as) :
    findAttributesFrom done 0 (attributesSource as) = done.reverse ++ as.map (·.2.pair) := by
  induction as generalizing done with
  | nil => simpa [attributesSource] using findAttributesFrom_nil done 0
  | cons a as ih =>
    obtain ⟨blanks, a⟩ := a
    obtain ⟨-, hblanks, ha, has⟩ := h.of_cons
    have hr : EndsAttribute (attributesSource as) := by
      simpa using endsAttribute_attributesSource has endsAttribute_nil
    rw [attributesSource_cons, findAttributesFrom_blanks _ hblanks,
      findAttributesFrom_attribute _ ha hr, ih _ has]
    simp

/-- The names and values of a tag's attributes, in order. -/
def Tag.pairs (t : Tag) : Attributes :=
  t.attributes.map (·.2.pair)

/-- Searching the characters of a tag's attributes finds exactly these attributes, in order. -/
theorem findAttributes_attributeSource {t : Tag} (ht : t.WellFormed) :
    findAttributes t.attributeSource = t.pairs :=
  findAttributesFrom_attributesSource [] ht.attributes

end SealedPage.Flo
