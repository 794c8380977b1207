import SealedPage.Proofs.Flo.Quoting
import SealedPage.Proofs.Flo.Tree

/-!
# Attributes read and written

The attributes of a tag are searched for in its characters, with no regard to the grammar that found
the tag. Still the two agree: a text is made of attributes in one way only, and the search finds
these. So no value of a tag holds a quote or an opening bracket, and an opening tag that is written
has the shape of its rule, whatever is written in the values: without what stands between its quotes
it is the tag with empty values, `keepsAttributes_compile`.
-/

namespace SealedPage.Flo

open Text

/-! ## One derivation -/

/-- A text is made of attributes in one way only. -/
theorem eq_of_attributesSource_eq {as as' : List (List Char × WrittenAttribute)}
    (h : AttributesWellFormed as) (h' : AttributesWellFormed as')
    (heq : attributesSource as = attributesSource as') : as = as' := by
  have hends : EndsAttributes [] := ⟨endsAttribute_nil, stops_nil _⟩
  have hread := attributesFrom_append [] h (Nat.le_max_left as.length as'.length) hends
  have hread' := attributesFrom_append [] h' (Nat.le_max_right as.length as'.length) hends
  rw [heq, hread'] at hread
  exact (Prod.mk.inj hread).1.symm

/-- Of several attributes with one name the first one counts. -/
theorem Attributes.get?_eq_some_iff {attributes : Attributes} {name value : String} :
    attributes.get? name = some value ↔ ∃ front back,
      attributes = front ++ (name, value) :: back ∧ ∀ a ∈ front, a.1 ≠ name := by
  rw [get?, List.lookup_eq_some_iff]
  refine exists_congr fun front => exists_congr fun back => and_congr_right fun _ => ?_
  exact forall₂_congr fun a _ => by rw [bne_iff_ne, ne_comm]

/-- How the attributes of a tag are read. -/
structure Tag.ReadsAttributes (t : Tag) : Prop where
  /-- The grammar derives the characters of the attributes from them. -/
  derives : AttributesWellFormed t.attributes ∧ attributesSource t.attributes = t.attributeSource
  /-- It derives them in no other way. -/
  unique : ∀ as, AttributesWellFormed as → attributesSource as = t.attributeSource →
    as = t.attributes
  /-- Searching finds the names and values of the derivation, in order. -/
  found : findAttributes t.attributeSource = t.attributes.map fun a => a.2.pair
  /-- A name has the value of the first attribute with it. -/
  first : ∀ name value, (findAttributes t.attributeSource).get? name = some value ↔
    ∃ front a back, t.attributes = front ++ a :: back ∧ a.2.pair = (name, value) ∧
      ∀ a' ∈ front, String.ofList a'.2.name ≠ name

/-- A second reading of a tag finds the attributes that the grammar gives it. -/
theorem Tag.readsAttributes_of_wellFormed {t : Tag} (ht : t.WellFormed) : t.ReadsAttributes where
  derives := ⟨ht.attributes, rfl⟩
  unique _ has heq := eq_of_attributesSource_eq has ht.attributes heq
  found := findAttributes_attributeSource ht
  first name value := by
    rw [findAttributes_attributeSource ht, Attributes.get?_eq_some_iff, pairs]
    constructor
    · rintro ⟨front, back, heq, hfront⟩
      obtain ⟨front', rest, hattributes, rfl, hrest⟩ := List.map_eq_append_iff.1 heq
      obtain ⟨a, back', rfl, hpair, rfl⟩ := List.map_eq_cons_iff.1 hrest
      exact ⟨front', a, back', hattributes, hpair,
        fun a' ha' => hfront _ (List.mem_map_of_mem ha')⟩
    · rintro ⟨front, a, back, heq, hpair, hfront⟩
      refine ⟨front.map (·.2.pair), back.map (·.2.pair), ?_, ?_⟩
      · rw [heq, List.map_append, List.map_cons, hpair]
      · intro p hp
        obtain ⟨a', ha', rfl⟩ := List.mem_map.1 hp
        exact hfront a' ha'

/-- What looks like an attribute in a value is a part of the value. -/
example : findAttributes " a = \"b c=d/> e=f\" a=\"g\"  h".toList =
    [("a", "b c=d/> e=f"), ("a", "g"), ("h", "")] := by
  decide +kernel

/-! ## Tags that are written -/

/-- Attributes as they are written, each with a blank in front and its value in quotes. -/
def shownSource (as : List (String × String)) : List Char :=
  as.flatMap fun a => ' ' :: (a.1.toList ++ '=' :: '"' :: (a.2.toList ++ ['"']))

/-- An opening tag with attributes. -/
def openingSource (element : String) (as : List (String × String)) : List Char :=
  '<' :: (element.toList ++ (shownSource as ++ ['>']))

/-- The characters of a text that do not stand between quotes, the quotes included; `inside` says on
which side of a quote the text begins. -/
def unquoted (inside : Bool) : List Char → List Char
  | [] => []
  | c :: cs =>
    if c = '"' then c :: unquoted (!inside) cs
    else if inside then unquoted inside cs else c :: unquoted inside cs

/-- A quote ends what stands in quotes, or begins it. -/
theorem unquoted_quote (inside : Bool) (rest : List Char) :
    unquoted inside ('"' :: rest) = '"' :: unquoted (!inside) rest := by
  rw [unquoted, if_pos rfl]

/-- Characters without quotes are kept outside of quotes and dropped inside of them. -/
theorem unquoted_append_of_not_mem {cs : List Char} (h : '"' ∉ cs) (inside : Bool)
    (rest : List Char) :
    unquoted inside (cs ++ rest) = (if inside then [] else cs) ++ unquoted inside rest := by
  induction cs with
  | nil => cases inside <;> rfl
  | cons c cs ih =>
    simp only [List.mem_cons, not_or] at h
    rw [List.cons_append, unquoted, if_neg (Ne.symm h.1), ih h.2]
    cases inside <;> rfl

/-- A text without quotes in names and values: the values stand between quotes, and nothing else
does. -/
theorem unquoted_shownSource_append {as : List (String × String)}
    (h : ∀ a ∈ as, '"' ∉ a.1.toList ∧ '"' ∉ a.2.toList) (rest : List Char) :
    unquoted false (shownSource as ++ rest) =
      shownSource (as.map fun a => (a.1, "")) ++ unquoted false rest := by
  induction as with
  | nil => rfl
  | cons a as ih =>
    obtain ⟨⟨hname, hvalue⟩, has⟩ := List.forall_mem_cons.1 h
    have hblank : '"' ∉ ' ' :: a.1.toList := by simp [hname]
    have heq : '"' ∉ ['='] := by decide
    have hsource : shownSource (a :: as) ++ rest = (' ' :: a.1.toList) ++
        (['='] ++ '"' :: (a.2.toList ++ '"' :: (shownSource as ++ rest))) := by
      simp [shownSource]
    rw [hsource, unquoted_append_of_not_mem hblank, unquoted_append_of_not_mem heq, unquoted_quote,
      Bool.not_false, unquoted_append_of_not_mem hvalue, unquoted_quote, Bool.not_true, ih has]
    simp [shownSource]

/-- What is in no name and in no value is not in the source of the attributes, but for the
characters that divide them. -/
theorem not_mem_shownSource {as : List (String × String)} {c : Char}
    (h : ∀ a ∈ as, c ∉ a.1.toList ∧ c ∉ a.2.toList) (hc : c ∉ [' ', '=', '"']) :
    c ∉ shownSource as := by
  intro hmem
  obtain ⟨a, ha, hmem⟩ := List.mem_flatMap.1 hmem
  obtain ⟨hname, hvalue⟩ := h a ha
  simp only [List.mem_cons, List.mem_append, List.not_mem_nil, or_false, not_or] at hmem hc
  rcases hmem with rfl | hmem | rfl | rfl | hmem | rfl
  · exact hc.1 rfl
  · exact hname hmem
  · exact hc.2.1 rfl
  · exact hc.2.2 rfl
  · exact hvalue hmem
  · exact hc.2.2 rfl

/-- Two quotes for each attribute. -/
theorem count_quote_shownSource {as : List (String × String)}
    (h : ∀ a ∈ as, '"' ∉ a.1.toList ∧ '"' ∉ a.2.toList) :
    (shownSource as).count '"' = 2 * as.length := by
  induction as with
  | nil => rfl
  | cons a as ih =>
    obtain ⟨⟨hname, hvalue⟩, has⟩ := List.forall_mem_cons.1 h
    have hsource : shownSource (a :: as) =
        ' ' :: (a.1.toList ++ '=' :: '"' :: (a.2.toList ++ '"' :: shownSource as)) := by
      simp [shownSource]
    rw [hsource, List.count_cons_of_ne (by decide), List.count_append,
      List.count_eq_zero.2 hname, List.count_cons_of_ne (by decide), List.count_cons_self,
      List.count_append, List.count_eq_zero.2 hvalue, List.count_cons_self, ih has,
      List.length_cons]
    omega

/-- A character occurs in an opening tag where it occurs in the element and in the attributes, and
as one of the brackets. -/
theorem count_openingSource (c : Char) (element : String) (as : List (String × String)) :
    (openingSource element as).count c =
      element.toList.count c + ((shownSource as).count c + if '>' = c then 1 else 0) +
        if '<' = c then 1 else 0 := by
  rw [openingSource, List.count_cons, List.count_append, List.count_append, List.count_singleton]
  simp

/-- Outside of the quotes of an opening tag stands what stands in one with empty values. -/
theorem unquoted_openingSource {element : String} (helement : '"' ∉ element.toList)
    {as : List (String × String)} (h : ∀ a ∈ as, '"' ∉ a.1.toList ∧ '"' ∉ a.2.toList) :
    unquoted false (openingSource element as) =
      openingSource element (as.map fun a => (a.1, "")) := by
  have hfront : '"' ∉ '<' :: element.toList := by simp [helement]
  have hend : unquoted false ['>'] = ['>'] := by decide
  rw [openingSource, ← List.cons_append, unquoted_append_of_not_mem hfront,
    unquoted_shownSource_append h, hend]
  rfl

/-- Nothing of the characters ends a tag or an attribute: there is no quote and no bracket. -/
def IsInert (cs : List Char) : Prop :=
  '"' ∉ cs ∧ '<' ∉ cs ∧ '>' ∉ cs

instance (cs : List Char) : Decidable (IsInert cs) :=
  inferInstanceAs (Decidable (_ ∧ _))

/-- What is demanded of rules: their elements and classes are inert. -/
def RuleTable.IsPlain (rules : RuleTable) : Prop :=
  ∀ r ∈ rules.rules, IsInert r.element.toList ∧ IsInert r.cssClass.toList

instance (rules : RuleTable) : Decidable rules.IsPlain :=
  inferInstanceAs (Decidable (∀ r ∈ rules.rules, _))

section
variable {r : Rule} {attributes : Attributes}

/-- A rule writes an opening tag with the attributes that it shows. -/
theorem Rule.toList_of_openTag? {tag : String} (h : r.openTag? attributes = some tag) :
    tag.toList = openingSource r.element (r.shown attributes) := by
  unfold openTag? at h
  unfold shown
  split at h
  · rename_i haccepts
    obtain ⟨htitle, hhref⟩ : r.takesTitle = false ∧ r.takesHref = false := by
      simpa [acceptsAttributes] using haccepts
    split at h
    · obtain rfl := Option.some.inj h
      simp [opening, openingSource, shownSource, htitle, hhref]
    · cases h
  split at h
  · rename_i hhref
    obtain ⟨href, hget, rfl⟩ := Option.map_eq_some_iff.1 h
    simp [opening, openingSource, shownSource, hhref, hget]
  · rename_i haccepts hhref
    have htitle : r.takesTitle := by simpa [acceptsAttributes, hhref] using haccepts
    split at h
    · rename_i title hget
      obtain rfl := Option.some.inj h
      simp [opening, openingSource, shownSource, hhref, htitle, hget]
    · rename_i hget
      obtain rfl := Option.some.inj h
      simp [opening, openingSource, shownSource, hhref, htitle, hget]

/-- A rule shows its class, and an address or a title that the tag has. -/
theorem Rule.of_mem_shown {a : String × String} (h : a ∈ r.shown attributes) :
    a = ("class", r.cssClass) ∨
      (a.1 = "href" ∧ attributes.getNonempty? "href" = some a.2) ∨
      (a.1 = "data-title" ∧ attributes.getNonempty? "title" = some a.2) := by
  unfold shown at h
  split_ifs at h
  · rcases List.mem_append.1 h with hhref | hclass
    · obtain ⟨href, hget, rfl⟩ := List.mem_map.1 hhref
      exact .inr (.inl ⟨rfl, Option.mem_toList.1 hget⟩)
    · exact .inl (List.mem_singleton.1 hclass)
  · rcases List.mem_cons.1 h with hclass | htitle
    · exact .inl hclass
    · obtain ⟨title, hget, rfl⟩ := List.mem_map.1 htitle
      exact .inr (.inr ⟨rfl, Option.mem_toList.1 hget⟩)
  · exact .inl (List.mem_singleton.1 h)

theorem Rule.isInert_name_of_mem_shown {a : String × String} (h : a ∈ r.shown attributes) :
    IsInert a.1.toList := by
  have hname : a.1 = "class" ∨ a.1 = "href" ∨ a.1 = "data-title" :=
    (of_mem_shown h).imp (congrArg Prod.fst) (Or.imp And.left And.left)
  rcases hname with hname | hname | hname <;> rw [hname] <;> decide

/-- No value that a rule shows holds a quote or opens a tag. -/
theorem Rule.value_of_mem_shown (hclass : IsInert r.cssClass.toList)
    (hattributes : ∀ a ∈ attributes, ∀ c ∈ a.2.toList, isValueChar c) {a : String × String}
    (h : a ∈ r.shown attributes) : '"' ∉ a.2.toList ∧ '<' ∉ a.2.toList := by
  have hvalue : ∀ {name}, attributes.getNonempty? name = some a.2 →
      '"' ∉ a.2.toList ∧ '<' ∉ a.2.toList := by
    intro name hget
    have hchars := hattributes _ (mem_of_getNonempty? hget)
    exact ⟨fun hc => absurd (hchars _ hc) (by decide), fun hc => absurd (hchars _ hc) (by decide)⟩
  obtain rfl | ⟨-, hget⟩ | ⟨-, hget⟩ := of_mem_shown h
  · exact ⟨hclass.1, hclass.2.1⟩
  · exact hvalue hget
  · exact hvalue hget

end

/-- What is known of an opening tag that a rule writes for the given attributes. -/
structure Rule.WritesOpening (r : Rule) (attributes : Attributes) (tag : String) : Prop where
  /-- The tag has the attributes that the rule shows, each with its value in quotes. -/
  source : tag.toList = openingSource r.element (r.shown attributes)
  /-- These are the class, and the first address or title of the tag, if it is not empty. -/
  shown : ∀ a ∈ r.shown attributes, a = ("class", r.cssClass) ∨
    (a.1 = "href" ∧ attributes.getNonempty? "href" = some a.2) ∨
    (a.1 = "data-title" ∧ attributes.getNonempty? "title" = some a.2)
  /-- No value holds a quote or an opening bracket. -/
  values : ∀ a ∈ r.shown attributes, '"' ∉ a.2.toList ∧ '<' ∉ a.2.toList
  /-- The first character is the only opening bracket. -/
  bracket : tag.toList.count '<' = 1
  /-- There are two quotes for each attribute, and no others. -/
  quotes : tag.toList.count '"' = 2 * (r.shown attributes).length
  /-- Without what stands between its quotes the tag is the one with empty values: the values stand
  between the quotes, and nothing of them outside. -/
  outside : unquoted false tag.toList =
    openingSource r.element ((r.shown attributes).map fun a => (a.1, ""))
  /-- Outside of the quotes the last character is the only closing bracket. -/
  closed : (unquoted false tag.toList).count '>' = 1

/-- An opening tag that a rule writes reads back as the attributes that it shows, and no value
breaks out of its quotes. -/
theorem Rule.writesOpening_of_openTag? {r : Rule} {attributes : Attributes} {tag : String}
    (helement : IsInert r.element.toList) (hclass : IsInert r.cssClass.toList)
    (hattributes : ∀ a ∈ attributes, ∀ c ∈ a.2.toList, isValueChar c)
    (h : r.openTag? attributes = some tag) : r.WritesOpening attributes tag := by
  obtain ⟨hquote, hopening, hclosing⟩ := helement
  have hsource := toList_of_openTag? h
  have hvalues : ∀ a ∈ r.shown attributes, '"' ∉ a.2.toList ∧ '<' ∉ a.2.toList :=
    fun _ => value_of_mem_shown hclass hattributes
  have hquotes : ∀ a ∈ r.shown attributes, '"' ∉ a.1.toList ∧ '"' ∉ a.2.toList :=
    fun a ha => ⟨(isInert_name_of_mem_shown ha).1, (hvalues a ha).1⟩
  have houtside := unquoted_openingSource hquote hquotes
  rw [← hsource] at houtside
  refine ⟨hsource, fun _ => of_mem_shown, hvalues, ?_, ?_, houtside, ?_⟩
  · have hbrackets : '<' ∉ shownSource (r.shown attributes) :=
      not_mem_shownSource (fun a ha => ⟨(isInert_name_of_mem_shown ha).2.1, (hvalues a ha).2⟩)
        (by decide)
    rw [hsource, count_openingSource, List.count_eq_zero.2 hopening,
      List.count_eq_zero.2 hbrackets]
    rfl
  · rw [hsource, count_openingSource, List.count_eq_zero.2 hquote,
      count_quote_shownSource hquotes, Nat.zero_add]
    rfl
  · have hbrackets : '>' ∉ shownSource ((r.shown attributes).map fun a => (a.1, "")) := by
      refine not_mem_shownSource (fun a ha => ?_) (by decide)
      obtain ⟨a', ha', rfl⟩ := List.mem_map.1 ha
      exact ⟨(isInert_name_of_mem_shown ha').2.2, List.not_mem_nil⟩
    rw [houtside, count_openingSource, List.count_eq_zero.2 hclosing,
      List.count_eq_zero.2 hbrackets]
    rfl

/-! ## Compiled texts -/

/-- What becomes of attributes, from the tags that are read to the tags that are written. -/
structure KeepsAttributes (source : String) (b : Bindings) (rules : RuleTable) : Prop where
  /-- Wherever the grammar finds a tag, its attributes are read as the grammar reads them. -/
  read : ∀ cs t, Tag.atHead? cs = some t → t.ReadsAttributes
  /-- The HTML is the text with the edits made. -/
  html : (compile source b rules).html.toList = splice (interpolateSpans source.toList b).1 0
    (edits rules (interpolateSpans source.toList b).1 (interpolateSpans source.toList b).2)
  /-- Each edit rewrites a tag of the text, and writes its closing tag or an opening tag that has
  the shape of its rule. -/
  written : ∀ e ∈ edits rules (interpolateSpans source.toList b).1
      (interpolateSpans source.toList b).2,
    ∃ (o : Occurrence) (r : Rule), o.In (interpolateSpans source.toList b).1 ∧
      e.start = o.start ∧ e.stop = o.stop ∧
      rules.get? (String.ofList o.tag.name) = some r ∧
        if o.tag.closing then e.replacement = r.closeTag
        else r.WritesOpening (findAttributes o.tag.attributeSource) e.replacement

/-- Every tag that a source has keeps its attributes, as the grammar reads them, and no value
changes the tag around it. -/
theorem keepsAttributes_compile (source : String) (b : Bindings) {rules : RuleTable}
    (hrules : rules.IsPlain) : KeepsAttributes source b rules where
  read _ _ h := Tag.readsAttributes_of_wellFormed (Tag.atHead?_eq_some_iff.1 h).1
  html := toList_html_rewriteTags (separated_interpolateSpans source.toList b)
  written e he := by
    obtain ⟨o, ho, hrewrites⟩ := of_mem_edits (separated_interpolateSpans source.toList b) he
    obtain ⟨hwellFormed, -⟩ := ho.occurs
    obtain ⟨r, hr, hwritten⟩ := Option.bind_eq_some_iff.1 hrewrites.written
    refine ⟨o, r, ho.occurs, hrewrites.start, hrewrites.stop, hr, ?_⟩
    split at hwritten
    · rename_i hclosing
      rw [if_pos hclosing]
      exact (Option.some.inj hwritten).symm
    · rename_i hclosing
      rw [if_neg hclosing, findAttributes_attributeSource hwellFormed]
      obtain ⟨helement, hclass⟩ := hrules r (List.mem_of_find?_eq_some hr)
      exact Rule.writesOpening_of_openTag? helement hclass (isValueChar_of_mem_pairs hwellFormed)
        hwritten

/-- The standard rules are plain, so a title that ends its quotes still cannot end the tag. -/
theorem forgedLink_keepsAttributes : RuleTable.standard.IsPlain ∧
    KeepsAttributes titledLink forgingTitle RuleTable.standard := by
  have hrules : RuleTable.standard.IsPlain := by decide +kernel
  exact ⟨hrules, keepsAttributes_compile titledLink forgingTitle hrules⟩

end SealedPage.Flo
