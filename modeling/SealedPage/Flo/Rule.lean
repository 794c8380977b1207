/-!
# Rules of the tags

A `Rule` says which HTML element a FLO tag becomes, with which class, and which attributes the tag
takes: `openTag?` and `closeTag` write the element. A `RuleTable` holds one rule for each tag name;
`RuleTable.standard` is the table of the format.
-/

namespace SealedPage.Flo

/-- The attributes of a tag in the order they are written; a name may occur several times. -/
abbrev Attributes := List (String × String)

/-- The value of an attribute: that of its first occurrence. -/
def Attributes.get? (attributes : Attributes) (name : String) : Option String :=
  attributes.lookup name

/-- The value of an attribute unless it is absent or empty. -/
def Attributes.getNonempty? (attributes : Attributes) (name : String) : Option String :=
  (attributes.get? name).filter fun v => !v.isEmpty

/-- What one tag name becomes. -/
structure Rule where
  /-- The tag name without namespace. -/
  tag : String
  /-- The element written for the pair of tags. -/
  element : String
  /-- The class of the element. -/
  cssClass : String
  /-- Whether a `title` is taken, which is written as `data-title`. -/
  takesTitle : Bool := false
  /-- Whether an `href` is demanded, which is written as it is. -/
  takesHref : Bool := false
  /-- Whether the two tags have to stand on one line. -/
  inline : Bool := false
  deriving DecidableEq, Repr

namespace Rule

/-- Whether the rule takes attributes at all. -/
def acceptsAttributes (r : Rule) : Bool :=
  r.takesTitle || r.takesHref

/-- The opening tag with an attribute before and one behind the class. -/
def opening (r : Rule) (before behind : String) : String :=
  "<" ++ r.element ++ before ++ " class=\"" ++ r.cssClass ++ "\"" ++ behind ++ ">"

/-- The opening tag for the given attributes, unless the rule refuses them. A rule that demands an
`href` ignores titles; attributes that an accepting rule does not know are dropped. -/
def openTag? (r : Rule) (attributes : Attributes) : Option String :=
  if !r.acceptsAttributes then
    if attributes.isEmpty then some (r.opening "" "") else none
  else if r.takesHref then
    (attributes.getNonempty? "href").map fun href => r.opening (" href=\"" ++ href ++ "\"") ""
  else
    match attributes.getNonempty? "title" with
    | some title => some (r.opening "" (" data-title=\"" ++ title ++ "\""))
    | none => some (r.opening "" "")

/-- The closing tag. -/
def closeTag (r : Rule) : String :=
  "</" ++ r.element ++ ">"

end Rule

/-- Rules in order, at most one for a tag name. -/
structure RuleTable where
  rules : List Rule
  nodup : (rules.map Rule.tag).Nodup := by decide

namespace RuleTable

/-- The tag names, in order. -/
def tags (t : RuleTable) : List String :=
  t.rules.map Rule.tag

/-- The rule of a tag name. -/
def get? (t : RuleTable) (tag : String) : Option Rule :=
  t.rules.find? fun r => r.tag == tag

/-- Whether there is a rule for a tag name. -/
def contains (t : RuleTable) (tag : String) : Bool :=
  (t.get? tag).isSome

end RuleTable

/-- Two rules of one table claim the same tag name. -/
structure DuplicateTag where
  tag : String
  deriving DecidableEq, Repr

/-- The wording of the refusal. -/
def DuplicateTag.message (e : DuplicateTag) : String :=
  "Duplicate structural rule for tag '" ++ e.tag ++ "'"

/-- The first tag name that occurs a second time, after the names in `seen`. -/
def firstRepeated (seen : List String) : List String → Option String
  | [] => none
  | t :: ts => if seen.contains t then some t else firstRepeated (t :: seen) ts

/-- Where no tag is found to be repeated, all tags differ from each other and from those seen
before. -/
theorem nodup_of_firstRepeated_eq_none {seen ts : List String}
    (h : firstRepeated seen ts = none) : ts.Nodup ∧ ∀ t ∈ ts, t ∉ seen := by
  induction ts generalizing seen with
  | nil => simp
  | cons t ts ih =>
    by_cases ht : t ∈ seen
    · simp [firstRepeated, ht] at h
    · have ⟨hd, hs⟩ := @ih (t :: seen) (by simpa [firstRepeated, ht] using h)
      refine ⟨List.nodup_cons.2 ⟨fun hm => by simpa using hs t hm, hd⟩, ?_⟩
      intro u hu
      rcases List.mem_cons.1 hu with rfl | hu
      · exact ht
      · exact fun hm => hs u hu (List.mem_cons_of_mem _ hm)

/-- The table of the given rules, unless two of them share a tag name. -/
def RuleTable.ofList (rules : List Rule) : Except DuplicateTag RuleTable :=
  match h : firstRepeated [] (rules.map Rule.tag) with
  | some tag => .error ⟨tag⟩
  | none => .ok ⟨rules, (nodup_of_firstRepeated_eq_none h).1⟩

/-- The rules that every signed document is rendered by. -/
def RuleTable.standard : RuleTable where
  rules :=
    [{ tag := "page", element := "div", cssClass := "flo-page", takesTitle := true },
     { tag := "header", element := "header", cssClass := "flo-header" },
     { tag := "nav", element := "nav", cssClass := "flo-nav" },
     { tag := "logo", element := "div", cssClass := "flo-logo" },
     { tag := "main", element := "main", cssClass := "flo-main" },
     { tag := "card", element := "section", cssClass := "flo-card", takesTitle := true },
     { tag := "footer", element := "footer", cssClass := "flo-footer" },
     { tag := "link", element := "a", cssClass := "flo-link", takesHref := true,
       inline := true }]

end SealedPage.Flo
