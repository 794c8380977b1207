import SealedPage.Html.Node

/-!
# Replacing the children of the body

A page has a body or it has none, and only a page with a body takes other children,
`replaceBody?_cases`. The body keeps its attributes, and what is around it stays as it is: with the
old children put back the page is the old one. Pages that agree around their bodies become one page
when their bodies take the same children, `Document.AgreesAround.replaceBody?_eq`.
-/

namespace SealedPage.Html

/-- Whether an element is a body. -/
def isBody (name : String) (_ : List (String × String)) : Bool :=
  name == "body"

mutual

/-- Either a node holds no body and nothing is replaced, or the first body gets the new content, and
putting the old content back restores the node. -/
theorem Node.replaceBody?_cases (n : Node) (content : List Node) :
    (n.find? isBody = none ∧ n.replaceBody? content = none) ∨
      ∃ attributes old n', n.find? isBody = some (.element "body" attributes old) ∧
        n.replaceBody? content = some n' ∧
        n'.find? isBody = some (.element "body" attributes content) ∧
        n'.replaceBody? old = some n := by
  cases n with
  | text kind s => exact Or.inl ⟨rfl, rfl⟩
  | element name attributes children =>
    by_cases hname : name = "body"
    · subst hname
      refine Or.inr ⟨attributes, children, .element "body" attributes content, ?_, ?_, ?_, ?_⟩ <;>
        simp [Node.find?, Node.replaceBody?, isBody]
    · rcases replaceBodyIn?_cases children content with
        ⟨hfind, hreplace⟩ | ⟨attributes', old, children', hfind, hreplace, hfind', hreplace'⟩
      · left
        simp [Node.find?, Node.replaceBody?, isBody, hname, hfind, hreplace]
      · refine Or.inr ⟨attributes', old, .element name attributes children', ?_, ?_, ?_, ?_⟩ <;>
          simp [Node.find?, Node.replaceBody?, isBody, hname, hfind, hreplace, hfind', hreplace']

/-- The same two cases for a list of nodes. -/
theorem replaceBodyIn?_cases (ns : List Node) (content : List Node) :
    (findIn? isBody ns = none ∧ replaceBodyIn? content ns = none) ∨
      ∃ attributes old ns', findIn? isBody ns = some (.element "body" attributes old) ∧
        replaceBodyIn? content ns = some ns' ∧
        findIn? isBody ns' = some (.element "body" attributes content) ∧
        replaceBodyIn? old ns' = some ns := by
  cases ns with
  | nil => exact Or.inl ⟨rfl, rfl⟩
  | cons n ns =>
    rcases n.replaceBody?_cases content with
      ⟨hfind, hreplace⟩ | ⟨attributes, old, n', hfind, hreplace, hfind', hreplace'⟩
    · rcases replaceBodyIn?_cases ns content with
        ⟨hfinds, hreplaces⟩ | ⟨attributes, old, ns', hfinds, hreplaces, hfinds', hreplaces'⟩
      · left
        simp [findIn?, replaceBodyIn?, hfind, hreplace, hfinds, hreplaces]
      -- putting the old children back passes over the first node again
      · have hold : n.replaceBody? old = none := by
          rcases n.replaceBody?_cases old with ⟨-, h⟩ | ⟨_, _, _, h, -⟩
          · exact h
          · rw [hfind] at h
            simp at h
        refine Or.inr ⟨attributes, old, n :: ns', ?_, ?_, ?_, ?_⟩ <;>
          simp [findIn?, replaceBodyIn?, hfind, hreplace, hfinds, hreplaces, hfinds', hreplaces',
            hold]
    · refine Or.inr ⟨attributes, old, n' :: ns, ?_, ?_, ?_, ?_⟩ <;>
        simp [findIn?, replaceBodyIn?, hfind, hreplace, hfind', hreplace']

end

/-- A page that differs from another one in the children of its body alone, which are given. -/
def Document.Refilled (page : Document) (content : List Node) (page' : Document) : Prop :=
  ∃ attributes old, page.body? = some (.element "body" attributes old) ∧
    page'.body? = some (.element "body" attributes content) ∧ page'.replaceBody? old = some page

/-- A page without a body takes no children; one with a body takes any. -/
theorem Document.replaceBody?_cases (page : Document) (content : List Node) :
    (page.body? = none ∧ page.replaceBody? content = none) ∨
      ∃ page', page.replaceBody? content = some page' ∧ page.Refilled content page' := by
  rcases replaceBodyIn?_cases page content with
    h | ⟨attributes, old, page', hbody, hreplace, hbody', hreplace'⟩
  · exact Or.inl h
  · exact Or.inr ⟨page', hreplace, attributes, old, hbody, hbody', hreplace'⟩

/-! ## Pages that agree around their bodies -/

/-- Whether a node has a body does not depend on the children that the body would take. -/
theorem Node.replaceBody?_eq_none {n : Node} {content : List Node}
    (h : n.replaceBody? content = none) (content' : List Node) :
    n.replaceBody? content' = none := by
  rcases n.replaceBody?_cases content with ⟨hbody, -⟩ | ⟨_, _, _, -, hsome, -⟩
  · rcases n.replaceBody?_cases content' with ⟨-, hnone⟩ | ⟨_, _, _, hbody', -⟩
    · exact hnone
    · rw [hbody] at hbody'
      simp at hbody'
  · rw [h] at hsome
    simp at hsome

mutual

/-- The content replaced last is the one that stays. -/
theorem Node.replaceBody?_replaceBody? {n n' : Node} {content : List Node}
    (h : n.replaceBody? content = some n') (content' : List Node) :
    n'.replaceBody? content' = n.replaceBody? content' := by
  cases n with
  | text kind s => simp [Node.replaceBody?] at h
  | element name attributes children =>
    by_cases hname : name = "body"
    · simp only [Node.replaceBody?, if_pos hname, Option.some.injEq] at h
      subst h
      simp [Node.replaceBody?, hname]
    · simp only [Node.replaceBody?, if_neg hname, Option.map_eq_some_iff] at h
      obtain ⟨children', hchildren, rfl⟩ := h
      simp [Node.replaceBody?, hname, replaceBodyIn?_replaceBodyIn? hchildren content']

/-- In a list of nodes, too, the content replaced last is the one that stays. -/
theorem replaceBodyIn?_replaceBodyIn? {ns ns' : List Node} {content : List Node}
    (h : replaceBodyIn? content ns = some ns') (content' : List Node) :
    replaceBodyIn? content' ns' = replaceBodyIn? content' ns := by
  cases ns with
  | nil => simp [replaceBodyIn?] at h
  | cons n ns =>
    rw [replaceBodyIn?] at h
    cases hn : n.replaceBody? content with
    | some n' =>
      rw [hn, Option.some.injEq] at h
      subst h
      rw [replaceBodyIn?, replaceBodyIn?, Node.replaceBody?_replaceBody? hn content']
      cases hn' : n.replaceBody? content' with
      | some changed => rfl
      | none =>
        rw [Node.replaceBody?_eq_none hn' content] at hn
        simp at hn
    | none =>
      rw [hn] at h
      obtain ⟨ns', hns, rfl⟩ := Option.map_eq_some_iff.1 h
      rw [replaceBodyIn?, replaceBodyIn?, replaceBodyIn?_replaceBodyIn? hns content',
        Node.replaceBody?_eq_none hn content']

end

/-- Two pages that differ at most in the children of their first body elements. -/
def Document.AgreesAround (page page' : Document) : Prop :=
  page' = page ∨ ∃ content, page.Refilled content page'

theorem Document.AgreesAround.refl (page : Document) : page.AgreesAround page :=
  Or.inl rfl

/-- Replacing the body's content leaves all around the body as it was. -/
theorem Document.agreesAround_of_replaceBody? {page page' : Document} {content : List Node}
    (h : page.replaceBody? content = some page') : page.AgreesAround page' := by
  rcases page.replaceBody?_cases content with ⟨-, hnone⟩ | ⟨page'', hsome, hrefilled⟩
  · rw [h] at hnone
    simp at hnone
  · rw [h] at hsome
    obtain rfl := Option.some.inj hsome
    exact Or.inr ⟨content, hrefilled⟩

/-- The children that a body had do not matter when it takes new ones. -/
theorem Document.AgreesAround.replaceBody?_eq {page page' : Document}
    (h : page.AgreesAround page') (content : List Node) :
    page'.replaceBody? content = page.replaceBody? content := by
  rcases h with rfl | ⟨old, attributes, children, -, -, hback⟩
  · rfl
  · exact (replaceBodyIn?_replaceBodyIn? hback content).symm

/-- A page without a body agrees with itself alone. -/
theorem Document.AgreesAround.eq_of_replaceBody?_eq_none {page page' : Document}
    (h : page.AgreesAround page') {content : List Node}
    (hnone : page.replaceBody? content = none) : page' = page := by
  rcases h with rfl | ⟨old, attributes, children, hbody, -⟩
  · rfl
  · rcases page.replaceBody?_cases content with ⟨hnobody, -⟩ | ⟨_, hsome, -⟩
    · rw [hbody] at hnobody
      simp at hnobody
    · rw [hnone] at hsome
      simp at hsome

end SealedPage.Html
