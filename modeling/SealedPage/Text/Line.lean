/-!
# Ends of lines

Lines end in a line feed, a carriage return, or both; `plainLines` writes a line feed for each.
-/

namespace SealedPage.Text

/-- The text with a line feed for every end of a line. -/
def plainLines : List Char → List Char
  | [] => []
  | '\r' :: '\n' :: cs => '\n' :: plainLines cs
  | c :: cs => (if c = '\r' then '\n' else c) :: plainLines cs

/-- Line feeds alone are kept. -/
theorem plainLines_eq {cs : List Char} (h : '\r' ∉ cs) : plainLines cs = cs := by
  induction cs with
  | nil => rfl
  | cons c cs ih =>
    obtain ⟨hc, hcs⟩ : '\r' ≠ c ∧ '\r' ∉ cs := by simpa using h
    rw [plainLines, if_neg hc.symm, ih hcs]
    rintro rest rfl
    exact absurd rfl hc

end SealedPage.Text
