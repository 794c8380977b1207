import Mathlib.Data.List.TakeWhile
import SealedPage.Text.Blank

/-!
# Runs and parts of texts

A scanner takes the longest run of characters of a class. The lemmas on runs say when that run is a
given one: it consists of characters of the class, and the text behind it does not go on with one.

A rewriter copies the part of a text between two positions, `between`. The lemmas on parts say how
they are put together, and which part stands at a position.
-/

namespace SealedPage.Text

/-- The text does not go on with a character of the class. -/
def Stops (p : Char → Bool) (cs : List Char) : Prop :=
  ∀ c ∈ cs.head?, p c = false

theorem stops_nil (p : Char → Bool) : Stops p [] := by
  intro c hc
  simp at hc

theorem stops_cons {p : Char → Bool} {c : Char} {cs : List Char} :
    Stops p (c :: cs) ↔ p c = false := by
  simp [Stops]

/-- A run of another class in front of a text that stops makes a text that stops. -/
theorem stops_append {p q : Char → Bool} {run cs : List Char} (hrun : ∀ c ∈ run, q c)
    (hpq : ∀ c, q c → p c = false) (hs : Stops p cs) : Stops p (run ++ cs) := by
  cases run with
  | nil => exact hs
  | cons c run => exact stops_cons.2 (hpq c (hrun c List.mem_cons_self))

/-- A run is taken up to where it stops. -/
theorem takeWhile_append_of_stops {p : Char → Bool} {run cs : List Char}
    (hrun : ∀ c ∈ run, p c) (hs : Stops p cs) : (run ++ cs).takeWhile p = run := by
  rw [List.takeWhile_append_of_pos hrun]
  cases cs with
  | nil => simp
  | cons c cs => simp [stops_cons.1 hs]

theorem dropWhile_append_of_stops {p : Char → Bool} {run cs : List Char}
    (hrun : ∀ c ∈ run, p c) (hs : Stops p cs) : (run ++ cs).dropWhile p = cs := by
  rw [List.dropWhile_append_of_pos hrun]
  cases cs with
  | nil => rfl
  | cons c cs => simp [stops_cons.1 hs]

/-- What is left behind the longest run does not go on with the class. -/
theorem stops_dropWhile (p : Char → Bool) (cs : List Char) : Stops p (cs.dropWhile p) := by
  intro c hc
  have h := List.head?_dropWhile_not p cs
  rw [Option.mem_def.1 hc] at h
  simpa using h

/-- A text is its first run and what is left. -/
theorem eq_takeWhile_append {p : Char → Bool} {cs rest : List Char} (h : cs.dropWhile p = rest) :
    cs = cs.takeWhile p ++ rest := by
  rw [← h, List.takeWhile_append_dropWhile]

theorem of_mem_takeWhile {p : Char → Bool} {cs : List Char} :
    ∀ c ∈ cs.takeWhile p, p c :=
  fun _ hc => List.mem_takeWhile_imp hc

/-! ## Blanks -/

theorem toNat_of_isAlphanum {c : Char} (h : c.isAlphanum) :
    (48 ≤ c.toNat ∧ c.toNat ≤ 57) ∨ (65 ≤ c.toNat ∧ c.toNat ≤ 90) ∨
      (97 ≤ c.toNat ∧ c.toNat ≤ 122) := by
  -- the classes compare code points; only the numbers of the bounds are written out here
  have hclasses : c.isAlphanum = (((decide (65 ≤ c.toNat ∧ c.toNat ≤ 90)) ||
      (decide (97 ≤ c.toNat) && decide (c.toNat ≤ 122))) ||
      (decide (48 ≤ c.toNat) && decide (c.toNat ≤ 57))) :=
    rfl
  simp only [hclasses, Bool.or_eq_true, Bool.and_eq_true, decide_eq_true_eq] at h
  omega

/-- No blank is a letter or a digit. -/
theorem isAlphanum_of_isBlank {c : Char} (h : isBlank c) : c.isAlphanum = false := by
  rw [Bool.eq_false_iff]
  intro ha
  have := toNat_of_isAlphanum ha
  simp only [isBlank, Bool.or_eq_true, Bool.and_eq_true, decide_eq_true_eq, beq_iff_eq] at h
  omega

/-- White space is none of the other characters. -/
theorem ne_of_isBlank {c d : Char} (h : isBlank c) (hd : isBlank d = false) : c ≠ d := by
  rintro rfl
  rw [h] at hd
  simp at hd

/-! ## The part between two positions -/

/-- The characters of a text between two positions. -/
def between (text : List Char) (start stop : Nat) : List Char :=
  (text.take stop).drop start

theorem between_self (text : List Char) (i : Nat) : between text i i = [] := by
  rw [between, List.drop_eq_nil_iff, List.length_take]
  omega

/-- Two ranges next to each other make one. -/
theorem between_append_between (text : List Char) {i j k : Nat} (hij : i ≤ j) (hjk : j ≤ k) :
    between text i j ++ between text j k = between text i k := by
  have htake : text.take j = (text.take k).take j := by rw [List.take_take, Nat.min_eq_left hjk]
  simp only [between]
  rw [htake, List.drop_take]
  have hdrop : (text.take k).drop j = ((text.take k).drop i).drop (j - i) := by
    rw [List.drop_drop, Nat.add_sub_cancel' hij]
  rw [hdrop, List.take_append_drop]

/-- A range and what stands behind it. -/
theorem between_append_drop (text : List Char) {i j : Nat} (hij : i ≤ j) :
    between text i j ++ text.drop j = text.drop i := by
  have hdrop : text.drop j = (text.drop i).drop (j - i) := by
    rw [List.drop_drop, Nat.add_sub_cancel' hij]
  rw [between, List.drop_take, hdrop, List.take_append_drop]

/-- What stands at a position is found between its ends. -/
theorem between_of_isPrefix {text part : List Char} {i : Nat} (h : part <+: text.drop i) :
    between text i (i + part.length) = part := by
  rw [between, List.drop_take, Nat.add_sub_cancel_left]
  exact (List.prefix_iff_eq_take.1 h).symm

/-- Two parts stand one behind the other. -/
theorem append_isPrefix_drop_iff {text part part' : List Char} {i : Nat} :
    part ++ part' <+: text.drop i ↔
      part <+: text.drop i ∧ part' <+: text.drop (i + part.length) := by
  rw [← List.drop_drop]
  constructor
  · rintro ⟨rest, hrest⟩
    rw [← hrest, List.append_assoc, List.drop_left]
    exact ⟨List.prefix_append _ _, List.prefix_append _ _⟩
  · rintro ⟨⟨rest, hrest⟩, h⟩
    rw [← hrest, List.drop_left] at h
    rw [← hrest, List.prefix_append_right_inj]
    exact h

end SealedPage.Text
