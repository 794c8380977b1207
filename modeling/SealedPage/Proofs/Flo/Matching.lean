import Mathlib.Data.List.TakeWhile
import SealedPage.Flo.Pairing
import SealedPage.Proofs.Text.Run

/-!
# Pairing with a stack alone

Pairing keeps an index of the places of every name in its stack, and a count of the line feeds in
front of every position. Here is the same thing without either: the stack is searched from the top,
and the text between two tokens is looked at. The two agree, `pairTokens_eq`, so what is proved of
the searching one holds of the other.
-/

namespace SealedPage.Flo

open Text

/-! ## Line feeds between two positions -/

theorem foldl_lineCounts (text front : List Char) (done : List Nat) :
    (text.foldl (fun (s : Array Nat × Nat) c =>
        ((s.1.push (if c = '\n' then s.2 + 1 else s.2)), if c = '\n' then s.2 + 1 else s.2))
      (done.toArray, front.count '\n')).1.toList =
      done ++ (List.range text.length).map fun i => (front ++ text.take (i + 1)).count '\n' := by
  -- on the text; `front` is what the counts so far belong to
  induction text generalizing front done with
  | nil => simp
  | cons c text ih =>
    have hcount : (if c = '\n' then front.count '\n' + 1 else front.count '\n') =
        (front ++ [c]).count '\n' := by
      rw [List.count_append, List.count_singleton]
      by_cases h : c = '\n' <;> simp [h]
    have := ih (front ++ [c]) (done ++ [(front ++ [c]).count '\n'])
    rw [List.foldl_cons]
    simp only [hcount, List.push_toArray]
    rw [this, List.length_cons, List.range_succ_eq_map, List.map_cons, List.map_map]
    simp [Function.comp_def]

/-- The counts are the numbers of line feeds in front of each place of the text. -/
theorem toList_lineCounts (text : List Char) :
    (lineCounts text).toList =
      (List.range (text.length + 1)).map fun i => (text.take i).count '\n' := by
  have h := foldl_lineCounts text [] [0]
  rw [List.range_succ_eq_map, List.map_cons, List.map_map]
  simpa [lineCounts, Function.comp_def] using h

/-- The count at a position is that of the text in front of it. -/
theorem lineCountAt_lineCounts (text : List Char) (position : Nat) :
    lineCountAt (lineCounts text) position = (text.take position).count '\n' := by
  have hlist := toList_lineCounts text
  have hget : (lineCounts text)[position]? =
      ((List.range (text.length + 1)).map fun i => (text.take i).count '\n')[position]? := by
    rw [← hlist, Array.getElem?_toList]
  have hlast : (lineCounts text).back? = some (text.count '\n') := by
    rw [← Array.getLast?_toList, hlist, List.range_succ]
    simp
  unfold lineCountAt
  rw [hget]
  rcases Nat.lt_or_ge position (text.length + 1) with hlt | hge
  -- there is a count for each position, and behind the end the last one holds
  · rw [List.getElem?_map, List.getElem?_range hlt]
    rfl
  · rw [List.getElem?_eq_none (by simpa using hge), hlast, List.take_of_length_le (by omega)]
    rfl

/-- The counts tell whether a line feed stands between two positions. -/
theorem spansLines_iff (text : List Char) (start stop : Nat) :
    spansLines (lineCounts text) start stop ↔ '\n' ∈ between text start stop := by
  rw [spansLines, decide_eq_true_iff, lineCountAt_lineCounts, lineCountAt_lineCounts,
    ← List.count_pos_iff, between]
  rcases Nat.le_total start stop with hle | hle
  · have hsplit : (text.take stop).count '\n' =
        (text.take start).count '\n' + ((text.take stop).drop start).count '\n' := by
      rw [← List.count_append]
      congr 1
      conv => lhs; rw [← List.take_append_drop start (text.take stop), List.take_take,
        Nat.min_eq_left hle]
    omega
  -- a stretch that ends before it begins is empty
  · have hsub : (text.take stop).count '\n' ≤ (text.take start).count '\n' :=
      (List.take_sublist_take_left hle).count_le _
    have hnil : (text.take stop).drop start = [] := by
      rw [List.drop_eq_nil_iff, List.length_take]
      omega
    rw [hnil, List.count_nil]
    omega

/-! ## The searching machine -/

/-- The state of pairing with a stack alone: the open tokens, innermost first, and the pairs and
anomalies found so far, both in reverse. -/
structure Matching where
  stack : List Opener := []
  pairs : List Pair := []
  anomalies : List Anomaly := []

/-- The anomaly of an opening token whose rule refuses its attributes. -/
def Token.refused (t : Token) : Anomaly :=
  { kind := .invalidAttributes, tag := t.name, offset := t.start }

/-- The anomaly of an open token that no closing one pairs with. -/
def Opener.unclosed (o : Opener) : Anomaly :=
  o.token.unbalanced "opener left unclosed"

/-- Whether an open token has another name than the given one. -/
def Opener.differs (name : String) (o : Opener) : Bool :=
  o.token.name != name

namespace Matching

/-- Puts an opening token on the stack, unless its rule refuses its attributes. -/
def enter (m : Matching) (token : Token) : Matching :=
  match token.rule.openTag? token.attributes with
  | none => { m with anomalies := token.refused :: m.anomalies }
  | some rendered => { m with stack := ⟨token, rendered⟩ :: m.stack }

/-- Pairs an open token with a closing one, unless they are inline and on different lines. -/
def join (text : List Char) (m : Matching) (o : Opener) (token : Token) : Matching :=
  if token.rule.inline && '\n' ∈ between text o.token.stop token.start then
    { m with
      anomalies := token.unbalanced "inline tag spans multiple lines" ::
        o.token.unbalanced "inline tag spans multiple lines" :: m.anomalies }
  else { m with pairs := ⟨o, token⟩ :: m.pairs }

/-- Takes a closing token: it pairs with the innermost open token of its name, and the open tokens
inside that one are given up. -/
def close (text : List Char) (m : Matching) (token : Token) : Matching :=
  match m.stack.dropWhile (Opener.differs token.name) with
  | [] => { m with anomalies := token.unbalanced "closing tag without opener" :: m.anomalies }
  | opener :: below =>
    let skipped := m.stack.takeWhile (Opener.differs token.name)
    join text { m with stack := below, anomalies := skipped.map Opener.unclosed ++ m.anomalies }
      opener token

/-- Takes the next token. -/
def step (text : List Char) (m : Matching) (token : Token) : Matching :=
  if token.closing then m.close text token else m.enter token

/-- Gives up what is still open. -/
def finish (m : Matching) : Matching :=
  { m with stack := [], anomalies := m.stack.map Opener.unclosed ++ m.anomalies }

/-- Pairs a list of tokens in the given text. -/
def run (text : List Char) (tokens : List Token) : Matching :=
  (tokens.foldl (step text) {}).finish

end Matching

/-! ## The index of the stack -/

/-- The places of a name in a stack, highest first; the bottom of the stack is at zero. -/
def places (name : String) : List Opener → List Nat
  | [] => []
  | o :: below =>
    if o.token.name = name then below.length :: places name below else places name below

/-- Openers of other tags have no places in the index of a tag. -/
theorem places_append_of_differs {name : String} {skipped : List Opener}
    (h : ∀ o ∈ skipped, o.differs name) (below : List Opener) :
    places name (skipped ++ below) = places name below := by
  induction skipped with
  | nil => rfl
  | cons o skipped ih =>
    have hne : o.token.name ≠ name := by simpa [Opener.differs] using h o List.mem_cons_self
    rw [List.cons_append, places, if_neg hne]
    exact ih fun o' ho' => h o' (List.mem_cons_of_mem _ ho')

/-- Giving up the tokens above a part of the stack takes as many places from each name as there are
tokens of that name. -/
theorem drop_places_append (name : String) (skipped below : List Opener) :
    (places name (skipped ++ below)).drop (skipped.countP fun o => o.token.name = name) =
      places name below := by
  induction skipped with
  | nil => rfl
  | cons o skipped ih =>
    rw [List.cons_append, places, List.countP_cons]
    by_cases h : o.token.name = name
    · simpa [h] using ih
    · simpa [h] using ih

/-- The index has no place for a name if and only if the search finds none. -/
theorem places_eq_nil_iff {name : String} {stack : List Opener} :
    places name stack = [] ↔ stack.dropWhile (Opener.differs name) = [] := by
  induction stack with
  | nil => simp [places]
  | cons o below ih =>
    by_cases h : o.token.name = name
    · simp [places, Opener.differs, h]
    · simpa [places, Opener.differs, h] using ih

/-- The open token that the search finds has the name it searches. -/
theorem name_of_dropWhile {name : String} {stack below : List Opener} {opener : Opener}
    (h : stack.dropWhile (Opener.differs name) = opener :: below) : opener.token.name = name := by
  have hhead := List.head?_dropWhile_not (Opener.differs name) stack
  rw [h] at hhead
  simpa [Opener.differs] using hhead

/-- The search splits the stack: the open tokens above the one that it finds have other names. -/
theorem exists_append_of_dropWhile {name : String} {stack below : List Opener} {opener : Opener}
    (h : stack.dropWhile (Opener.differs name) = opener :: below) :
    stack = stack.takeWhile (Opener.differs name) ++ opener :: below ∧
      ∀ o ∈ stack.takeWhile (Opener.differs name), o.differs name := by
  constructor
  · rw [← h, List.takeWhile_append_dropWhile]
  · intro o ho
    exact List.mem_takeWhile_imp ho

/-- The highest place of a name is that of the open token which the search finds. -/
theorem places_of_dropWhile {name : String} {stack below : List Opener} {opener : Opener}
    (h : stack.dropWhile (Opener.differs name) = opener :: below) :
    places name stack = below.length :: places name below := by
  obtain ⟨hsplit, hdiffers⟩ := exists_append_of_dropWhile h
  rw [hsplit, places_append_of_differs hdiffers, places, if_pos (name_of_dropWhile h)]

/-- Taking the open token that the search finds, and giving up those above it, leaves each name the
places it has below. -/
theorem drop_places_of_dropWhile {name : String} {stack below : List Opener} {opener : Opener}
    (h : stack.dropWhile (Opener.differs name) = opener :: below) (other : String) :
    (if name = other then places name below else places other stack).drop
        ((stack.takeWhile (Opener.differs name)).countP fun o => o.token.name = other) =
      places other below := by
  obtain ⟨hsplit, hdiffers⟩ := exists_append_of_dropWhile h
  generalize stack.takeWhile (Opener.differs name) = skipped at hsplit hdiffers ⊢
  by_cases hname : name = other
  -- the name searched loses the place of the open token itself, and none above it
  · subst hname
    have hcount : skipped.countP (fun o => o.token.name = name) = 0 := by
      rw [List.countP_eq_zero]
      intro o ho
      simpa [Opener.differs] using hdiffers o ho
    rw [if_pos rfl, hcount, List.drop_zero]
  · have hplaces : places other (opener :: below) = places other below := by
      rw [places, name_of_dropWhile h, if_neg hname]
    rw [if_neg hname, hsplit, drop_places_append, hplaces]

/-! ## The stack as an array -/

section
variable {stack : Array Opener} {skipped below : List Opener} {opener : Opener}
  (h : stack.toList = (skipped ++ opener :: below).reverse)
include h

/-- The opener above those below it is found at its place in the array. -/
theorem getElem?_of_toList : stack[below.length]? = some opener := by
  rw [← Array.getElem?_toList, h]
  simp

/-- Cutting the array off leaves those below. -/
theorem toList_shrink_of_toList : (stack.shrink below.length).toList = below.reverse := by
  rw [Array.toList_shrink, h]
  simp

/-- What is cut off are the openers that were skipped. -/
theorem toList_extract_of_toList :
    (stack.extract (below.length + 1) stack.size).toList = skipped.reverse := by
  have hsize : stack.size = below.length + 1 + skipped.length := by
    rw [← Array.length_toList, h, List.length_reverse, List.length_append, List.length_cons]
    omega
  rw [Array.toList_extract, List.extract_eq_take_drop, h, hsize, Nat.add_sub_cancel_left,
    List.reverse_append, List.drop_append, List.drop_of_length_le (by simp)]
  simp [List.take_of_length_le]

end

/-! ## The two machines agree -/

/-- The state of pairing with an index is that of searching, with the stack the other way round. -/
structure Represents (p : Pairing) (m : Matching) : Prop where
  stack : p.stack.toList = m.stack.reverse
  index : ∀ name, p.openByName.getD name [] = places name m.stack
  pairs : p.pairs = m.pairs
  anomalies : p.anomalies = m.anomalies

namespace Represents

variable {p : Pairing} {m : Matching}

theorem empty : Represents {} {} :=
  ⟨rfl, fun _ => Std.HashMap.getD_empty, rfl, rfl⟩

/-- Both pairings report the same anomaly. -/
theorem report (h : Represents p m) (a : Anomaly) :
    Represents (p.report a) { m with anomalies := a :: m.anomalies } :=
  ⟨h.stack, h.index, h.pairs, congrArg (a :: ·) h.anomalies⟩

/-- An opener is entered into both, and the index says where. -/
theorem enter (h : Represents p m) (token : Token) :
    Represents (p.enter token) (m.enter token) := by
  unfold Pairing.enter Matching.enter
  cases token.rule.openTag? token.attributes with
  | none => exact h.report token.refused
  | some rendered =>
    have hsize : p.stack.size = m.stack.length := by
      rw [← Array.length_toList, h.stack, List.length_reverse]
    refine ⟨by simp [h.stack], fun name => ?_, h.pairs, h.anomalies⟩
    simp only [Std.HashMap.getD_insert, places, h.index, hsize, beq_iff_eq]
    split
    · rename_i heq
      rw [heq]
    · rfl

/-- Both make the same pair of an opener and its closer. -/
theorem join (h : Represents p m) (text : List Char) (o : Opener) (token : Token) :
    Represents (Pairing.join (lineCounts text) p o token) (Matching.join text m o token) := by
  unfold Pairing.join Matching.join
  have hlines : spansLines (lineCounts text) o.token.stop token.start =
      decide ('\n' ∈ between text o.token.stop token.start) := by
    rw [Bool.eq_iff_iff, spansLines_iff, decide_eq_true_iff]
  rw [hlines]
  split
  · exact (h.report _).report _
  · exact ⟨h.stack, h.index, congrArg (_ :: ·) h.pairs, h.anomalies⟩

end Represents

/-- Giving up open tokens takes one place from the name of each. -/
theorem foldl_skip (os : List Opener) (p : Pairing) :
    (os.foldl Pairing.skip p).stack = p.stack ∧
      (∀ name, (os.foldl Pairing.skip p).openByName.getD name [] =
        (p.openByName.getD name []).drop (os.countP fun o => o.token.name = name)) ∧
      (os.foldl Pairing.skip p).pairs = p.pairs ∧
      (os.foldl Pairing.skip p).anomalies = (os.map Opener.unclosed).reverse ++ p.anomalies := by
  induction os generalizing p with
  | nil => simp
  | cons o os ih =>
    obtain ⟨hstack, hindex, hpairs, hanomalies⟩ := ih (p.skip o)
    rw [List.foldl_cons]
    refine ⟨hstack, fun name => ?_, hpairs, ?_⟩
    · rw [hindex, List.countP_cons]
      simp only [Pairing.skip, Std.HashMap.getD_insert, beq_iff_eq, decide_eq_true_eq]
      split
      · rename_i heq
        rw [heq, ← List.drop_one, List.drop_drop, Nat.add_comm]
      · rfl
    · rw [hanomalies]
      simp [Pairing.skip, Opener.unclosed]

/-- Searching the index and searching the stack find the same opener. -/
theorem Represents.close {p : Pairing} {m : Matching} (h : Represents p m) (text : List Char)
    (token : Token) :
    Represents (p.close (lineCounts text) token) (m.close text token) := by
  unfold Pairing.close Matching.close
  rw [h.index]
  cases hsearch : m.stack.dropWhile (Opener.differs token.name) with
  | nil =>
    rw [places_eq_nil_iff.2 hsearch]
    exact h.report _
  | cons opener below =>
    have hstack : p.stack.toList =
        (m.stack.takeWhile (Opener.differs token.name) ++ opener :: below).reverse := by
      rw [h.stack, ← (exists_append_of_dropWhile hsearch).1]
    -- the highest place in the index is where the search stops
    rw [places_of_dropWhile hsearch]
    simp only [getElem?_of_toList hstack]
    rw [← Array.foldl_toList, toList_extract_of_toList hstack]
    apply Represents.join
    obtain ⟨hs, hi, hp, ha⟩ := foldl_skip
      (m.stack.takeWhile (Opener.differs token.name)).reverse
      { p with
        stack := p.stack.shrink below.length
        openByName := p.openByName.insert token.name (places token.name below) }
    constructor
    · rw [hs, toList_shrink_of_toList hstack]
    · intro name
      rw [hi, Std.HashMap.getD_insert, List.countP_reverse, h.index]
      simp only [beq_iff_eq]
      exact drop_places_of_dropWhile hsearch name
    · rw [hp, h.pairs]
    · rw [ha, h.anomalies, List.map_reverse, List.reverse_reverse]

/-- A token leads both pairings to the same state. -/
theorem Represents.step {p : Pairing} {m : Matching} (h : Represents p m) (text : List Char)
    (token : Token) :
    Represents (p.step (lineCounts text) token) (m.step text token) := by
  unfold Pairing.step Matching.step
  split
  · exact h.close text token
  · exact h.enter token

/-- So do any tokens, one after the other. -/
theorem Represents.foldl {p : Pairing} {m : Matching} (h : Represents p m) (text : List Char)
    (tokens : List Token) :
    Represents (tokens.foldl (Pairing.step (lineCounts text)) p)
      (tokens.foldl (Matching.step text) m) := by
  induction tokens generalizing p m with
  | nil => exact h
  | cons token tokens ih => exact ih (h.step text token)

theorem foldl_report (os : List Opener) (p : Pairing) :
    (os.foldl (fun p o => p.report o.unclosed) p).pairs = p.pairs ∧
      (os.foldl (fun p o => p.report o.unclosed) p).anomalies =
        (os.map Opener.unclosed).reverse ++ p.anomalies := by
  induction os generalizing p with
  | nil => simp
  | cons o os ih =>
    obtain ⟨hpairs, hanomalies⟩ := ih (p.report o.unclosed)
    rw [List.foldl_cons]
    refine ⟨hpairs, ?_⟩
    rw [hanomalies]
    simp [Pairing.report]

/-- Pairing with an index finds the pairs and the anomalies that searching the stack finds, in the
same order. -/
theorem pairTokens_eq (text : List Char) (tokens : List Token) :
    pairTokens text tokens =
      ((Matching.run text tokens).pairs.reverse, (Matching.run text tokens).anomalies.reverse) := by
  have h := Represents.empty.foldl text tokens
  obtain ⟨hpairs, hanomalies⟩ := foldl_report
    (tokens.foldl (Pairing.step (lineCounts text)) {}).stack.toList
    (tokens.foldl (Pairing.step (lineCounts text)) {})
  rw [Array.foldl_toList] at hpairs hanomalies
  simp only [pairTokens, Matching.run, Matching.finish, Pairing.finish, Prod.mk.injEq]
  constructor
  · exact congrArg List.reverse (hpairs.trans h.pairs)
  · refine congrArg List.reverse (hanomalies.trans ?_)
    rw [h.stack, h.anomalies]
    simp

end SealedPage.Flo
