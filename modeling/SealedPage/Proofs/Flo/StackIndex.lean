import SealedPage.Proofs.Flo.Rewriting

/-!
# The index of the stack

Pairing looks the innermost open token of a name up in an index instead of searching the stack. The
index always holds exactly the places of each name, `Represents.indexed`, so no look-up misses: a
machine that gives up at a miss never does, `Pairing.run?_eq_some`. What comes out is what searching
finds. All of this together is `indexes_pairTokens`.
-/

namespace SealedPage.Flo

/-! ## Places of names -/

/-- The index names no places outside of the stack. -/
theorem lt_length_of_mem_places {name : String} {i : Nat} {stack : List Opener}
    (h : i ∈ places name stack) : i < stack.length := by
  induction stack with
  | nil => simp [places] at h
  | cons o below ih =>
    rw [List.length_cons]
    rw [places] at h
    split at h
    · rcases List.mem_cons.1 h with rfl | h
      · exact Nat.lt_succ_self _
      · exact Nat.lt_succ_of_lt (ih h)
    · exact Nat.lt_succ_of_lt (ih h)

/-- The places of a name are those where the stack, read from the bottom, has it. -/
theorem mem_places_iff {name : String} {i : Nat} {stack : List Opener} :
    i ∈ places name stack ↔ ∃ o, stack.reverse[i]? = some o ∧ o.token.name = name := by
  induction stack with
  | nil => simp [places]
  | cons o below ih =>
    have hplaces : i ∈ places name (o :: below) ↔
        i ∈ places name below ∨ i = below.length ∧ o.token.name = name := by
      rw [places]
      split
      · rename_i hname
        simp [hname, or_comm]
      · rename_i hname
        simp [hname]
    rw [hplaces, List.reverse_cons]
    rcases Nat.lt_trichotomy i below.length with hlt | rfl | hgt
    · rw [List.getElem?_append_left (by simpa using hlt), ← ih]
      simp [Nat.ne_of_lt hlt]
    · have hnot : below.length ∉ places name below :=
        fun hmem => Nat.lt_irrefl _ (lt_length_of_mem_places hmem)
      rw [← List.length_reverse, List.getElem?_concat_length, List.length_reverse]
      simp [hnot]
    · have hnot : i ∉ places name below :=
        fun hmem => Nat.lt_asymm hgt (lt_length_of_mem_places hmem)
      rw [List.getElem?_eq_none (by simpa using Nat.succ_le_of_lt hgt)]
      simp [hnot, Nat.ne_of_gt hgt]

/-- The places of a name stand in order, the highest first. -/
theorem pairwise_places (name : String) (stack : List Opener) :
    (places name stack).Pairwise fun i j => j < i := by
  induction stack with
  | nil => exact List.Pairwise.nil
  | cons o below ih =>
    rw [places]
    split
    · exact List.pairwise_cons.2 ⟨fun j => lt_length_of_mem_places, ih⟩
    · exact ih

/-- There are as many places for a tag as it has openers. -/
theorem length_places (name : String) (stack : List Opener) :
    (places name stack).length = stack.countP fun o => o.token.name = name := by
  induction stack with
  | nil => rfl
  | cons o below ih =>
    rw [places, List.countP_cons]
    by_cases h : o.token.name = name <;> simp [h, ih]

/-- The index of a state of pairing is exact. -/
structure Pairing.Indexed (p : Pairing) : Prop where
  /-- The places of a name stand in order. -/
  increasing : ∀ name, (p.openByName.getD name []).reverse.Pairwise fun i j => i < j
  /-- They are the places where the stack has the name. -/
  exact : ∀ name i,
    i ∈ p.openByName.getD name [] ↔ ∃ o, p.stack[i]? = some o ∧ o.token.name = name

/-- The index of a pairing that follows the stack agrees with it. -/
theorem Represents.indexed {p : Pairing} {m : Matching} (h : Represents p m) : p.Indexed := by
  constructor
  · intro name
    rw [h.index, List.pairwise_reverse]
    exact pairwise_places name m.stack
  · intro name i
    rw [h.index, mem_places_iff, ← Array.getElem?_toList, h.stack]

/-! ## The machine that gives up -/

namespace Pairing

/-- Gives up an open token. If the index does not know its name, or has no place of it, there is no
next state. -/
def skip? (p : Pairing) (o : Opener) : Option Pairing :=
  match p.openByName[o.token.name]? with
  | some (_ :: places) =>
    some { p with
      openByName := p.openByName.insert o.token.name places
      anomalies := o.unclosed :: p.anomalies }
  | _ => none

/-- Takes a closing token. If the stack does not reach up to the place in the index, or an open
token above it cannot be given up, there is no next state. -/
def close? (counts : Array Nat) (p : Pairing) (token : Token) : Option Pairing :=
  match p.openByName.getD token.name [] with
  | [] => some (p.report (token.unbalanced "closing tag without opener"))
  | place :: places =>
    match p.stack[place]? with
    | none => none
    | some opener =>
      let skipped := p.stack.extract (place + 1) p.stack.size
      let p : Pairing :=
        { p with
          stack := p.stack.shrink place
          openByName := p.openByName.insert token.name places }
      (skipped.toList.foldlM skip? p).map fun p => join counts p opener token

/-- Takes the next token. -/
def step? (counts : Array Nat) (p : Pairing) (token : Token) : Option Pairing :=
  if token.closing then p.close? counts token else some (p.enter token)

/-- Pairs a list of tokens in the given text. -/
def run? (text : List Char) (tokens : List Token) : Option (List Pair × List Anomaly) :=
  (tokens.foldlM (step? (lineCounts text)) {}).map fun p =>
    (p.finish.pairs.reverse, p.finish.anomalies.reverse)

/-- An opener that is skipped is in the index. -/
theorem skip?_eq_some {p : Pairing} {o : Opener} (h : p.openByName.getD o.token.name [] ≠ []) :
    p.skip? o = some (p.skip o) := by
  rw [Std.HashMap.getD_eq_getD_getElem?] at h
  unfold skip? skip
  rw [Std.HashMap.getD_eq_getD_getElem?]
  cases hget : p.openByName[o.token.name]? with
  | none =>
    rw [hget] at h
    exact absurd rfl h
  | some places =>
    cases places with
    | nil =>
      rw [hget] at h
      exact absurd rfl h
    | cons place places => rfl

/-- Open tokens can be given up if the index has a place for each of them. -/
theorem foldlM_skip? {os : List Opener} {p : Pairing}
    (h : ∀ name, (os.countP fun o => o.token.name = name) ≤ (p.openByName.getD name []).length) :
    os.foldlM skip? p = some (os.foldl skip p) := by
  induction os generalizing p with
  | nil => rfl
  | cons o os ih =>
    have hne : p.openByName.getD o.token.name [] ≠ [] := by
      have := h o.token.name
      rw [List.countP_cons_of_pos (by simp)] at this
      exact List.ne_nil_of_length_pos (by omega)
    rw [List.foldlM_cons, skip?_eq_some hne, List.foldl_cons]
    refine ih fun name => ?_
    -- the token and the place that it takes are both gone
    have hcount := h name
    rw [List.countP_cons] at hcount
    simp only [skip, Std.HashMap.getD_insert, beq_iff_eq]
    by_cases hname : o.token.name = name
    · simp only [hname, decide_true, if_true] at hcount ⊢
      rw [List.length_tail]
      omega
    · simpa [hname] using hcount

end Pairing

/-- Closing a tag never meets a place that is not there. -/
theorem Represents.close?_eq_some {p : Pairing} {m : Matching} (h : Represents p m)
    (counts : Array Nat) (token : Token) : p.close? counts token = some (p.close counts token) := by
  unfold Pairing.close? Pairing.close
  rw [h.index]
  cases hsearch : m.stack.dropWhile (Opener.differs token.name) with
  | nil =>
    rw [places_eq_nil_iff.2 hsearch]
  | cons opener below =>
    obtain ⟨hsplit, hdiffers⟩ := exists_append_of_dropWhile hsearch
    have hstack : p.stack.toList =
        (m.stack.takeWhile (Opener.differs token.name) ++ opener :: below).reverse := by
      rw [h.stack, ← hsplit]
    rw [places_of_dropWhile hsearch]
    simp only [getElem?_of_toList hstack]
    rw [← Array.foldl_toList, toList_extract_of_toList hstack, Pairing.foldlM_skip?]
    · rfl
    intro name
    rw [List.countP_reverse, Std.HashMap.getD_insert, h.index]
    simp only [beq_iff_eq]
    split
    · -- the name searched does not occur above the place where it is found
      rename_i hname
      have hnone : (m.stack.takeWhile (Opener.differs token.name)).countP
          (fun o => o.token.name = name) = 0 := by
        rw [List.countP_eq_zero]
        intro o ho
        simpa [Opener.differs, hname] using hdiffers o ho
      omega
    · rw [length_places]
      exact (List.takeWhile_sublist _).countP_le

/-- No token does. -/
theorem Represents.step?_eq_some {p : Pairing} {m : Matching} (h : Represents p m)
    (counts : Array Nat) (token : Token) : p.step? counts token = some (p.step counts token) := by
  unfold Pairing.step? Pairing.step
  split
  · exact h.close?_eq_some counts token
  · rfl

/-- So none of the tokens of a text does. -/
theorem Represents.foldlM_step? {p : Pairing} {m : Matching} (h : Represents p m)
    (text : List Char) (tokens : List Token) :
    tokens.foldlM (Pairing.step? (lineCounts text)) p =
      some (tokens.foldl (Pairing.step (lineCounts text)) p) := by
  induction tokens generalizing p m with
  | nil => rfl
  | cons token tokens ih =>
    rw [List.foldlM_cons, h.step?_eq_some, List.foldl_cons]
    exact ih (h.step text token)

/-- No look-up misses, whatever the tokens are. -/
theorem Pairing.run?_eq_some (text : List Char) (tokens : List Token) :
    Pairing.run? text tokens = some (pairTokens text tokens) := by
  rw [run?, Represents.empty.foldlM_step?]
  rfl

/-! ## Indexing and searching -/

/-- What searching has written at a place: what the latest pair wrote there. -/
def Matching.replacement? (m : Matching) (place : Nat) : Option String :=
  (m.pairs.flatMap fun p => p.entries.reverse).lookup place

/-- How pairing with an index compares with searching the stack from the top. -/
structure Indexes (text : List Char) (tokens : List Token) (found : List Pair × List Anomaly) :
    Prop where
  /-- The pairs are found in the same order. -/
  pairs : found.1 = (Matching.run text tokens).pairs.reverse
  /-- So are the anomalies. -/
  anomalies : found.2 = (Matching.run text tokens).anomalies.reverse
  /-- The same is written at every place. -/
  replacements : ∀ place : Nat,
    (Replacements.ofPairs found.1)[place]? = (Matching.run text tokens).replacement? place
  /-- The index is exact after every token. -/
  indexed : ∀ front, front <+: tokens →
    (front.foldl (Pairing.step (lineCounts text)) {}).Indexed
  /-- The machine that gives up where a look-up misses comes to the same end. -/
  unfailing : Pairing.run? text tokens = some found

/-- Whatever the text and the tokens are, the index of the stack is exact and saves the search. -/
theorem indexes_pairTokens (text : List Char) (tokens : List Token) :
    Indexes text tokens (pairTokens text tokens) where
  pairs := by rw [pairTokens_eq]
  anomalies := by rw [pairTokens_eq]
  replacements place := by
    rw [Replacements.getElem?_ofPairs, pairTokens_eq, Matching.replacement?,
      List.reverse_flatMap, List.reverse_reverse]
    rfl
  indexed front _ := (Represents.empty.foldl text front).indexed
  unfailing := Pairing.run?_eq_some text tokens

end SealedPage.Flo
