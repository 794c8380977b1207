import Mathlib.Data.List.Perm.Basic
import SealedPage.Proofs.Flo.Matching

/-!
# What pairing keeps

Every token that pairing takes goes to one place: it is open, it belongs to a pair, or it is
reported. None is lost and none is counted twice, `perm_starts_run`. What is paired and what is
reported was taken for a reason, `sound_run`.
-/

namespace SealedPage.Flo

open Text

/-! ## Where the tokens go -/

/-- The places of the two tokens of a pair. -/
def Pair.starts (p : Pair) : List Nat :=
  [p.opener.token.start, p.closer.start]

/-- The place of an open token. -/
def Opener.start (o : Opener) : Nat :=
  o.token.start

namespace Matching

/-- The places of the tokens that have been taken. -/
def starts (m : Matching) : List Nat :=
  m.pairs.flatMap Pair.starts ++ (m.anomalies.map Anomaly.offset ++ m.stack.map Opener.start)

/-- An opener adds its own place. -/
theorem perm_starts_enter (m : Matching) (t : Token) :
    (m.enter t).starts.Perm (t.start :: m.starts) := by
  unfold enter
  cases t.rule.openTag? t.attributes with
  | none => exact List.perm_middle
  | some rendered =>
    simp only [starts, List.map_cons, Opener.start, ← List.append_assoc]
    exact List.perm_middle

/-- A pair has the places of its opener and its closer, and no others are lost. -/
theorem perm_starts_join (text : List Char) (m : Matching) (o : Opener) (t : Token) :
    (join text m o t).starts.Perm (o.start :: t.start :: m.starts) := by
  unfold join
  split
  · simp only [starts, List.map_cons, List.cons_append]
    exact (List.perm_middle.trans (List.perm_middle.cons _)).trans (List.Perm.swap _ _ _)
  · exact List.Perm.refl _

/-- What is given up is reported. -/
theorem map_offset_unclosed (os : List Opener) :
    (os.map Opener.unclosed).map Anomaly.offset = os.map Opener.start := by
  rw [List.map_map]
  rfl

/-- A closing token adds its place, be it to a pair or to the anomalies. -/
theorem perm_starts_close (text : List Char) (m : Matching) (t : Token) :
    (m.close text t).starts.Perm (t.start :: m.starts) := by
  unfold close
  cases hsearch : m.stack.dropWhile (Opener.differs t.name) with
  | nil => exact List.perm_middle
  | cons opener below =>
    obtain ⟨hsplit, -⟩ := exists_append_of_dropWhile hsearch
    generalize m.stack.takeWhile (Opener.differs t.name) = skipped at hsplit ⊢
    apply (perm_starts_join _ _ _ _).trans
    -- the open token goes to the pair or to the reports, those above it go to the reports
    rw [List.perm_iff_count]
    intro k
    simp only [starts, hsplit, List.map_append, List.map_cons, map_offset_unclosed,
      List.count_append, List.count_cons]
    omega

/-- Each token adds its own place. -/
theorem perm_starts_step (text : List Char) (m : Matching) (t : Token) :
    (m.step text t).starts.Perm (t.start :: m.starts) := by
  unfold step
  split
  · exact perm_starts_close text m t
  · exact perm_starts_enter m t

/-- So the places of all tokens are those of the pairs, the anomalies and the open tags, each once.
-/
theorem perm_starts_foldl (text : List Char) (tokens : List Token) (m : Matching) :
    (tokens.foldl (step text) m).starts.Perm (tokens.map Token.start ++ m.starts) := by
  induction tokens generalizing m with
  | nil => exact List.Perm.refl _
  | cons t tokens ih =>
    exact (ih _).trans (((perm_starts_step text m t).append_left _).trans List.perm_middle)

/-- In the end every token belongs to a pair or is reported, and none of them twice. -/
theorem perm_starts_run (text : List Char) (tokens : List Token) :
    ((run text tokens).pairs.flatMap Pair.starts ++
      (run text tokens).anomalies.map Anomaly.offset).Perm (tokens.map Token.start) := by
  have h := perm_starts_foldl text tokens {}
  have hempty : ({} : Matching).starts = [] := rfl
  rw [hempty, List.append_nil] at h
  refine List.Perm.trans ?_ h
  simp only [run, finish, starts, List.map_append, map_offset_unclosed]
  exact List.perm_append_comm.append_left _

end Matching

/-! ## Why they go there -/

/-- The kind under which pairing reports a token. -/
def Token.cause (t : Token) : AnomalyKind :=
  if t.closing || (t.rule.openTag? t.attributes).isSome then .unbalancedTag
  else .invalidAttributes

/-- What is written for a token: the opening or the closing tag of its rule. -/
def Token.written? (t : Token) : Option String :=
  if t.closing then some t.rule.closeTag else t.rule.openTag? t.attributes

/-- An anomaly that tells of the given token. -/
structure Anomaly.Of (a : Anomaly) (t : Token) : Prop where
  offset : a.offset = t.start
  tag : a.tag = t.name
  kind : a.kind = t.cause

/-- An opening token of the list with the tag that its rule gives. -/
structure Opener.Sound (tokens : List Token) (o : Opener) : Prop where
  mem : o.token ∈ tokens
  closing : o.token.closing = false
  rendered : o.token.rule.openTag? o.token.attributes = some o.rendered

/-- An opening and a closing token of the list and of one name. Inline ones have no line feed
between them. -/
structure Pair.Sound (text : List Char) (tokens : List Token) (p : Pair) : Prop where
  opener : p.opener.Sound tokens
  closer : p.closer ∈ tokens
  closing : p.closer.closing
  name : p.opener.token.name = p.closer.name
  line : p.closer.rule.inline → '\n' ∉ between text p.opener.token.stop p.closer.start

/-- Every token of the list is where it belongs. -/
structure Matching.Sound (text : List Char) (tokens : List Token) (m : Matching) : Prop where
  stack : ∀ o ∈ m.stack, o.Sound tokens
  pairs : ∀ p ∈ m.pairs, p.Sound text tokens
  anomalies : ∀ a ∈ m.anomalies, ∃ t ∈ tokens, a.Of t

section
variable {text : List Char} {tokens : List Token}

/-- A closing token without an opener is reported as what it is. -/
theorem Token.unbalanced_of_closing {t : Token} (h : t.closing) (detail : String) :
    (t.unbalanced detail).Of t :=
  ⟨rfl, rfl, by simp [Token.cause, Token.unbalanced, h]⟩

/-- An opener without a closer is reported as one of the tokens. -/
theorem Opener.Sound.unbalanced {o : Opener} (h : o.Sound tokens) (detail : String) :
    ∃ t ∈ tokens, (o.token.unbalanced detail).Of t :=
  ⟨o.token, h.mem, rfl, rfl, by simp [Token.cause, Token.unbalanced, h.rendered]⟩

namespace Matching

/-- An opening token keeps the pairing sound. -/
theorem Sound.enter {m : Matching} (h : m.Sound text tokens) {t : Token} (ht : t ∈ tokens)
    (hclosing : t.closing = false) : (m.enter t).Sound text tokens := by
  unfold Matching.enter
  cases hopen : t.rule.openTag? t.attributes with
  | none =>
    have hof : t.refused.Of t := ⟨rfl, rfl, by simp [Token.cause, Token.refused, hclosing, hopen]⟩
    exact ⟨h.stack, h.pairs, List.forall_mem_cons.2 ⟨⟨t, ht, hof⟩, h.anomalies⟩⟩
  | some rendered =>
    exact ⟨List.forall_mem_cons.2 ⟨⟨ht, hclosing, hopen⟩, h.stack⟩, h.pairs, h.anomalies⟩

/-- So does a new pair, if its two tokens have one name. -/
theorem Sound.join {m : Matching} (h : m.Sound text tokens) {o : Opener} (ho : o.Sound tokens)
    {t : Token} (ht : t ∈ tokens) (hclosing : t.closing) (hname : o.token.name = t.name) :
    (join text m o t).Sound text tokens := by
  unfold Matching.join
  split
  · refine ⟨h.stack, h.pairs,
      List.forall_mem_cons.2 ⟨⟨t, ht, ?_⟩, List.forall_mem_cons.2 ⟨?_, ?_⟩⟩⟩
    · exact Token.unbalanced_of_closing hclosing _
    · exact ho.unbalanced _
    · exact h.anomalies
  · rename_i hline
    refine ⟨h.stack, List.forall_mem_cons.2 ⟨⟨ho, ht, hclosing, hname, ?_⟩, h.pairs⟩,
      h.anomalies⟩
    intro hinline hmem
    apply hline
    rw [hinline, decide_eq_true hmem]
    rfl

/-- So does a closing token. -/
theorem Sound.close {m : Matching} (h : m.Sound text tokens) {t : Token} (ht : t ∈ tokens)
    (hclosing : t.closing) : (m.close text t).Sound text tokens := by
  unfold Matching.close
  cases hsearch : m.stack.dropWhile (Opener.differs t.name) with
  | nil =>
    exact ⟨h.stack, h.pairs, List.forall_mem_cons.2
      ⟨⟨t, ht, Token.unbalanced_of_closing hclosing _⟩, h.anomalies⟩⟩
  | cons opener below =>
    have hfound : ∀ o ∈ opener :: below, o.Sound tokens := by
      rw [← hsearch]
      exact fun o ho => h.stack o (List.dropWhile_sublist _ |>.mem ho)
    obtain ⟨hopener, hbelow⟩ := List.forall_mem_cons.1 hfound
    have hskipped : ∀ a ∈ (m.stack.takeWhile (Opener.differs t.name)).map Opener.unclosed,
        ∃ t ∈ tokens, a.Of t := by
      rw [List.forall_mem_map]
      exact fun o ho => (h.stack o (List.takeWhile_sublist _ |>.mem ho)).unbalanced _
    -- after giving up what is above the open token, the pair is joined as any other
    have hgiven : Sound text tokens
        { m with
          stack := below
          anomalies :=
            (m.stack.takeWhile (Opener.differs t.name)).map Opener.unclosed ++ m.anomalies } :=
      ⟨hbelow, h.pairs, List.forall_mem_append.2 ⟨hskipped, h.anomalies⟩⟩
    exact hgiven.join hopener ht hclosing (name_of_dropWhile hsearch)

/-- Every token keeps the pairing sound. -/
theorem Sound.step {m : Matching} (h : m.Sound text tokens) {t : Token} (ht : t ∈ tokens) :
    (m.step text t).Sound text tokens := by
  unfold Matching.step
  split
  · rename_i hclosing
    exact h.close ht hclosing
  · rename_i hclosing
    exact h.enter ht (by simpa using hclosing)

/-- So do any tokens, one after the other. -/
theorem Sound.foldl {todo : List Token} (htodo : todo ⊆ tokens) {m : Matching}
    (h : m.Sound text tokens) : (todo.foldl (Matching.step text) m).Sound text tokens := by
  induction todo generalizing m with
  | nil => exact h
  | cons t todo ih =>
    obtain ⟨ht, htodo⟩ := List.cons_subset.1 htodo
    exact ih htodo (h.step ht)

/-- Whatever the tokens are, what is paired fits together and what is reported has a cause. -/
theorem sound_run (text : List Char) (tokens : List Token) :
    (run text tokens).Sound text tokens := by
  have hempty : ({} : Matching).Sound text tokens := ⟨by simp, by simp, by simp⟩
  have h := hempty.foldl (List.Subset.refl tokens)
  refine ⟨by simp [run, finish], h.pairs, List.forall_mem_append.2 ⟨?_, h.anomalies⟩⟩
  rw [List.forall_mem_map]
  exact fun o ho => (h.stack o ho).unbalanced _

end Matching

end

end SealedPage.Flo
