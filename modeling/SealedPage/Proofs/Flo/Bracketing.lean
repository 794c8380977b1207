import SealedPage.Proofs.Flo.PairingInvariants

/-!
# How pairs nest

Pairing leaves brackets: the tokens that end up in pairs, taken in order, are a word in which each
pair encloses whole pairs only, `bracketed_run`. In such a word two pairs stand one behind the
other, or one of them within the other, `Bracketed.pairwise_nests`.
-/

namespace SealedPage.Flo

open Text

/-! ## Words of pairs -/

/-- The two tokens of a pair. -/
def Pair.tokens (p : Pair) : List Token :=
  [p.opener.token, p.closer]

/-- A list of tokens that consists of pairs, in which what stands between the two tokens of a pair
consists of pairs as well. -/
inductive Bracketed : List Token → List Pair → Prop where
  | nil : Bracketed [] []
  | pair {p : Pair} {inner rest : List Token} {ps qs : List Pair} (hinner : Bracketed inner ps)
    (hrest : Bracketed rest qs) :
    Bracketed (p.opener.token :: (inner ++ p.closer :: rest)) (p :: (ps ++ qs))

namespace Bracketed

variable {ts us : List Token} {ps qs : List Pair}

theorem append (h : Bracketed ts ps) (h' : Bracketed us qs) :
    Bracketed (ts ++ us) (ps ++ qs) := by
  induction h with
  | nil => exact h'
  | @pair p inner rest ps' qs' hinner _ _ ih =>
    rw [List.cons_append, List.append_assoc, List.cons_append, List.cons_append,
      List.append_assoc ps']
    exact hinner.pair ih

/-- The tokens are those of the pairs. -/
theorem perm_tokens (h : Bracketed ts ps) : (ps.flatMap Pair.tokens).Perm ts := by
  induction h with
  | nil => exact List.Perm.refl _
  | @pair p inner rest ps qs _ _ ihinner ihrest =>
    rw [List.flatMap_cons, List.flatMap_append]
    -- the closing token goes behind what stands between the two
    refine List.Perm.cons _ (List.Perm.trans ?_ List.perm_middle.symm)
    exact (ihinner.append ihrest).cons _

/-- The opener of a pair is one of the tokens, and so is its closer. -/
theorem opener_mem (h : Bracketed ts ps) {p : Pair} (hp : p ∈ ps) : p.opener.token ∈ ts :=
  h.perm_tokens.subset (List.mem_flatMap.2 ⟨p, hp, List.mem_cons_self⟩)

theorem closer_mem (h : Bracketed ts ps) {p : Pair} (hp : p ∈ ps) : p.closer ∈ ts :=
  h.perm_tokens.subset
    (List.mem_flatMap.2 ⟨p, hp, List.mem_cons_of_mem _ List.mem_cons_self⟩)

end Bracketed

/-! ## Pairs in a text -/

namespace Pair

/-- A pair stands in front of another one. -/
def Before (p q : Pair) : Prop :=
  p.closer.stop ≤ q.opener.token.start

/-- A pair stands between the two tokens of another one. -/
def Within (p q : Pair) : Prop :=
  q.opener.token.stop ≤ p.opener.token.start ∧ p.closer.stop ≤ q.closer.start

/-- Two pairs do not cross. -/
def Nests (p q : Pair) : Prop :=
  p.Before q ∨ q.Before p ∨ p.Within q ∨ q.Within p

end Pair

namespace Bracketed

variable {ts : List Token} {ps : List Pair}

/-- The opening token of a pair stands in front of the closing one. -/
theorem stop_le_start (h : Bracketed ts ps) (hts : ts.Pairwise fun t t' => t.stop ≤ t'.start)
    {p : Pair} (hp : p ∈ ps) : p.opener.token.stop ≤ p.closer.start := by
  induction h with
  | nil => simp at hp
  | @pair q inner rest ps qs _ _ ihinner ihrest =>
    rw [List.pairwise_cons, List.pairwise_append, List.pairwise_cons] at hts
    obtain ⟨hopener, hinner, ⟨-, hrest⟩, -⟩ := hts
    rw [List.mem_cons, List.mem_append] at hp
    rcases hp with rfl | hp | hp
    · exact hopener _ (List.mem_append_right _ List.mem_cons_self)
    · exact ihinner hinner hp
    · exact ihrest hrest hp

/-- In a list of tokens that stand in order no two pairs cross. -/
theorem pairwise_nests (h : Bracketed ts ps)
    (hts : ts.Pairwise fun t t' => t.stop ≤ t'.start) : ps.Pairwise Pair.Nests := by
  induction h with
  | nil => exact List.Pairwise.nil
  | @pair p inner rest ps qs hps hqs ihinner ihrest =>
    rw [List.pairwise_cons, List.pairwise_append, List.pairwise_cons] at hts
    obtain ⟨hopener, hinner, ⟨hcloser, hrest⟩, hacross⟩ := hts
    refine List.pairwise_cons.2 ⟨?_, List.pairwise_append.2
      ⟨ihinner hinner, ihrest hrest, ?_⟩⟩
    · intro q hq
      rcases List.mem_append.1 hq with hq | hq
      -- a pair from between the two tokens stands within the first pair
      · have hafter := hopener _ (List.mem_append_left _ (hps.opener_mem hq))
        have hbefore := hacross _ (hps.closer_mem hq) _ List.mem_cons_self
        exact Or.inr (Or.inr (Or.inr ⟨hafter, hbefore⟩))
      -- and one from behind them behind it
      · exact Or.inl (hcloser _ (hqs.opener_mem hq))
    · intro q hq q' hq'
      exact Or.inl
        (hacross _ (hps.closer_mem hq) _ (List.mem_cons_of_mem _ (hqs.opener_mem hq')))

end Bracketed

/-! ## What stands on the stack -/

/-- A list of tokens that consists of open ones, those on the stack, and of pairs; no pair reaches
over an open token. -/
inductive Layered : List Opener → List Token → List Pair → Prop where
  | bottom {ts : List Token} {ps : List Pair} (h : Bracketed ts ps) : Layered [] ts ps
  | enter {o : Opener} {stack : List Opener} {ts us : List Token} {ps qs : List Pair}
    (h : Layered stack ts ps) (hinner : Bracketed us qs) :
    Layered (o :: stack) (ts ++ o.token :: us) (ps ++ qs)

namespace Layered

variable {stack skipped : List Opener} {ts us : List Token} {ps qs : List Pair}

theorem append (h : Layered stack ts ps) (h' : Bracketed us qs) :
    Layered stack (ts ++ us) (ps ++ qs) := by
  cases h with
  | bottom h => exact .bottom (h.append h')
  | enter h hinner =>
    rw [List.append_assoc, List.cons_append, List.append_assoc]
    exact h.enter (hinner.append h')

/-- Without the tokens that are given up, the pairs above them belong to what is below. -/
theorem drop (h : Layered (skipped ++ stack) ts ps) :
    ∃ ts', ts'.Sublist ts ∧ Layered stack ts' ps := by
  induction skipped generalizing ts ps with
  | nil => exact ⟨ts, List.Sublist.refl _, h⟩
  | cons o skipped ih =>
    cases h with
    | enter h hinner =>
      obtain ⟨ts', hsub, h'⟩ := ih (h.append hinner)
      exact ⟨ts', hsub.trans ((List.sublist_cons_self _ _).append_left _), h'⟩

/-- A closing token makes a pair of the innermost open one and itself. -/
theorem close {o : Opener} (h : Layered (o :: stack) ts ps) (t : Token) :
    ∃ qs, qs.Perm (⟨o, t⟩ :: ps) ∧ Layered stack (ts ++ [t]) qs := by
  cases h with
  | @enter _ _ ts us ps qs h hinner =>
    refine ⟨ps ++ ⟨o, t⟩ :: qs, List.perm_middle, ?_⟩
    have hpair : Bracketed (o.token :: (us ++ [t])) (⟨o, t⟩ :: qs) := by
      have := Bracketed.pair (p := ⟨o, t⟩) hinner .nil
      rwa [List.append_nil] at this
    rw [List.append_assoc, List.cons_append]
    exact h.append hpair

end Layered

/-! ## What pairing keeps -/

/-- The pairs found so far are brackets around the open tokens, in the order in which the tokens
were taken. -/
structure Matching.Brackets (m : Matching) (taken ts : List Token) (ps : List Pair) : Prop where
  layered : Layered m.stack ts ps
  pairs : ps.Perm m.pairs
  taken : ts.Sublist taken

namespace Matching

variable {m : Matching} {taken ts : List Token} {ps : List Pair}

/-- A token that is only reported changes nothing. -/
theorem Brackets.report (h : m.Brackets taken ts ps) (t : Token) (as : List Anomaly) :
    Brackets { m with anomalies := as } (taken ++ [t]) ts ps :=
  ⟨h.layered, h.pairs, h.taken.trans (List.sublist_append_left _ _)⟩

/-- An opening token leaves a new gap open. -/
theorem Brackets.enter (h : m.Brackets taken ts ps) (t : Token) :
    ∃ ts, (m.enter t).Brackets (taken ++ [t]) ts ps := by
  unfold Matching.enter
  cases t.rule.openTag? t.attributes with
  | none => exact ⟨ts, h.report t _⟩
  | some rendered =>
    have hlayered := h.layered.enter (o := ⟨t, rendered⟩) .nil
    rw [List.append_nil] at hlayered
    exact ⟨ts ++ [t], hlayered, h.pairs, h.taken.append_right _⟩

/-- A closing token fills a gap, or leaves the brackets as they are. -/
theorem Brackets.close (h : m.Brackets taken ts ps) (text : List Char) (t : Token) :
    ∃ ts ps, (m.close text t).Brackets (taken ++ [t]) ts ps := by
  unfold Matching.close
  cases hsearch : m.stack.dropWhile (Opener.differs t.name) with
  | nil => exact ⟨ts, ps, h.report t _⟩
  | cons opener below =>
    have hlayered := h.layered
    rw [(exists_append_of_dropWhile hsearch).1] at hlayered
    obtain ⟨ts', hsub, hlayered⟩ := hlayered.drop
    have htaken := hsub.trans h.taken
    dsimp only
    unfold Matching.join
    split
    -- a pair on different lines is given up like the tokens above it
    · obtain ⟨us, hsub', hgiven⟩ := (show Layered ([opener] ++ below) ts' ps from hlayered).drop
      exact ⟨us, ps, hgiven, h.pairs,
        (hsub'.trans htaken).trans (List.sublist_append_left _ _)⟩
    · obtain ⟨qs, hqs, hpaired⟩ := hlayered.close t
      exact ⟨ts' ++ [t], qs, hpaired, hqs.trans (h.pairs.cons _), htaken.append_right _⟩

/-- Any token leaves pairs that are brackets. -/
theorem Brackets.step (h : m.Brackets taken ts ps) (text : List Char) (t : Token) :
    ∃ ts ps, (m.step text t).Brackets (taken ++ [t]) ts ps := by
  unfold Matching.step
  split
  · exact h.close text t
  · obtain ⟨ts, h⟩ := h.enter t
    exact ⟨ts, ps, h⟩

/-- So do any tokens, one after the other. -/
theorem Brackets.foldl (h : m.Brackets taken ts ps) (text : List Char) (tokens : List Token) :
    ∃ ts ps, (tokens.foldl (Matching.step text) m).Brackets (taken ++ tokens) ts ps := by
  induction tokens generalizing m taken ts ps with
  | nil =>
    rw [List.append_nil]
    exact ⟨ts, ps, h⟩
  | cons t tokens ih =>
    obtain ⟨ts, ps, h⟩ := h.step text t
    have := ih h
    rwa [List.append_assoc] at this

/-- The pairs of a list of tokens, in some order, are brackets, and their tokens stand in the order
of the list. -/
theorem bracketed_run (text : List Char) (tokens : List Token) :
    ∃ ts ps, Bracketed ts ps ∧ ps.Perm (run text tokens).pairs ∧ ts.Sublist tokens := by
  have hempty : ({} : Matching).Brackets [] [] [] :=
    ⟨.bottom .nil, List.Perm.refl _, List.Sublist.refl _⟩
  obtain ⟨ts, ps, h⟩ := hempty.foldl text tokens
  -- what is still open is given up
  have hlayered := h.layered
  rw [← List.append_nil (tokens.foldl (Matching.step text) {}).stack] at hlayered
  obtain ⟨us, hsub, hlayered⟩ := hlayered.drop
  cases hlayered with
  | bottom hbracketed => exact ⟨us, ps, hbracketed, h.pairs, hsub.trans h.taken⟩

end Matching

/-! ## Tokens next to each other -/

namespace Matching

/-- Pairs that were found are kept. -/
theorem pairs_isSuffix_step (text : List Char) (m : Matching) (t : Token) :
    m.pairs <:+ (m.step text t).pairs := by
  unfold step close enter join
  split
  · split
    · exact List.suffix_rfl
    · dsimp only
      split
      · exact List.suffix_rfl
      · exact List.suffix_cons _ _
  · split <;> exact List.suffix_rfl

/-- Pairs that were made stay. -/
theorem pairs_isSuffix_foldl (text : List Char) (tokens : List Token) (m : Matching) :
    m.pairs <:+ (tokens.foldl (step text) m).pairs := by
  induction tokens generalizing m with
  | nil => exact List.suffix_rfl
  | cons t tokens ih => exact (pairs_isSuffix_step text m t).trans (ih _)

/-- An opening token that its rule takes and a closing one of its name right behind it are paired,
unless they are inline and on different lines. -/
theorem mem_pairs_run {text : List Char} {front back : List Token} {t t' : Token}
    {rendered : String} (hopening : t.closing = false)
    (hrendered : t.rule.openTag? t.attributes = some rendered) (hclosing : t'.closing)
    (hname : t.name = t'.name)
    (hline : t'.rule.inline → '\n' ∉ between text t.stop t'.start) :
    ⟨⟨t, rendered⟩, t'⟩ ∈ (run text (front ++ t :: t' :: back)).pairs := by
  have hfound : Opener.differs t'.name ⟨t, rendered⟩ = false := by
    simp [Opener.differs, hname]
  have hnot : (t'.rule.inline && decide ('\n' ∈ between text t.stop t'.start)) = false := by
    rw [Bool.and_eq_false_imp]
    exact fun hinline => decide_eq_false (hline hinline)
  have hpaired : ∀ m : Matching, ⟨⟨t, rendered⟩, t'⟩ ∈ ((m.step text t).step text t').pairs := by
    intro m
    have henter : m.step text t = { m with stack := ⟨t, rendered⟩ :: m.stack } := by
      simp only [step, hopening, enter, hrendered]
      rfl
    rw [henter, step, if_pos hclosing, close]
    simp only [List.dropWhile_cons, List.takeWhile_cons, hfound]
    simp [join, hnot]
  unfold run finish
  rw [List.foldl_append, List.foldl_cons, List.foldl_cons]
  exact (pairs_isSuffix_foldl text back _).subset (hpaired _)

end Matching

end SealedPage.Flo
