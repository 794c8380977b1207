import SealedPage.Proofs.Flo.Accounting

/-!
# The loop of the scanner

The scanner reads a text once, character by character, and skips what it jumps over. Here is the
same thing as a loop with a cursor: it searches the next tag from the cursor on, and moves the
cursor behind the tag, behind the span in which the tag begins, or one character on.

* `Cursor.lt_position_of_advance`: whatever the loop meets, the cursor moves on;
* `Cursor.run_eq_some`: so the loop ends, and what it has noted is what the scanner finds;
* `scans_scan`: these are all the tags that neither begin nor end in a span, each of them once.
-/

namespace SealedPage.Flo

/-! ## The next tag -/

/-- The first tag of a text that begins at `position`. -/
def firstTag? (position : Nat) : List Char → Option Occurrence
  | [] => none
  | c :: cs =>
    match Tag.atHead? (c :: cs) with
    | some t => some ⟨position, t⟩
    | none => firstTag? (position + 1) cs

/-- The tag that is found begins in the text. -/
theorem bounds_of_firstTag? {position : Nat} {cs : List Char} {o : Occurrence}
    (h : firstTag? position cs = some o) :
    position ≤ o.start ∧ o.start < position + cs.length := by
  induction cs generalizing position with
  | nil => exact nomatch h
  | cons c cs ih =>
    rw [List.length_cons]
    rw [firstTag?] at h
    split at h
    · obtain rfl := Option.some.inj h
      dsimp only
      omega
    · have := ih h
      omega

/-- The span in which a place is found holds it. -/
theorem SpanIndex.contains_of_containing {index : SpanIndex} {position : Nat} {s : Span}
    (h : index.containing position = some s) : s.start ≤ position ∧ position < s.stop := by
  unfold containing at h
  split at h
  · exact nomatch h
  · exact Span.contains_iff.1 (Option.filter_eq_some_iff.1 h).2

/-! ## The loop -/

/-- Where the loop stands, and what it has noted so far. -/
structure Cursor where
  position : Nat := 0
  done : Scan := {}

namespace Cursor

variable (text : List Char) (index : SpanIndex) (rules : RuleTable)

/-- One round of the loop, if there is another tag. -/
def advance (c : Cursor) : Option Cursor :=
  match firstTag? c.position (text.drop c.position) with
  | none => none
  | some o =>
    match index.containing o.start with
    | some s => some { c with position := s.stop }
    | none =>
      match index.containing (o.stop - 1) with
      | some _ => some { c with position := o.start + 1 }
      | none => some { position := o.stop, done := c.done.push (o.tag.toToken rules o.start) }

/-- Goes round until there is no other tag, and gives what has been noted. There is no answer if
that takes more than `fuel` rounds, the last one included. -/
def run : (fuel : Nat) → Cursor → Option Scan
  | 0, _ => none
  | fuel + 1, c =>
    match c.advance text index rules with
    | none => some c.done
    | some c' => run fuel c'

variable {text index rules}

/-- The cursor moves on, and it has been within the text. -/
theorem lt_position_of_advance {c c' : Cursor} (h : c.advance text index rules = some c') :
    c.position < c'.position ∧ c.position < text.length := by
  unfold advance at h
  split at h
  · exact nomatch h
  · rename_i o ho
    have hbounds := bounds_of_firstTag? ho
    rw [List.length_drop] at hbounds
    have hstop := o.start_lt_stop
    split at h
    · rename_i s hs
      obtain rfl := Option.some.inj h
      have := SpanIndex.contains_of_containing hs
      dsimp only
      omega
    split at h
    · obtain rfl := Option.some.inj h
      dsimp only
      omega
    · obtain rfl := Option.some.inj h
      dsimp only
      omega

end Cursor

/-! ## The loop and the scanner -/

section
variable {text : List Char} {index : SpanIndex} {rules : RuleTable}

/-- Skipped characters are not looked at. -/
theorem scanFrom_drop (done : Scan) (position skip : Nat) (cs : List Char) :
    scanFrom index rules done position skip cs =
      scanFrom index rules done (position + skip) 0 (cs.drop skip) := by
  induction cs generalizing position skip with
  | nil => simp [scanFrom]
  | cons c cs ih =>
    cases skip with
    | zero => rfl
    | succ skip => rw [scanFrom, ih, List.drop_succ_cons, Nat.add_assoc, Nat.add_comm 1]

variable (index rules) in
/-- The scanner passes over everything in front of the first tag. -/
theorem scanFrom_of_firstTag? (done : Scan) {position : Nat} {cs : List Char} {o : Occurrence}
    (h : firstTag? position cs = some o) :
    scanFrom index rules done position 0 cs =
        scanFrom index rules done o.start 0 (cs.drop (o.start - position)) ∧
      Tag.atHead? (cs.drop (o.start - position)) = some o.tag := by
  induction cs generalizing position with
  | nil => exact nomatch h
  | cons c cs ih =>
    rw [firstTag?] at h
    cases hread : Tag.atHead? (c :: cs) with
    | some t =>
      rw [hread] at h
      obtain rfl := Option.some.inj h
      simp [hread]
    | none =>
      rw [hread] at h
      have hsub : o.start - position = o.start - (position + 1) + 1 := by
        have := bounds_of_firstTag? h
        omega
      rw [hsub, List.drop_succ_cons, scanFrom, hread]
      exact ih h

/-- Without a tag there is nothing to note. -/
theorem scanFrom_of_firstTag?_eq_none (done : Scan) {position : Nat} {cs : List Char}
    (h : firstTag? position cs = none) : scanFrom index rules done position 0 cs = done := by
  induction cs generalizing position with
  | nil => rfl
  | cons c cs ih =>
    rw [firstTag?] at h
    cases hread : Tag.atHead? (c :: cs) with
    | some t =>
      rw [hread] at h
      exact nomatch h
    | none =>
      rw [hread] at h
      rw [scanFrom, hread]
      exact ih h

variable (index rules) in
/-- Skipping characters is going on at the place behind them. -/
theorem scanFrom_jump (done : Scan) {start stop : Nat} (hlt : start < stop) {c : Char}
    {cs : List Char} (hdrop : text.drop start = c :: cs) :
    scanFrom index rules done (start + 1) (stop - start - 1) cs =
      scanFrom index rules done stop 0 (text.drop stop) := by
  have hcs : cs = text.drop (start + 1) := by
    rw [← List.drop_drop, hdrop]
    rfl
  have hstop : start + 1 + (stop - start - 1) = stop := by omega
  rw [scanFrom_drop, hcs, List.drop_drop, hstop]

/-- Where the scanner goes on after it has met a tag. -/
theorem scanFrom_of_tag (done : Scan) {o : Occurrence}
    (hread : Tag.atHead? (text.drop o.start) = some o.tag) :
    scanFrom index rules done o.start 0 (text.drop o.start) =
      match index.containing o.start with
      | some s => scanFrom index rules done s.stop 0 (text.drop s.stop)
      | none =>
        match index.containing (o.stop - 1) with
        | some _ => scanFrom index rules done (o.start + 1) 0 (text.drop (o.start + 1))
        | none =>
          scanFrom index rules (done.push (o.tag.toToken rules o.start)) o.stop 0
            (text.drop o.stop) := by
  cases hdrop : text.drop o.start with
  | nil =>
    rw [hdrop] at hread
    exact nomatch hread
  | cons c cs =>
    rw [hdrop] at hread
    rw [scanFrom, hread]
    dsimp only
    cases hs : index.containing o.start with
    | some s => exact scanFrom_jump index rules _ (SpanIndex.contains_of_containing hs).2 hdrop
    | none =>
      dsimp only
      rw [← Occurrence.stop]
      cases index.containing (o.stop - 1) with
      | some s =>
        have hjump := scanFrom_jump index rules done (Nat.lt_add_one o.start)
          hdrop
        rwa [Nat.add_sub_cancel_left, Nat.sub_self] at hjump
      | none =>
        have hlength : o.tag.length - 1 = o.stop - o.start - 1 := by
          rw [Occurrence.stop, Nat.add_sub_cancel_left]
        dsimp only
        rw [hlength]
        exact scanFrom_jump index rules _ o.start_lt_stop hdrop

namespace Cursor

/-- What the scanner makes of the text from the cursor on. -/
def rest (text : List Char) (index : SpanIndex) (rules : RuleTable) (c : Cursor) : Scan :=
  scanFrom index rules c.done c.position 0 (text.drop c.position)

/-- Where no tag follows, the scan is done. -/
theorem rest_of_advance_eq_none {c : Cursor} (h : c.advance text index rules = none) :
    c.rest text index rules = c.done := by
  unfold advance at h
  split at h
  · rename_i hnone
    exact scanFrom_of_firstTag?_eq_none _ hnone
  · split at h
    · exact nomatch h
    · split at h <;> exact nomatch h

/-- A round of the loop leaves to the scanner what it would have made anyway. -/
theorem rest_of_advance {c c' : Cursor} (h : c.advance text index rules = some c') :
    c'.rest text index rules = c.rest text index rules := by
  unfold advance at h
  split at h
  · exact nomatch h
  · rename_i o ho
    obtain ⟨hscan, hread⟩ := scanFrom_of_firstTag? index rules c.done ho
    rw [List.drop_drop, Nat.add_sub_cancel' (bounds_of_firstTag? ho).1] at hscan hread
    unfold rest
    rw [hscan, scanFrom_of_tag _ hread]
    split at h
    · obtain rfl := Option.some.inj h
      rfl
    split at h
    · obtain rfl := Option.some.inj h
      rfl
    · obtain rfl := Option.some.inj h
      rfl

/-- The loop ends before it has gone round more often than there are characters left, and it has
noted what the scanner finds. -/
theorem run_eq_some {fuel : Nat} {c : Cursor} (hfuel : text.length - c.position < fuel) :
    run text index rules fuel c = some (c.rest text index rules) := by
  induction fuel generalizing c with
  | zero => exact absurd hfuel (Nat.not_lt_zero _)
  | succ fuel ih =>
    rw [run]
    cases hadvance : c.advance text index rules with
    | none => rw [rest_of_advance_eq_none hadvance]
    | some c' =>
      have := lt_position_of_advance hadvance
      rw [← rest_of_advance hadvance]
      exact ih (by omega)

end Cursor

end

/-! ## All tags -/

/-- Two tags of a text are one, or one of them stands before the other. -/
theorem Occurrence.In.eq_or_disjoint {text : List Char} {o o' : Occurrence} (h : o.In text)
    (h' : o'.In text) : o = o' ∨ o.stop ≤ o'.start ∨ o'.stop ≤ o.start := by
  have hnone : Separated [] := ⟨by simp, List.Pairwise.nil⟩
  exact Eligible.eq_or_disjoint hnone ⟨h, by simp, by simp⟩ ⟨h', by simp, by simp⟩

/-- The scanner makes a token of a tag, or it reports the tag, and not both. -/
theorem Occurrence.token?_or_anomaly? (rules : RuleTable) (o : Occurrence) :
    (∃ t, o.token? rules = some t ∧ t.Of rules o ∧ o.anomaly? rules = none) ∨
      ∃ a, o.anomaly? rules = some a ∧ a.Reports rules o ∧ o.token? rules = none := by
  cases hread : o.tag.toToken rules o.start with
  | ok t =>
    have ht : o.token? rules = some t := by simp [token?, hread]
    exact Or.inl ⟨t, ht, of_token? ht, by simp [anomaly?, hread]⟩
  | error a =>
    have ha : o.anomaly? rules = some a := by simp [anomaly?, hread]
    exact Or.inr ⟨a, ha, reports_of_anomaly? ha, by simp [token?, hread]⟩

/-- What the scanner finds in a text with bound values in the given spans. -/
structure Scans (rules : RuleTable) (text : List Char) (spans : List Span)
    (found : List Token × List Anomaly) : Prop where
  /-- At most one tag begins at a place, in one way. -/
  unique : ∀ o o' : Occurrence, o.In text → o'.In text → o.start = o'.start → o = o'
  /-- Two tags do not overlap. -/
  disjoint : ∀ o o' : Occurrence, o.In text → o'.In text →
    o = o' ∨ o.stop ≤ o'.start ∨ o'.stop ≤ o.start
  /-- Every tag that neither begins nor ends in a span is taken once and in order. -/
  taken : ∃ os : List Occurrence, (∀ o, o ∈ os ↔ Eligible text spans o) ∧
    (os.Pairwise fun o o' => o.stop ≤ o'.start) ∧
    found = (os.filterMap fun o => o.token? rules, os.filterMap fun o => o.anomaly? rules)
  /-- It becomes a token or an anomaly, and not both. -/
  either : ∀ o : Occurrence,
    (∃ t, o.token? rules = some t ∧ t.Of rules o ∧ o.anomaly? rules = none) ∨
      ∃ a, o.anomaly? rules = some a ∧ a.Reports rules o ∧ o.token? rules = none
  /-- The loop moves on in every round. -/
  forward : ∀ c c' : Cursor, c.advance text (SpanIndex.ofList spans) rules = some c' →
    c.position < c'.position
  /-- It ends after at most as many rounds as there are characters, and one. -/
  ends : ∃ s, Cursor.run text (SpanIndex.ofList spans) rules (text.length + 1) {} = some s ∧
    found = (s.tokens.reverse, s.anomalies.reverse)

/-- Whatever the text and the rules are, the scanner finds all tags that the author wrote and no
others. -/
theorem scans_scan {spans : List Span} (hspans : Separated spans) (rules : RuleTable)
    (text : List Char) : Scans rules text spans (scan (SpanIndex.ofList spans) rules text) where
  unique _ _ h h' hstart := h.eq h' hstart
  disjoint _ _ h h' := h.eq_or_disjoint h'
  taken := ⟨eligibleTags text spans, fun _ => mem_eligibleTags_iff hspans,
    pairwise_eligibleTags text spans, scan_eq hspans rules text⟩
  either := Occurrence.token?_or_anomaly? rules
  forward _ _ h := (Cursor.lt_position_of_advance h).1
  ends := ⟨_, Cursor.run_eq_some (Nat.lt_succ_self _), rfl⟩

/-- Four tags in a row. -/
def tagRow : List Char :=
  "<flo:nav><flo:nav><flo:nav><flo:x>".toList

/-- Of the tags in the row the first begins in a value, next to which stands another one, and the
second ends in a value. -/
def rowSpans : List Span :=
  [⟨0, 4⟩, ⟨4, 6⟩, ⟨17, 18⟩]

/-- Of the tags in the row the last two are found. -/
theorem scans_tagRow :
    Separated rowSpans ∧ Scans RuleTable.standard tagRow rowSpans
      ([⟨18, 27, "nav", false, ⟨"nav", "nav", "flo-nav", false, false, false⟩, []⟩],
        [⟨.unknownTag, "x", 27, none⟩]) := by
  have hspans : Separated rowSpans := ⟨by decide, by simp [rowSpans]⟩
  have hfound : scan (SpanIndex.ofList rowSpans) RuleTable.standard tagRow =
      ([⟨18, 27, "nav", false, ⟨"nav", "nav", "flo-nav", false, false, false⟩, []⟩],
        [⟨.unknownTag, "x", 27, none⟩]) := by
    decide +kernel
  have hscans := scans_scan hspans RuleTable.standard tagRow
  rw [hfound] at hscans
  exact ⟨hspans, hscans⟩

end SealedPage.Flo
