import SealedPage.Proofs.Render.Abort

/-!
# What observers see of a render

A render sends one event for its beginning, some for each stage that was passed, and one for its
end, `sends_run`. Which stages these are depends on the page alone, `Course`, and so do the result
and the page that is left, whoever watches the render and whatever its name is, `run_congr`.
-/

namespace SealedPage.Render

open Text

variable {σ τ : Type}

/-! ## Taking events in turn -/

/-- The state of an observer that was sent events in turn. -/
def Observer.takeAll (o : Observer σ) (q : σ) (es : List Event) : σ :=
  es.foldl (fun q e => (o.emit q e).2) q

/-- One scene comes from another by sending events: they were noted in turn, and in turn the
observer was given them. -/
structure Sends (o : Observer σ) (s t : Scene σ) (es : List Event) : Prop where
  sent : t.sent.toList = s.sent.toList ++ es
  observer : t.observer = o.takeAll s.observer es

section
variable (o : Observer σ)

theorem Observer.takeAll_append (q : σ) (es es' : List Event) :
    o.takeAll q (es ++ es') = o.takeAll (o.takeAll q es) es' :=
  List.foldl_append

theorem Sends.refl (s : Scene σ) : Sends o s s [] where
  sent := (List.append_nil _).symm
  observer := rfl

variable {o} in
/-- What two parts of a run send is sent one after the other. -/
theorem Sends.trans {s t u : Scene σ} {es es' : List Event} (h : Sends o s t es)
    (h' : Sends o t u es') : Sends o s u (es ++ es') where
  sent := by rw [h'.sent, h.sent, List.append_assoc]
  observer := by rw [h'.observer, h.observer, Observer.takeAll_append]

variable {o} in
/-- What the page is does not matter to the events. -/
theorem Sends.withPage {s t : Scene σ} {es : List Event} (h : Sends o s t es)
    (page : Html.Document) : Sends o s { t with page } es where
  sent := h.sent
  observer := h.observer

theorem sends_send (s : Scene σ) (e : Event) : Sends o s (s.send o e) [e] := by
  unfold Scene.send
  dsimp only
  -- whether the observer takes the event shows in the log only
  split <;> exact ⟨Array.toList_push, rfl⟩

theorem sends_sendAll (s : Scene σ) (es : List Event) : Sends o s (s.sendAll o es) es := by
  unfold Scene.sendAll
  induction es generalizing s with
  | nil => exact .refl o s
  | cons e es ih => exact (sends_send o s e).trans (ih (s.send o e))

theorem sends_placeholder (s : Scene σ) (renderId : String) (k : FailureKind) :
    Sends o s (s.placeholder renderId k) [] := by
  unfold Scene.placeholder
  split <;> exact ⟨(List.append_nil _).symm, rfl⟩

end

/-! ## The events of a render -/

/-- The events of a page whose signature is good. -/
def gateEvents (renderId : String) : List Event :=
  [⟨renderId, .transportRead, none⟩, ⟨renderId, .signatureVerified, none⟩]

/-- The events of a render that passes all its stages, between its beginning and its end. -/
def stageEvents (renderId : String) (f : Flo.Fragment) : List Event :=
  gateEvents renderId ++ compilationEvents renderId f ++ [⟨renderId, .documentMaterialized, none⟩]

/-- What holds of every event of a stage, of an anomaly and of a compilation holds of all of
them. -/
theorem forall_mem_stageEvents {P : Event → Prop} {renderId : String} {f : Flo.Fragment}
    (hstage : ∀ k : EventKind, k.isTerminal = false → P ⟨renderId, k, none⟩)
    (hanomaly : ∀ a ∈ f.anomalies, P (.ofAnomaly renderId a))
    (hcompiled : P (.compiled renderId f.anomalies.length)) :
    ∀ e ∈ stageEvents renderId f, P e := by
  intro e he
  simp only [stageEvents, gateEvents, compilationEvents, List.mem_append, List.mem_cons,
    List.mem_map, List.not_mem_nil, or_false] at he
  rcases he with ((rfl | rfl) | ⟨a, ha, rfl⟩ | rfl) | rfl
  · exact hstage _ rfl
  · exact hstage _ rfl
  · exact hanomaly a ha
  · exact hcompiled
  · exact hstage _ rfl

/-- The event of an outcome is a last one. -/
theorem isTerminal_ofOutcome (o : Outcome) (document : String) :
    (Event.ofOutcome o document).isTerminal := by
  unfold Event.ofOutcome Event.isTerminal
  dsimp only
  split <;> rfl

/-- The events of a render, of which `es` are those of the stages: one for its beginning stands in
front of them, and one for its end behind. -/
def runEvents (renderId : String) (es : List Event) (outcome : Outcome) (document : String) :
    List Event :=
  ⟨renderId, .renderStarted, none⟩ :: es ++ [.ofOutcome outcome document]

/-- A session finds the signature of the payload of a page good; `bytes` are the payload. -/
def Verified (c : Config) (v : Verifier) (page : Html.Document) (bytes : Bytes) : Prop :=
  ∃ t, Transports c page t ∧ authenticate v t = .ok bytes

/-- A page is verified for one content only. -/
theorem Verified.eq {c : Config} {v : Verifier} {page : Html.Document} {bytes bytes' : Bytes}
    (h : Verified c v page bytes) (h' : Verified c v page bytes') : bytes = bytes' := by
  obtain ⟨t, ht, hbytes⟩ := h
  obtain ⟨t', ht', hbytes'⟩ := h'
  obtain rfl := ht.eq ht'
  rw [hbytes] at hbytes'
  exact Except.ok.inj hbytes'

/-- The events of the stages that a page passes, and the fragment that it is rendered as if it
passes all of them. -/
inductive Course (c : Config) (v : Verifier) (page : Html.Document) (renderId : String) :
    List Event → Option Flo.Fragment → Prop where
  | unread (h : ¬ ∃ t, Transports c page t) : Course c v page renderId [] none
  | unverified {t : Triple} (ht : Transports c page t) (h : ¬ ∃ bytes, Verified c v page bytes) :
    Course c v page renderId [⟨renderId, .transportRead, none⟩] none
  | unspelled {bytes : Bytes} (hbytes : Verified c v page bytes)
    (h : ¬ ∃ source, Utf8.ofString source = bytes) :
    Course c v page renderId (gateEvents renderId) none
  | untaken {source : String} (hsource : Verified c v page (Utf8.ofString source))
    (h : ¬ ∃ nodes, Takes page (Flo.compile source c.bindings).html nodes) :
    Course c v page renderId
      (gateEvents renderId ++ compilationEvents renderId (Flo.compile source c.bindings)) none
  | passed {source : String} {nodes : List Html.Node}
    (hsource : Verified c v page (Utf8.ofString source))
    (hnodes : Takes page (Flo.compile source c.bindings).html nodes) :
    Course c v page renderId (stageEvents renderId (Flo.compile source c.bindings))
      (some (Flo.compile source c.bindings))

/-- A page has one course. -/
theorem Course.unique {c : Config} {v : Verifier} {page : Html.Document} {renderId : String}
    {es es' : List Event} {f? f?' : Option Flo.Fragment} (h : Course c v page renderId es f?)
    (h' : Course c v page renderId es' f?') : es = es' ∧ f? = f?' := by
  have hread : ∀ {bytes}, Verified c v page bytes → ∃ t, Transports c page t :=
    fun ⟨t, ht, _⟩ => ⟨t, ht⟩
  have hbytes : ∀ {bytes bytes'}, Verified c v page bytes → Verified c v page bytes' →
      bytes = bytes' :=
    Verified.eq
  have hsource : ∀ {source source'}, Verified c v page (Utf8.ofString source) →
      Verified c v page (Utf8.ofString source') → source = source' :=
    fun h h' => Utf8.eq_of_ofString_eq (h.eq h')
  -- if one course stops at a stage, the other one cannot pass it: both work on the same there
  cases h <;> cases h' <;> grind

section
variable (o : Observer σ) (c : Config) (v : Verifier)

/-- The stages send the events of the course of their page. They have an outcome if and only if the
page passes all of them. -/
theorem sends_attempt {renderId : String} (hid : renderId ≠ "") (s : Scene σ) :
    ∃ es f?, Course c v s.page renderId es f? ∧
      Sends o s (attempt o c v renderId s).2 es ∧
      match f? with
      | some f => (attempt o c v renderId s).1 = .ok ⟨renderId, .rendered f.html f.anomalies⟩
      | none => ∃ abort, (attempt o c v renderId s).1 = .error abort := by
  have hread := sends_send o s ⟨renderId, .transportRead, none⟩
  have hgate := hread.trans (sends_send o (s.send o ⟨renderId, .transportRead, none⟩)
    ⟨renderId, .signatureVerified, none⟩)
  by_cases ht : ¬ ∃ t, Transports c s.page t
  · obtain ⟨cause, hcause, -⟩ := readTriple_of_not ht
    refine ⟨[], none, .unread ht, ?_⟩
    unfold attempt
    rw [hcause]
    exact ⟨.refl o s, _, rfl⟩
  obtain ⟨t, ht⟩ := Classical.not_not.1 ht
  cases hbytes : authenticate v t with
  | error abort =>
    refine ⟨_, none, .unverified ht ?_, ?_⟩
    · rintro ⟨bytes, t', ht', hbytes'⟩
      obtain rfl := ht.eq ht'
      rw [hbytes] at hbytes'
      cases hbytes'
    · unfold attempt
      rw [readTriple_of_transports ht]
      dsimp only
      rw [hbytes]
      exact ⟨hread, _, rfl⟩
  | ok bytes =>
    have hverified : Verified c v s.page bytes := ⟨t, ht, hbytes⟩
    by_cases hsource : ¬ ∃ source, Utf8.ofString source = bytes
    · obtain ⟨cause, hcause, -⟩ := decodeSource_of_not hsource
      refine ⟨_, none, .unspelled hverified hsource, ?_⟩
      unfold attempt
      rw [readTriple_of_transports ht]
      dsimp only
      rw [hbytes]
      dsimp only
      rw [hcause]
      exact ⟨hgate, _, rfl⟩
    obtain ⟨source, rfl⟩ := Classical.not_not.1 hsource
    have hcompiled := hgate.trans (sends_sendAll o _
      (compilationEvents renderId (Flo.compile source c.bindings)))
    by_cases hnodes : ¬ ∃ nodes, Takes s.page (Flo.compile source c.bindings).html nodes
    · obtain ⟨cause, hcause, -⟩ := materialize_of_not hnodes c.note
      refine ⟨_, none, .untaken hverified hnodes, ?_⟩
      unfold attempt
      rw [readTriple_of_transports ht]
      dsimp only
      rw [hbytes]
      dsimp only
      rw [decodeSource_of_ofString rfl]
      dsimp only
      rw [page_sendAll, page_send, page_send, hcause]
      exact ⟨hcompiled, _, rfl⟩
    · obtain ⟨nodes, hnodes⟩ := Classical.not_not.1 hnodes
      obtain ⟨page', hpage', -⟩ := materialize_of_takes hnodes c.note
      refine ⟨_, some _, .passed hverified hnodes, ?_⟩
      unfold attempt
      rw [readTriple_of_transports ht]
      dsimp only
      rw [hbytes]
      dsimp only
      rw [decodeSource_of_ofString rfl]
      dsimp only
      rw [page_sendAll, page_send, page_send, hpage']
      dsimp only
      rw [make_of_ne_empty hid]
      exact ⟨(hcompiled.withPage page').trans (sends_send o _ _), rfl⟩

variable {c v} {renderId : String} {s t : Scene σ} {outcome : Outcome}

/-- A render ends with the outcome of its stages, or with that of the abort. Either way it sends one
more event. -/
theorem of_run_eq_ok (h : run o c v renderId s = (.ok outcome, t)) :
    ∃ result u, attempt o c v renderId (s.send o ⟨renderId, .renderStarted, none⟩) = (result, u) ∧
      Sends o u t [.ofOutcome outcome t.page.write] ∧
      match result with
      | .ok outcome' => outcome = outcome' ∧ t.page = u.page
      | .error abort => outcome = ⟨renderId, .aborted abort.kind⟩ ∧
          t.page = abortedPage u.page abort.kind.state := by
  unfold run at h
  split at h
  · rename_i outcome' u hattempt
    obtain ⟨hresult, rfl⟩ := Prod.mk.inj h
    obtain rfl := Except.ok.inj hresult
    rw [page_send]
    exact ⟨_, u, hattempt, sends_send o u _, rfl, rfl⟩
  · rename_i abort u hattempt
    dsimp only at h
    split at h
    · cases h
    · rename_i outcome' hmake
      obtain ⟨hresult, rfl⟩ := Prod.mk.inj h
      obtain rfl := Except.ok.inj hresult
      have hnoted : Sends o u (u.note (abort.record renderId)) [] :=
        ⟨(List.append_nil _).symm, rfl⟩
      refine ⟨_, u, hattempt, ?_, eq_of_make hmake, ?_⟩
      · rw [page_send]
        exact (hnoted.trans (sends_placeholder o _ _ _)).trans (sends_send o _ _)
      · rw [page_send, page_placeholder_eq]
        rfl

/-- A render with an outcome sends the event of the beginning, those of the course of its page, and
the event of the end. It is the fragment of that course that is rendered, if there is one. -/
theorem sends_run (hid : renderId ≠ "") (h : run o c v renderId s = (.ok outcome, t)) :
    ∃ es f?, Course c v s.page renderId es f? ∧
      Sends o s t (runEvents renderId es outcome t.page.write) ∧
      outcome.renderId = renderId ∧
      match f? with
      | some f => outcome.result = .rendered f.html f.anomalies
      | none => outcome.result.isRendered = false := by
  obtain ⟨es, f?, hcourse, hsends, hresult⟩ :=
    sends_attempt o c v hid (s.send o ⟨renderId, .renderStarted, none⟩)
  obtain ⟨result, u, hattempt, hlast, hend⟩ := of_run_eq_ok o h
  rw [hattempt] at hsends hresult
  rw [page_send] at hcourse
  refine ⟨es, f?, hcourse, ((sends_send o s _).trans hsends).trans hlast, ?_⟩
  cases f? with
  | some f =>
    dsimp only at hresult
    subst hresult
    obtain ⟨rfl, -⟩ := hend
    exact ⟨rfl, rfl⟩
  | none =>
    obtain ⟨abort, rfl⟩ := hresult
    obtain ⟨rfl, -⟩ := hend
    exact ⟨rfl, rfl⟩

/-- A fragment whose anomalies a render may tell of: that of the verified source, or one without
any. -/
def Tellable (c : Config) (v : Verifier) (page : Html.Document) (f : Flo.Fragment) : Prop :=
  f.anomalies = [] ∨
    ∃ source, Verified c v page (Utf8.ofString source) ∧ f = Flo.compile source c.bindings

/-- Up to where the stages come, their events are those of a render that passes all of them. -/
theorem Course.exists_prefix {page : Html.Document} {es : List Event} {f? : Option Flo.Fragment}
    (h : Course c v page renderId es f?) :
    ∃ f, Tellable c v page f ∧ es <+: stageEvents renderId f ∧
      ∀ f' ∈ f?, es = stageEvents renderId f' ∧ f = f' := by
  -- what the fragment is does not matter before there is one
  have hnone : Tellable c v page ⟨"", []⟩ := Or.inl rfl
  cases h with
  | unread => exact ⟨_, hnone, List.nil_prefix, by simp⟩
  | unverified => exact ⟨_, hnone, ⟨_, rfl⟩, by simp⟩
  | unspelled => exact ⟨_, hnone, ⟨_, (List.append_assoc _ _ _).symm⟩, by simp⟩
  | untaken hsource => exact ⟨_, Or.inr ⟨_, hsource, rfl⟩, ⟨_, rfl⟩, by simp⟩
  | passed hsource => exact ⟨_, Or.inr ⟨_, hsource, rfl⟩, List.prefix_rfl, by simp⟩

/-- The observer of a render with an outcome takes the event of the beginning, those of stages, and
the event of the end. -/
theorem observer_run (hid : renderId ≠ "") (h : run o c v renderId s = (.ok outcome, t)) :
    ∃ f es, Tellable c v s.page f ∧ es <+: stageEvents renderId f ∧
      t.observer = o.takeAll s.observer
        (⟨renderId, .renderStarted, none⟩ :: es ++ [.ofOutcome outcome t.page.write]) ∧
      (outcome.result.isRendered → es = stageEvents renderId f) ∧
      outcome.result.anomalies = if outcome.result.isRendered then f.anomalies else [] := by
  obtain ⟨es, f?, hcourse, hsends, -, hresult⟩ := sends_run o hid h
  obtain ⟨f, htellable, hprefix, hf⟩ := hcourse.exists_prefix
  refine ⟨f, es, htellable, hprefix, hsends.observer, ?_⟩
  cases f? with
  | some f' =>
    obtain ⟨hes, rfl⟩ := hf f' rfl
    dsimp only at hresult
    rw [hresult]
    exact ⟨fun _ => hes, rfl⟩
  | none =>
    dsimp only at hresult
    rw [hresult]
    refine ⟨fun hrendered => absurd hrendered Bool.false_ne_true, ?_⟩
    cases hr : outcome.result with
    | rendered html anomalies =>
      rw [hr] at hresult
      cases hresult
    | aborted kind => rfl

end

/-! ## Renders of one page -/

/-- Up to their first failure, the stages come to the same for every observer and every name. -/
theorem attempt_congr (o : Observer σ) (o' : Observer τ) (c : Config) (v : Verifier)
    {renderId renderId' : String} (hid : renderId ≠ "") (hid' : renderId' ≠ "") {s : Scene σ}
    {s' : Scene τ} (h : s.page = s'.page) :
    (attempt o c v renderId s).1.map Outcome.result =
        (attempt o' c v renderId' s').1.map Outcome.result ∧
      (attempt o c v renderId s).2.page = (attempt o' c v renderId' s').2.page := by
  unfold attempt
  rw [h]
  cases readTriple s'.page c with
  | error e => exact ⟨rfl, h⟩
  | ok triple =>
    dsimp only
    cases authenticate v triple with
    | error e =>
      refine ⟨rfl, ?_⟩
      rw [page_send, page_send, h]
    | ok bytes =>
      dsimp only
      cases decodeSource bytes with
      | error e =>
        refine ⟨rfl, ?_⟩
        simp only [page_send, h]
      | ok source =>
        dsimp only
        simp only [page_sendAll, page_send, h]
        cases materialize s'.page (Flo.compile source c.bindings).html c.note with
        | error e =>
          refine ⟨rfl, ?_⟩
          simp only [page_sendAll, page_send, h]
        | ok page =>
          dsimp only
          rw [make_of_ne_empty hid, make_of_ne_empty hid']
          refine ⟨rfl, ?_⟩
          simp only [page_send]

/-- A page has one result, and one page is left, whoever watches the render and whatever its name
is. -/
theorem run_congr (o : Observer σ) (o' : Observer τ) {c : Config} {v : Verifier}
    {renderId renderId' : String} (hid : renderId ≠ "") (hid' : renderId' ≠ "") {s t : Scene σ}
    {s' t' : Scene τ} {outcome outcome' : Outcome} (hpage : s.page = s'.page)
    (h : run o c v renderId s = (.ok outcome, t))
    (h' : run o' c v renderId' s' = (.ok outcome', t')) :
    outcome.result = outcome'.result ∧ t.page = t'.page := by
  have hstarted : (s.send o ⟨renderId, .renderStarted, none⟩).page =
      (s'.send o' ⟨renderId', .renderStarted, none⟩).page := by
    rw [page_send, page_send, hpage]
  have hagree := attempt_congr o o' c v hid hid' hstarted
  obtain ⟨result, u, hattempt, -, hend⟩ := of_run_eq_ok o h
  obtain ⟨result', u', hattempt', -, hend'⟩ := of_run_eq_ok o' h'
  rw [hattempt, hattempt'] at hagree
  obtain ⟨hresult, hleft⟩ := hagree
  cases result with
  | ok _ =>
    cases result' with
    | ok _ =>
      obtain ⟨rfl, hpage⟩ := hend
      obtain ⟨rfl, hpage'⟩ := hend'
      exact ⟨Except.ok.inj hresult, by rw [hpage, hpage', hleft]⟩
    | error _ => cases hresult
  | error _ =>
    cases result' with
    | ok _ => cases hresult
    | error _ =>
      -- both are aborted for one reason, and show it on one page
      obtain rfl := Except.error.inj hresult
      rw [hend.1, hend'.1, hend.2, hend'.2]
      exact ⟨rfl, congrArg (abortedPage · _) hleft⟩

end SealedPage.Render
