import SealedPage.Proofs.Render.Gate
import SealedPage.Render.Service

/-!
# Aborted pages

However a render is aborted, its page takes one placeholder, and the placeholder tells the state of
the page and nothing else: `run_aborted`. So two aborted renders in the same state leave the same
page behind, whatever stood in the two bodies and whoever rendered them, `aborted_pages_agree`.
-/

namespace SealedPage.Render

open Html (Document)

/-! ## What an aborted render leaves -/

/-- The page that an aborted render leaves: a placeholder for its state takes the body, if there is
one. -/
def abortedPage (page : Document) (state : PageState) : Document :=
  (page.replaceBody? [placeholderElement state.placeholder]).getD page

/-- What stood in the body does not show in the page that is left. -/
theorem abortedPage_congr {page page' : Document} (h : page.AgreesAround page')
    (state : PageState) : abortedPage page' state = abortedPage page state := by
  unfold abortedPage
  rw [h.replaceBody?_eq]
  cases hreplace : page.replaceBody? [placeholderElement state.placeholder] with
  | some left => rfl
  | none => exact h.eq_of_replaceBody?_eq_none hreplace

/-- The page of an aborted render has the placeholder as its body, unless there is no body to fill.
-/
theorem refilled_abortedPage (page : Document) (state : PageState) :
    page.Refilled [placeholderElement state.placeholder] (abortedPage page state) ∨
      page.body? = none ∧ abortedPage page state = page := by
  unfold abortedPage
  rcases page.replaceBody?_cases [placeholderElement state.placeholder] with
    ⟨hbody, hreplace⟩ | ⟨left, hreplace, hrefilled⟩
  · exact Or.inr ⟨hbody, by rw [hreplace, Option.getD_none]⟩
  · rw [hreplace, Option.getD_some]
    exact Or.inl hrefilled

section
variable {σ : Type} (o : Observer σ)

/-- The placeholder that a scene is given is the one of the failure's state. -/
theorem page_placeholder_eq (s : Scene σ) (renderId : String) (k : FailureKind) :
    (s.placeholder renderId k).page = abortedPage s.page k.state := by
  unfold Scene.placeholder showPlaceholder abortedPage FailureKind.placeholder
  cases s.page.replaceBody? [placeholderElement k.state.placeholder] <;> rfl

/-- Only the body of a page takes a fragment. -/
theorem agreesAround_of_materialize {page page' : Document} {fragment : String}
    {note : Option String} (h : materialize page fragment note = .ok page') :
    page.AgreesAround page' := by
  unfold materialize at h
  split at h
  · simp at h
  · split at h
    · simp at h
    · split at h
      · rename_i hreplace
        obtain rfl := Except.ok.inj h
        exact Document.agreesAround_of_replaceBody? hreplace
      · simp at h

/-- Wherever the stages of a render end, what is around the body stays as it was. -/
theorem agreesAround_attempt (c : Config) (v : Verifier) (renderId : String) (s : Scene σ) :
    s.page.AgreesAround (attempt o c v renderId s).2.page := by
  unfold attempt
  split
  · exact .refl _
  · dsimp only
    split
    · rw [page_send]
      exact .refl _
    · split
      · rw [page_send, page_send]
        exact .refl _
      -- from here on the page may have taken the fragment
      · rw [page_sendAll, page_send, page_send]
        split
        · rw [page_sendAll, page_send, page_send]
          exact .refl _
        · rename_i hmaterialize
          have haround := agreesAround_of_materialize hmaterialize
          split <;> rw [page_send] <;> exact haround

theorem eq_of_make {renderId : String} {result : Result} {outcome : Outcome}
    (h : Outcome.make renderId result = .ok outcome) : outcome = ⟨renderId, result⟩ := by
  by_cases hid : renderId = ""
  · subst hid
    simp [Outcome.make, Fields.nonemptyText, Fields.text, Fields.Checked.andThen,
      Fields.Checked.under, Fields.Checked.map, Fields.Checked.fail] at h
  · rw [make_of_ne_empty hid] at h
    exact (Fields.Checked.ok.inj h).symm

/-- An outcome of the stages is that of a rendered page. -/
theorem rendered_of_attempt {c : Config} {v : Verifier} {renderId : String} {s t : Scene σ}
    {outcome : Outcome} (h : attempt o c v renderId s = (.ok outcome, t)) :
    outcome.result.isRendered := by
  unfold attempt at h
  split at h
  · simp at h
  · dsimp only at h
    split at h
    · simp at h
    · split at h
      · simp at h
      · split at h
        · simp at h
        · split at h
          · simp at h
          · rename_i hmake
            obtain ⟨hok, -⟩ := Prod.mk.inj h
            rw [← Except.ok.inj hok, eq_of_make hmake]
            rfl

/-- An aborted render leaves the page that its state and the old page determine. -/
theorem run_aborted {c : Config} {v : Verifier} {renderId : String} {s t : Scene σ}
    {outcome : Outcome} (h : run o c v renderId s = (.ok outcome, t))
    (haborted : outcome.result.isRendered = false) :
    t.page = abortedPage s.page outcome.state := by
  have haround := agreesAround_attempt o c v renderId (s.send o ⟨renderId, .renderStarted, none⟩)
  rw [page_send] at haround
  unfold run at h
  split at h
  · rename_i hattempt
    have hrendered := rendered_of_attempt o hattempt
    obtain ⟨hok, -⟩ := Prod.mk.inj h
    rw [Except.ok.inj hok, haborted] at hrendered
    simp at hrendered
  · rename_i abort s' hattempt
    rw [hattempt] at haround
    dsimp only at h
    split at h
    · simp at h
    · rename_i hmake
      obtain ⟨hok, rfl⟩ := Prod.mk.inj h
      obtain rfl := Except.ok.inj hok
      rw [page_send, page_placeholder_eq, eq_of_make hmake]
      exact abortedPage_congr haround _

end

/-! ## The service -/

/-- The header that tells the state of a page. -/
def statusHeader : String := "x-flo-render-status"

/-- A request to render a page at once. -/
def renderRequest (body : Bytes) : Http.Request where
  method := "POST"
  target := "/render"
  body := body

/-- A request to render is answered by the page it renders. -/
theorem handle_renderRequest (c : Config) (renderId : String) (body : Bytes) :
    handle c renderId (renderRequest body) = renderPage c renderId body := by
  have hpath : Http.pathOfTarget "/render" = .ok "/render".toList := by decide +kernel
  have hmethod : (renderRequest body).sentMethod = "POST" := by
    change "POST".toUpper = "POST"
    decide +kernel
  have htarget : (renderRequest body).target = "/render" := rfl
  unfold handle Http.Request.dispatch
  rw [htarget, hpath, hmethod]
  rfl

/-- A request body is that of a page. -/
def IsPage (c : Config) (body : Bytes) (page : Document) : Prop :=
  ∃ host, readHost c body = .ok host ∧ Document.ofString host = .ok page

/-- A page that is read is answered with what its render leaves of it. -/
theorem renderPage_of_run {c : Config} {renderId : String} {body : Bytes} {page : Document}
    (hpage : IsPage c body page) {outcome : Outcome} {t : Scene Unit}
    (hrun : run Observer.nobody c {} renderId (Scene.ofPage page) = (.ok outcome, t)) :
    renderPage c renderId body =
      .ok (.response (.page t.page.write [(statusHeader, outcome.state.name)])) := by
  obtain ⟨host, hhost, hread⟩ := hpage
  unfold renderPage
  rw [hhost]
  dsimp only
  rw [hread]
  dsimp only
  rw [show run Observer.nobody c {} renderId { page, observer := () } = (.ok outcome, t) from hrun]
  rfl

/-! ## Two aborted renders -/

/-- Two renders of pages that agree around their bodies, whoever watches them, whatever their
configurations and whatever keys their sessions hold: if both are aborted in the same state, they
leave the same document, whose body, if it has one, holds the placeholder of the state and nothing
else. If pages are rendered on request, the two responses are the same, with the state in the
header. -/
theorem aborted_pages_agree :
    (∀ {σ τ : Type} (o : Observer σ) (o' : Observer τ) (c c' : Config) (v v' : Verifier)
      (renderId renderId' : String) (s t : Scene σ) (s' t' : Scene τ) (outcome outcome' : Outcome),
      s.page.AgreesAround s'.page →
      run o c v renderId s = (.ok outcome, t) →
      run o' c' v' renderId' s' = (.ok outcome', t') →
      outcome.result.isRendered = false → outcome'.result.isRendered = false →
      outcome.state = outcome'.state →
      t.page.write = t'.page.write ∧
        (s.page.Refilled [.element "pre" [("class", "flo-error")]
            [.text .plain outcome.state.placeholder]] t.page ∨
          s.page.body? = none ∧ t.page = s.page)) ∧
    (∀ (c c' : Config) (renderId renderId' : String) (body body' : Bytes) (page page' : Document)
      (t t' : Scene Unit) (outcome outcome' : Outcome),
      IsPage c body page → IsPage c' body' page' → page.AgreesAround page' →
      run Observer.nobody c {} renderId (Scene.ofPage page) = (.ok outcome, t) →
      run Observer.nobody c' {} renderId' (Scene.ofPage page') = (.ok outcome', t') →
      outcome.result.isRendered = false → outcome'.result.isRendered = false →
      outcome.state = outcome'.state →
      ∃ r, handle c renderId (renderRequest body) = .ok (.response r) ∧
        handle c' renderId' (renderRequest body') = .ok (.response r) ∧
        r.headers.lookup statusHeader = some outcome.state.name) := by
  constructor
  · intro σ τ o o' c c' v v' renderId renderId' s t s' t' outcome outcome' haround hrun hrun'
      haborted haborted' hstate
    have hpage := run_aborted o hrun haborted
    have hpage' := run_aborted o' hrun' haborted'
    rw [← hstate, abortedPage_congr haround, ← hpage] at hpage'
    refine ⟨by rw [hpage'], ?_⟩
    rw [hpage]
    exact refilled_abortedPage s.page outcome.state
  · intro c c' renderId renderId' body body' page page' t t' outcome outcome' hpage hpage' haround
      hrun hrun' haborted haborted' hstate
    have hleft := run_aborted Observer.nobody hrun haborted
    have hleft' := run_aborted Observer.nobody hrun' haborted'
    have hagree : (Scene.ofPage page).page.AgreesAround (Scene.ofPage page').page := haround
    rw [← hstate, abortedPage_congr hagree, ← hleft] at hleft'
    refine ⟨.page t.page.write [(statusHeader, outcome.state.name)], ?_, ?_, rfl⟩
    · rw [handle_renderRequest, renderPage_of_run hpage hrun]
    · rw [handle_renderRequest, renderPage_of_run hpage' hrun', hleft', hstate]

/-! ## A malformed page and a forged one -/

/-- A page that carries three texts. -/
def carrierPage (t : Triple) : Document :=
  [.element "body" [] ([("flo-payload", t.payload), ("flo-signature", t.signature),
    ("flo-public-pem", t.publicKey)].map fun (id, text) =>
      .element "p" [("id", id)] [.text .plain text])]

/-- The greeting with a payload that is no base64. -/
def malformedTriple : Triple :=
  { greetingTriple with payload := "?" }

/-- The greeting with a signature that is too short. -/
def forgedTriple : Triple :=
  { greetingTriple with signature := "AAAA" }

/-- A page that is refused is aborted, whoever observes the render. -/
theorem run_of_refused {σ : Type} (o : Observer σ) {c : Config} {s : Scene σ} {kind : FailureKind}
    (h : Refused c s.page kind) {renderId : String} (hid : renderId ≠ "") :
    ∃ t, run o c {} renderId s = (.ok ⟨renderId, .aborted kind⟩, t) := by
  rw [← page_send o s ⟨renderId, .renderStarted, none⟩] at h
  obtain ⟨abort, t, hattempt, rfl, -⟩ := attempt_of_refused o h renderId
  unfold run
  rw [hattempt]
  dsimp only
  rw [make_of_ne_empty hid]
  exact ⟨_, rfl⟩

theorem transports_malformed : Transports {} (carrierPage malformedTriple) malformedTriple :=
  ⟨⟨⟨_, rfl, by decide +kernel⟩, by decide +kernel⟩,
    ⟨⟨_, rfl, by decide +kernel⟩, by decide +kernel⟩,
    ⟨⟨_, rfl, by decide +kernel⟩, by decide +kernel⟩⟩

theorem not_decodes_malformed : ¬ ∃ bytes, Decodes malformedTriple.payload bytes := by
  rintro ⟨bytes, hread, -⟩
  have hrefused : Codec.Base64.decode (Text.dropBlanks malformedTriple.payload.toList) =
      .error .foreignCharacter := by
    decide +kernel
  rw [hrefused] at hread
  simp at hread

theorem refused_malformed : Refused {} (carrierPage malformedTriple) .malformedInput :=
  .payload transports_malformed not_decodes_malformed

theorem refused_forged : Refused {} (carrierPage forgedTriple) .signatureMismatch := by
  have ht : Transports {} (carrierPage forgedTriple) forgedTriple :=
    ⟨⟨⟨_, rfl, by decide +kernel⟩, by decide +kernel⟩,
      ⟨⟨_, rfl, by decide +kernel⟩, by decide +kernel⟩,
      ⟨⟨_, rfl, by decide +kernel⟩, by decide +kernel⟩⟩
  have hpayload : Decodes forgedTriple.payload (Text.Utf8.ofString "Hello, {{user}}!") :=
    ⟨by decide +kernel, by decide +kernel⟩
  have hsignature : Decodes forgedTriple.signature [0, 0, 0] :=
    ⟨by decide +kernel, by decide +kernel⟩
  exact .mismatch ht hpayload loads_greetingKey hsignature (by decide +kernel)

/-- A payload that cannot be read and a signature that does not match leave the same page. -/
theorem aborted_pages_agree_forged :
    ∃ t t', run Observer.nobody {} {} "1" (Scene.ofPage (carrierPage malformedTriple)) =
        (.ok ⟨"1", .aborted .malformedInput⟩, t) ∧
      run EventQueue.observer {} {} "2" { page := carrierPage forgedTriple, observer := {} } =
        (.ok ⟨"2", .aborted .signatureMismatch⟩, t') ∧
      t.page.write = t'.page.write := by
  obtain ⟨t, hrun⟩ := run_of_refused Observer.nobody
    (s := Scene.ofPage (carrierPage malformedTriple)) refused_malformed (by decide : "1" ≠ "")
  obtain ⟨t', hrun'⟩ := run_of_refused EventQueue.observer
    (s := { page := carrierPage forgedTriple, observer := {} }) refused_forged
    (by decide : "2" ≠ "")
  refine ⟨t, t', hrun, hrun', ?_⟩
  exact (aborted_pages_agree.1 Observer.nobody EventQueue.observer {} {} {} {} "1" "2" _ t _ t' _ _
    (Or.inr ⟨_, [], _, rfl, rfl, rfl⟩) hrun hrun' rfl rfl rfl).1

end SealedPage.Render
