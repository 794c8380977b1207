import SealedPage.Proofs.Html.Refusal
import SealedPage.Proofs.Render.Abort
import SealedPage.Render.Identifier

/-!
# Every readable page is answered

A body that is asked to be rendered is refused for its size or its encoding, and otherwise answered
with the page as the render left it. `Answers` says which answer a body gets, and `answers_render`
that this holds of every body. There is an exception: a page that the HTML reader refuses gets no
answer at all, as it is read before the render begins, `unknownSection_unanswered`.
-/

namespace SealedPage.Render

open Html (Document)
open Text

/-! ## Names of renders -/

theorem Identifier.text_ne_empty (i : Identifier) : i.text ≠ "" := by
  intro h
  have hlist : group (Codec.Hex.encode i.bytes) = [] := by
    rw [← String.toList_ofList (l := group (Codec.Hex.encode i.bytes)), ← text, h]
    rfl
  simp [group] at hlist

/-- A render with a name has an outcome. -/
theorem exists_run {σ : Type} (o : Observer σ) (c : Config) (v : Verifier) {renderId : String}
    (hid : renderId ≠ "") (s : Scene σ) : ∃ outcome t, run o c v renderId s = (.ok outcome, t) := by
  unfold run
  split
  · exact ⟨_, _, rfl⟩
  · dsimp only
    rw [make_of_ne_empty hid]
    exact ⟨_, _, rfl⟩

/-! ## Bodies -/

/-- A body is neither empty nor too large, and it spells a text. -/
structure Spells (c : Config) (body : Bytes) (host : String) : Prop where
  nonempty : body ≠ []
  size : body.length ≤ c.maxHostKb * 1024
  spelled : Utf8.ofString host = body

section
variable {c : Config} {body : Bytes} {host : String}

/-- A body above the limit is refused for its size. -/
theorem readHost_of_too_large (h : c.maxHostKb * 1024 < body.length) :
    readHost c body = .error (.tooLarge c.maxHostKb) := by
  have hempty : body.isEmpty = false := by
    rw [List.isEmpty_eq_false_iff, ← List.length_pos_iff]
    omega
  rw [readHost, if_neg (by simp [hempty]), Config.maxHostBytes, if_pos h]

/-- A body that spells a text is read as that text. -/
theorem readHost_of_spells (h : Spells c body host) : readHost c body = .ok host := by
  have hempty : body.isEmpty = false := List.isEmpty_eq_false_iff.2 h.nonempty
  rw [readHost, if_neg (by simp [hempty]), Config.maxHostBytes, if_neg (Nat.not_lt.2 h.size),
    Utf8.toString_eq_ok_iff.2 h.spelled]
  rfl

/-- A body that spells no text is refused for its encoding. -/
theorem readHost_of_not (hbody : body ≠ []) (hsize : body.length ≤ c.maxHostKb * 1024)
    (h : ¬ ∃ host, Utf8.ofString host = body) : readHost c body = .error .notUtf8 := by
  have hempty : body.isEmpty = false := List.isEmpty_eq_false_iff.2 hbody
  rw [readHost, if_neg (by simp [hempty]), Config.maxHostBytes, if_neg (Nat.not_lt.2 hsize)]
  cases hread : Utf8.toString body with
  | error e => rfl
  | ok host => exact absurd ⟨host, Utf8.toString_eq_ok_iff.1 hread⟩ h

/-- A body is refused, or it spells a text. -/
theorem refused_or_spells (c : Config) (body : Bytes) :
    (∃ e, readHost c body = .error e) ∨ ∃ host, Spells c body host := by
  by_cases hbody : body = []
  · subst hbody
    exact Or.inl ⟨_, rfl⟩
  by_cases hsize : c.maxHostKb * 1024 < body.length
  · exact Or.inl ⟨_, readHost_of_too_large hsize⟩
  by_cases hhost : ∃ host, Utf8.ofString host = body
  · obtain ⟨host, hhost⟩ := hhost
    exact Or.inr ⟨host, hbody, Nat.le_of_not_lt hsize, hhost⟩
  · exact Or.inl ⟨_, readHost_of_not hbody (Nat.le_of_not_lt hsize) hhost⟩

/-- A text that is read as a page makes the body a page. -/
theorem Spells.isPage (h : Spells c body host) {page : Document}
    (hpage : Document.ofString host = .ok page) : IsPage c body page :=
  ⟨host, readHost_of_spells h, hpage⟩

/-- A body that is refused is answered by its refusal. -/
theorem renderPage_of_error {e : HostRefusal} (h : readHost c body = .error e)
    (renderId : String) : renderPage c renderId body = .ok (.response e.response) := by
  unfold renderPage
  rw [h]

/-- A text that is not read as a page leaves the request without an answer. -/
theorem renderPage_of_unreadable (h : Spells c body host) {e : Html.ReadError}
    (hread : Document.ofString host = .error e) (renderId : String) :
    renderPage c renderId body = .error (.unreadable e) := by
  unfold renderPage
  rw [readHost_of_spells h]
  dsimp only
  rw [hread]

end

/-! ## Answers -/

/-- A text holds nothing that the HTML reader refuses: no beginning of a marked section, and no
number with too many digits. -/
structure IsTame (host : String) : Prop where
  marked : ¬ ['<', '!', '['] <:+: host.toList
  digits : ∀ ds, ds <:+: host.toList → (∀ c ∈ ds, c.isDigit) → ds.length ≤ Html.maxDigits

/-- A tame text is read as a page. -/
theorem exists_page_of_isTame {host : String} (h : IsTame host) :
    ∃ page, Document.ofString host = .ok page := by
  cases hread : Document.ofString host with
  | ok page => exact ⟨page, rfl⟩
  | error e =>
    cases Html.Refuses.of_ofText hread with
    | marked hmarked => exact absurd hmarked h.marked
    | digits hds hdigits hlong => exact absurd hlong (Nat.not_lt.2 (h.digits _ hds hdigits))

/-- The answer to a request to render a body. -/
structure Answers (c : Config) (i : Identifier) (body : Bytes) : Prop where
  /-- An empty body is refused. -/
  empty : body = [] → handle c i.text (renderRequest body) =
    .ok (.response (.refusal 400 "Host document is empty"))
  /-- A body that is too large is refused, whatever it spells. -/
  tooLarge : c.maxHostKb * 1024 < body.length → handle c i.text (renderRequest body) =
    .ok (.response (.refusal 413
      ("Host document exceeds maximum allowed size of " ++ Nat.repr c.maxHostKb ++ " KB")))
  /-- Any other body that spells no text is refused. -/
  notUtf8 : body ≠ [] → body.length ≤ c.maxHostKb * 1024 →
    (¬ ∃ host, Utf8.ofString host = body) → handle c i.text (renderRequest body) =
      .ok (.response (.refusal 400 "Host document must be UTF-8 encoded"))
  /-- A page is answered with what its render left, and with the state of the outcome. -/
  rendered : ∀ host page, Spells c body host → Document.ofString host = .ok page →
    ∃ outcome t response, run Observer.nobody c {} i.text (Scene.ofPage page) = (.ok outcome, t) ∧
      handle c i.text (renderRequest body) = .ok (.response response) ∧ response.status = 200 ∧
      response.headers.lookup statusHeader = some outcome.state.name ∧
      response.content = .text t.page.write
  /-- Every tame text is that of a page. -/
  tame : ∀ host, Spells c body host → IsTame host → ∃ page, Document.ofString host = .ok page
  /-- There is no answer if and only if the HTML reader refuses the text. -/
  unanswered : ∀ e, handle c i.text (renderRequest body) = .error e ↔
    ∃ host cause, Spells c body host ∧ Document.ofString host = .error cause ∧
      e = .unreadable cause

theorem answers_render (c : Config) (i : Identifier) (body : Bytes) : Answers c i body := by
  have hhandle := handle_renderRequest c i.text body
  constructor
  case empty =>
    rintro rfl
    exact hhandle
  case tooLarge => exact fun h => hhandle.trans (renderPage_of_error (readHost_of_too_large h) _)
  case notUtf8 =>
    exact fun hbody hsize h =>
      hhandle.trans (renderPage_of_error (readHost_of_not hbody hsize h) _)
  case rendered =>
    intro host page hspells hpage
    rw [hhandle]
    obtain ⟨outcome, t, hrun⟩ :=
      exists_run Observer.nobody c {} i.text_ne_empty (Scene.ofPage page)
    exact ⟨outcome, t, _, hrun, renderPage_of_run (hspells.isPage hpage) hrun, rfl, rfl, rfl⟩
  case tame => exact fun host _ h => exists_page_of_isTame h
  case unanswered =>
    intro e
    rw [hhandle]
    constructor
    · intro h
      rcases refused_or_spells c body with ⟨e', hrefused⟩ | ⟨host, hspells⟩
      · rw [renderPage_of_error hrefused] at h
        cases h
      · cases hread : Document.ofString host with
        | error cause =>
          rw [renderPage_of_unreadable hspells hread] at h
          exact ⟨host, cause, hspells, hread, (Except.error.inj h).symm⟩
        | ok page =>
          obtain ⟨outcome, t, hrun⟩ :=
            exists_run Observer.nobody c {} i.text_ne_empty (Scene.ofPage page)
          rw [renderPage_of_run (hspells.isPage hread) hrun] at h
          cases h
    · rintro ⟨host, cause, hspells, hread, rfl⟩
      exact renderPage_of_unreadable hspells hread _

/-- A marked section of an unknown kind, which is short and spells a text, gets no answer. -/
theorem unknownSection_unanswered :
    Spells {} (Utf8.ofString "<![foo[x]]>") "<![foo[x]]>" ∧
      handle {} "1" (renderRequest (Utf8.ofString "<![foo[x]]>")) =
        .error (.unreadable .rejected) := by
  have hspells : Spells {} (Utf8.ofString "<![foo[x]]>") "<![foo[x]]>" :=
    ⟨by decide, by decide, rfl⟩
  refine ⟨hspells, ?_⟩
  rw [handle_renderRequest]
  exact renderPage_of_unreadable hspells rfl _

end SealedPage.Render
