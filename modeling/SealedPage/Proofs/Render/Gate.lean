import SealedPage.Proofs.Render.Stages

/-!
# The gate

A page is rendered if and only if every stage accepts it, `Admitted`. Otherwise the first stage
that does not decides the kind of the failure, `Refused`. Whoever watches the render changes nothing
about it. The theorem is `run_judges`.
-/

namespace SealedPage.Render

open Text

/-! ## What is admitted and what is refused -/

/-- What every stage of a render accepts: the page carries the three texts, the payload is base64 of
some bytes, the key is an RSA key, the signature is base64 of a signature of these bytes with this
key, the bytes are those of a source, and the page takes the compiled source. -/
structure Admitted (c : Config) (page : Html.Document) (t : Triple) (bytes : Bytes)
    (key : Rsa.PublicKey) (signature : Bytes) (source : String) (nodes : List Html.Node) :
    Prop where
  carried : Transports c page t
  decoded : Decodes t.payload bytes
  loaded : Loads t.publicKey key
  signed : Decodes t.signature signature
  genuine : Rsa.verify key bytes signature
  spelled : Utf8.ofString source = bytes
  taken : Takes page (Flo.compile source c.bindings).html nodes

/-- The first stage that does not accept a page, with the kind of the failure. -/
inductive Refused (c : Config) (page : Html.Document) : FailureKind → Prop where
  | transport (h : ¬ ∃ t, Transports c page t) : Refused c page .missingInput
  | payload {t : Triple} (ht : Transports c page t) (h : ¬ ∃ bytes, Decodes t.payload bytes) :
    Refused c page .malformedInput
  | key {t : Triple} {bytes : Bytes} (ht : Transports c page t)
    (hbytes : Decodes t.payload bytes) (h : ¬ ∃ key, Loads t.publicKey key) :
    Refused c page .malformedInput
  | signature {t : Triple} {bytes : Bytes} {key : Rsa.PublicKey} (ht : Transports c page t)
    (hbytes : Decodes t.payload bytes) (hkey : Loads t.publicKey key)
    (h : ¬ ∃ signature, Decodes t.signature signature) : Refused c page .malformedInput
  | mismatch {t : Triple} {bytes : Bytes} {key : Rsa.PublicKey} {signature : Bytes}
    (ht : Transports c page t) (hbytes : Decodes t.payload bytes) (hkey : Loads t.publicKey key)
    (hsignature : Decodes t.signature signature) (h : Rsa.verify key bytes signature = false) :
    Refused c page .signatureMismatch
  | text {t : Triple} {bytes : Bytes} {key : Rsa.PublicKey} {signature : Bytes}
    (ht : Transports c page t) (hbytes : Decodes t.payload bytes) (hkey : Loads t.publicKey key)
    (hsignature : Decodes t.signature signature) (hgenuine : Rsa.verify key bytes signature)
    (h : ¬ ∃ source, Utf8.ofString source = bytes) : Refused c page .malformedInput
  | page {t : Triple} {bytes : Bytes} {key : Rsa.PublicKey} {signature : Bytes} {source : String}
    (ht : Transports c page t) (hbytes : Decodes t.payload bytes) (hkey : Loads t.publicKey key)
    (hsignature : Decodes t.signature signature) (hgenuine : Rsa.verify key bytes signature)
    (hsource : Utf8.ofString source = bytes)
    (h : ¬ ∃ nodes, Takes page (Flo.compile source c.bindings).html nodes) :
    Refused c page .materializationError

/-- Every page is admitted or refused. -/
theorem admitted_or_refused (c : Config) (page : Html.Document) :
    (∃ t bytes key signature source nodes,
        Admitted c page t bytes key signature source nodes) ∨ ∃ kind, Refused c page kind := by
  -- stage by stage: either it does not accept the page, or there is what the next one works on
  by_cases ht : ¬ ∃ t, Transports c page t
  · exact Or.inr ⟨_, .transport ht⟩
  obtain ⟨t, ht⟩ := Classical.not_not.1 ht
  by_cases hbytes : ¬ ∃ bytes, Decodes t.payload bytes
  · exact Or.inr ⟨_, .payload ht hbytes⟩
  obtain ⟨bytes, hbytes⟩ := Classical.not_not.1 hbytes
  by_cases hkey : ¬ ∃ key, Loads t.publicKey key
  · exact Or.inr ⟨_, .key ht hbytes hkey⟩
  obtain ⟨key, hkey⟩ := Classical.not_not.1 hkey
  by_cases hsignature : ¬ ∃ signature, Decodes t.signature signature
  · exact Or.inr ⟨_, .signature ht hbytes hkey hsignature⟩
  obtain ⟨signature, hsignature⟩ := Classical.not_not.1 hsignature
  by_cases hgenuine : Rsa.verify key bytes signature = false
  · exact Or.inr ⟨_, .mismatch ht hbytes hkey hsignature hgenuine⟩
  rw [Bool.not_eq_false] at hgenuine
  by_cases hsource : ¬ ∃ source, Utf8.ofString source = bytes
  · exact Or.inr ⟨_, .text ht hbytes hkey hsignature hgenuine hsource⟩
  obtain ⟨source, hsource⟩ := Classical.not_not.1 hsource
  by_cases htaken : ¬ ∃ nodes, Takes page (Flo.compile source c.bindings).html nodes
  · exact Or.inr ⟨_, .page ht hbytes hkey hsignature hgenuine hsource htaken⟩
  obtain ⟨nodes, htaken⟩ := Classical.not_not.1 htaken
  exact Or.inl ⟨t, bytes, key, signature, source, nodes,
    ⟨ht, hbytes, hkey, hsignature, hgenuine, hsource, htaken⟩⟩

/-- There is one way to admit a page. -/
theorem Admitted.eq {c : Config} {page : Html.Document} {t t' : Triple} {bytes bytes' : Bytes}
    {key key' : Rsa.PublicKey} {signature signature' : Bytes} {source source' : String}
    {nodes nodes' : List Html.Node} (h : Admitted c page t bytes key signature source nodes)
    (h' : Admitted c page t' bytes' key' signature' source' nodes') :
    source = source' ∧ nodes = nodes' := by
  obtain rfl := h.carried.eq h'.carried
  obtain rfl := h.decoded.eq h'.decoded
  obtain rfl := Utf8.eq_of_ofString_eq (h.spelled.trans h'.spelled.symm)
  exact ⟨rfl, h.taken.eq h'.taken⟩

/-! ## Events change no page -/

section
variable {σ : Type} (o : Observer σ)

@[simp] theorem page_send (s : Scene σ) (e : Event) : (s.send o e).page = s.page := by
  unfold Scene.send
  dsimp only
  split <;> rfl

@[simp] theorem page_sendAll (s : Scene σ) (es : List Event) : (s.sendAll o es).page = s.page := by
  unfold Scene.sendAll
  induction es generalizing s with
  | nil => rfl
  | cons e es ih => rw [List.foldl_cons, ih, page_send]

/-! ## The stages in turn -/

/-- Content that the carried key verifies is authentic. -/
theorem authenticate_of_verify {c : Config} {page : Html.Document} {t : Triple} {bytes : Bytes}
    {key : Rsa.PublicKey} {signature : Bytes} (ht : Transports c page t)
    (hbytes : Decodes t.payload bytes) (hkey : Loads t.publicKey key)
    (hsignature : Decodes t.signature signature) (h : Rsa.verify key bytes signature) :
    authenticate {} t = .ok bytes := by
  simp [authenticate, decodeBase64_of_decodes hbytes, Verifier.importKey,
    loadKey_of_loads hkey ht.publicKey.all_isBlank,
    checkWith_of_verify hbytes.nonempty ht.signature.all_isBlank hsignature h]

/-- Content that the carried key does not verify is a mismatch. -/
theorem authenticate_of_mismatch {c : Config} {page : Html.Document} {t : Triple} {bytes : Bytes}
    {key : Rsa.PublicKey} {signature : Bytes} (ht : Transports c page t)
    (hbytes : Decodes t.payload bytes) (hkey : Loads t.publicKey key)
    (hsignature : Decodes t.signature signature) (h : Rsa.verify key bytes signature = false) :
    authenticate {} t = .error (.failed .mismatch) := by
  simp [authenticate, decodeBase64_of_decodes hbytes, Verifier.importKey,
    loadKey_of_loads hkey ht.publicKey.all_isBlank,
    checkWith_of_mismatch hbytes.nonempty ht.signature.all_isBlank hsignature h]

/-- Texts that cannot be read are malformed. -/
theorem authenticate_of_not {c : Config} {page : Html.Document} {t : Triple}
    (ht : Transports c page t)
    (h : ¬ ∃ bytes key signature, Decodes t.payload bytes ∧ Loads t.publicKey key ∧
      Decodes t.signature signature) :
    ∃ cause, authenticate {} t = .error (.failed cause) ∧ cause.kind = .malformedInput := by
  by_cases hbytes : ¬ ∃ bytes, Decodes t.payload bytes
  · obtain ⟨cause, hread, hkind⟩ := decodeBase64_of_not hbytes .payload
    exact ⟨cause, by simp [authenticate, hread], hkind⟩
  obtain ⟨bytes, hbytes⟩ := Classical.not_not.1 hbytes
  by_cases hkey : ¬ ∃ key, Loads t.publicKey key
  · obtain ⟨cause, hread, hkind⟩ := loadKey_of_not hkey ht.publicKey.all_isBlank
    exact ⟨cause, by
      simp [authenticate, decodeBase64_of_decodes hbytes, Verifier.importKey, hread], hkind⟩
  obtain ⟨key, hkey⟩ := Classical.not_not.1 hkey
  have hsignature : ¬ ∃ signature, Decodes t.signature signature :=
    fun ⟨signature, hsignature⟩ => h ⟨bytes, key, signature, hbytes, hkey, hsignature⟩
  obtain ⟨cause, hcheck, hkind⟩ :=
    checkWith_of_not key hbytes.nonempty ht.signature.all_isBlank hsignature
  exact ⟨cause, by
    simp [authenticate, decodeBase64_of_decodes hbytes, Verifier.importKey,
      loadKey_of_loads hkey ht.publicKey.all_isBlank, hcheck], hkind⟩

theorem make_of_ne_empty {renderId : String} (h : renderId ≠ "") (result : Result) :
    Outcome.make renderId result = .ok ⟨renderId, result⟩ := by
  simp [Outcome.make, Fields.nonemptyText, Fields.text, Fields.Checked.andThen, h,
    Fields.Checked.under, Fields.Checked.map]

/-- An admitted page is rendered. -/
theorem attempt_of_admitted {c : Config} {s : Scene σ} {t : Triple} {bytes : Bytes}
    {key : Rsa.PublicKey} {signature : Bytes} {source : String} {nodes : List Html.Node}
    (h : Admitted c s.page t bytes key signature source nodes) {renderId : String}
    (hid : renderId ≠ "") :
    ∃ s', attempt o c {} renderId s =
        (.ok ⟨renderId, .rendered (Flo.compile source c.bindings).html
          (Flo.compile source c.bindings).anomalies⟩, s') ∧
      s.page.Refilled (nodes ++ noteNodes c.note) s'.page := by
  obtain ⟨page', hpage', hrefilled⟩ := materialize_of_takes h.taken c.note
  unfold attempt
  rw [readTriple_of_transports h.carried]
  dsimp only
  rw [authenticate_of_verify h.carried h.decoded h.loaded h.signed h.genuine]
  dsimp only
  rw [decodeSource_of_ofString h.spelled]
  dsimp only
  rw [page_sendAll, page_send, page_send, hpage']
  dsimp only
  rw [make_of_ne_empty hid]
  exact ⟨_, rfl, by rwa [page_send]⟩

/-- An attempt ends where authentication fails, and leaves the page as it is. -/
theorem attempt_of_authenticate_error {c : Config} {s : Scene σ} {t : Triple}
    (ht : Transports c s.page t) {abort : Abort} (h : authenticate {} t = .error abort)
    (renderId : String) :
    ∃ s', attempt o c {} renderId s = (.error abort, s') ∧ s'.page = s.page := by
  unfold attempt
  rw [readTriple_of_transports ht]
  dsimp only
  rw [h]
  exact ⟨_, rfl, by rw [page_send]⟩

/-- A refused page is left alone, and the abort is of the kind of the refusal. -/
theorem attempt_of_refused {c : Config} {s : Scene σ} {kind : FailureKind}
    (h : Refused c s.page kind) (renderId : String) :
    ∃ abort s', attempt o c {} renderId s = (.error abort, s') ∧ abort.kind = kind ∧
      s'.page = s.page := by
  -- three of the stages fail in the same way
  have hmalformed : ∀ {t : Triple}, Transports c s.page t →
      (¬ ∃ bytes key signature, Decodes t.payload bytes ∧ Loads t.publicKey key ∧
        Decodes t.signature signature) →
      ∃ abort s', attempt o c {} renderId s = (.error abort, s') ∧
        abort.kind = .malformedInput ∧ s'.page = s.page := by
    intro t ht hnot
    obtain ⟨cause, hcause, hkind⟩ := authenticate_of_not ht hnot
    obtain ⟨s', hs', hpage⟩ := attempt_of_authenticate_error o ht hcause renderId
    exact ⟨_, s', hs', hkind, hpage⟩
  cases h with
  | transport h =>
    obtain ⟨cause, hread, hkind⟩ := readTriple_of_not h
    unfold attempt
    rw [hread]
    exact ⟨_, _, rfl, hkind, rfl⟩
  | payload ht h =>
    exact hmalformed ht fun ⟨bytes, _, _, hbytes, _, _⟩ => h ⟨bytes, hbytes⟩
  | key ht _ h =>
    exact hmalformed ht fun ⟨_, key, _, _, hkey, _⟩ => h ⟨key, hkey⟩
  | signature ht _ _ h =>
    exact hmalformed ht fun ⟨_, _, signature, _, _, hsignature⟩ => h ⟨signature, hsignature⟩
  | mismatch ht hbytes hkey hsignature h =>
    obtain ⟨s', hs', hpage⟩ := attempt_of_authenticate_error o ht
      (authenticate_of_mismatch ht hbytes hkey hsignature h) renderId
    exact ⟨_, s', hs', rfl, hpage⟩
  | text ht hbytes hkey hsignature hgenuine h =>
    obtain ⟨cause, hread, hkind⟩ := decodeSource_of_not h
    unfold attempt
    rw [readTriple_of_transports ht]
    dsimp only
    rw [authenticate_of_verify ht hbytes hkey hsignature hgenuine]
    dsimp only
    rw [hread]
    exact ⟨_, _, rfl, hkind, by rw [page_send, page_send]⟩
  | page ht hbytes hkey hsignature hgenuine hsource h =>
    obtain ⟨cause, hmaterialize, hkind⟩ := materialize_of_not h c.note
    unfold attempt
    rw [readTriple_of_transports ht]
    dsimp only
    rw [authenticate_of_verify ht hbytes hkey hsignature hgenuine]
    dsimp only
    rw [decodeSource_of_ofString hsource]
    dsimp only
    rw [page_sendAll, page_send, page_send, hmaterialize]
    exact ⟨_, _, rfl, hkind, by rw [page_sendAll, page_send, page_send]⟩

end

/-! ## One verdict for each page -/

/-- The scene of a page that nobody watches. -/
def Scene.ofPage (page : Html.Document) : Scene Unit where
  page := page
  observer := ()

/-- No page is both admitted and refused: one attempt cannot end in two ways. -/
theorem Admitted.not_refused {c : Config} {page : Html.Document} {t : Triple} {bytes : Bytes}
    {key : Rsa.PublicKey} {signature : Bytes} {source : String} {nodes : List Html.Node}
    (h : Admitted c page t bytes key signature source nodes) (kind : FailureKind) :
    ¬ Refused c page kind := by
  intro hrefused
  obtain ⟨s, hattempt, -⟩ :=
    attempt_of_admitted Observer.nobody (s := Scene.ofPage page) h (by decide : "1" ≠ "")
  obtain ⟨abort, s', hattempt', -⟩ :=
    attempt_of_refused Observer.nobody (s := Scene.ofPage page) hrefused "1"
  rw [hattempt] at hattempt'
  simp at hattempt'

/-- A page is refused for one kind of failure only. -/
theorem Refused.eq {c : Config} {page : Html.Document} {kind kind' : FailureKind}
    (h : Refused c page kind) (h' : Refused c page kind') : kind = kind' := by
  obtain ⟨abort, s, hattempt, rfl, -⟩ :=
    attempt_of_refused Observer.nobody (s := Scene.ofPage page) h "1"
  obtain ⟨abort', s', hattempt', rfl, -⟩ :=
    attempt_of_refused Observer.nobody (s := Scene.ofPage page) h' "1"
  rw [hattempt, Prod.mk.injEq] at hattempt'
  rw [Except.error.inj hattempt'.1]

/-! ## The whole render -/

/-- The note is shown where it is asked for and not empty. -/
theorem noteNodes_note (c : Config) :
    noteNodes c.note = if c.showNote ∧ c.noteText ≠ "" then
      [.element "div" [("class", "flo-note")] [.text .plain c.noteText]] else [] := by
  unfold Config.note
  by_cases hshow : c.showNote
  · by_cases htext : c.noteText = ""
    · simp [hshow, htext, noteNodes]
    · simp [hshow, htext, noteNodes, noteElement, textElement]
  · simp [hshow, noteNodes]

/-- What a render comes to: its result, and the page as it leaves it. -/
structure Judges (c : Config) (page : Html.Document) (result : Result) (page' : Html.Document) :
    Prop where
  /-- A page is rendered if and only if every stage accepts it. -/
  rendered_iff : result.isRendered ↔ ∃ t bytes key signature source nodes,
    Admitted c page t bytes key signature source nodes
  /-- Then the result is the compiled source, and its nodes take the body, with one note behind
  them if notes are shown and there is a text for it. -/
  rendered : ∀ t bytes key signature source nodes,
    Admitted c page t bytes key signature source nodes →
      result = .rendered (Flo.compile source c.bindings).html
          (Flo.compile source c.bindings).anomalies ∧
        page.Refilled (nodes ++ if c.showNote ∧ c.noteText ≠ "" then
          [.element "div" [("class", "flo-note")] [.text .plain c.noteText]] else []) page'
  /-- Otherwise the result is the kind of failure of the first stage that does not. -/
  aborted_iff : ∀ kind, result = .aborted kind ↔ Refused c page kind
  /-- Then a placeholder takes the body; a page without a body stays as it is. -/
  aborted : ∀ kind, result = .aborted kind →
    page.Refilled [.element "pre" [("class", "flo-error")] [.text .plain kind.placeholder]] page' ∨
      page.body? = none ∧ page' = page

/-- A page that is admitted is judged by its filled body. -/
theorem judges_of_admitted {c : Config} {page page' : Html.Document} {t : Triple} {bytes : Bytes}
    {key : Rsa.PublicKey} {signature : Bytes} {source : String} {nodes : List Html.Node}
    (h : Admitted c page t bytes key signature source nodes)
    (hpage : page.Refilled (nodes ++ noteNodes c.note) page') :
    Judges c page (.rendered (Flo.compile source c.bindings).html
      (Flo.compile source c.bindings).anomalies) page' where
  rendered_iff := ⟨fun _ => ⟨t, bytes, key, signature, source, nodes, h⟩, fun _ => rfl⟩
  rendered t' bytes' key' signature' source' nodes' h' := by
    obtain ⟨rfl, rfl⟩ := h.eq h'
    rw [← noteNodes_note]
    exact ⟨rfl, hpage⟩
  aborted_iff kind := by
    constructor
    · intro haborted
      simp at haborted
    · exact fun hrefused => absurd hrefused (h.not_refused kind)
  aborted kind haborted := by simp at haborted

/-- A page that is refused is judged by its placeholder. -/
theorem judges_of_refused {c : Config} {page page' : Html.Document} {kind : FailureKind}
    (h : Refused c page kind)
    (hpage : page.Refilled [placeholderElement kind.placeholder] page' ∨
      page.body? = none ∧ page' = page) :
    Judges c page (.aborted kind) page' where
  rendered_iff := by
    constructor
    · intro hrendered
      simp [Result.isRendered] at hrendered
    · rintro ⟨t, bytes, key, signature, source, nodes, hadmitted⟩
      exact absurd h (hadmitted.not_refused kind)
  rendered t bytes key signature source nodes hadmitted :=
    absurd h (hadmitted.not_refused kind)
  aborted_iff kind' := by
    constructor
    · intro haborted
      obtain rfl := Result.aborted.inj haborted
      exact h
    · intro h'
      rw [h.eq h']
  aborted kind' haborted := by
    obtain rfl := Result.aborted.inj haborted
    exact hpage

/-- Whatever the page, the configuration and the observer are, a render with a name ends in an
outcome of that name, which judges the page. -/
theorem run_judges {σ : Type} (o : Observer σ) (c : Config) {renderId : String}
    (hid : renderId ≠ "") (s : Scene σ) :
    ∃ result s', run o c {} renderId s = (.ok ⟨renderId, result⟩, s') ∧
      Judges c s.page result s'.page := by
  -- the observer hears of the start before the page is looked at
  have hpage : (s.send o ⟨renderId, .renderStarted, none⟩).page = s.page := page_send o s _
  unfold run
  generalize s.send o ⟨renderId, .renderStarted, none⟩ = start at hpage ⊢
  rw [← hpage]
  rcases admitted_or_refused c start.page with
    ⟨t, bytes, key, signature, source, nodes, hadmitted⟩ | ⟨kind, hrefused⟩
  · obtain ⟨s', hattempt, hrefilled⟩ := attempt_of_admitted o hadmitted hid
    rw [hattempt]
    refine ⟨_, _, rfl, ?_⟩
    rw [page_send]
    exact judges_of_admitted hadmitted hrefilled
  · obtain ⟨abort, s', hattempt, rfl, hpage'⟩ := attempt_of_refused o hrefused renderId
    rw [hattempt]
    dsimp only
    rw [make_of_ne_empty hid]
    refine ⟨_, _, rfl, judges_of_refused hrefused ?_⟩
    -- the attempt left the page alone, so the placeholder goes into the page that was given
    rw [page_send, ← hpage']
    exact page_placeholder (s'.note (abort.record renderId)) renderId abort.kind

/-! ## A page that is rendered -/

/-- The three texts of a page with a signed greeting. -/
def greetingTriple : Triple where
  payload := "SGVsbG8sIHt7dXNlcn19IQ=="
  signature :=
    "U/YRJ35E/whfUIap4gJ52oImr940IuWgiW/W14hjccQU" ++
      "1jnN83kT4S60EoWVY3FMuN2l1s6c8UhqdpcYTOk0lA=="
  publicKey :=
    "MEYCQQC0CwNpCt8+p9qfx6xR/Nj+v6ZlXrQjhIepB/UsGHk3" ++
      "WQNp3z5RW39mn2nUtjMRKZwTJIcUrd/qFTHIN0SUwC/xAgED"

/-- The key of the greeting. -/
def greetingKey : Rsa.PublicKey where
  n :=
    Nat.shiftLeft 0xB40B03690ADF3EA7DA9FC7AC51FCD8FEBFA6655EB4238487A907F52C18793759 256 +
      0x0369DF3E515B7F669F69D4B63311299C13248714ADDFEA1531C8374494C02FF1
  e := 3

/-- The signature of the greeting. -/
def greetingSignature : Bytes :=
  Rsa.fixedBytes greetingKey.bytes
    (Nat.shiftLeft 0x53F611277E44FF085F5086A9E20279DA8226AFDE3422E5A0896FD6D7886371C4 256 +
      0x14D639CDF37913E12EB412859563714CB8DDA5D6CE9CF1486A7697184CE93494)

/-- The elements that carry the texts of the greeting. -/
def greetingCarriers : List Html.Node :=
  [("flo-payload", greetingTriple.payload), ("flo-signature", greetingTriple.signature),
    ("flo-public-pem", greetingTriple.publicKey)].map fun (id, text) =>
      .element "p" [("id", id)] [.text .plain text]

/-- The page with the greeting. -/
def greetingPage : Html.Document :=
  [.element "body" [] greetingCarriers]

theorem body?_greetingPage :
    greetingPage.body? = some (.element "body" [] greetingCarriers) :=
  rfl

theorem loads_greetingKey : Loads greetingTriple.publicKey greetingKey :=
  ⟨(Der.Value.sequence [.integer greetingKey.n, .integer greetingKey.e]).write,
    ⟨by decide +kernel, by decide +kernel⟩, by decide +kernel⟩

theorem transports_greetingPage : Transports {} greetingPage greetingTriple where
  payload := ⟨⟨_, rfl, by decide +kernel⟩, by decide +kernel⟩
  signature := ⟨⟨_, rfl, by decide +kernel⟩, by decide +kernel⟩
  publicKey := ⟨⟨_, rfl, by decide +kernel⟩, by decide +kernel⟩

theorem admitted_greetingPage :
    Admitted {} greetingPage greetingTriple (Utf8.ofString "Hello, {{user}}!") greetingKey
      greetingSignature "Hello, {{user}}!" [.text .plain "Hello, Scholar!"] where
  carried := transports_greetingPage
  decoded := ⟨by decide +kernel, by decide +kernel⟩
  loaded := loads_greetingKey
  signed := ⟨by decide +kernel, by decide +kernel⟩
  genuine := by decide +kernel
  spelled := rfl
  taken := by
    refine ⟨?_, rfl⟩
    rw [body?_greetingPage]
    exact Option.some_ne_none _

/-- The greeting is rendered with the default binding, and the note stands behind it. -/
theorem run_judges_greetingPage :
    ∃ s', run Observer.nobody {} {} "1" (Scene.ofPage greetingPage) =
        (.ok ⟨"1", .rendered "Hello, Scholar!" []⟩, s') ∧
      s'.page.body? = some (.element "body" [] [.text .plain "Hello, Scholar!",
        .element "div" [("class", "flo-note")] [.text .plain "FLO verified ✔"]]) := by
  obtain ⟨result, s', hrun, hjudges⟩ := run_judges Observer.nobody {} (by decide : "1" ≠ "")
    (Scene.ofPage greetingPage)
  obtain ⟨rfl, attributes, old, hbody, hbody', -⟩ :=
    hjudges.rendered _ _ _ _ _ _ admitted_greetingPage
  have hfragment : Flo.compile "Hello, {{user}}!" ({} : Config).bindings =
      ⟨"Hello, Scholar!", []⟩ :=
    congrArg (Flo.Fragment.mk "Hello, Scholar!") List.mergeSort_nil
  rw [hfragment] at hrun
  have hpage : (Scene.ofPage greetingPage).page.body? =
      some (.element "body" [] greetingCarriers) := body?_greetingPage
  rw [hpage] at hbody
  obtain ⟨-, rfl, -⟩ := Html.Node.element.inj (Option.some.inj hbody)
  refine ⟨s', hrun, ?_⟩
  exact hbody'

end SealedPage.Render
