import SealedPage.Proofs.Render.Protocol

/-!
# What events tell of aborted renders

The last event of an aborted render tells its state and nothing else, but the events in front of it
tell more: whether the signature was good, and then the anomalies of the source. `told_eq_iff` says
that this is all: an observer of two aborted renders in one state, of pages that agree around their
bodies, tells them apart by these two things only. A signature that does not match and a payload
that cannot be decoded are told alike; a signed payload that is no text is told apart from both,
`misspelled_told`.
-/

namespace SealedPage.Render

open Text

/-! ## What is told -/

/-- What an event tells, apart from its render: its kind and its details. -/
def Event.told (e : Event) : EventKind × Option (List (String × Json.Value)) :=
  (e.kind, e.details)

/-- What the event of an anomaly tells of it: the detail is left out. -/
def toldAnomaly (a : Flo.Anomaly) : Flo.AnomalyKind × String × Nat :=
  (a.kind, a.tag, a.offset)

/-- Two events of anomalies tell the same where the anomalies do. -/
theorem told_ofAnomaly_eq_iff {renderId renderId' : String} {a a' : Flo.Anomaly} :
    (Event.ofAnomaly renderId a).told = (Event.ofAnomaly renderId' a').told ↔
      toldAnomaly a = toldAnomaly a' := by
  have hname : a.kind.name = a'.kind.name ↔ a.kind = a'.kind := by
    constructor
    · cases a.kind <;> cases a'.kind <;> decide
    · exact congrArg _
  simp [Event.told, Event.ofAnomaly, toldAnomaly, hname]

/-- Two lists of anomalies are told alike where they tell the same, one by one. -/
theorem map_told_ofAnomaly_eq_iff {renderId renderId' : String} {as as' : List Flo.Anomaly} :
    as.map (Event.told ∘ Event.ofAnomaly renderId) =
        as'.map (Event.told ∘ Event.ofAnomaly renderId') ↔
      as.map toldAnomaly = as'.map toldAnomaly := by
  induction as generalizing as' with
  | nil => simp
  | cons a as ih => cases as' <;> simp [told_ofAnomaly_eq_iff, ih]

/-- The events of two compilations tell the same if and only if their anomalies do. -/
theorem map_told_compilationEvents_eq_iff {renderId renderId' : String} {f f' : Flo.Fragment} :
    (compilationEvents renderId f).map Event.told =
        (compilationEvents renderId' f').map Event.told ↔
      f.anomalies.map toldAnomaly = f'.anomalies.map toldAnomaly := by
  simp only [compilationEvents, List.map_append, List.map_map, List.map_cons, List.map_nil]
  constructor
  · intro h
    exact map_told_ofAnomaly_eq_iff.1 (List.append_inj_left' h rfl)
  · intro h
    -- as many anomalies are told, so that their numbers agree too
    have hlength : f.anomalies.length = f'.anomalies.length := by
      simpa using congrArg List.length h
    rw [map_told_ofAnomaly_eq_iff.2 h, hlength]
    rfl

/-! ## Aborted renders -/

/-- The state of an aborted render, and the events of the stages that its page passed. -/
inductive Aborts (c : Config) (page : Html.Document) (renderId : String) :
    PageState → List Event → Prop where
  | unread (h : ¬ ∃ bytes, Accepts c page bytes) :
    Aborts c page renderId .missingInputAbort []
  | unverified (h : ¬ ∃ bytes, Accepts c page bytes) :
    Aborts c page renderId .integrityAbort [⟨renderId, .transportRead, none⟩]
  | unspelled {bytes : Bytes} (hbytes : Accepts c page bytes)
    (h : ¬ ∃ source, Accepts c page (Utf8.ofString source)) :
    Aborts c page renderId .integrityAbort (gateEvents renderId)
  | untaken {source : String} (hsource : Accepts c page (Utf8.ofString source)) :
    Aborts c page renderId .runtimeAbort
      (gateEvents renderId ++ compilationEvents renderId (Flo.compile source c.bindings))

/-- A page is accepted for one content only. -/
theorem Accepts.eq {c : Config} {page : Html.Document} {bytes bytes' : Bytes}
    (h : Accepts c page bytes) (h' : Accepts c page bytes') : bytes = bytes' :=
  (verified_iff_accepts.2 h).eq (verified_iff_accepts.2 h')

/-- The stages that a refused page passes, and the state that its render is aborted in. -/
theorem Refused.course {c : Config} {page : Html.Document} {kind : FailureKind}
    (h : Refused c page kind) (renderId : String) :
    ∃ es, Course c {} page renderId es none ∧ Aborts c page renderId kind.state es := by
  -- four of the refusals are those of the check
  have hunverified : ∀ {t : Triple} {abort : Abort}, Transports c page t →
      authenticate {} t = .error abort → kind.state = .integrityAbort →
      ∃ es, Course c {} page renderId es none ∧ Aborts c page renderId kind.state es := by
    intro t abort ht hfails hstate
    have hnot : ¬ ∃ bytes, Verified c {} page bytes := by
      rintro ⟨bytes, t', ht', hbytes⟩
      obtain rfl := ht.eq ht'
      rw [hfails] at hbytes
      cases hbytes
    rw [hstate]
    exact ⟨_, .unverified ht hnot, .unverified (by simpa only [verified_iff_accepts] using hnot)⟩
  have hunreadable : ∀ {t : Triple}, Transports c page t →
      (¬ ∃ bytes key signature, Decodes t.payload bytes ∧ Loads t.publicKey key ∧
        Decodes t.signature signature) → kind.state = .integrityAbort →
      ∃ es, Course c {} page renderId es none ∧ Aborts c page renderId kind.state es := by
    intro t ht hnot hstate
    obtain ⟨cause, hfails, -⟩ := authenticate_of_not ht hnot
    exact hunverified ht hfails hstate
  cases h with
  | transport h => exact ⟨_, .unread h, .unread fun ⟨_, t, _, ht, _⟩ => h ⟨t, ht⟩⟩
  | payload ht h =>
    exact hunreadable ht (fun ⟨bytes, _, _, hbytes, _, _⟩ => h ⟨bytes, hbytes⟩) rfl
  | key ht _ h => exact hunreadable ht (fun ⟨_, k, _, _, hkey, _⟩ => h ⟨k, hkey⟩) rfl
  | signature ht _ _ h =>
    exact hunreadable ht (fun ⟨_, _, s, _, _, hsignature⟩ => h ⟨s, hsignature⟩) rfl
  | mismatch ht hbytes hkey hsignature h =>
    exact hunverified ht (authenticate_of_mismatch ht hbytes hkey hsignature h) rfl
  | text ht hbytes hkey hsignature hgenuine h =>
    have hverified : Verified c {} page _ :=
      ⟨_, ht, authenticate_of_verify ht hbytes hkey hsignature hgenuine⟩
    have haccepts := verified_iff_accepts.1 hverified
    exact ⟨_, .unspelled hverified h,
      .unspelled haccepts fun ⟨source, hsource⟩ => h ⟨source, hsource.eq haccepts⟩⟩
  | page ht hbytes hkey hsignature hgenuine hsource h =>
    have hverified : Verified c {} page _ :=
      ⟨_, ht, authenticate_of_verify ht hbytes hkey hsignature hgenuine⟩
    rw [← hsource] at hverified
    exact ⟨_, .untaken hverified h, .untaken (verified_iff_accepts.1 hverified)⟩

/-- An aborted render sends the event of the beginning, those of the stages that its page passed,
and the event of the end. -/
theorem aborts_of_run {σ : Type} {o : Observer σ} {c : Config} {renderId : String} {s t : Scene σ}
    {outcome : Outcome} (hid : renderId ≠ "") (h : run o c {} renderId s = (.ok outcome, t))
    (haborted : outcome.result.isRendered = false) :
    ∃ es, Aborts c s.page renderId outcome.state es ∧
      Sends o s t (runEvents renderId es outcome t.page.write) := by
  obtain ⟨es, f?, hcourse, hsends, -, hresult⟩ := sends_run o hid h
  refine ⟨es, ?_, hsends⟩
  cases f? with
  | some f =>
    dsimp only at hresult
    rw [hresult] at haborted
    cases haborted
  | none =>
    rcases admitted_or_refused c s.page with
      ⟨triple, bytes, key, signature, source, nodes, hadmitted⟩ | ⟨kind, hrefused⟩
    · exfalso
      rw [← page_send o s ⟨renderId, .renderStarted, none⟩] at hadmitted
      obtain ⟨u, hattempt, -⟩ := attempt_of_admitted o hadmitted hid
      rw [run, hattempt] at h
      obtain rfl := Except.ok.inj (Prod.mk.inj h).1
      cases haborted
    · obtain ⟨u, hrun⟩ := run_of_refused o hrefused hid
      rw [hrun] at h
      obtain rfl := Except.ok.inj (Prod.mk.inj h).1
      obtain ⟨es', hcourse', haborts⟩ := hrefused.course renderId
      rwa [(hcourse.unique hcourse').1]

/-! ## Two aborted renders -/

/-- Two runs are told alike where their stages and their ends are. -/
theorem map_told_runEvents_eq_iff {renderId renderId' : String} {es es' : List Event}
    {outcome outcome' : Outcome} {document document' : String} :
    (runEvents renderId es outcome document).map Event.told =
        (runEvents renderId' es' outcome' document').map Event.told ↔
      es.map Event.told = es'.map Event.told ∧
        (Event.ofOutcome outcome document).told = (Event.ofOutcome outcome' document').told := by
  simp [runEvents, Event.told]

/-- Nothing that is told sets two pages apart: the check accepts the payloads of both or of
neither, and if both are sources, as much is told of the anomalies of the one as of the other. -/
structure ToldAlike (c c' : Config) (page page' : Html.Document) : Prop where
  accepted : (∃ bytes, Accepts c page bytes) ↔ ∃ bytes, Accepts c' page' bytes
  anomalies : ∀ source source', Accepts c page (Utf8.ofString source) →
    Accepts c' page' (Utf8.ofString source') →
    (Flo.compile source c.bindings).anomalies.map toldAnomaly =
      (Flo.compile source' c'.bindings).anomalies.map toldAnomaly

/-- Aborted renders in one state differ in what their stages tell if and only if their pages are
set apart. -/
theorem Aborts.told_eq_iff_toldAlike {c c' : Config} {page page' : Html.Document}
    {renderId renderId' : String} {state : PageState} {es es' : List Event}
    (h : Aborts c page renderId state es) (h' : Aborts c' page' renderId' state es') :
    es.map Event.told = es'.map Event.told ↔ ToldAlike c c' page page' := by
  have hnone : (¬ ∃ bytes, Accepts c page bytes) → (¬ ∃ bytes, Accepts c' page' bytes) →
      ToldAlike c c' page page' :=
    fun h h' => ⟨iff_of_false h h', fun _ _ hsource => absurd ⟨_, hsource⟩ h⟩
  -- in each state the renders end at one stage, but for the integrity abort, which has two
  cases h with
  | unread h =>
    cases h' with
    | unread h' => exact iff_of_true rfl (hnone h h')
  | unverified h =>
    cases h' with
    | unverified h' => exact iff_of_true rfl (hnone h h')
    | unspelled hbytes' h' =>
      exact iff_of_false (by simp [gateEvents]) fun halike => h (halike.accepted.2 ⟨_, hbytes'⟩)
  | unspelled hbytes h =>
    cases h' with
    | unverified h' =>
      exact iff_of_false (by simp [gateEvents]) fun halike => h' (halike.accepted.1 ⟨_, hbytes⟩)
    | unspelled hbytes' h' =>
      exact iff_of_true rfl ⟨iff_of_true ⟨_, hbytes⟩ ⟨_, hbytes'⟩,
        fun _ _ hsource => absurd ⟨_, hsource⟩ h⟩
  | untaken hsource =>
    cases h' with
    | untaken hsource' =>
      have hgate : (gateEvents renderId).map Event.told =
          (gateEvents renderId').map Event.told := rfl
      rw [List.map_append, List.map_append, hgate, List.append_right_inj,
        map_told_compilationEvents_eq_iff]
      constructor
      · intro heq
        refine ⟨iff_of_true ⟨_, hsource⟩ ⟨_, hsource'⟩, fun source source' h h' => ?_⟩
        rw [Utf8.eq_of_ofString_eq (h.eq hsource), Utf8.eq_of_ofString_eq (h'.eq hsource'), heq]
      · exact fun halike => halike.anomalies _ _ hsource hsource'

/-- Two renders of pages that agree around their bodies, whoever watches them: if both are aborted
in the same state, their last events tell the same, and all of their events do if and only if
nothing sets the pages apart. In front of the check there is nothing that could. -/
theorem told_eq_iff {σ τ : Type} (o : Observer σ) (o' : Observer τ) (c c' : Config)
    (renderId renderId' : String) (s t : Scene σ) (s' t' : Scene τ) (outcome outcome' : Outcome)
    (hid : renderId ≠ "") (hid' : renderId' ≠ "") (hagree : s.page.AgreesAround s'.page)
    (hrun : run o c {} renderId s = (.ok outcome, t))
    (hrun' : run o' c' {} renderId' s' = (.ok outcome', t'))
    (haborted : outcome.result.isRendered = false)
    (haborted' : outcome'.result.isRendered = false) (hstate : outcome.state = outcome'.state) :
    ∃ events events', Sends o s t events ∧ Sends o' s' t' events' ∧
      (events.getLast?.map Event.told = events'.getLast?.map Event.told) ∧
      (events.map Event.told = events'.map Event.told ↔ ToldAlike c c' s.page s'.page) ∧
      (outcome.state = .missingInputAbort → events.map Event.told = events'.map Event.told) := by
  obtain ⟨es, haborts, hsends⟩ := aborts_of_run hid hrun haborted
  obtain ⟨es', haborts', hsends'⟩ := aborts_of_run hid' hrun' haborted'
  have hpage : t.page = t'.page := by
    rw [run_aborted o hrun haborted, run_aborted o' hrun' haborted', ← hstate,
      abortedPage_congr hagree]
  have hlast : (Event.ofOutcome outcome t.page.write).told =
      (Event.ofOutcome outcome' t'.page.write).told := by
    have hanomalies : ∀ {r : Result}, r.isRendered = false → r.anomalies = [] := by
      intro r hr
      cases r with
      | rendered => cases hr
      | aborted => rfl
    simp only [Event.told, Event.ofOutcome, haborted, haborted', hstate, hpage,
      hanomalies haborted, hanomalies haborted']
  have htold : (runEvents renderId es outcome t.page.write).map Event.told =
      (runEvents renderId' es' outcome' t'.page.write).map Event.told ↔
        es.map Event.told = es'.map Event.told :=
    map_told_runEvents_eq_iff.trans (and_iff_left hlast)
  rw [hstate] at haborts
  refine ⟨_, _, hsends, hsends', ?_, htold.trans (haborts.told_eq_iff_toldAlike haborts'), ?_⟩
  · simp only [runEvents, List.getLast?_concat, Option.map_some, hlast]
  · intro hmissing
    rw [hstate] at hmissing
    rw [hmissing] at haborts haborts'
    cases haborts
    cases haborts'
    exact htold.2 rfl

theorem not_accepts_malformed :
    ¬ ∃ bytes, Accepts {} (carrierPage malformedTriple) bytes := by
  rintro ⟨bytes, t, -, ht, hbytes, -⟩
  obtain rfl := ht.eq transports_malformed
  exact not_decodes_malformed ⟨bytes, hbytes⟩

theorem not_accepts_forged : ¬ ∃ bytes, Accepts {} (carrierPage forgedTriple) bytes := by
  rintro ⟨bytes, t, key, ht, hbytes, hkey, hcheck⟩
  cases refused_forged with
  | mismatch ht' hbytes' hkey' hsignature h =>
    obtain rfl := ht.eq ht'
    obtain rfl := hbytes.eq hbytes'
    obtain rfl := hkey.eq hkey'
    obtain ⟨-, signature, hsignature', hgenuine⟩ := checkWith_eq_accepted_iff.1 hcheck
    obtain rfl := hsignature.eq hsignature'
    rw [hgenuine] at h
    cases h

/-- A payload that cannot be decoded and a signature that does not match are told alike. -/
theorem told_eq_forged :
    ∃ t t' events events', run Observer.nobody {} {} "1"
        (Scene.ofPage (carrierPage malformedTriple)) = (.ok ⟨"1", .aborted .malformedInput⟩, t) ∧
      run Observer.nobody {} {} "2" (Scene.ofPage (carrierPage forgedTriple)) =
        (.ok ⟨"2", .aborted .signatureMismatch⟩, t') ∧
      t.sent.toList = events ∧ t'.sent.toList = events' ∧
      events.map Event.told = events'.map Event.told := by
  have hid : "1" ≠ "" := by decide
  have hid' : "2" ≠ "" := by decide
  obtain ⟨t, hrun⟩ := run_of_refused Observer.nobody
    (s := Scene.ofPage (carrierPage malformedTriple)) refused_malformed hid
  obtain ⟨t', hrun'⟩ := run_of_refused Observer.nobody
    (s := Scene.ofPage (carrierPage forgedTriple)) refused_forged hid'
  obtain ⟨events, events', hsends, hsends', -, htold, -⟩ := told_eq_iff Observer.nobody
    Observer.nobody {} {} "1" "2" _ t _ t' _ _ hid hid' (Or.inr ⟨_, [], _, rfl, rfl, rfl⟩) hrun
    hrun' rfl rfl rfl
  refine ⟨t, t', events, events', hrun, hrun', hsends.sent, hsends'.sent, htold.2 ?_⟩
  exact ⟨iff_of_false not_accepts_malformed not_accepts_forged,
    fun _ _ hsource => absurd ⟨_, hsource⟩ not_accepts_malformed⟩

/-! ## A signed payload that is no text -/

/-- The three texts of a page whose payload is signed, and is no text. -/
def misspelledTriple : Triple where
  payload := "/w=="
  signature :=
    "DnrYPK0rWtRt4EmYgBPh/SiVaIDP5fMXkRBYGI/d4gha" ++
      "4iHxEYm597GsKtVS7bsB8WA0SI9fnHFOEE+6p+XRzw=="
  publicKey :=
    "MEYCQQDn36Lf7i9NFpLU0E/YbucHW7/xl9G4D1V6++JL" ++
      "v83LNhAy1wQf28Y5GqJMWrTPLRMq2aor7tegHSc6l4XbGhrDAgED"

/-- The key of that page. -/
def misspelledKey : Rsa.PublicKey where
  n :=
    Nat.shiftLeft 0xE7DFA2DFEE2F4D1692D4D04FD86EE7075BBFF197D1B80F557AFBE24BBFCDCB36 256 +
      0x1032D7041FDBC6391AA24C5AB4CF2D132AD9AA2BEED7A01D273A9785DB1A1AC3
  e := 3

/-- The signature of that page. -/
def misspelledSignature : Bytes :=
  Rsa.fixedBytes misspelledKey.bytes
    (Nat.shiftLeft 0x0E7AD83CAD2B5AD46DE049988013E1FD28956880CFE5F317911058188FDDE208 256 +
      0x5AE221F11189B9F7B1AC2AD552EDBB01F16034488F5F9C714E104FBAA7E5D1CF)

/-- The page whose signed content is no text is refused as malformed, although its signature is
right. -/
theorem refused_misspelled : Refused {} (carrierPage misspelledTriple) .malformedInput ∧
    Accepts {} (carrierPage misspelledTriple) [0xFF] := by
  have ht : Transports {} (carrierPage misspelledTriple) misspelledTriple :=
    ⟨⟨⟨_, rfl, by decide +kernel⟩, by decide +kernel⟩,
      ⟨⟨_, rfl, by decide +kernel⟩, by decide +kernel⟩,
      ⟨⟨_, rfl, by decide +kernel⟩, by decide +kernel⟩⟩
  have hpayload : Decodes misspelledTriple.payload [0xFF] :=
    ⟨by decide +kernel, by decide +kernel⟩
  have hkey : Loads misspelledTriple.publicKey misspelledKey :=
    ⟨(Key.bareRsaPublicKey misspelledKey).write, ⟨by decide +kernel, by decide +kernel⟩,
      by decide +kernel⟩
  have hsignature : Decodes misspelledTriple.signature misspelledSignature :=
    ⟨by decide +kernel, by decide +kernel⟩
  have hgenuine : Rsa.verify misspelledKey [0xFF] misspelledSignature := by decide +kernel
  have hspelled : ¬ ∃ source, Utf8.ofString source = [0xFF] := by
    rintro ⟨source, hsource⟩
    have hread : Utf8.toString [0xFF] = .ok source := Utf8.toString_eq_ok_iff.2 hsource
    have hrefused : (Utf8.toString [0xFF]).isOk = false := by decide +kernel
    rw [hread] at hrefused
    cases hrefused
  exact ⟨.text ht hpayload hkey hsignature hgenuine hspelled,
    misspelledTriple, misspelledKey, ht, hpayload, hkey,
    checkWith_of_verify hpayload.nonempty ht.signature.all_isBlank hsignature hgenuine⟩

/-- That page is told apart from the one with a signature that does not match, in the same state:
its observer learns that the signature is good. -/
theorem misspelled_told :
    ∃ t t', run Observer.nobody {} {} "1" (Scene.ofPage (carrierPage misspelledTriple)) =
        (.ok ⟨"1", .aborted .malformedInput⟩, t) ∧
      run Observer.nobody {} {} "1" (Scene.ofPage (carrierPage forgedTriple)) =
        (.ok ⟨"1", .aborted .signatureMismatch⟩, t') ∧
      (carrierPage misspelledTriple).AgreesAround (carrierPage forgedTriple) ∧
      FailureKind.malformedInput.state = FailureKind.signatureMismatch.state ∧
      t.sent.toList.map Event.told ≠ t'.sent.toList.map Event.told := by
  have hid : "1" ≠ "" := by decide
  have hagree : (carrierPage misspelledTriple).AgreesAround (carrierPage forgedTriple) :=
    Or.inr ⟨_, [], _, rfl, rfl, rfl⟩
  obtain ⟨hrefused, haccepts⟩ := refused_misspelled
  obtain ⟨t, hrun⟩ := run_of_refused Observer.nobody
    (s := Scene.ofPage (carrierPage misspelledTriple)) hrefused hid
  obtain ⟨t', hrun'⟩ := run_of_refused Observer.nobody
    (s := Scene.ofPage (carrierPage forgedTriple)) refused_forged hid
  refine ⟨t, t', hrun, hrun', hagree, rfl, ?_⟩
  obtain ⟨es, haborts, hsends⟩ := aborts_of_run hid hrun rfl
  obtain ⟨es', haborts', hsends'⟩ := aborts_of_run hid hrun' rfl
  have hsent : t.sent.toList = runEvents "1" es _ _ := hsends.sent
  have hsent' : t'.sent.toList = runEvents "1" es' _ _ := hsends'.sent
  rw [hsent, hsent']
  intro htold
  have hstages := (map_told_runEvents_eq_iff.1 htold).1
  exact not_accepts_forged (((haborts.told_eq_iff_toldAlike haborts').1 hstages).accepted.1
    ⟨_, haccepts⟩)

end SealedPage.Render
