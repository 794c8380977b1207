import Mathlib.Computability.RegularExpressions
import SealedPage.Proofs.Render.Answer
import SealedPage.Proofs.Render.Observation
import SealedPage.Proofs.Render.Transport

/-!
# The protocol of events

The kinds of the events of a render are a word of one regular expression, `protocol`. What an
observer can conclude from them is said by `Reports`: whether the signature was good, which
anomalies the source has, and what state and page the render ended with. Every render keeps to it,
`reports_run`. The observer for its part has no say in any of this, `run_unwatched`.
-/

namespace SealedPage.Render

open Text
open RegularExpression (char)

/-! ## Words -/

section Words

variable {α : Type} {P Q : RegularExpression α} {w w' : List α}

theorem mem_add_left (h : w ∈ P.matches') : w ∈ (P + Q).matches' :=
  Or.inl h

theorem mem_add_right (h : w ∈ Q.matches') : w ∈ (P + Q).matches' :=
  Or.inr h

theorem append_mem_mul (h : w ∈ P.matches') (h' : w' ∈ Q.matches') :
    w ++ w' ∈ (P * Q).matches' :=
  ⟨w, h, w', h', rfl⟩

theorem singleton_mem_char (a : α) : [a] ∈ (char a).matches' :=
  rfl

theorem cons_mem_mul (a : α) (h : w ∈ P.matches') : a :: w ∈ (char a * P).matches' :=
  append_mem_mul (singleton_mem_char a) h

theorem replicate_mem_star (n : Nat) (a : α) : List.replicate n a ∈ (char a).star.matches' := by
  refine Language.mem_kstar.2 ⟨List.replicate n [a], by simp, fun y hy => ?_⟩
  rw [List.eq_of_mem_replicate hy]
  exact singleton_mem_char a

end Words

/-- What follows once the document was compiled. -/
def placingWords : RegularExpression EventKind :=
  char EventKind.renderFailed + char EventKind.documentMaterialized * char EventKind.renderCompleted

/-- What follows once the signature was found good. -/
def readingWords : RegularExpression EventKind :=
  char EventKind.renderFailed +
    (char EventKind.anomalyDetected).star * (char EventKind.documentCompiled * placingWords)

/-- What follows once the transport was read. -/
def checkingWords : RegularExpression EventKind :=
  char EventKind.renderFailed + char EventKind.signatureVerified * readingWords

/-- What follows the beginning of a render. -/
def stageWords : RegularExpression EventKind :=
  char EventKind.renderFailed + char EventKind.transportRead * checkingWords

/-- The words of a render: it begins, passes stages in their order, and fails at one of them or is
completed behind the last. -/
def protocol : RegularExpression EventKind :=
  char .renderStarted * stageWords

/-- A render of a page with two anomalies. -/
example : protocol.rmatch [.renderStarted, .transportRead, .signatureVerified, .anomalyDetected,
    .anomalyDetected, .documentCompiled, .documentMaterialized, .renderCompleted] := by
  decide +kernel

/-! ## What the events of a course are -/

/-- A compilation tells of its anomalies, and then of its end. -/
theorem map_kind_compilationEvents (renderId : String) (f : Flo.Fragment) :
    (compilationEvents renderId f).map Event.kind =
      List.replicate f.anomalies.length .anomalyDetected ++ [.documentCompiled] := by
  simp [compilationEvents, Event.ofAnomaly, Event.compiled, Function.comp_def]

/-- The stages go on behind the gate. -/
theorem gate_mem_stageWords {w : List EventKind} (renderId : String)
    (h : w ∈ readingWords.matches') :
    (gateEvents renderId).map Event.kind ++ w ∈ stageWords.matches' :=
  mem_add_right (cons_mem_mul _ (mem_add_right (cons_mem_mul _ h)))

/-- The stages go on behind the compilation. -/
theorem compilation_mem_readingWords {w : List EventKind} (renderId : String) (f : Flo.Fragment)
    (h : w ∈ placingWords.matches') :
    (compilationEvents renderId f).map Event.kind ++ w ∈ readingWords.matches' := by
  rw [map_kind_compilationEvents, List.append_assoc]
  exact mem_add_right (append_mem_mul (replicate_mem_star _ _) (cons_mem_mul _ h))

/-- The anomalies told of a compilation are its own. -/
theorem filter_compilationEvents (renderId : String) (f : Flo.Fragment) :
    (compilationEvents renderId f).filter (·.kind = .anomalyDetected) =
      f.anomalies.map (Event.ofAnomaly renderId) := by
  simp [compilationEvents, Event.ofAnomaly, Event.compiled, List.filter_map, Function.comp_def]

section Course

variable {c : Config} {v : Verifier} {page : Html.Document} {renderId : String} {es : List Event}
  {f? : Option Flo.Fragment}

/-- The events of a course match the pattern of the stages. -/
theorem Course.mem_stageWords (h : Course c v page renderId es f?) :
    es.map Event.kind ++ [if f?.isSome then .renderCompleted else .renderFailed] ∈
      stageWords.matches' := by
  cases h with
  | unread => exact mem_add_left rfl
  | unverified => exact mem_add_right (cons_mem_mul _ (mem_add_left rfl))
  | unspelled => exact gate_mem_stageWords renderId (mem_add_left rfl)
  | untaken =>
    rw [List.map_append, List.append_assoc]
    exact gate_mem_stageWords renderId
      (compilation_mem_readingWords renderId _ (mem_add_left rfl))
  | passed =>
    rw [stageEvents, List.map_append, List.map_append, List.append_assoc, List.append_assoc]
    exact gate_mem_stageWords renderId
      (compilation_mem_readingWords renderId _
        (mem_add_right (cons_mem_mul _ (singleton_mem_char _))))

/-- An event says that the signature is good if and only if it is. -/
theorem Course.verified_iff (h : Course c v page renderId es f?) :
    (∃ e ∈ es, e.kind = .signatureVerified) ↔ ∃ bytes, Verified c v page bytes := by
  cases h with
  | unread h =>
    refine iff_of_false (by simp) ?_
    rintro ⟨bytes, t, ht, -⟩
    exact h ⟨t, ht⟩
  | unverified ht h => exact iff_of_false (by simp) h
  | unspelled hbytes => exact iff_of_true (by simp [gateEvents]) ⟨_, hbytes⟩
  | untaken hsource => exact iff_of_true (by simp [gateEvents]) ⟨_, hsource⟩
  | passed hsource => exact iff_of_true (by simp [stageEvents, gateEvents]) ⟨_, hsource⟩

/-- Once the source is there, its compilation is told, and at most one event follows. -/
theorem Course.of_source (h : Course c v page renderId es f?) {source : String}
    (hsource : Verified c v page (Utf8.ofString source)) :
    ∃ rest, es = gateEvents renderId ++
        compilationEvents renderId (Flo.compile source c.bindings) ++ rest ∧
      ∀ e ∈ rest, e.kind = .documentMaterialized := by
  cases h with
  | unread h =>
    obtain ⟨t, ht, -⟩ := hsource
    exact absurd ⟨t, ht⟩ h
  | unverified ht h => exact absurd ⟨_, hsource⟩ h
  | unspelled hbytes h => exact absurd ⟨source, hsource.eq hbytes⟩ h
  | untaken hsource' =>
    obtain rfl := Utf8.eq_of_ofString_eq (hsource.eq hsource')
    exact ⟨[], (List.append_nil _).symm, by simp⟩
  | passed hsource' =>
    obtain rfl := Utf8.eq_of_ofString_eq (hsource.eq hsource')
    exact ⟨_, rfl, by simp⟩

/-- Anomalies, and how many there are, are told of sources that were found good only. -/
theorem Course.not_compiled (h : Course c v page renderId es f?)
    (hnot : ¬ ∃ source, Verified c v page (Utf8.ofString source)) :
    ∀ e ∈ es, e.kind ≠ .anomalyDetected ∧ e.kind ≠ .documentCompiled := by
  cases h with
  | unread => simp
  | unverified => simp
  | unspelled => simp [gateEvents]
  | untaken hsource => exact absurd ⟨_, hsource⟩ hnot
  | passed hsource => exact absurd ⟨_, hsource⟩ hnot

/-- Of every kind but the last one, a course has the events that the source determines. -/
theorem Course.filter_of_source (h : Course c v page renderId es f?) {source : String}
    (hsource : Verified c v page (Utf8.ofString source)) {k : EventKind}
    (hk : k ≠ .documentMaterialized) :
    es.filter (·.kind = k) = (gateEvents renderId ++
      compilationEvents renderId (Flo.compile source c.bindings)).filter (·.kind = k) := by
  obtain ⟨rest, rfl, hrest⟩ := h.of_source hsource
  have hnone : rest.filter (·.kind = k) = [] := by
    rw [List.filter_eq_nil_iff]
    intro e he
    simp [hrest e he, hk.symm]
  rw [List.filter_append, hnone, List.append_nil]

/-- The events of anomalies are those of the source. -/
theorem Course.filter_anomalies (h : Course c v page renderId es f?) {source : String}
    (hsource : Verified c v page (Utf8.ofString source)) :
    es.filter (·.kind = .anomalyDetected) =
      (Flo.compile source c.bindings).anomalies.map (Event.ofAnomaly renderId) := by
  rw [h.filter_of_source hsource (by decide), List.filter_append, filter_compilationEvents]
  simp [gateEvents]

/-- The end of the compilation is told once, with the number of the anomalies. -/
theorem Course.filter_compiled (h : Course c v page renderId es f?) {source : String}
    (hsource : Verified c v page (Utf8.ofString source)) :
    es.filter (·.kind = .documentCompiled) =
      [.compiled renderId (Flo.compile source c.bindings).anomalies.length] := by
  rw [h.filter_of_source hsource (by decide)]
  simp [gateEvents, compilationEvents, Event.ofAnomaly, Event.compiled, List.filter_map,
    Function.comp_def]

end Course

/-! ## Signatures that are accepted -/

/-- The check of the signature that a page carries accepts the payload that it carries. -/
def Accepts (c : Config) (page : Html.Document) (bytes : Bytes) : Prop :=
  ∃ t key, Transports c page t ∧ Decodes t.payload bytes ∧ Loads t.publicKey key ∧
    Verifier.checkWith key bytes t.signature = .accepted

/-- With no key imported, to be verified is to be accepted. -/
theorem verified_iff_accepts {c : Config} {page : Html.Document} {bytes : Bytes} :
    Verified c {} page bytes ↔ Accepts c page bytes := by
  constructor
  · rintro ⟨t, ht, hbytes⟩
    by_cases hreadable : ∃ bytes key signature, Decodes t.payload bytes ∧
        Loads t.publicKey key ∧ Decodes t.signature signature
    · obtain ⟨bytes', key, signature, hpayload, hkey, hsignature⟩ := hreadable
      by_cases hgenuine : Rsa.verify key bytes' signature = false
      · rw [authenticate_of_mismatch ht hpayload hkey hsignature hgenuine] at hbytes
        cases hbytes
      · rw [Bool.not_eq_false] at hgenuine
        rw [authenticate_of_verify ht hpayload hkey hsignature hgenuine] at hbytes
        obtain rfl := Except.ok.inj hbytes
        exact ⟨t, key, ht, hpayload, hkey,
          checkWith_of_verify hpayload.nonempty ht.signature.all_isBlank hsignature hgenuine⟩
    · obtain ⟨cause, hcause, -⟩ := authenticate_of_not ht hreadable
      rw [hcause] at hbytes
      cases hbytes
  · rintro ⟨t, key, ht, hpayload, hkey, hcheck⟩
    obtain ⟨-, signature, hsignature, hgenuine⟩ := checkWith_eq_accepted_iff.1 hcheck
    exact ⟨t, ht, authenticate_of_verify ht hpayload hkey hsignature hgenuine⟩

/-! ## Reports -/

/-- An event tells of an anomaly: of its kind, its tag and its place. -/
structure Event.TellsOf (e : Event) (a : Flo.Anomaly) : Prop where
  anomaly : e.detail? "anomaly" = some (.str a.kind.name)
  tag : e.detail? "tag" = some (.str a.tag)
  offset : e.detail? "offset" = some (.int a.offset)

theorem tellsOf_ofAnomaly (renderId : String) (a : Flo.Anomaly) :
    (Event.ofAnomaly renderId a).TellsOf a where
  anomaly := rfl
  tag := rfl
  offset := rfl

/-- What the events of the render of a page say, if it came to an outcome and left a page. -/
structure Reports (c : Config) (page : Html.Document) (outcome : Outcome) (left : Html.Document)
    (events : List Event) : Prop where
  /-- The stages stand in their order, and something ends them. -/
  word : events.map Event.kind ∈ protocol.matches'
  /-- Every event names the render that the outcome is of. -/
  named : ∀ e ∈ events, e.renderId = outcome.renderId
  /-- One event says that the signature is good, if the check accepts it. -/
  verified_iff : (∃ e ∈ events, e.kind = .signatureVerified) ↔ ∃ bytes, Accepts c page bytes
  /-- If the payload that is accepted is a source, one event tells of each anomaly in it, in the
  order of the anomalies. -/
  anomalies : ∀ source, Accepts c page (Utf8.ofString source) →
    List.Forall₂ Event.TellsOf (events.filter (·.kind = .anomalyDetected))
      (Flo.compile source c.bindings).anomalies
  /-- Then one event counts them. -/
  compiled : ∀ source, Accepts c page (Utf8.ofString source) →
    ∃ e, events.filter (·.kind = .documentCompiled) = [e] ∧
      e.detail? "anomalies_count" = some (.int (Flo.compile source c.bindings).anomalies.length)
  /-- Otherwise no event tells of an anomaly or of a compilation. -/
  silent : (¬ ∃ source, Accepts c page (Utf8.ofString source)) →
    ∀ e ∈ events, e.kind ≠ .anomalyDetected ∧ e.kind ≠ .documentCompiled
  /-- The last event tells the state of the outcome, and it carries the page that was left. -/
  last : ∃ front e, events = front ++ [e] ∧
    e.kind = (if outcome.result.isRendered then .renderCompleted else .renderFailed) ∧
    e.detail? "state" = some (.str outcome.state.name) ∧
    e.detail? "document" = some (.str left.write)

/-- Every event of a course carries the identifier. -/
theorem Course.named {c : Config} {v : Verifier} {page : Html.Document} {renderId : String}
    {es : List Event} {f? : Option Flo.Fragment} (h : Course c v page renderId es f?) :
    ∀ e ∈ es, e.renderId = renderId := by
  obtain ⟨f, -, hfront, -⟩ := h.exists_prefix
  intro e he
  exact forall_mem_stageEvents (P := (·.renderId = renderId)) (fun _ _ => rfl) (fun _ _ => rfl)
    rfl e (hfront.subset he)

section Run

variable {c : Config} {v : Verifier} {page : Html.Document} {renderId : String} {es : List Event}
  {f? : Option Flo.Fragment}

/-- The first event and the last are of no kind that a stage has. -/
theorem filter_runEvents (renderId : String) (es : List Event) (outcome : Outcome)
    (document : String) {k : EventKind} (hstart : k ≠ .renderStarted)
    (hend : k.isTerminal = false) :
    (runEvents renderId es outcome document).filter (·.kind = k) = es.filter (·.kind = k) := by
  have hlast : (Event.ofOutcome outcome document).kind ≠ k := by
    rintro rfl
    have hterminal := isTerminal_ofOutcome outcome document
    rw [Event.isTerminal, hend] at hterminal
    cases hterminal
  simp [runEvents, hstart.symm, hlast]

/-- What is told between the ends of a run is told by its stages. -/
theorem exists_mem_runEvents_iff (renderId : String) (es : List Event) (outcome : Outcome)
    (document : String) {k : EventKind} (hstart : k ≠ .renderStarted)
    (hend : k.isTerminal = false) :
    (∃ e ∈ runEvents renderId es outcome document, e.kind = k) ↔ ∃ e ∈ es, e.kind = k := by
  have hfilter := filter_runEvents renderId es outcome document hstart hend
  have hany : ∀ events : List Event,
      (∃ e ∈ events, e.kind = k) ↔ events.filter (·.kind = k) ≠ [] := by
    intro events
    simp [List.filter_eq_nil_iff]
  rw [hany, hany, hfilter]

/-- The events of a run match the protocol. -/
theorem Course.mem_protocol (h : Course c v page renderId es f?) {outcome : Outcome}
    (hrendered : outcome.result.isRendered = f?.isSome) (document : String) :
    (runEvents renderId es outcome document).map Event.kind ∈ protocol.matches' := by
  have hlast : (Event.ofOutcome outcome document).kind =
      if f?.isSome then .renderCompleted else .renderFailed := by
    rw [Event.ofOutcome, hrendered]
  rw [runEvents, List.map_append, List.map_cons, List.map_singleton, hlast]
  exact cons_mem_mul _ h.mem_stageWords

/-- Every event of a run carries the identifier. -/
theorem Course.named_runEvents (h : Course c v page renderId es f?) {outcome : Outcome}
    (hname : outcome.renderId = renderId) (document : String) :
    ∀ e ∈ runEvents renderId es outcome document, e.renderId = renderId := by
  intro e he
  rcases List.mem_append.1 he with he | he
  · rcases List.mem_cons.1 he with rfl | he
    · rfl
    · exact h.named e he
  · rw [List.mem_singleton.1 he]
    exact hname

/-- A render whose stages take the course of its page is reported by its events. -/
theorem Course.reports (h : Course c {} page renderId es f?) {outcome : Outcome}
    (hname : outcome.renderId = renderId) (hrendered : outcome.result.isRendered = f?.isSome)
    (left : Html.Document) :
    Reports c page outcome left (runEvents renderId es outcome left.write) := by
  constructor
  case word => exact h.mem_protocol hrendered _
  case named =>
    rw [hname]
    exact h.named_runEvents hname _
  case verified_iff =>
    rw [exists_mem_runEvents_iff _ _ _ _ (by decide) rfl, h.verified_iff]
    simp only [verified_iff_accepts]
  case anomalies =>
    intro source hsource
    rw [filter_runEvents _ _ _ _ (by decide) rfl,
      h.filter_anomalies (verified_iff_accepts.2 hsource), List.forall₂_map_left_iff,
      List.forall₂_same]
    exact fun a _ => tellsOf_ofAnomaly renderId a
  case compiled =>
    intro source hsource
    rw [filter_runEvents _ _ _ _ (by decide) rfl,
      h.filter_compiled (verified_iff_accepts.2 hsource)]
    exact ⟨_, rfl, rfl⟩
  case silent =>
    intro hnot e he
    have hcourse := h.not_compiled (by simpa only [verified_iff_accepts] using hnot)
    have hne : ∀ k : EventKind, k ≠ .renderStarted → k.isTerminal = false →
        (∀ e ∈ es, e.kind ≠ k) → e.kind ≠ k := by
      intro k hstart hend hnone hk
      obtain ⟨e', he', hk'⟩ := (exists_mem_runEvents_iff _ _ _ _ hstart hend).1 ⟨e, he, hk⟩
      exact hnone e' he' hk'
    exact ⟨hne _ (by decide) rfl fun e he => (hcourse e he).1,
      hne _ (by decide) rfl fun e he => (hcourse e he).2⟩
  case last => exact ⟨_, _, rfl, rfl, rfl, rfl⟩

end Run

/-- Whoever watches it, a render with a name ends in an outcome, and its observer is given the
events that report it. -/
theorem reports_run {σ : Type} (o : Observer σ) (c : Config) {renderId : String}
    (hid : renderId ≠ "") (s : Scene σ) :
    ∃ outcome t events, run o c {} renderId s = (.ok outcome, t) ∧ outcome.renderId = renderId ∧
      Sends o s t events ∧ Reports c s.page outcome t.page events := by
  obtain ⟨outcome, t, hrun⟩ := exists_run o c {} hid s
  obtain ⟨es, f?, hcourse, hsends, hname, hresult⟩ := sends_run o hid hrun
  refine ⟨outcome, t, _, hrun, hname, hsends, hcourse.reports hname ?_ t.page⟩
  cases f? with
  | some f =>
    dsimp only at hresult
    rw [hresult]
    rfl
  | none => exact hresult

/-! ## A page with two strange tags -/

/-- A source with a tag that no rule has and one that closes itself. -/
def strangeSource : String :=
  "<flo:x><flo:main/>"

/-- The anomalies of that source. -/
def strangeAnomalies : List Flo.Anomaly :=
  [⟨.unknownTag, "x", 0, none⟩, ⟨.selfClosingTag, "main", 7, none⟩]

/-- The three texts of a page with that source, signed. -/
def strangeTriple : Triple where
  payload := "PGZsbzp4PjxmbG86bWFpbi8+"
  signature :=
    "B5hUO6740nmKQ75Hrtxt12U0tn3xQd9RnxrS12eyl5+J" ++
      "XPL+UuwQ/L+v5Qbf+OcAFhpgXG1lYLC9QF5JgKDK5g=="
  publicKey :=
    "MEYCQQDBRi0X6WvOB8Rx1D5w+czbq5C64j5TyQndFPXiqeUZ" ++
      "wotNYh/Iqlh6y+B70wonVcN62Tt1qtxXBI2UWAFOpK2jAgED"

/-- The key of that page. -/
def strangeKey : Rsa.PublicKey where
  n :=
    Nat.shiftLeft 0xC1462D17E96BCE07C471D43E70F9CCDBAB90BAE23E53C909DD14F5E2A9E519C2 256 +
      0x8B4D621FC8AA587ACBE07BD30A2755C37AD93B75AADC57048D9458014EA4ADA3
  e := 3

/-- The signature of that page. -/
def strangeSignature : Bytes :=
  Rsa.fixedBytes strangeKey.bytes
    (Nat.shiftLeft 0x0798543BAEF8D2798A43BE47AEDC6DD76534B67DF141DF519F1AD2D767B2979F 256 +
      0x895CF2FE52EC10FCBFAFE506DFF8E700161A605C6D6560B0BD405E4980A0CAE6)

theorem compile_strangeSource :
    (Flo.compile strangeSource ({} : Config).bindings).anomalies = strangeAnomalies := by
  have hsorted : (Flo.compile strangeSource ({} : Config).bindings).anomalies =
      strangeAnomalies.mergeSort fun a b => a.offset ≤ b.offset := rfl
  rw [hsorted]
  exact List.mergeSort_of_pairwise (by decide)

theorem accepts_strangePage :
    Accepts {} (carrierPage strangeTriple) (Utf8.ofString strangeSource) := by
  have ht : Transports {} (carrierPage strangeTriple) strangeTriple :=
    ⟨⟨⟨_, rfl, by decide +kernel⟩, by decide +kernel⟩,
      ⟨⟨_, rfl, by decide +kernel⟩, by decide +kernel⟩,
      ⟨⟨_, rfl, by decide +kernel⟩, by decide +kernel⟩⟩
  have hpayload : Decodes strangeTriple.payload (Utf8.ofString strangeSource) :=
    ⟨by decide +kernel, by decide +kernel⟩
  have hkey : Loads strangeTriple.publicKey strangeKey :=
    ⟨(Key.bareRsaPublicKey strangeKey).write, ⟨by decide +kernel, by decide +kernel⟩,
      by decide +kernel⟩
  have hsignature : Decodes strangeTriple.signature strangeSignature :=
    ⟨by decide +kernel, by decide +kernel⟩
  exact ⟨strangeTriple, strangeKey, ht, hpayload, hkey,
    checkWith_of_verify hpayload.nonempty ht.signature.all_isBlank hsignature
      (by decide +kernel)⟩

/-- An observer of the page learns that the signature is good, and of two anomalies. -/
theorem reports_run_strangePage :
    ∃ outcome t events first second, run Observer.nobody {} {} "1"
        (Scene.ofPage (carrierPage strangeTriple)) = (.ok outcome, t) ∧
      t.sent.toList = events ∧ (∃ e ∈ events, e.kind = .signatureVerified) ∧
      events.filter (·.kind = .anomalyDetected) = [first, second] ∧
      first.TellsOf ⟨.unknownTag, "x", 0, none⟩ ∧
      second.TellsOf ⟨.selfClosingTag, "main", 7, none⟩ := by
  obtain ⟨outcome, t, events, hrun, -, hsends, hreports⟩ :=
    reports_run Observer.nobody {} (by decide : "1" ≠ "") (Scene.ofPage (carrierPage strangeTriple))
  have hanomalies := hreports.anomalies strangeSource accepts_strangePage
  rw [compile_strangeSource, strangeAnomalies] at hanomalies
  obtain ⟨e, rest, he, hrest, hfilter⟩ := List.forall₂_cons_right_iff.1 hanomalies
  obtain ⟨e', rest, he', hnil, rfl⟩ := List.forall₂_cons_right_iff.1 hrest
  obtain rfl := List.forall₂_nil_right_iff.1 hnil
  exact ⟨outcome, t, events, e, e', hrun, hsends.sent,
    hreports.verified_iff.2 ⟨_, accepts_strangePage⟩, hfilter, he, he'⟩

/-! ## Whoever watches -/

/-- Nobody can tell from a render that it was watched: whatever an observer does with an event, be
it that it takes some and fails at others, the render comes to an outcome, and this outcome, the
page that is left and the events that are sent are those of a render that nobody watches. -/
theorem run_unwatched {σ : Type} (o : Observer σ) (c : Config) (v : Verifier) {renderId : String}
    (hid : renderId ≠ "") (s : Scene σ) :
    ∃ outcome t t' events, run o c v renderId s = (.ok outcome, t) ∧
      run Observer.nobody c v renderId (Scene.ofPage s.page) = (.ok outcome, t') ∧
      t.page = t'.page ∧ Sends o s t events ∧
      Sends Observer.nobody (Scene.ofPage s.page) t' events := by
  obtain ⟨outcome, t, hrun⟩ := exists_run o c v hid s
  obtain ⟨outcome', t', hrun'⟩ := exists_run Observer.nobody c v hid (Scene.ofPage s.page)
  obtain ⟨hresult, hpage⟩ := run_congr o Observer.nobody hid hid rfl hrun hrun'
  obtain ⟨es, f?, hcourse, hsends, hname, -⟩ := sends_run o hid hrun
  obtain ⟨es', f?', hcourse', hsends', hname', -⟩ := sends_run Observer.nobody hid hrun'
  have houtcome : outcome = outcome' := by
    calc outcome = ⟨outcome.renderId, outcome.result⟩ := rfl
      _ = ⟨outcome'.renderId, outcome'.result⟩ := by rw [hname, hname', hresult]
      _ = outcome' := rfl
  obtain ⟨rfl, -⟩ := hcourse.unique hcourse'
  rw [← houtcome, ← hpage] at hsends'
  exact ⟨outcome, t, t', _, hrun, by rw [hrun', houtcome], hpage, hsends, hsends'⟩

/-- An observer that counts the events that it is given, and fails at every second one. -/
def fickle : Observer Nat where
  emit n _ := (if n % 2 = 0 then .failed else .taken, n + 1)

theorem takeAll_fickle (n : Nat) (es : List Event) : fickle.takeAll n es = n + es.length := by
  induction es generalizing n with
  | nil => rfl
  | cons e es ih =>
    calc fickle.takeAll n (e :: es) = fickle.takeAll (n + 1) es := rfl
      _ = n + (e :: es).length := by
        rw [ih, List.length_cons]
        omega

/-- The fickle observer of the page with two strange tags counts as many events as are sent when
nobody watches. -/
theorem run_unwatched_fickle :
    ∃ outcome t t',
      run fickle {} {} "1" { page := carrierPage strangeTriple, observer := 0 } =
        (.ok outcome, t) ∧
      run Observer.nobody {} {} "1" (Scene.ofPage (carrierPage strangeTriple)) =
        (.ok outcome, t') ∧
      t.page = t'.page ∧ t.observer = t'.sent.toList.length := by
  obtain ⟨outcome, t, t', events, hrun, hrun', hpage, hsends, hsends'⟩ :=
    run_unwatched fickle {} {} (by decide : "1" ≠ "")
      { page := carrierPage strangeTriple, observer := 0 }
  refine ⟨outcome, t, t', hrun, hrun', hpage, ?_⟩
  rw [hsends.observer, takeAll_fickle, hsends'.sent]
  simp [Scene.ofPage]

end SealedPage.Render
