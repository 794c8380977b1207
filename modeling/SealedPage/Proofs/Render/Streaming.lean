import SealedPage.Proofs.Flo.Accounting
import SealedPage.Proofs.Render.Answer
import SealedPage.Proofs.Render.EventStream
import SealedPage.Proofs.Render.Observation
import SealedPage.Proofs.Render.Queue

/-!
# A stream tells what a response would

A page may be rendered at once or as a stream of events. `Alike` says how the two answers belong
together: the last event of the stream, and no other, ends the render, and it carries the state and
the page of the response, `Tells`. The events can be written, unless the document is so long that
the places in it have too many digits, `HasShortText`. This holds of every body, `alike_render`.
-/

namespace SealedPage.Render

open Html (Document)

/-! ## The queue -/

namespace EventQueue

variable {q : EventQueue}

/-- A queue that is only written to is that of a session whose reader takes no step. -/
theorem after_map_emit (es : List Event) :
    Session.after (es.map .emit) = { stream := { queue := observer.takeAll {} es } } := by
  induction es using List.reverseRecOn with
  | nil => rfl
  | append_singleton es e ih =>
    rw [List.map_append, List.map_singleton, Session.after_concat, ih, Observer.takeAll_append]
    rfl

/-- Events up to the first last one are all admitted. -/
theorem admitted_map_emit {es : List Event} (hes : ∀ e ∈ es, e.isTerminal = false)
    (last : Event) : admitted ((es ++ [last]).map .emit) = es ++ [last] := by
  induction es with
  | nil =>
    change last :: (if last.isTerminal then [] else []) = [last]
    rw [ite_self]
  | cons e es ih =>
    obtain ⟨he, hes⟩ := List.forall_mem_cons.1 hes
    rw [List.cons_append, List.map_cons, admitted, he, if_neg Bool.false_ne_true, ih hes]

/-- The event that ends a render closes the queue, and closing it again changes nothing. -/
theorem items_close_takeAll {es : List Event} (hes : ∀ e ∈ es, e.isTerminal = false) {last : Event}
    (hlast : last.isTerminal) :
    (observer.takeAll {} (es ++ [last])).close.items = (es ++ [last]).map .event ++ [.last] := by
  have hover : isOver ((es ++ [last]).map .emit) :=
    isOver_iff.2 (Or.inl ⟨last, hlast, by simp⟩)
  have hqueued := (Session.reflects_after ((es ++ [last]).map .emit)).queued
  have hclosed := (Session.reflects_after ((es ++ [last]).map .emit)).isClosed
  rw [admitted_map_emit hes, if_pos hover, after_map_emit] at hqueued
  rw [hover, after_map_emit] at hclosed
  rw [close_of_closed hclosed]
  exact hqueued

/-- The events of a queue are its items before the mark. -/
theorem events_of_items {es : List Event} (h : q.items = es.map .event ++ [.last]) :
    q.events = es := by
  simp [events, h, List.filterMap_map]

end EventQueue

/-! ## The events of a stream -/

/-- No event of a stage is a last one. -/
theorem running_stageEvents (renderId : String) (f : Flo.Fragment) :
    ∀ e ∈ stageEvents renderId f, e.isTerminal = false :=
  forall_mem_stageEvents (fun _ hk => hk) (fun _ _ => rfl) rfl

/-- As many events tell of an anomaly as there are anomalies. -/
theorem countP_stageEvents (renderId : String) (f : Flo.Fragment) :
    (stageEvents renderId f).countP (fun e => e.kind = .anomalyDetected) = f.anomalies.length := by
  simp [stageEvents, gateEvents, compilationEvents, List.countP_map, Function.comp_def,
    Event.ofAnomaly, Event.compiled]

/-- An event can be written into a stream, whatever its stamp, if and only if no integer in its
details has too many digits. -/
def Event.IsFramed (e : Event) : Prop :=
  ∀ (id : Identifier) (time : Time), (∃ s, (StampedEvent.mk id time e).frame = .ok s) ↔
    Json.membersDigits (e.details.getD []) ≤ Json.maxDigits

/-- The details of an event of a render are never too deep. -/
theorem isFramed_of_depth {e : Event} (h : Json.membersDepth (e.details.getD []) ≤ maxDetailDepth) :
    e.IsFramed := by
  intro id time
  constructor
  · rintro ⟨s, hframe⟩
    exact (StampedEvent.frame_eq_ok_iff.1 hframe).1.digits
  · exact fun hdigits => ⟨_, StampedEvent.frame_eq_ok_iff.2 ⟨⟨h, hdigits⟩, rfl⟩⟩

/-- Every event of a stage has its frame. -/
theorem isFramed_stageEvents (renderId : String) (f : Flo.Fragment) :
    ∀ e ∈ stageEvents renderId f, e.IsFramed := by
  apply forall_mem_stageEvents
  · exact fun k _ => isFramed_of_depth (Nat.zero_le _)
  · exact fun a _ => isFramed_of_depth (by
      simp [Event.ofAnomaly, Json.membersDepth, Json.Value.depth, maxDetailDepth])
  · exact isFramed_of_depth (by
      simp [Event.compiled, Json.membersDepth, Json.Value.depth, maxDetailDepth])

theorem isFramed_ofOutcome (o : Outcome) (document : String) :
    (Event.ofOutcome o document).IsFramed := by
  apply isFramed_of_depth
  simp [Event.ofOutcome, Json.membersDepth, Json.Value.depth, maxDetailDepth]

/-- The text that the verified source of a page is interpolated to has fewer characters than the
least number with too many digits, so that places in it can be written. -/
def HasShortText (c : Config) (page : Document) : Prop :=
  ∀ source, Verified c {} page (Text.Utf8.ofString source) →
    (Flo.interpolateSpans source.toList c.bindings).1.length < 10 ^ Json.maxDigits

section

variable {c : Config} {page : Document} {f : Flo.Fragment} (hf : Tellable c {} page f)
  (hshort : HasShortText c page)

include hf hshort

/-- The anomalies that are told of a short text can be counted. -/
theorem digits_length_le : Json.digitCount f.anomalies.length ≤ Json.maxDigits := by
  rw [Json.digitCount_le_iff (by decide)]
  rcases hf with hnil | ⟨source, hsource, rfl⟩
  · rw [hnil]
    exact Nat.pow_pos (by decide)
  · exact Flo.length_anomalies_le.trans_lt (hshort source hsource)

/-- The places of anomalies in a short text can be written. -/
theorem digits_offset_le {a : Flo.Anomaly} (ha : a ∈ f.anomalies) :
    Json.digitCount a.offset ≤ Json.maxDigits := by
  rw [Json.digitCount_le_iff (by decide)]
  rcases hf with hnil | ⟨source, hsource, rfl⟩
  · rw [hnil] at ha
    cases ha
  · exact (Flo.offset_lt_of_mem_anomalies ha).trans (hshort source hsource)

/-- No event of a stage tells of an integer with too many digits. -/
theorem digits_stageEvents_le (renderId : String) :
    ∀ e ∈ stageEvents renderId f, Json.membersDigits (e.details.getD []) ≤ Json.maxDigits := by
  apply forall_mem_stageEvents
  · exact fun k _ => Nat.zero_le _
  · intro a ha
    simpa [Event.ofAnomaly, Json.membersDigits, Json.Value.digits] using
      digits_offset_le hf hshort ha
  · simpa [Event.compiled, Json.membersDigits, Json.Value.digits] using digits_length_le hf hshort

/-- Neither does the last event. -/
theorem digits_ofOutcome_le {o : Outcome}
    (hanomalies : o.result.anomalies = if o.result.isRendered then f.anomalies else [])
    (document : String) :
    Json.membersDigits ((Event.ofOutcome o document).details.getD []) ≤ Json.maxDigits := by
  have hcount : Json.digitCount o.result.anomalies.length ≤ Json.maxDigits := by
    rw [hanomalies]
    split
    · exact digits_length_le hf hshort
    · decide
  simpa [Event.ofOutcome, Json.membersDigits, Json.Value.digits] using hcount

end

/-- A render is told to be completed where its result is a rendered one. -/
theorem kind_ofOutcome_iff (o : Outcome) (document : String) :
    (Event.ofOutcome o document).kind = .renderCompleted ↔ o.result.isRendered := by
  unfold Event.ofOutcome
  cases o.result.isRendered <;> simp

theorem name_state_eq_rendered_iff (r : Result) : r.state.name = "rendered" ↔ r.isRendered := by
  cases r with
  | rendered html anomalies => exact ⟨fun _ => rfl, fun _ => rfl⟩
  | aborted failure => cases failure <;> decide

/-! ## Requests -/

/-- A request to render a page as a stream. -/
def streamRequest (body : Bytes) : Http.Request where
  method := "POST"
  target := "/render/stream"
  body := body

theorem handle_streamRequest (c : Config) (renderId : String) (body : Bytes) :
    handle c renderId (streamRequest body) = streamPage c renderId body := by
  have hpath : Http.pathOfTarget "/render/stream" = .ok "/render/stream".toList := by decide +kernel
  have hmethod : (streamRequest body).sentMethod = "POST" := by
    change "POST".toUpper = "POST"
    decide +kernel
  have htarget : (streamRequest body).target = "/render/stream" := rfl
  unfold handle Http.Request.dispatch
  rw [htarget, hpath, hmethod]
  rfl

section
variable {c : Config} {body : Bytes}

theorem streamPage_of_error {e : HostRefusal} (h : readHost c body = .error e)
    (renderId : String) : streamPage c renderId body = .ok (.response e.response) := by
  unfold streamPage
  rw [h]

theorem streamPage_of_unreadable {host : String} (h : Spells c body host) {e : Html.ReadError}
    (hread : Document.ofString host = .error e) (renderId : String) :
    streamPage c renderId body = .error (.unreadable e) := by
  unfold streamPage
  rw [readHost_of_spells h]
  dsimp only
  rw [hread]

/-- The scene of a page whose render fills a queue. -/
def Scene.ofStream (page : Document) : Scene EventQueue where
  page := page
  observer := {}

/-- A page is streamed as the events of its render, the last of which carries the page that is
left. -/
theorem streamPage_of_run {renderId : String} (hid : renderId ≠ "") {page : Document}
    (hpage : IsPage c body page) {outcome : Outcome} {t : Scene EventQueue}
    (hrun : run EventQueue.observer c {} renderId (Scene.ofStream page) = (.ok outcome, t)) :
    ∃ f es, Tellable c {} page f ∧ es <+: stageEvents renderId f ∧
      streamPage c renderId body = .ok (.stream (⟨renderId, .renderStarted, none⟩ :: es ++
        [.ofOutcome outcome t.page.write])) ∧
      (outcome.result.isRendered → es = stageEvents renderId f) ∧
      outcome.result.anomalies = if outcome.result.isRendered then f.anomalies else [] := by
  obtain ⟨f, es, htellable, hsent, hobserver, hes, hanomalies⟩ :=
    observer_run EventQueue.observer hid hrun
  refine ⟨f, es, htellable, hsent, ?_, hes, hanomalies⟩
  have hrunning : ∀ e ∈ (⟨renderId, .renderStarted, none⟩ :: es : List Event),
      e.isTerminal = false :=
    List.forall_mem_cons.2
      ⟨rfl, fun e he => running_stageEvents renderId f e (hsent.subset he)⟩
  have hitems := EventQueue.items_close_takeAll hrunning
    (isTerminal_ofOutcome outcome t.page.write)
  have hstart : (Scene.ofStream page).observer = {} := rfl
  rw [hstart] at hobserver
  rw [← hobserver] at hitems
  obtain ⟨host, hhost, hread⟩ := hpage
  unfold streamPage
  rw [hhost]
  dsimp only
  rw [hread]
  dsimp only
  rw [show run EventQueue.observer c {} renderId { page, observer := {} } = (.ok outcome, t)
    from hrun]
  dsimp only
  rw [EventQueue.events_of_items hitems]

end

/-! ## Both answers -/

/-- How the events of a stream belong to a response with a state and a document. -/
structure Tells (response : Http.Response) (state document : String) (front : List Event)
    (last : Event) : Prop where
  /-- The response is the document, with the state in its header. -/
  header : response.headers.lookup statusHeader = some state
  content : response.content = .text document
  /-- The last event ends the render, and no other one does. -/
  running : ∀ e ∈ front, e.isTerminal = false
  terminal : last.isTerminal
  /-- It carries the state and the document. -/
  carriesState : last.detail? "state" = some (.str state)
  carriesDocument : last.detail? "document" = some (.str document)
  /-- It says that the render was completed if and only if the page is rendered. -/
  completed : last.kind = .renderCompleted ↔ state = "rendered"
  /-- It counts the events that tell of an anomaly, unless the render was aborted. -/
  count : last.detail? "anomalies_count" = some (.int ((if state = "rendered" then
    (front ++ [last]).countP (·.kind = .anomalyDetected) else 0 : Nat) : Int))
  /-- Every event can be written, as far as its offset and its count can. -/
  framed : ∀ e ∈ front ++ [last], e.IsFramed

/-- How two answers belong together: that to a request to render a body at once, and that to a
request to render it as a stream. -/
inductive Alike (c : Config) (body : Bytes) :
    Except ServiceError Reply → Except ServiceError Reply → Prop where
  /-- The body spells no text or is too large. It is refused in both ways, with one response. -/
  | refused {response : Http.Response} (hnot : ¬ ∃ host, Spells c body host)
    (hstatus : response.status = 400 ∨ response.status = 413) :
    Alike c body (.ok (.response response)) (.ok (.response response))
  /-- The text of the body is refused by the HTML reader, and no render begins. -/
  | unreadable {host : String} {cause : Html.ReadError} (hspells : Spells c body host)
    (hread : Document.ofString host = .error cause) :
    Alike c body (.error (.unreadable cause)) (.error (.unreadable cause))
  /-- The body is that of a page. The response is that of a page too, and the stream tells of it.
  All events of the stream can be written, whatever their stamps, if the verified text is short. -/
  | rendered {host : String} {page : Document} {response : Http.Response}
    {state document : String} {front : List Event} {last : Event} (hspells : Spells c body host)
    (hread : Document.ofString host = .ok page) (hstatus : response.status = 200)
    (hstreamed : (Reply.stream (front ++ [last])).status = 200)
    (htells : Tells response state document front last)
    (hwritten : HasShortText c page → ∀ e ∈ front ++ [last], ∀ (id : Identifier) (time : Time),
      ∃ s, (StampedEvent.mk id time e).frame = .ok s) :
    Alike c body (.ok (.response response)) (.ok (.stream (front ++ [last])))

/-- A body is refused with one of two statuses. -/
theorem status_response (e : HostRefusal) : e.response.status = 400 ∨ e.response.status = 413 := by
  cases e with
  | empty => exact Or.inl rfl
  | tooLarge maxKb => exact Or.inr rfl
  | notUtf8 => exact Or.inl rfl

/-- A render at once and one that fills a queue, of one page: the events tell what the page is. -/
theorem tells_of_run {c : Config} {renderId renderId' : String} (hid : renderId ≠ "")
    (hid' : renderId' ≠ "") {body : Bytes} {page : Document} (hpage : IsPage c body page) :
    ∃ response state document front last,
      renderPage c renderId body = .ok (.response response) ∧
      streamPage c renderId' body = .ok (.stream (front ++ [last])) ∧ response.status = 200 ∧
      Tells response state document front last ∧
      (HasShortText c page → ∀ e ∈ front ++ [last],
        Json.membersDigits (e.details.getD []) ≤ Json.maxDigits) := by
  obtain ⟨outcome, t, hrun⟩ := exists_run Observer.nobody c {} hid (Scene.ofPage page)
  obtain ⟨outcome', t', hrun'⟩ :=
    exists_run EventQueue.observer c {} hid' (Scene.ofStream page)
  have hpages : (Scene.ofPage page).page = (Scene.ofStream page).page := rfl
  obtain ⟨hresult, hleft⟩ :=
    run_congr Observer.nobody EventQueue.observer hid hid' hpages hrun hrun'
  obtain ⟨f, es, htellable, hsent, hstream, hes, hanomalies⟩ :=
    streamPage_of_run hid' hpage hrun'
  have hstate : outcome'.state.name = "rendered" ↔ outcome'.result.isRendered :=
    name_state_eq_rendered_iff outcome'.result
  refine ⟨_, outcome.state.name, t.page.write, ⟨renderId', .renderStarted, none⟩ :: es,
    .ofOutcome outcome' t'.page.write, renderPage_of_run hpage hrun, hstream, rfl, ?tells, ?digits⟩
  case digits =>
    intro hshort
    rw [List.forall_mem_append, List.forall_mem_singleton, List.forall_mem_cons]
    exact ⟨⟨Nat.zero_le _, fun e he =>
      digits_stageEvents_le htellable hshort renderId' e (hsent.subset he)⟩,
      digits_ofOutcome_le htellable hshort hanomalies _⟩
  -- the names of the two renders differ, but not their results and what they leave
  rw [hleft, Outcome.state, hresult, ← Outcome.state]
  constructor
  case header => rfl
  case content => rfl
  case running =>
    exact List.forall_mem_cons.2
      ⟨rfl, fun e he => running_stageEvents renderId' f e (hsent.subset he)⟩
  case terminal => exact isTerminal_ofOutcome _ _
  case carriesState => rfl
  case carriesDocument => rfl
  case completed => exact (kind_ofOutcome_iff _ _).trans hstate.symm
  case count =>
    have hcount : (Event.ofOutcome outcome' t'.page.write).detail? "anomalies_count" =
        some (.int outcome'.result.anomalies.length) := rfl
    rw [hcount, hanomalies]
    by_cases hrendered : outcome'.result.isRendered
    · have hlast := (kind_ofOutcome_iff outcome' t'.page.write).2 hrendered
      rw [if_pos hrendered, if_pos (hstate.2 hrendered), hes hrendered, List.countP_append,
        List.countP_cons, countP_stageEvents, List.countP_singleton, hlast]
      rfl
    -- an abort counts none, whatever was sent before it
    · rw [if_neg hrendered, if_neg fun h => hrendered (hstate.1 h)]
      rfl
  case framed =>
    intro e he
    rcases List.mem_append.1 he with he | he
    · rcases List.mem_cons.1 he with rfl | he
      · exact isFramed_of_depth (Nat.zero_le _)
      · exact isFramed_stageEvents renderId' f e (hsent.subset he)
    · rw [List.mem_singleton.1 he]
      exact isFramed_ofOutcome _ _

/-- A page that is rendered at once and one that is rendered as a stream, each under a name of its
own, get answers that belong together. -/
theorem alike_render (c : Config) (i i' : Identifier) (body : Bytes) :
    Alike c body (handle c i.text (renderRequest body))
      (handle c i'.text (streamRequest body)) := by
  rw [handle_renderRequest, handle_streamRequest]
  rcases refused_or_spells c body with ⟨e, hrefused⟩ | ⟨host, hspells⟩
  · rw [renderPage_of_error hrefused, streamPage_of_error hrefused]
    refine .refused ?_ (status_response e)
    rintro ⟨host, hspells⟩
    rw [readHost_of_spells hspells] at hrefused
    cases hrefused
  · cases hread : Document.ofString host with
    | error cause =>
      rw [renderPage_of_unreadable hspells hread, streamPage_of_unreadable hspells hread]
      exact .unreadable hspells hread
    | ok page =>
      obtain ⟨response, state, document, front, last, hrender, hstream, hstatus, htells, hdigits⟩ :=
        tells_of_run i.text_ne_empty i'.text_ne_empty (hspells.isPage hread)
      rw [hrender, hstream]
      exact .rendered hspells hread hstatus rfl htells fun hshort e he id time =>
        (htells.framed e he id time).2 (hdigits hshort e he)

end SealedPage.Render
