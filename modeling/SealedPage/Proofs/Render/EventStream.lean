import Mathlib.Data.List.Forall2
import SealedPage.Proofs.Json.RoundTrip
import SealedPage.Proofs.Render.Stamp
import SealedPage.Render.Frame
import SealedPage.Text.Line

/-!
# Reading a stream of events

A reader of a stream knows nothing of the events: it splits the text into lines, takes the fields
of the lines together into messages, and finds a record in the data of each message. The frames of
events are read so as the same events again, whatever stands in their texts: `conveyed_iff`.
-/

namespace SealedPage.Render

open Text

/-! ## Messages of a stream -/

namespace EventStream

/-- The lines of a text behind the part `line` of the first of them. What stands behind the last
line feed is no line yet. -/
def linesFrom (line : List Char) : List Char → List (List Char)
  | [] => []
  | c :: cs => if c = '\n' then line :: linesFrom [] cs else linesFrom (line ++ [c]) cs

/-- The lines of a stream, whichever way they end. -/
def lines (stream : String) : List (List Char) :=
  linesFrom [] (plainLines stream.toList)

/-- The name of the field in a line, and its value. The first colon separates them, and a space
behind it does not belong to the value. -/
def splitField (line : List Char) : List Char × List Char :=
  (line.takeWhile (· != ':'),
    match line.dropWhile (· != ':') with
    | ':' :: ' ' :: value => value
    | ':' :: value => value
    | _ => [])

/-- A message of a stream. -/
structure Message where
  type : String
  data : String
  deriving DecidableEq, Repr

/-- The fields of a message that were read so far. -/
structure Draft where
  type : List Char := []
  data : List (List Char) := []

/-- Adds the field of a line; comments and unknown fields add nothing. -/
def Draft.add (d : Draft) (line : List Char) : Draft :=
  let (name, value) := splitField line
  if name = "event".toList then { d with type := value }
  else if name = "data".toList then { d with data := d.data ++ [value] }
  else d

/-- The message that ends here; there is none without data. -/
def Draft.finish? (d : Draft) : Option Message :=
  if d.data.isEmpty then none
  else some {
    type := if d.type.isEmpty then "message" else String.ofList d.type
    data := String.intercalate "\n" (d.data.map String.ofList) }

/-- The messages in lines behind the fields of the first of them. An empty line ends a message; what
no empty line ends is no message. -/
def messagesFrom (d : Draft) : List (List Char) → List Message
  | [] => []
  | line :: rest =>
    if line.isEmpty then d.finish?.toList ++ messagesFrom {} rest
    else messagesFrom (d.add line) rest

/-- The messages of a stream. -/
def messages (stream : String) : List Message :=
  messagesFrom {} (lines stream)

/-- The event whose record is the data of a message; its kind is also the type of the message. -/
def Message.event? (m : Message) : Option StampedEvent :=
  match Json.ofString m.data with
  | .ok (.obj members) =>
    match StampedEvent.ofFields members with
    | .ok s => if s.event.kind.name = m.type then some s else none
    | .bad _ => none
  | _ => none

/-! ### Lines and messages -/

/-- A line ends at its line feed. -/
theorem linesFrom_append {line : List Char} (h : '\n' ∉ line) (done rest : List Char) :
    linesFrom done (line ++ '\n' :: rest) = (done ++ line) :: linesFrom [] rest := by
  induction line generalizing done with
  | nil => rw [List.nil_append, linesFrom, if_pos rfl, List.append_nil]
  | cons c line ih =>
    rw [List.mem_cons, not_or] at h
    rw [List.cons_append, linesFrom, if_neg (Ne.symm h.1), ih h.2, List.append_assoc,
      List.singleton_append]

/-- Lines that are ended one by one are read back. -/
theorem linesFrom_lines {ls : List (List Char)} (h : ∀ l ∈ ls, '\n' ∉ l) :
    linesFrom [] (ls.flatMap (· ++ ['\n'])) = ls := by
  induction ls with
  | nil => rfl
  | cons l ls ih =>
    obtain ⟨hl, hls⟩ := List.forall_mem_cons.1 h
    rw [List.flatMap_cons, List.append_assoc, List.singleton_append, linesFrom_append hl, ih hls,
      List.nil_append]

/-- Lines without control characters are found again. -/
theorem lines_eq {stream : String} {ls : List (List Char)}
    (hstream : stream.toList = ls.flatMap (· ++ ['\n']))
    (h : ∀ l ∈ ls, ∀ c ∈ l, 0x20 ≤ c.toNat) : lines stream = ls := by
  have hreturn : '\r' ∉ ls.flatMap (· ++ ['\n']) := by
    rw [List.mem_flatMap]
    rintro ⟨l, hl, hmem⟩
    rcases List.mem_append.1 hmem with hmem | hmem
    · exact absurd (h l hl _ hmem) (by decide)
    · exact absurd (List.mem_singleton.1 hmem) (by decide)
  have hfeed : ∀ l ∈ ls, '\n' ∉ l := by
    intro l hl hmem
    exact absurd (h l hl _ hmem) (by decide)
  rw [lines, hstream, plainLines_eq hreturn, linesFrom_lines hfeed]

theorem messagesFrom_cons {line : List Char} (h : line ≠ []) (d : Draft)
    (rest : List (List Char)) : messagesFrom d (line :: rest) = messagesFrom (d.add line) rest := by
  rw [messagesFrom, if_neg (by simpa using h)]

/-- An empty line ends the message. -/
theorem messagesFrom_nil_cons (d : Draft) (rest : List (List Char)) :
    messagesFrom d ([] :: rest) = d.finish?.toList ++ messagesFrom {} rest :=
  rfl

/-- A line of the field `event` gives the draft its type. -/
theorem add_of_event {line value : List Char} (h : splitField line = ("event".toList, value))
    (d : Draft) : d.add line = { d with type := value } := by
  rw [Draft.add, h]
  exact if_pos rfl

/-- A line of the field `data` is put behind the data. -/
theorem add_of_data {line value : List Char} (h : splitField line = ("data".toList, value))
    (d : Draft) : d.add line = { d with data := d.data ++ [value] } := by
  rw [Draft.add, h]
  exact (if_neg (by decide)).trans (if_pos rfl)

end EventStream

/-! ## Frames -/

namespace StampedEvent

open EventStream

/-- An event as it can come about: all parts of its time lie in their ranges, and its details are an
object without fractional numbers in which no name occurs twice. -/
structure IsProper (s : StampedEvent) : Prop where
  time : s.time.IsProper
  plain : ∀ d ∈ s.event.details, (Json.Value.obj d).IsPlain

/-- The line of a frame that holds the record of the event. -/
def dataLine (s : StampedEvent) : List Char :=
  ("data: " ++ s.toJson.write).toList

/-- The lines of a frame: one with the kind of the event, one with its record, and an empty one. -/
def frameLines (s : StampedEvent) : List (List Char) :=
  [(headLine s.event.kind).toList, s.dataLine, []]

/-- The message that a frame is to a reader. -/
def message (s : StampedEvent) : Message where
  type := s.event.kind.name
  data := s.toJson.write

/-- The text of a frame. -/
def text (s : StampedEvent) : String :=
  headLine s.event.kind ++ "\ndata: " ++ s.toJson.write ++ "\n\n"

/-- Details that fit into a frame: not too many values stand inside each other, and no integer has
too many digits. -/
structure FitsFrame (s : StampedEvent) : Prop where
  depth : Json.membersDepth (s.event.details.getD []) ≤ maxDetailDepth
  digits : Json.membersDigits (s.event.details.getD []) ≤ Json.maxDigits

/-- An event has a frame if and only if its details fit. -/
theorem frame_eq_ok_iff {s : StampedEvent} {f : String} :
    s.frame = .ok f ↔ s.FitsFrame ∧ f = s.text := by
  unfold frame
  split
  case isTrue hdeep =>
    exact iff_of_false (fun h => nomatch h) fun h => absurd h.1.depth (Nat.not_le.2 hdeep)
  case isFalse hdepth =>
    split
    case isTrue hlong =>
      exact iff_of_false (fun h => nomatch h) fun h => absurd h.1.digits (Nat.not_le.2 hlong)
    case isFalse hdigits =>
      rw [Except.ok.injEq]
      exact ⟨fun h => ⟨⟨Nat.not_lt.1 hdepth, Nat.not_lt.1 hdigits⟩, h.symm⟩, fun h => h.2.symm⟩

/-- The text of a frame is its lines, each ended by a line feed. -/
theorem toList_text (s : StampedEvent) : s.text.toList = s.frameLines.flatMap (· ++ ['\n']) := by
  have hmark : "\ndata: ".toList = '\n' :: "data: ".toList := by decide
  have hend : "\n\n".toList = ['\n', '\n'] := by decide
  simp [text, frameLines, dataLine, hmark, hend]

/-! ### The record -/

/-- The details of an event as a value. -/
def detailsValue (s : StampedEvent) : Json.Value :=
  (s.event.details.map Json.Value.obj).getD .null

/-- The members of an event's record. -/
def record (s : StampedEvent) : Fields.Members :=
  [("event_id", .str s.id.text), ("render_id", .str s.event.renderId),
    ("timestamp", .str s.time.text), ("event_type", .str s.event.kind.name),
    ("details", s.detailsValue)]

theorem map_fst_record (s : StampedEvent) : s.record.map Prod.fst = eventFields :=
  rfl

/-- A proper event is written as its record. -/
theorem toJson_eq {s : StampedEvent} (h : s.IsProper) : s.toJson = .obj s.record := by
  unfold toJson record detailsValue
  cases hd : s.event.details with
  | none => rfl
  | some d =>
    have hkept := Json.onlyFiniteMembers_of_isPlain d (h.plain d hd).2
    rw [Option.map_some, Option.map_some, hkept]

/-- A proper event is written as a plain value. -/
theorem isPlain_toJson {s : StampedEvent} (h : s.IsProper) : s.toJson.IsPlain := by
  have hdetails : s.detailsValue.IsPlain := by
    unfold detailsValue
    cases hd : s.event.details with
    | none => trivial
    | some d => exact h.plain d hd
  have hnames : (s.record.map Prod.fst).Nodup := by
    rw [map_fst_record]
    decide
  rw [toJson_eq h]
  exact ⟨hnames, trivial, trivial, trivial, trivial, hdetails, trivial⟩

/-- A proper event is at most two levels deeper than its details. -/
theorem depth_toJson_le {s : StampedEvent} (h : s.IsProper) :
    s.toJson.depth ≤ Json.membersDepth (s.event.details.getD []) + 2 := by
  rw [toJson_eq h, record, detailsValue]
  cases s.event.details with
  | none =>
    simp [Json.Value.depth, Json.membersDepth]
  | some d =>
    simp only [Json.Value.depth, Json.membersDepth, Option.map_some, Option.getD_some]
    omega

/-- A proper event has no longer integers than its details. -/
theorem digits_toJson {s : StampedEvent} (h : s.IsProper) :
    s.toJson.digits = Json.membersDigits (s.event.details.getD []) := by
  rw [toJson_eq h, record, detailsValue]
  cases s.event.details with
  | none => rfl
  | some d => simp [Json.Value.digits, Json.membersDigits]

theorem onlyKnown_of_map_fst {members : Fields.Members} {known : List String}
    (h : members.map Prod.fst = known) : Fields.onlyKnown members known = .ok () := by
  have hnone : members.filter (fun m => !known.contains m.1) = [] := by
    rw [List.filter_eq_nil_iff]
    intro m hm
    have hname : m.1 ∈ known := by
      rw [← h]
      exact List.mem_map_of_mem hm
    simpa using hname
  rw [Fields.onlyKnown, hnone]

theorem ofName?_name (k : EventKind) : EventKind.ofName? k.name = some k := by
  cases k <;> decide

/-- The details are read back, whether there are any or not. -/
theorem nullable_detailsValue (s : StampedEvent) :
    Fields.nullable Fields.mapping s.detailsValue = .ok s.event.details := by
  unfold detailsValue
  cases s.event.details with
  | none => rfl
  | some d => rfl

/-- The record of an event is read as the event. -/
theorem ofFields_record {s : StampedEvent} (h : s.IsProper) :
    StampedEvent.ofFields s.record = .ok s := by
  have hid : Fields.required s.record "event_id" Identifier.read = .ok s.id := by
    change (Identifier.read (.str s.id.text)).under "event_id" = _
    rw [s.id.read_text]
    rfl
  have htime : Fields.required s.record "timestamp" Time.read = .ok s.time := by
    change (Time.read (.str s.time.text)).under "timestamp" = _
    rw [Time.read_text h.time]
    rfl
  have hkind : Fields.required s.record "event_type" (Fields.listed EventKind.ofName?) =
      .ok s.event.kind := by
    change (Fields.listed EventKind.ofName? (.str s.event.kind.name)).under "event_type" = _
    rw [Fields.listed, ofName?_name]
    rfl
  have hdetails : Fields.withDefault s.record "details" none (Fields.nullable Fields.mapping) =
      .ok s.event.details := by
    change (Fields.nullable Fields.mapping s.detailsValue).under "details" = _
    rw [nullable_detailsValue]
    rfl
  have hrender : Fields.required s.record "render_id" Fields.text = .ok s.event.renderId := rfl
  rw [ofFields, readEvent, hid, htime, hkind, hdetails, hrender,
    onlyKnown_of_map_fst s.map_fst_record]
  rfl

/-- A reader finds the event in its message, unless an integer has too many digits: what has no
frame for that could not be read from one either. -/
theorem event?_message {s : StampedEvent} (h : s.IsProper)
    (hdepth : Json.membersDepth (s.event.details.getD []) ≤ maxDetailDepth) :
    s.message.event? = some s ↔ Json.membersDigits (s.event.details.getD []) ≤ Json.maxDigits := by
  have hroom : s.toJson.depth ≤ Json.maxDepth := by
    -- the details and the record itself stand around what the limit counts
    have hlimits : maxDetailDepth + 2 ≤ Json.maxDepth := by decide
    have hle := depth_toJson_le h
    omega
  obtain ⟨hread, hrefused⟩ := Json.rereads_ofString (isPlain_toJson h) hroom
  rw [digits_toJson h] at hread hrefused
  constructor
  · intro hfound
    by_contra hlarge
    obtain ⟨n, herror⟩ := hrefused (Nat.lt_of_not_le hlarge)
    rw [Message.event?, message, herror] at hfound
    exact nomatch hfound
  · intro hsmall
    rw [Message.event?, message, hread hsmall, toJson_eq h]
    dsimp only
    rw [ofFields_record h]
    exact if_pos rfl

/-! ### The lines of a frame -/

theorem le_toNat_of_mem_headLine {k : EventKind} : ∀ c ∈ (headLine k).toList, 0x20 ≤ c.toNat := by
  cases k <;> simp [headLine, EventKind.name]

theorem le_toNat_of_mem_dataLine {s : StampedEvent} (h : s.IsProper) :
    ∀ c ∈ s.dataLine, 0x20 ≤ c.toNat := by
  intro c hc
  rw [dataLine, String.toList_append] at hc
  rcases List.mem_append.1 hc with hc | hc
  · have hmark : ∀ c ∈ "data: ".toList, 0x20 ≤ c.toNat := by simp
    exact hmark c hc
  · exact Json.Value.le_toNat_of_mem_write (isPlain_toJson h) hc

theorem splitField_headLine (k : EventKind) :
    splitField (headLine k).toList = ("event".toList, k.name.toList) := by
  cases k <;> decide

theorem splitField_dataLine (s : StampedEvent) :
    splitField s.dataLine = ("data".toList, s.toJson.write.toList) := by
  have hmark : "data: ".toList = ['d', 'a', 't', 'a', ':', ' '] := by decide
  have hname : "data".toList = ['d', 'a', 't', 'a'] := by decide
  rw [dataLine, String.toList_append, hmark, hname]
  rfl

/-- No line of a frame has a control character, so none of them ends early. -/
theorem le_toNat_of_mem_frameLines {s : StampedEvent} (h : s.IsProper) :
    ∀ l ∈ s.frameLines, ∀ c ∈ l, 0x20 ≤ c.toNat := by
  rw [frameLines, List.forall_mem_cons, List.forall_mem_cons, List.forall_mem_singleton]
  exact ⟨le_toNat_of_mem_headLine, le_toNat_of_mem_dataLine h, by simp⟩

theorem headLine_ne_nil (k : EventKind) : (headLine k).toList ≠ [] ∧ k.name.toList ≠ [] := by
  cases k <;> decide

theorem dataLine_ne_nil (s : StampedEvent) : s.dataLine ≠ [] := by
  rw [dataLine, String.toList_append]
  exact List.append_ne_nil_of_left_ne_nil (by decide) _

/-- The lines of a frame are one message, whatever comes behind them. -/
theorem messagesFrom_frameLines (s : StampedEvent) (rest : List (List Char)) :
    messagesFrom {} (s.frameLines ++ rest) = s.message :: messagesFrom {} rest := by
  obtain ⟨hhead, hname⟩ := headLine_ne_nil s.event.kind
  -- without a name the type of the message would be the usual one
  have hfinish : Draft.finish? ⟨s.event.kind.name.toList, [] ++ [s.toJson.write.toList]⟩ =
      some s.message := by
    simp [Draft.finish?, message, hname]
  rw [frameLines, List.cons_append, List.cons_append, List.cons_append, List.nil_append,
    messagesFrom_cons hhead, add_of_event (splitField_headLine _),
    messagesFrom_cons s.dataLine_ne_nil, add_of_data s.splitField_dataLine,
    messagesFrom_nil_cons, hfinish]
  rfl

end StampedEvent

/-! ## Streams -/

section

open EventStream

variable {events : List StampedEvent} {frames : List String}

/-- The frames of events, one behind the other, are read as these events. -/
structure Conveys (events : List StampedEvent) (frames : List String) : Prop where
  /-- Every event has a frame. -/
  written : List.Forall₂ (fun s f => s.frame = .ok f) events frames
  /-- A frame is one line with the kind of its event, one with its record, and an empty one. -/
  lines : EventStream.lines (String.join frames) = events.flatMap StampedEvent.frameLines
  /-- Every event is a message of its own, and there are no others. -/
  messages : EventStream.messages (String.join frames) = events.map StampedEvent.message
  /-- The messages are read as the events. -/
  read : (EventStream.messages (String.join frames)).map Message.event? = events.map some

/-- Written frames are their lines, each one ended. -/
theorem toList_join_of_written
    (h : List.Forall₂ (fun s f => StampedEvent.frame s = .ok f) events frames) :
    (String.join frames).toList =
      (events.flatMap StampedEvent.frameLines).flatMap (· ++ ['\n']) := by
  rw [String.toList_join]
  induction h with
  | nil => rfl
  | @cons s f events frames hframe _ ih =>
    rw [List.flatMap_cons, List.flatMap_cons, List.flatMap_append, ih,
      (StampedEvent.frame_eq_ok_iff.1 hframe).2, StampedEvent.toList_text]

/-- Events that are written fit their frames. -/
theorem fitsFrame_of_written
    (h : List.Forall₂ (fun s f => StampedEvent.frame s = .ok f) events frames) :
    ∀ s ∈ events, s.FitsFrame := by
  induction h with
  | nil =>
    intro s hs
    exact nomatch hs
  | cons hframe _ ih =>
    exact List.forall_mem_cons.2 ⟨(StampedEvent.frame_eq_ok_iff.1 hframe).1, ih⟩

/-- The lines of frames are read as one message each. -/
theorem messagesFrom_flatMap (events : List StampedEvent) :
    messagesFrom {} (events.flatMap StampedEvent.frameLines) =
      events.map StampedEvent.message := by
  induction events with
  | nil => rfl
  | cons s events ih =>
    rw [List.flatMap_cons, StampedEvent.messagesFrom_frameLines, ih, List.map_cons]

/-- A stream of frames is read as the lines of its frames. -/
theorem lines_join (h : ∀ s ∈ events, s.IsProper)
    (hwritten : List.Forall₂ (fun s f => StampedEvent.frame s = .ok f) events frames) :
    lines (String.join frames) = events.flatMap StampedEvent.frameLines := by
  apply lines_eq (toList_join_of_written hwritten)
  intro l hl
  obtain ⟨s, hs, hmem⟩ := List.mem_flatMap.1 hl
  exact StampedEvent.le_toNat_of_mem_frameLines (h s hs) l hmem

/-- Proper events that fit their frames are conveyed. -/
theorem conveys_of_fitsFrame (h : ∀ s ∈ events, s.IsProper) (hfits : ∀ s ∈ events, s.FitsFrame) :
    Conveys events (events.map StampedEvent.text) := by
  have hwritten : List.Forall₂ (fun s f => StampedEvent.frame s = .ok f) events
      (events.map StampedEvent.text) := by
    rw [List.forall₂_map_right_iff, List.forall₂_same]
    intro s hs
    exact StampedEvent.frame_eq_ok_iff.2 ⟨hfits s hs, rfl⟩
  have hlines := lines_join h hwritten
  have hmessages : messages (String.join (events.map StampedEvent.text)) =
      events.map StampedEvent.message := by
    rw [messages, hlines, messagesFrom_flatMap]
  refine ⟨hwritten, hlines, hmessages, ?_⟩
  rw [hmessages, List.map_map, List.map_inj_left]
  intro s hs
  exact (StampedEvent.event?_message (h s hs) (hfits s hs).depth).2 (hfits s hs).digits

end

/-- Events are conveyed by their frames, whatever their texts hold, if and only if the details of
each of them fit into a frame. -/
theorem conveyed_iff {events : List StampedEvent} (h : ∀ s ∈ events, s.IsProper) :
    (∃ frames, Conveys events frames) ↔ ∀ s ∈ events, s.FitsFrame := by
  constructor
  · rintro ⟨frames, hconveys⟩
    exact fitsFrame_of_written hconveys.written
  · intro hfits
    exact ⟨_, conveys_of_fitsFrame h hfits⟩

/-- An event in the render with the given name, with a stamp of its own. -/
def stamped (renderId : String) (kind : EventKind)
    (details : Option (List (String × Json.Value))) : StampedEvent where
  id := ⟨[0x12, 0x34, 0x56, 0x78, 0x12, 0x34, 0x56, 0x78, 0x12, 0x34, 0x56, 0x78, 0x12, 0x34, 0x56,
    0x78], rfl⟩
  time := { year := 2024, month := 1, day := 2, hour := 3, minute := 4, second := 5,
            offset := some 0 }
  event := { renderId, kind, details }

theorem isProper_stamped {renderId : String} {kind : EventKind}
    {details : Option (List (String × Json.Value))}
    (h : ∀ d ∈ details, (Json.Value.obj d).IsPlain) : (stamped renderId kind details).IsProper := by
  refine ⟨⟨rfl, by simp [stamped], ?_⟩, h⟩
  rintro m ⟨⟩
  decide

/-- Events whose texts hold ends of lines, fields of messages, quotes and controls. -/
def unruly : List StampedEvent :=
  [stamped "r\n\nevent: render_completed\r\n" .renderStarted none,
    stamped "r" .anomalyDetected (some [("tag\r", .str "\"\\\u2028\u0085\x00\x1f"),
      ("offset", .int (-7)),
      ("inner", .obj [("", .arr [.null, .bool true, .obj []]), ("data:", .str "\\n")])]),
    stamped "r" .renderCompleted (some [("state", .str "rendered"), ("anomalies_count", .int 0),
      ("document", .str "<p>\n\ndata: \x7b\x7d\r\n\r\n</p>")])]

theorem unruly_conveyed :
    (∀ s ∈ unruly, s.IsProper) ∧ (∀ s ∈ unruly, s.FitsFrame) ∧
      ∃ frames, Conveys unruly frames := by
  have hproper : ∀ s ∈ unruly, s.IsProper := by
    rw [unruly, List.forall_mem_cons, List.forall_mem_cons, List.forall_mem_singleton]
    refine ⟨isProper_stamped ?_, isProper_stamped ?_, isProper_stamped ?_⟩
    · rintro d ⟨⟩
    · rintro d ⟨⟩
      simp [Json.Value.IsPlain, Json.ItemsPlain, Json.MembersPlain]
    · rintro d ⟨⟩
      simp [Json.Value.IsPlain, Json.MembersPlain]
  have hfits : ∀ s ∈ unruly, s.FitsFrame := by
    rw [unruly, List.forall_mem_cons, List.forall_mem_cons, List.forall_mem_singleton]
    exact ⟨⟨by decide, by decide⟩, ⟨by decide, by decide⟩, ⟨by decide, by decide⟩⟩
  exact ⟨hproper, hfits, (conveyed_iff hproper).2 hfits⟩

/-- The number 1 inside of arrays. -/
def enclosed : Nat → Json.Value
  | 0 => .int 1
  | n + 1 => .arr [enclosed n]

/-- The lists around a value count its depth. -/
theorem depth_enclosed (n : Nat) : (enclosed n).depth = n + 1 := by
  induction n with
  | zero => rfl
  | succ n ih => simp [enclosed, Json.Value.depth, Json.itemsDepth, ih, Nat.add_comm]

theorem isPlain_enclosed (n : Nat) : (enclosed n).IsPlain := by
  induction n with
  | zero => trivial
  | succ n ih => exact ⟨ih, trivial⟩

/-- An event with a single detail. -/
def withDetail (v : Json.Value) : StampedEvent :=
  stamped "r" .renderStarted (some [("x", v)])

theorem isProper_withDetail {v : Json.Value} (h : v.IsPlain) : (withDetail v).IsProper := by
  apply isProper_stamped
  rintro d ⟨⟩
  exact ⟨by simp, h, trivial⟩

/-- An event with one detail fits a frame where the detail is neither too deep nor too long. -/
theorem fitsFrame_withDetail_iff {v : Json.Value} :
    (withDetail v).FitsFrame ↔ v.depth ≤ maxDetailDepth ∧ v.digits ≤ Json.maxDigits := by
  have hdepth : Json.membersDepth [("x", v)] = v.depth := Nat.max_zero _
  have hdigits : Json.membersDigits [("x", v)] = v.digits := Nat.max_zero _
  rw [← hdepth, ← hdigits]
  exact ⟨fun h => ⟨h.depth, h.digits⟩, fun h => ⟨h.1, h.2⟩⟩

/-- Neither details that are too deep nor integers that are too long are conveyed. -/
theorem not_conveyed_withDetail :
    ((withDetail (enclosed 255)).IsProper ∧
      ¬ ∃ frames, Conveys [withDetail (enclosed 255)] frames) ∧
    ((withDetail (.int (10 ^ Json.maxDigits : Nat))).IsProper ∧
      ¬ ∃ frames, Conveys [withDetail (.int (10 ^ Json.maxDigits : Nat))] frames) := by
  have hfits : ∀ v : Json.Value, (∃ frames, Conveys [withDetail v] frames) →
      v.depth ≤ maxDetailDepth ∧ v.digits ≤ Json.maxDigits := by
    rintro v ⟨frames, hconveys⟩
    exact fitsFrame_withDetail_iff.1 (fitsFrame_of_written hconveys.written _ List.mem_cons_self)
  refine ⟨⟨isProper_withDetail (isPlain_enclosed 255), ?_⟩, ⟨isProper_withDetail trivial, ?_⟩⟩
  · intro hconveyed
    have hdepth := (hfits _ hconveyed).1
    rw [depth_enclosed] at hdepth
    exact absurd hdepth (by decide)
  · intro hconveyed
    have hdigits := (hfits (.int _) hconveyed).2
    exact Nat.lt_irrefl _ ((Json.digitCount_le_iff (by decide)).1 hdigits)

end SealedPage.Render
