import SealedPage.Json.Writer
import SealedPage.Render.Event
import SealedPage.Render.Identifier
import SealedPage.Render.Time

/-!
# Frames of an event stream

An event with its stamp, and the frame that carries it to a reader of a stream: one line with the
kind, one line with all fields, and an empty line. An event has no frame, `FrameError`, if its
details hold too many values inside each other or an integer with too many digits.
-/

namespace SealedPage.Render

open Fields

/-- An event with the identifier and the time that it was given. -/
structure StampedEvent where
  id : Identifier
  time : Time
  event : Event
  deriving Repr

/-- The fields of an event's record. -/
def eventFields : List String :=
  ["event_id", "render_id", "timestamp", "event_type", "details"]

/-- The fields of an event that do not belong to its stamp. -/
def readEvent (members : Members) : Checked Event :=
  (fun _ => Event.mk) <$> onlyKnown members eventFields
    <*> required members "render_id" text
    <*> required members "event_type" (listed EventKind.ofName?)
    <*> withDefault members "details" none (nullable mapping)

/-- An event from the fields of a record, which may hold a stamp. -/
def Event.ofFields (members : Members) : Checked Event :=
  (fun _ _ e => e) <$> withDefault members "event_id" none (fun v => (Identifier.read v).map some)
    <*> withDefault members "timestamp" none (fun v => (Time.read v).map some)
    <*> readEvent members

/-- Why an event has no frame. -/
inductive FrameError where
  /-- A detail holds too many values inside each other. -/
  | tooDeep
  /-- A detail holds an integer with more decimal digits than are written. -/
  | tooManyDigits
  deriving DecidableEq, Repr

/-- The wording of a refusal. -/
def FrameError.message : FrameError → String
  | tooDeep => "Maximum serialization depth exceeded"
  | tooManyDigits =>
    "Exceeds the limit (4300 digits) for integer string conversion; use " ++
      "sys.set_int_max_str_digits() to increase the limit"

/-- How many values may stand inside each other in a detail. -/
def maxDetailDepth : Nat := 255

namespace StampedEvent

/-- A stamped event from the fields of a record. -/
def ofFields (members : Members) : Checked StampedEvent :=
  StampedEvent.mk <$> required members "event_id" Identifier.read
    <*> required members "timestamp" Time.read
    <*> readEvent members

/-- The fields of a stamped event, in the order of the stream. Numbers that are not finite cannot be
written and are left empty. -/
def toJson (s : StampedEvent) : Json.Value :=
  .obj [("event_id", .str s.id.text), ("render_id", .str s.event.renderId),
    ("timestamp", .str s.time.text), ("event_type", .str s.event.kind.name),
    ("details",
      (s.event.details.map fun d => Json.Value.obj (Json.onlyFiniteMembers d)).getD .null)]

/-- The line that opens the frame of an event. -/
def headLine (k : EventKind) : String :=
  "event: " ++ k.name

/-- The frame of an event, unless its details are refused. The depth of all of them is looked at
before any of them is written. -/
def frame (s : StampedEvent) : Except FrameError String :=
  if maxDetailDepth < Json.membersDepth (s.event.details.getD []) then .error .tooDeep
  else if Json.maxDigits < Json.membersDigits (s.event.details.getD []) then .error .tooManyDigits
  else .ok (headLine s.event.kind ++ "\ndata: " ++ s.toJson.write ++ "\n\n")

end StampedEvent

end SealedPage.Render
