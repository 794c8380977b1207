import SealedPage.Render.Event

/-!
# Observers

Someone who watches renders, an `Observer`, has a state of its own, which every event that it is
sent may change, and it may fail to take an event. The queue, `EventQueue`, is the observer behind a
stream of events: it keeps them in order for one reader, an `EventStream`, and closes itself at the
first event that ends a render.
-/

namespace SealedPage.Render

/-- Whether an observer took an event. -/
inductive Receipt where
  | taken
  | failed
  deriving DecidableEq, Repr

/-- An observer whose state is `σ`. -/
structure Observer (σ : Type) where
  emit : σ → Event → Receipt × σ

/-- The observer that ignores everything. -/
def Observer.nobody : Observer Unit where
  emit _ _ := (.taken, ())

/-- An item of a queue. -/
inductive Item where
  | event (e : Event)
  /-- Nothing follows. -/
  | last
  deriving Repr

/-- The end of a queue that its writer sees, and the items that its reader has not taken yet: those
in `front` first, then those in `back`, which stand in reverse. -/
structure EventQueue where
  front : List Item := []
  back : List Item := []
  isClosed : Bool := false
  terminal : Option Event := none
  deriving Repr

namespace EventQueue

/-- The items that were not taken yet, in order. -/
def items (q : EventQueue) : List Item :=
  q.front ++ q.back.reverse

/-- Puts an item at the end. -/
def push (q : EventQueue) (i : Item) : EventQueue :=
  { q with back := i :: q.back }

/-- Closes a queue, once. -/
def close (q : EventQueue) : EventQueue :=
  if q.isClosed then q else { q.push .last with isClosed := true }

/-- Puts an event into a queue; a closed one drops it, and an event that ends its render closes the
queue. -/
def emit (q : EventQueue) (e : Event) : EventQueue :=
  if q.isClosed then q
  else if e.isTerminal then ({ q with terminal := some e }.push (.event e)).close
  else q.push (.event e)

/-- Takes the first item. -/
def pop? (q : EventQueue) : Option Item × EventQueue :=
  match q.front with
  | i :: front => (some i, { q with front })
  | [] =>
    match q.back.reverse with
    | [] => (none, q)
    | i :: front => (some i, { q with front, back := [] })

/-- A detail of the event that ended the render. -/
def detail? (q : EventQueue) (name : String) : Option Json.Value :=
  q.terminal.bind (·.detail? name)

/-- The state of the page, once the render has ended. -/
def state? (q : EventQueue) : Option Json.Value :=
  q.detail? "state"

/-- The page as the render left it, once the render has ended. -/
def document? (q : EventQueue) : Option Json.Value :=
  q.detail? "document"

/-- The events that a reader finds who comes after the end. -/
def events (q : EventQueue) : List Event :=
  q.items.filterMap fun
    | .event e => some e
    | .last => none

/-- The observer that fills a queue. -/
def observer : Observer EventQueue where
  emit q e := (.taken, q.emit e)

end EventQueue

/-! ## Reading a queue -/

/-- What a reader gets from a queue. -/
inductive Reading where
  | event (e : Event)
  | ended
  /-- Nothing is there yet. -/
  | waiting
  deriving Repr

/-- A queue with its one reader, who has ended once the end was taken. -/
structure EventStream where
  queue : EventQueue := {}
  hasEnded : Bool := false
  deriving Repr

/-- Takes what comes next; behind the end there is only the end. -/
def EventStream.next (s : EventStream) : Reading × EventStream :=
  if s.hasEnded then (.ended, s)
  else
    match s.queue.pop? with
    | (none, _) => (.waiting, s)
    | (some (.event e), queue) => (.event e, { s with queue })
    | (some .last, queue) => (.ended, { queue, hasEnded := true })

end SealedPage.Render
