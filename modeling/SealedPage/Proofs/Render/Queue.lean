import Mathlib.Data.List.Induction
import SealedPage.Render.Observer

/-!
# The queue behind a stream

A writer puts events into a queue and closes it, and one reader takes them out, in any order of
their steps. The events that count are those up to the first one that ends a render, or up to the
first closing, `admitted`. All of them are put into the queue, once and in order, with one mark
behind them when the queue is closed, and the reader gets just these: `Delivers`, which holds at
every moment, `delivers_after`.
-/

namespace SealedPage.Render

/-! ## What is in a queue -/

namespace EventQueue

variable {q : EventQueue} {e : Event}

theorem items_push (q : EventQueue) (i : Item) : (q.push i).items = q.items ++ [i] := by
  simp [items, push]

/-- An item is taken from the front of a queue, and nothing else changes. -/
structure Pops (q : EventQueue) (i : Item) (q' : EventQueue) : Prop where
  items : q.items = i :: q'.items
  isClosed : q'.isClosed = q.isClosed
  terminal : q'.terminal = q.terminal

/-- Either the queue is empty, or its first item is taken. -/
theorem pop?_cases (q : EventQueue) :
    q.items = [] ∧ q.pop? = (none, q) ∨ ∃ i q', q.Pops i q' ∧ q.pop? = (some i, q') := by
  unfold pop?
  split
  · rename_i i front hfront
    refine Or.inr ⟨i, { q with front }, ⟨?_, rfl, rfl⟩, rfl⟩
    rw [items, hfront]
    rfl
  · rename_i hfront
    split
    · rename_i hback
      exact Or.inl ⟨by rw [items, hfront, hback]; rfl, rfl⟩
    · rename_i i front hback
      refine Or.inr ⟨i, { q with front, back := [] }, ⟨?_, rfl, rfl⟩, rfl⟩
      rw [items, items, hfront, hback]
      simp

/-- Closing a closed queue changes nothing. -/
theorem close_of_closed (h : q.isClosed) : q.close = q :=
  if_pos h

/-- A closed queue takes no event. -/
theorem emit_of_closed (h : q.isClosed) (e : Event) : q.emit e = q :=
  if_pos h

theorem close_of_open (h : q.isClosed = false) :
    q.close = { q.push .last with isClosed := true } := by
  rw [close, h, if_neg Bool.false_ne_true]

theorem items_close (h : q.isClosed = false) : q.close.items = q.items ++ [.last] := by
  rw [close_of_open h]
  exact items_push q .last

/-- A queue is closed once. -/
theorem isClosed_close (q : EventQueue) : q.close.isClosed := by
  unfold close
  split
  · assumption
  · rfl

theorem terminal_close (q : EventQueue) : q.close.terminal = q.terminal := by
  unfold close
  split <;> rfl

/-- What an open queue keeps of an event. -/
theorem emit_of_open (h : q.isClosed = false) (e : Event) :
    (q.emit e).items = q.items ++ .event e :: (if e.isTerminal then [.last] else []) ∧
      (q.emit e).isClosed = e.isTerminal ∧
      (q.emit e).terminal = if e.isTerminal then some e else q.terminal := by
  have hnot : ¬ q.isClosed := by simp [h]
  rw [emit, if_neg hnot]
  cases he : e.isTerminal with
  | false => exact ⟨items_push q (.event e), h, rfl⟩
  | true =>
    have hopen : ({ q with terminal := some e }.push (.event e)).isClosed = false := h
    rw [if_pos rfl, if_pos rfl, if_pos rfl]
    refine ⟨?_, isClosed_close _, terminal_close _⟩
    calc ({ q with terminal := some e }.push (.event e)).close.items
      _ = ({ q with terminal := some e }.push (.event e)).items ++ [.last] := items_close hopen
      _ = q.items ++ .event e :: [.last] := by
        rw [items_push, List.append_assoc]
        rfl

end EventQueue

/-- What the reader gets is the first item, if it has not come to the end. -/
theorem EventStream.next_cases (s : EventStream) :
    s.hasEnded ∧ s.next = (.ended, s) ∨
      s.hasEnded = false ∧
        (s.queue.items = [] ∧ s.next = (.waiting, s) ∨
          (∃ e q, s.queue.Pops (.event e) q ∧ s.next = (.event e, { s with queue := q })) ∨
          ∃ q, s.queue.Pops .last q ∧ s.next = (.ended, { queue := q, hasEnded := true })) := by
  unfold next
  cases hended : s.hasEnded with
  | true => exact Or.inl ⟨rfl, rfl⟩
  | false =>
    refine Or.inr ⟨rfl, ?_⟩
    rw [if_neg Bool.false_ne_true]
    rcases s.queue.pop?_cases with ⟨hempty, hpop⟩ | ⟨i, q, hpops, hpop⟩
    · rw [hpop]
      exact Or.inl ⟨hempty, rfl⟩
    · rw [hpop]
      cases i with
      | event e => exact Or.inr (Or.inl ⟨e, q, hpops, rfl⟩)
      | last => exact Or.inr (Or.inr ⟨q, hpops, rfl⟩)

/-! ## The steps that count -/

/-- One step of a writer, or of the reader. -/
inductive Op where
  | emit (e : Event)
  | close
  | get

/-- Whether a step closes the queue, if it is open. -/
def Op.closes : Op → Bool
  | emit e => e.isTerminal
  | close => true
  | get => false

/-- Whether a step is one of the reader. -/
def Op.isGet : Op → Bool
  | get => true
  | _ => false

theorem Op.eq_get {op : Op} (h : op.isGet) : op = .get := by
  cases op with
  | get => rfl
  | emit e => cases h
  | close => cases h

/-- The events that are put in up to the first one that ends a render, with this one, or up to the
first closing. -/
def admitted : List Op → List Event
  | [] => []
  | .emit e :: ops => e :: if e.isTerminal then [] else admitted ops
  | .close :: _ => []
  | .get :: ops => admitted ops

/-- Whether some step closes the queue. -/
def isOver (ops : List Op) : Bool :=
  ops.any Op.closes

/-- Once a session is over, no later event is admitted. -/
theorem admitted_append (ops later : List Op) :
    admitted (ops ++ later) = admitted ops ++ if isOver ops then [] else admitted later := by
  induction ops with
  | nil => rfl
  | cons op ops ih =>
    cases op with
    | emit e =>
      have hover : isOver (.emit e :: ops) = (e.isTerminal || isOver ops) := rfl
      rw [List.cons_append, admitted, admitted, ih, hover]
      cases e.isTerminal <;> rfl
    | close => rfl
    | get => exact ih

/-- An event that ends a render is the last one that counts. -/
theorem find?_admitted_of_open {ops : List Op} (h : isOver ops = false) :
    (admitted ops).find? Event.isTerminal = none := by
  induction ops with
  | nil => rfl
  | cons op ops ih =>
    rw [isOver, List.any_cons, Bool.or_eq_false_iff] at h
    obtain ⟨hop, hops⟩ := h
    cases op with
    | emit e =>
      have he : e.isTerminal = false := hop
      rw [admitted, he, List.find?_cons_of_neg (by rw [he]; exact Bool.false_ne_true)]
      exact ih hops
    | close => cases hop
    | get => exact ih hops

/-! ## Sessions -/

/-- The event that the reader got. -/
def Reading.event? : Reading → Option Event
  | event e => some e
  | _ => none

/-- A queue with its reader, and what the reader got at each of its steps. -/
structure Session where
  stream : EventStream := {}
  readings : List Reading := []

namespace Session

/-- One step. -/
def step (s : Session) : Op → Session
  | .emit e => { s with stream := { s.stream with queue := s.stream.queue.emit e } }
  | .close => { s with stream := { s.stream with queue := s.stream.queue.close } }
  | .get => { stream := s.stream.next.2, readings := s.readings ++ [s.stream.next.1] }

/-- A new session after some steps. -/
def after (ops : List Op) : Session :=
  ops.foldl step {}

/-- The events that the reader got. -/
def received (s : Session) : List Event :=
  s.readings.filterMap Reading.event?

/-- All items that were ever put into the queue: those that the reader took, and those that are
still there. -/
def queued (s : Session) : List Item :=
  s.received.map .event ++ ((if s.stream.hasEnded then [.last] else []) ++ s.stream.queue.items)

theorem after_append (ops later : List Op) : after (ops ++ later) = later.foldl step (after ops) :=
  List.foldl_append

theorem after_concat (ops : List Op) (op : Op) : after (ops ++ [op]) = (after ops).step op :=
  after_append ops [op]

/-! ### What a step does -/

/-- A step of the reader moves an item at most. -/
theorem step_get (s : Session) :
    (s.step .get).queued = s.queued ∧
      (s.step .get).stream.queue.isClosed = s.stream.queue.isClosed ∧
      (s.step .get).stream.queue.terminal = s.stream.queue.terminal := by
  unfold step queued received
  rcases s.stream.next_cases with ⟨-, hnext⟩ |
    ⟨hended, ⟨-, hnext⟩ | ⟨e, q, hpops, hnext⟩ | ⟨q, hpops, hnext⟩⟩
  · rw [hnext]
    simp [Reading.event?]
  · rw [hnext]
    simp [Reading.event?]
  · rw [hnext, hpops.items]
    exact ⟨by simp [Reading.event?, hended], hpops.isClosed, hpops.terminal⟩
  · rw [hnext, hpops.items]
    exact ⟨by simp [Reading.event?, hended], hpops.isClosed, hpops.terminal⟩

/-- A step on an open queue puts in what counts of it, and a mark if it closes the queue. -/
theorem step_of_open {s : Session} (h : s.stream.queue.isClosed = false) (op : Op) :
    (s.step op).queued =
        s.queued ++ ((admitted [op]).map .event ++ if op.closes then [.last] else []) ∧
      (s.step op).stream.queue.isClosed = op.closes ∧
      (s.step op).stream.queue.terminal =
        ((admitted [op]).find? Event.isTerminal).or s.stream.queue.terminal := by
  cases op with
  | emit e =>
    have hone : admitted [Op.emit e] = [e] := by
      rw [admitted, admitted, ite_self]
    obtain ⟨hitems, hclosed, hterminal⟩ := EventQueue.emit_of_open h e
    rw [hone]
    refine ⟨?_, hclosed, hterminal.trans ?_⟩
    · unfold step queued received
      dsimp only
      rw [hitems]
      simp only [List.append_assoc]
      rfl
    · cases he : e.isTerminal <;> simp [he]
  | close =>
    refine ⟨?_, EventQueue.isClosed_close _, EventQueue.terminal_close _⟩
    unfold step queued received
    dsimp only
    rw [EventQueue.items_close h]
    simp [Op.closes, admitted]
  | get =>
    obtain ⟨hqueued, hclosed, hterminal⟩ := s.step_get
    refine ⟨?_, hclosed.trans h, hterminal⟩
    rw [hqueued]
    simp [Op.closes, admitted]

/-- A closed queue takes nothing more. -/
theorem step_eq_self {s : Session} (h : s.stream.queue.isClosed) {op : Op}
    (hop : op.isGet = false) : s.step op = s := by
  cases op with
  | emit e =>
    unfold step
    dsimp only
    rw [EventQueue.emit_of_closed h]
  | close =>
    unfold step
    dsimp only
    rw [EventQueue.close_of_closed h]
  | get => cases hop

/-- No step opens a closed queue again, or puts anything into it. -/
theorem step_of_closed {s : Session} (h : s.stream.queue.isClosed) (op : Op) :
    (s.step op).queued = s.queued ∧ (s.step op).stream.queue.isClosed ∧
      (s.step op).stream.queue.terminal = s.stream.queue.terminal := by
  cases op with
  | emit e =>
    rw [step_eq_self h rfl]
    exact ⟨rfl, h, rfl⟩
  | close =>
    rw [step_eq_self h rfl]
    exact ⟨rfl, h, rfl⟩
  | get =>
    obtain ⟨hqueued, hclosed, hterminal⟩ := s.step_get
    exact ⟨hqueued, hclosed.trans h, hterminal⟩

end Session

/-! ## What a session has come to -/

namespace Session

/-- A session and the steps that it has taken: everything that counts was put into the queue, with
one mark behind it if the queue is closed. -/
structure Reflects (s : Session) (ops : List Op) : Prop where
  queued : s.queued = (admitted ops).map .event ++ if isOver ops then [.last] else []
  isClosed : s.stream.queue.isClosed = isOver ops
  terminal : s.stream.queue.terminal = (admitted ops).find? Event.isTerminal

/-- One step keeps a session and the steps it has taken together. -/
theorem Reflects.step {s : Session} {ops : List Op} (h : s.Reflects ops) (op : Op) :
    (s.step op).Reflects (ops ++ [op]) := by
  have hover : isOver (ops ++ [op]) = (isOver ops || op.closes) := by
    simp [isOver]
  cases hops : isOver ops with
  | true =>
    obtain ⟨hqueued, hclosed, hterminal⟩ := step_of_closed (h.isClosed.trans hops) op
    have hsame : admitted (ops ++ [op]) = admitted ops := by
      rw [admitted_append, hops, if_pos rfl, List.append_nil]
    rw [hops, Bool.true_or] at hover
    constructor
    · rw [hqueued, h.queued, hsame, hover, hops]
    · rw [hclosed, hover]
    · rw [hterminal, h.terminal, hsame]
  | false =>
    obtain ⟨hqueued, hclosed, hterminal⟩ := step_of_open (h.isClosed.trans hops) op
    have hmore : admitted (ops ++ [op]) = admitted ops ++ admitted [op] := by
      rw [admitted_append, hops, if_neg Bool.false_ne_true]
    rw [hops, Bool.false_or] at hover
    constructor
    · rw [hqueued, h.queued, hmore, hover, hops]
      simp
    · rw [hclosed, hover]
    · rw [hterminal, h.terminal, hmore, List.find?_append, find?_admitted_of_open hops,
        Option.or_none, Option.none_or]

/-- By induction on the steps, a session reflects all that it has taken. -/
theorem reflects_after (ops : List Op) : (after ops).Reflects ops := by
  induction ops using List.reverseRecOn with
  | nil => exact ⟨rfl, rfl, rfl⟩
  | append_singleton ops op ih =>
    rw [after_concat]
    exact ih.step op

/-! ### Reading on -/

/-- A closed session whose reader has still to get some events. -/
structure Drains (s : Session) (rest : List Event) : Prop where
  isClosed : s.stream.queue.isClosed
  items : (if s.stream.hasEnded then [.last] else []) ++ s.stream.queue.items =
    rest.map Item.event ++ [.last]

/-- The reader gets the next event. -/
theorem Drains.step_cons {s : Session} {e : Event} {rest : List Event}
    (h : s.Drains (e :: rest)) :
    (s.step .get).readings = s.readings ++ [.event e] ∧ (s.step .get).Drains rest := by
  have hitems := h.items
  unfold step
  rcases s.stream.next_cases with ⟨hended, hnext⟩ |
    ⟨hended, ⟨hempty, hnext⟩ | ⟨e', q, hpops, hnext⟩ | ⟨q, hpops, hnext⟩⟩
  · simp [hended] at hitems
  · simp [hended, hempty] at hitems
  · rw [hended, hpops.items] at hitems
    obtain ⟨hhead, htail⟩ := List.cons.inj hitems
    obtain rfl := Item.event.inj hhead
    rw [hnext]
    exact ⟨rfl, hpops.isClosed.trans h.isClosed, by rw [hended]; exact htail⟩
  · rw [hended, hpops.items] at hitems
    simp at hitems

/-- The reader gets to the end, and stays there. -/
theorem Drains.step_nil {s : Session} (h : s.Drains []) :
    (s.step .get).readings = s.readings ++ [.ended] ∧ (s.step .get).Drains [] := by
  have hitems := h.items
  unfold step
  rcases s.stream.next_cases with ⟨hended, hnext⟩ |
    ⟨hended, ⟨hempty, hnext⟩ | ⟨e', q, hpops, hnext⟩ | ⟨q, hpops, hnext⟩⟩
  · rw [hnext]
    exact ⟨rfl, h.isClosed, h.items⟩
  · simp [hended, hempty] at hitems
  · simp [hended, hpops.items] at hitems
  · rw [hended, hpops.items] at hitems
    rw [hnext]
    exact ⟨rfl, hpops.isClosed.trans h.isClosed, hitems⟩

/-- At the end there is only the end. -/
theorem Drains.foldl_nil {s : Session} (h : s.Drains []) (later : List Op) :
    (later.foldl step s).readings =
      s.readings ++ List.replicate (later.countP Op.isGet) .ended := by
  induction later generalizing s with
  | nil => simp
  | cons op later ih =>
    rw [List.foldl_cons]
    cases hop : op.isGet with
    | false =>
      rw [step_eq_self h.isClosed hop, ih h, List.countP_cons_of_neg (by simp [hop])]
    | true =>
      obtain rfl := Op.eq_get hop
      obtain ⟨hreadings, hdrains⟩ := h.step_nil
      rw [ih hdrains, hreadings, List.countP_cons_of_pos rfl, List.replicate_succ,
        List.append_assoc]
      rfl

/-- A reader that takes more steps than there are events gets all of them, and then the end. -/
theorem Drains.foldl {s : Session} {rest : List Event} (h : s.Drains rest) {later : List Op}
    (hlater : rest.length < later.countP Op.isGet) :
    (later.foldl step s).readings = s.readings ++ (rest.map .event ++
      List.replicate (later.countP Op.isGet - rest.length) .ended) := by
  induction later generalizing s rest with
  | nil => simp at hlater
  | cons op later ih =>
    cases rest with
    | nil => exact h.foldl_nil (op :: later)
    | cons e rest =>
      rw [List.foldl_cons]
      cases hop : op.isGet with
      | false =>
        rw [List.countP_cons_of_neg (by simp [hop])] at hlater ⊢
        rw [step_eq_self h.isClosed hop, ih h hlater]
      | true =>
        obtain rfl := Op.eq_get hop
        obtain ⟨hreadings, hdrains⟩ := h.step_cons
        rw [List.countP_cons_of_pos rfl, List.length_cons] at hlater ⊢
        rw [ih hdrains (by omega), hreadings, Nat.add_sub_add_right, List.append_assoc]
        rfl

/-- A reader that asks often enough gets all that is left. -/
theorem Drains.received_foldl {s : Session} {rest : List Event} (h : s.Drains rest)
    {later : List Op} (hlater : rest.length < later.countP Op.isGet) :
    (later.foldl step s).received = s.received ++ rest := by
  have hevents : (rest.map Reading.event).filterMap Reading.event? = rest := by
    rw [List.filterMap_map]
    exact List.filterMap_some
  rw [received, h.foldl hlater, List.filterMap_append, List.filterMap_append, hevents,
    List.filterMap_replicate_of_none rfl, List.append_nil, received]

/-- Items in a queue begin with those that the reader took. -/
theorem eq_append_of_map_event {received admitted : List Event} {items marks : List Item}
    (h : received.map Item.event ++ items = admitted.map Item.event ++ marks)
    (hmarks : ∀ e, Item.event e ∉ marks) :
    ∃ rest, admitted = received ++ rest ∧ items = rest.map .event ++ marks := by
  induction received generalizing admitted with
  | nil => exact ⟨admitted, rfl, h⟩
  | cons e received ih =>
    cases admitted with
    | nil =>
      have hmem : Item.event e ∈ marks := by
        rw [List.map_nil, List.nil_append] at h
        rw [← h]
        exact List.mem_cons_self
      exact absurd hmem (hmarks e)
    | cons e' admitted =>
      obtain ⟨hhead, htail⟩ := List.cons.inj h
      obtain rfl := Item.event.inj hhead
      obtain ⟨rest, rfl, hitems⟩ := ih htail
      exact ⟨rest, rfl, hitems⟩

/-- What is admitted and not yet received still waits in the queue. -/
theorem Reflects.exists_rest {s : Session} {ops : List Op} (h : s.Reflects ops) :
    ∃ rest, admitted ops = s.received ++ rest ∧
      (if s.stream.hasEnded then [.last] else []) ++ s.stream.queue.items =
        rest.map .event ++ if isOver ops then [.last] else [] := by
  refine eq_append_of_map_event h.queued fun e he => ?_
  split at he <;> simp at he

end Session

/-! ## Delivery -/

/-- What a queue and its reader have come to after some steps, in any order, and what they will come
to after any more. -/
structure Delivers (ops : List Op) : Prop where
  /-- What the reader got is the front of what counts, whatever will follow. -/
  received_prefix : ∀ later, (Session.after ops).received <+: admitted (ops ++ later)
  /-- All that counts was put into the queue, and nothing else but one mark if it is closed. -/
  queued : (Session.after ops).queued = (admitted ops).map .event ++
    if (Session.after ops).stream.queue.isClosed then [.last] else []
  /-- The queue is closed by an event that ends a render, or by its writer. -/
  isClosed_iff : (Session.after ops).stream.queue.isClosed ↔
    (∃ e, e.isTerminal ∧ .emit e ∈ ops) ∨ .close ∈ ops
  /-- The event that ended the render is kept, with the state and the page that it carries. -/
  terminal : (Session.after ops).stream.queue.terminal = (admitted ops).find? Event.isTerminal
  state : (Session.after ops).stream.queue.state? =
    ((admitted ops).find? Event.isTerminal).bind (·.detail? "state")
  document : (Session.after ops).stream.queue.document? =
    ((admitted ops).find? Event.isTerminal).bind (·.detail? "document")
  /-- Once the queue is closed, no step changes what counts and what is kept. -/
  settled : (Session.after ops).stream.queue.isClosed → ∀ later,
    admitted (ops ++ later) = admitted ops ∧
      (Session.after (ops ++ later)).stream.queue.isClosed ∧
      (Session.after (ops ++ later)).stream.queue.terminal =
        (Session.after ops).stream.queue.terminal
  /-- A reader that goes on long enough then gets all the rest of what counts, and the end. -/
  drained : (Session.after ops).stream.queue.isClosed → ∃ rest,
    admitted ops = (Session.after ops).received ++ rest ∧
      ∀ later, rest.length < later.countP Op.isGet →
        (Session.after (ops ++ later)).received = admitted ops ∧ ∃ n, 0 < n ∧
          (Session.after (ops ++ later)).readings = (Session.after ops).readings ++
            (rest.map .event ++ List.replicate n .ended)

/-- A session is over by a last event or by being closed. -/
theorem isOver_iff {ops : List Op} :
    isOver ops ↔ (∃ e, e.isTerminal ∧ .emit e ∈ ops) ∨ .close ∈ ops := by
  rw [isOver, List.any_eq_true]
  constructor
  · rintro ⟨op, hop, hcloses⟩
    cases op with
    | emit e => exact Or.inl ⟨e, hcloses, hop⟩
    | close => exact Or.inr hop
    | get => cases hcloses
  · rintro (⟨e, he, hop⟩ | hop)
    · exact ⟨_, hop, he⟩
    · exact ⟨_, hop, rfl⟩

/-- Whatever the order of the steps is, every event that counts is delivered once and in order. -/
theorem delivers_after (ops : List Op) : Delivers ops := by
  have h := Session.reflects_after ops
  obtain ⟨rest, hrest, hitems⟩ := h.exists_rest
  constructor
  case received_prefix =>
    intro later
    rw [admitted_append, hrest, List.append_assoc]
    exact List.prefix_append _ _
  case queued =>
    rw [h.isClosed]
    exact h.queued
  case isClosed_iff => rw [h.isClosed, isOver_iff]
  case terminal => exact h.terminal
  case state =>
    rw [← h.terminal]
    rfl
  case document =>
    rw [← h.terminal]
    rfl
  case settled =>
    intro hclosed later
    have hover : isOver ops := h.isClosed.symm.trans hclosed
    have hlater := Session.reflects_after (ops ++ later)
    have hsame : admitted (ops ++ later) = admitted ops := by
      rw [admitted_append, if_pos hover, List.append_nil]
    refine ⟨hsame, ?_, ?_⟩
    · rw [hlater.isClosed, isOver, List.any_append, ← isOver, hover, Bool.true_or]
    · rw [hlater.terminal, hsame, h.terminal]
  case drained =>
    intro hclosed
    have hover : isOver ops := h.isClosed.symm.trans hclosed
    rw [if_pos hover] at hitems
    have hdrains : (Session.after ops).Drains rest := ⟨hclosed, hitems⟩
    refine ⟨rest, hrest, fun later hlater => ?_⟩
    rw [Session.after_append]
    exact ⟨(hdrains.received_foldl hlater).trans hrest.symm, _, Nat.sub_pos_of_lt hlater,
      hdrains.foldl hlater⟩

end SealedPage.Render
