import Screencast.Proofs.Control.Writer

/-!
A writer of device messages among those who push. Anything may happen between two of its steps, and
a push itself happens in two halves: the message is left in the outbox, and then the writer is
woken. Main statement: no message is lost, duplicated or torn (`posted_of_run`).
-/

namespace Screencast

/-- What happens to messages. -/
inductive PostEvent where
  | pushed (m : DeviceMessage)
  | taken (m : DeviceMessage)
deriving DecidableEq, Repr

namespace PostEvent

def message : PostEvent → DeviceMessage
  | pushed m | taken m => m

def pushed? : PostEvent → Option DeviceMessage
  | pushed m => some m
  | taken _ => none

def taken? : PostEvent → Option DeviceMessage
  | pushed _ => none
  | taken m => some m

/-- What the messages taken so far come to on the wire. -/
def sent (events : List PostEvent) : Bytes := (events.filterMap taken?).flatMap DeviceMessage.encode

def ofKind (kind : Nat) (events : List PostEvent) : List PostEvent :=
  events.filter (·.message.tag = kind)

theorem ofKind_same {kind : Nat} {e : PostEvent} (same : e.message.tag = kind)
    (events : List PostEvent) : ofKind kind (events ++ [e]) = ofKind kind events ++ [e] := by
  simp [ofKind, same]

theorem ofKind_other {kind : Nat} {e : PostEvent} (other : e.message.tag ≠ kind)
    (events : List PostEvent) : ofKind kind (events ++ [e]) = ofKind kind events := by
  simp [ofKind, other]

/-- What became of the messages of one kind. Each was taken at once, before any other one came, or
gave way to the next one, or is pending. What was taken was the last one pushed. -/
structure Accounted (events : List PostEvent) (pending : Option DeviceMessage) : Prop where
  pushed : ∀ before m after, events = before ++ .pushed m :: after →
    (∃ later, after = .taken m :: later) ∨ (∃ next later, after = .pushed next :: later) ∨
      after = [] ∧ pending = some m
  taken : ∀ before m after, events = before ++ .taken m :: after →
    ∃ earlier, before = earlier ++ [.pushed m]
  pending : ∀ m, pending = some m → ∃ earlier, events = earlier ++ [.pushed m]

/-- A text was taken only when no acknowledgement was pending. -/
def AcksFirst (events : List PostEvent) : Prop :=
  ∀ before text after, events = before ++ .taken (.clipboard text) :: after →
    ∀ earlier sequence, ofKind (DeviceMessage.ack sequence).tag before ≠
      earlier ++ [.pushed (.ack sequence)]

variable {events : List PostEvent} {pending : Option DeviceMessage} {m : DeviceMessage}

/-- An event in a longer history is an old one or the last one. -/
theorem split_snoc {before after : List PostEvent} {e last : PostEvent}
    (h : events ++ [last] = before ++ e :: after) :
    (∃ rest, after = rest ++ [last] ∧ events = before ++ e :: rest) ∨
      after = [] ∧ e = last ∧ before = events := by
  rcases List.eq_nil_or_concat after with rfl | ⟨rest, x, rfl⟩
  · obtain ⟨rfl, same⟩ := List.append_inj' h rfl
    cases same
    exact .inr ⟨rfl, rfl, rfl⟩
  · rw [List.concat_eq_append] at h ⊢
    have h' : events ++ [last] = (before ++ e :: rest) ++ [x] := by simpa using h
    obtain ⟨rfl, same⟩ := List.append_inj' h' rfl
    cases same
    exact .inl ⟨rest, rfl, rfl⟩

theorem Accounted.nil : Accounted [] none where
  pushed := by simp
  taken := by simp
  pending := by simp

theorem Accounted.push (accounted : Accounted events pending) (m : DeviceMessage) :
    Accounted (events ++ [.pushed m]) (some m) where
  pushed before n after h := by
    obtain ⟨rest, rfl, old⟩ | ⟨rfl, same, -⟩ := split_snoc h
    · obtain ⟨later, rfl⟩ | ⟨next, later, rfl⟩ | ⟨rfl, -⟩ := accounted.pushed before n rest old
      · exact .inl ⟨later ++ [.pushed m], rfl⟩
      · exact .inr (.inl ⟨next, later ++ [.pushed m], rfl⟩)
      · exact .inr (.inl ⟨m, [], rfl⟩)
    · cases same
      exact .inr (.inr ⟨rfl, rfl⟩)
  taken before n after h := by
    obtain ⟨rest, rfl, old⟩ | ⟨-, same, -⟩ := split_snoc h
    · exact accounted.taken before n rest old
    · cases same
  pending n h := by
    cases h
    exact ⟨events, rfl⟩

theorem Accounted.take (accounted : Accounted events (some m)) :
    Accounted (events ++ [.taken m]) none where
  pushed before n after h := by
    obtain ⟨rest, rfl, old⟩ | ⟨-, same, -⟩ := split_snoc h
    · obtain ⟨later, rfl⟩ | ⟨next, later, rfl⟩ | ⟨rfl, last⟩ := accounted.pushed before n rest old
      · exact .inl ⟨later ++ [.taken m], rfl⟩
      · exact .inr (.inl ⟨next, later ++ [.taken m], rfl⟩)
      · cases last
        exact .inl ⟨[], rfl⟩
    · cases same
  taken before n after h := by
    obtain ⟨rest, rfl, old⟩ | ⟨-, same, rfl⟩ := split_snoc h
    · exact accounted.taken before n rest old
    · cases same
      exact accounted.pending m rfl
  pending n h := by cases h

/-- Nothing is pending after a history that does not end with a push. -/
theorem Accounted.ne_pushed (accounted : Accounted events none) (earlier : List PostEvent)
    (m : DeviceMessage) : events ≠ earlier ++ [.pushed m] := by
  intro h
  obtain ⟨_, nil⟩ | ⟨_, _, nil⟩ | ⟨-, none⟩ := accounted.pushed earlier m [] h
  · cases nil
  · cases nil
  · cases none

end PostEvent

open PostEvent

/-- A writer among those who push. -/
structure WriterWorld where
  writer : MessageWriter
  /-- The pushes that have left their message and not woken the writer yet. -/
  halfway : Nat := 0
  events : List PostEvent := []

/-- What may happen next. -/
inductive WriterMove where
  /-- The writer takes a step, unless it has to wait. -/
  | go (pick : Nat)
  /-- The first half of a push. -/
  | leave (m : DeviceMessage)
  /-- The second half of a push. -/
  | wake
  | stop
  /-- The desktop makes room for so many bytes. -/
  | drain (n : Nat)
  /-- The desktop is gone. -/
  | hangUp (e : IoError)

/-- What is pushed, if anything is: an acknowledgement of the sequence number 0 is none. -/
def WriterMove.pushed? : WriterMove → Option DeviceMessage
  | leave m => if m = .ack 0 then none else some m
  | _ => none

namespace WriterWorld

/-- The writer has gone on, with a message from the outbox or without. -/
def advanced (w : WriterWorld) (taken : Option DeviceMessage) (writer : MessageWriter) :
    WriterWorld :=
  { w with writer, events := w.events ++ (taken.map .taken).toList }

def left (w : WriterWorld) (m : DeviceMessage) : WriterWorld :=
  { writer := w.writer.leave m, halfway := w.halfway + 1, events := w.events ++ [.pushed m] }

def apply (w : WriterWorld) : WriterMove → WriterWorld
  | .go pick =>
    match w.writer.step pick with
    | some after => w.advanced (w.writer.taken? after) after
    | none => w
  | .leave m => if m = .ack 0 then w else w.left m
  | .wake =>
    if w.halfway = 0 then w else { w with writer := w.writer.wake, halfway := w.halfway - 1 }
  | .stop => { w with writer := w.writer.stop }
  | .drain n => { w with writer.sink := w.writer.sink.drain n }
  | .hangUp e => { w with writer.sink := w.writer.sink.breakWith e }

def run (w : WriterWorld) (moves : List WriterMove) : WriterWorld := moves.foldl apply w

/-- What one move can do. -/
inductive Step (w : WriterWorld) : WriterWorld → Prop where
  | still : Step w w
  | go {taken : Option DeviceMessage} {after : MessageWriter}
      (step : w.writer.Step taken after) : Step w (w.advanced taken after)
  | leave (m : DeviceMessage) (real : m ≠ .ack 0) : Step w (w.left m)
  | rouse (asleep : w.writer.stage = .asleep false) (some : 0 < w.halfway) :
      Step w { w with writer.stage := .asleep true, halfway := w.halfway - 1 }
  | permit (awake : w.writer.stage ≠ .asleep false) (some : 0 < w.halfway) :
      Step w { w with writer.permit := true, halfway := w.halfway - 1 }
  | stop : Step w { w with writer := w.writer.stop }
  | drain (n : Nat) : Step w { w with writer.sink := w.writer.sink.drain n }
  | hangUp (e : IoError) : Step w { w with writer.sink := w.writer.sink.breakWith e }

theorem step_apply (w : WriterWorld) (move : WriterMove) : Step w (w.apply move) := by
  cases move with
  | go pick =>
    cases stepped : w.writer.step pick with
    | none => simpa [apply, stepped] using Step.still
    | some after => simpa [apply, stepped] using Step.go (MessageWriter.step_taken stepped)
  | leave m =>
    change Step w (if m = .ack 0 then w else w.left m)
    split
    · exact .still
    · rename_i real
      exact .leave m real
  | wake =>
    change Step w (if w.halfway = 0 then w
      else { w with writer := w.writer.wake, halfway := w.halfway - 1 })
    split
    · exact .still
    · rename_i none
      have some := Nat.pos_of_ne_zero none
      unfold MessageWriter.wake
      split
      · rename_i asleep
        exact .rouse asleep some
      · rename_i awake
        exact .permit awake some
  | stop => exact .stop
  | drain n => exact .drain n
  | hangUp e => exact .hangUp e

/-- What holds at the start and is kept by every move holds after any run. -/
theorem run_invariant {P : WriterWorld → Prop} {w : WriterWorld} (start : P w)
    (keep : ∀ {w w' : WriterWorld}, P w → Step w w' → P w') (moves : List WriterMove) :
    P (w.run moves) := by
  induction moves generalizing w with
  | nil => exact start
  | cons move moves ih => exact ih (keep start (step_apply w move))

/-- A push that nobody comes between. -/
theorem push_of_halves (w : WriterWorld) (m : DeviceMessage) (alone : w.halfway = 0) :
    (w.run [.leave m, .wake]).writer = w.writer.push m := by
  by_cases none : m = .ack 0
  · simp [run, apply, none, alone, MessageWriter.push]
  · simp [run, apply, none, MessageWriter.push, left]

theorem run_append (w : WriterWorld) (moves more : List WriterMove) :
    w.run (moves ++ more) = (w.run moves).run more := List.foldl_append

/-- A poll that nobody comes between. -/
theorem settle_of_run (w : WriterWorld) (pick n : Nat) :
    (w.run (List.replicate n (.go pick))).writer = settle (MessageWriter.step pick) n w.writer ∧
      (w.run (List.replicate n (.go pick))).halfway = w.halfway := by
  induction n generalizing w with
  | zero => exact ⟨rfl, rfl⟩
  | succ n ih =>
    have next : w.run (List.replicate (n + 1) (.go pick)) =
        (w.apply (.go pick)).run (List.replicate n (.go pick)) := rfl
    rw [next, (ih _).1, (ih _).2, settle]
    cases stepped : w.writer.step pick with
    | none =>
      have same : w.apply (.go pick) = w := by simp [apply, stepped]
      rw [same]
      exact ⟨settle_of_waits stepped n, rfl⟩
    | some after => simp [apply, stepped, advanced]

/-- Nothing is pushed but what the moves push. -/
theorem pushed_run (w : WriterWorld) (moves : List WriterMove) :
    (w.run moves).events.filterMap PostEvent.pushed? =
      w.events.filterMap PostEvent.pushed? ++ moves.filterMap WriterMove.pushed? := by
  induction moves generalizing w with
  | nil => simp [run]
  | cons move moves ih =>
    have next : w.run (move :: moves) = (w.apply move).run moves := rfl
    rw [next, ih]
    cases move with
    | go pick =>
      cases stepped : w.writer.step pick with
      | none => simp [apply, stepped, WriterMove.pushed?, List.filterMap_cons]
      | some after =>
        cases taken : w.writer.taken? after <;>
          simp [apply, stepped, advanced, taken, WriterMove.pushed?, PostEvent.pushed?,
            List.filterMap_cons]
    | leave m =>
      by_cases void : m = .ack 0 <;>
        simp [apply, void, left, WriterMove.pushed?, PostEvent.pushed?]
    | wake =>
      by_cases none : w.halfway = 0 <;>
        simp [apply, none, WriterMove.pushed?, List.filterMap_cons]
    | stop | drain n | hangUp e => simp [apply, WriterMove.pushed?, List.filterMap_cons]

/-! ### What every move keeps -/

variable {w w' : WriterWorld} {base : Bytes}

/-- What has arrived is the front of what was taken, and all of it but for the message that is
being written, or one on which the sink has failed. -/
def Untorn (base : Bytes) (w : WriterWorld) : Prop :=
  ∃ written missing, w.writer.sink.accepted = base ++ written ∧
    written ++ missing = sent w.events ∧
    match w.writer.stage with
    | .writing rest => missing = rest
    | .ended (.error _) => w.writer.sink.Dead
    | _ => missing = []

@[simp] theorem sent_pushed (events : List PostEvent) (m : DeviceMessage) :
    sent (events ++ [.pushed m]) = sent events := by
  simp [sent, PostEvent.taken?]

@[simp] theorem sent_taken (events : List PostEvent) (m : DeviceMessage) :
    sent (events ++ [.taken m]) = sent events ++ m.encode := by
  simp [sent, PostEvent.taken?]

/-- Outside a message nothing is missing. -/
theorem Untorn.whole (untorn : Untorn base w) (between : ∀ rest, w.writer.stage ≠ .writing rest)
    (running : ∀ result, w.writer.stage ≠ .ended result) :
    w.writer.sink.accepted = base ++ sent w.events := by
  obtain ⟨written, missing, accepted, all, left⟩ := untorn
  have none : missing = [] := by
    cases stage : w.writer.stage with
    | writing rest => exact absurd stage (between rest)
    | ended result => exact absurd stage (running result)
    | looking | tiring | asleep => simpa [stage] using left
  rw [accepted, ← all, none, List.append_nil]

theorem Untorn.inside (untorn : Untorn base w) {rest : Bytes}
    (stage : w.writer.stage = .writing rest) :
    ∃ written, w.writer.sink.accepted = base ++ written ∧ written ++ rest = sent w.events := by
  obtain ⟨written, missing, accepted, all, same⟩ := untorn
  obtain rfl : missing = rest := by simpa [stage] using same
  exact ⟨written, accepted, all⟩

theorem Untorn.advance (untorn : Untorn base w) {taken : Option DeviceMessage}
    {after : MessageWriter} (step : w.writer.Step taken after) :
    Untorn base (w.advanced taken after) := by
  cases step with
  | halt stopping between running =>
    exact ⟨_, [], untorn.whole between running, by simp [advanced], rfl⟩
  | take stage found =>
    refine ⟨_, _, untorn.whole (by simp [stage]) (by simp [stage]), ?_, rfl⟩
    simp [advanced]
  | miss stage | lookAgain stage | fallAsleep stage | getUp stage =>
    exact ⟨_, [], untorn.whole (by simp [stage]) (by simp [stage]), by simp [advanced], rfl⟩
  | @finish rest sink stage written =>
    obtain ⟨before, accepted, all⟩ := untorn.inside stage
    obtain ⟨taken, remaining, took⟩ := Sink.took written
    have whole : rest = taken := by rw [took.split, took.done rfl, List.append_nil]
    refine ⟨before ++ taken, [], ?_, by simp [advanced, ← all, whole], rfl⟩
    change sink.accepted = _
    rw [took.accepted, accepted, List.append_assoc]
  | @fail rest sink e stage written =>
    obtain ⟨before, accepted, all⟩ := untorn.inside stage
    obtain ⟨taken, remaining, took⟩ := Sink.took written
    refine ⟨before ++ taken, remaining, ?_, by simp [advanced, ← all, ← took.split],
      took.failed e rfl⟩
    change sink.accepted = _
    rw [took.accepted, accepted, List.append_assoc]
  | @partly rest left sink stage written shorter =>
    obtain ⟨before, accepted, all⟩ := untorn.inside stage
    obtain ⟨taken, remaining, took⟩ := Sink.took written
    obtain ⟨rfl, -⟩ := took.stalled left rfl
    refine ⟨before ++ taken, left, ?_, by simp [advanced, ← all, ← took.split], rfl⟩
    change sink.accepted = _
    rw [took.accepted, accepted, List.append_assoc]

theorem Untorn.keep (untorn : Untorn base w) (step : Step w w') : Untorn base w' := by
  cases step with
  | still | stop | permit => exact untorn
  | go step => exact untorn.advance step
  | leave m => simpa [Untorn, left, MessageWriter.leave] using untorn
  | rouse asleep =>
    exact ⟨_, [], untorn.whole (by simp [asleep]) (by simp [asleep]), by simp, rfl⟩
  | drain n =>
    obtain ⟨written, missing, accepted, all, stage⟩ := untorn
    exact ⟨written, missing, accepted, all, stage⟩
  | hangUp e =>
    obtain ⟨written, missing, accepted, all, stage⟩ := untorn
    refine ⟨written, missing, accepted, all, ?_⟩
    cases at_ : w.writer.stage with
    | ended result =>
      cases result with
      | error _ => exact Sink.Dead.breakWith _ e
      | ok _ => simpa [at_] using stage
    | looking | tiring | asleep | writing => simpa [at_] using stage

/-- A message that is pending is about to be found: the writer does not sleep, or keeps a permit, or
is about to be woken. -/
def Awake (w : WriterWorld) : Prop :=
  w.writer.outbox.pending = [] ∨ 0 < w.halfway ∨
    match w.writer.stage with
    | .tiring => w.writer.permit = true
    | .asleep woken => woken = true
    | _ => True

theorem Awake.advance (awake : Awake w) {taken : Option DeviceMessage} {after : MessageWriter}
    (step : w.writer.Step taken after) : Awake (w.advanced taken after) := by
  cases step with
  | halt | take | lookAgain | getUp | finish | fail | partly => exact .inr (.inr trivial)
  | miss stage empty => exact .inl (Outbox.take?_eq_none.mp empty)
  | fallAsleep stage permit =>
    obtain none | told | kept := awake
    · exact .inl none
    · exact .inr (.inl told)
    · simp [stage, permit] at kept

theorem Awake.keep (awake : Awake w) (step : Step w w') : Awake w' := by
  cases step with
  | still | stop | drain | hangUp => exact awake
  | go step => exact awake.advance step
  | leave => exact .inr (.inl (Nat.succ_pos _))
  | rouse => exact .inr (.inr rfl)
  | permit asleep =>
    refine .inr (.inr ?_)
    cases stage : w.writer.stage with
    | tiring => rfl
    | asleep woken =>
      cases woken with
      | false => exact absurd stage asleep
      | true => rfl
    | looking | writing | ended => trivial

theorem bounded_keep (bounded : w.writer.Bounded) (step : Step w w') : w'.writer.Bounded := by
  cases step with
  | still | leave | stop | drain | hangUp | permit => exact bounded
  | go step => exact step.bounded bounded
  | rouse => rintro _ ⟨⟩

/-- A run ends well only when it was to stop. -/
def EndsOnStop (w : WriterWorld) : Prop :=
  w.writer.stage = .ended (.ok ()) → w.writer.stopping = true

theorem EndsOnStop.keep (ends : EndsOnStop w) (step : Step w w') : EndsOnStop w' := by
  cases step with
  | still | leave | drain | hangUp | permit => exact ends
  | stop => exact fun _ => rfl
  | rouse => rintro ⟨⟩
  | go step =>
    cases step with
    | halt stopping => exact fun _ => stopping
    | take | miss | lookAgain | fallAsleep | getUp | finish | fail | partly => rintro ⟨⟩

/-- Every message is accounted for, and acknowledgements go first. -/
structure Orderly (w : WriterWorld) : Prop where
  accounted : ∀ kind, Accounted (ofKind kind w.events) (w.writer.outbox.ofKind? kind)
  acksFirst : AcksFirst w.events

theorem Orderly.leave (orderly : Orderly w) (m : DeviceMessage) : Orderly (w.left m) where
  accounted kind := by
    have before := orderly.accounted kind
    simp only [left, MessageWriter.leave, Outbox.ofKind?_push]
    by_cases same : m.tag = kind
    · rw [if_pos same, ofKind_same (e := .pushed m) same]
      exact before.push m
    · rw [if_neg same, ofKind_other (e := .pushed m) same]
      exact before
  acksFirst before text after h := by
    obtain ⟨rest, rfl, old⟩ | ⟨-, same, -⟩ := split_snoc h
    · exact orderly.acksFirst before text rest old
    · cases same

theorem Orderly.take (orderly : Orderly w) {m : DeviceMessage} {writer : MessageWriter}
    (found : w.writer.outbox.take? = some (m, writer.outbox)) :
    Orderly (w.advanced (some m) writer) where
  accounted kind := by
    have before := orderly.accounted kind
    simp only [advanced, Option.map_some, Option.toList_some]
    by_cases same : m.tag = kind
    · obtain ⟨pending, none⟩ := Outbox.ofKind?_taken found
      rw [← same, pending] at before
      rw [ofKind_same (e := .taken m) same, ← same, none]
      exact before.take
    · rw [ofKind_other (e := .taken m) same, Outbox.ofKind?_left found same]
      exact before
  acksFirst before text after h := by
    obtain ⟨rest, rfl, old⟩ | ⟨-, same, rfl⟩ := split_snoc h
    · exact orderly.acksFirst before text rest old
    · cases same
      intro earlier sequence
      have none := Outbox.ack_first found sequence
      have accounted := orderly.accounted (DeviceMessage.ack sequence).tag
      rw [none] at accounted
      exact accounted.ne_pushed earlier _

theorem Orderly.keep (orderly : Orderly w) (step : Step w w') : Orderly w' := by
  cases step with
  | still | stop | drain | hangUp | permit | rouse => exact ⟨orderly.accounted, orderly.acksFirst⟩
  | leave m => exact orderly.leave m
  | go step =>
    cases step with
    | take stage found => exact orderly.take found
    | halt | miss | lookAgain | fallAsleep | getUp | finish | fail | partly =>
      exact ⟨by simpa [advanced] using orderly.accounted,
        by simpa [advanced] using orderly.acksFirst⟩

/-- Where a writer is that has to wait: asleep with nothing to send but what is still being pushed,
before a full sink, or at its end. -/
theorem place_of_waits (untorn : Untorn base w) (awake : Awake w) (ends : EndsOnStop w) {pick : Nat}
    (waits : w.writer.step pick = none) :
    match w.writer.stage with
    | .asleep _ => w.writer.outbox.pending = [] ∨ 0 < w.halfway
    | .writing _ => w.writer.sink.Full
    | .ended (.error _) => w.writer.sink.Dead
    | .ended (.ok ()) => w.writer.stopping = true
    | .looking | .tiring => False := by
  have place := MessageWriter.waits waits
  obtain ⟨_, _, _, _, left⟩ := untorn
  cases stage : w.writer.stage with
  | asleep woken =>
    cases woken with
    | true => simp [stage] at place
    | false => simpa [Awake, stage] using awake
  | writing rest => simpa [stage] using place
  | ended result =>
    cases result with
    | ok _ => exact ends stage
    | error e => simpa [stage] using left
  | looking | tiring => simp [stage] at place

theorem untorn_run (sink : Sink) (moves : List WriterMove) :
    Untorn sink.accepted (WriterWorld.run { writer := { sink } } moves) :=
  run_invariant (P := Untorn sink.accepted) ⟨[], [], by simp, rfl, rfl⟩ Untorn.keep moves

theorem bounded_run (sink : Sink) (moves : List WriterMove) :
    (WriterWorld.run { writer := { sink } } moves).writer.Bounded :=
  run_invariant (P := fun w => w.writer.Bounded) (by rintro _ ⟨⟩) bounded_keep moves

/-- Whoever pushes, and whatever the sink does: what is accepted is the front of what was taken from
the outbox, in the order in which it was taken, and nothing else is missing than the rest of the
message that is being written, unless the sink has failed. Every message that was pushed was taken
once, or gave way to a later one of its kind before that, or is pending; acknowledgements were taken
first. When a poll ends with the writer asleep, nothing is pending but what is still being
pushed. -/
theorem posted_of_run (sink : Sink) (moves : List WriterMove) :
    let w := WriterWorld.run { writer := { sink } } moves
    Untorn sink.accepted w ∧
    w.events.filterMap PostEvent.pushed? = moves.filterMap WriterMove.pushed? ∧
    (∀ kind, Accounted (ofKind kind w.events) (w.writer.outbox.ofKind? kind)) ∧
    AcksFirst w.events ∧
    ∀ pick,
      let after := w.writer.poll pick
      after.step pick = none ∧
      match after.stage with
      | .asleep _ => after.outbox.pending = [] ∨ 0 < w.halfway
      | .writing _ => after.sink.Full
      | .ended (.error _) => after.sink.Dead
      | .ended (.ok ()) => after.stopping = true
      | .looking | .tiring => False := by
  intro w
  have orderly : Orderly w :=
    run_invariant (w := { writer := { sink } }) ⟨fun _ => .nil, fun _ _ _ h => by simp at h⟩
      Orderly.keep moves
  refine ⟨untorn_run sink moves, pushed_run _ moves, orderly.accounted, orderly.acksFirst, ?_⟩
  -- a poll is a run of its own after the moves
  intro pick after
  obtain ⟨polls, same, halfway⟩ : ∃ polls, (w.run polls).writer = after ∧
      (w.run polls).halfway = w.halfway :=
    ⟨List.replicate patience (.go pick), settle_of_run w pick patience⟩
  have later : w.run polls = WriterWorld.run { writer := { sink } } (moves ++ polls) :=
    (run_append _ _ _).symm
  have waits : after.step pick = none := MessageWriter.step_poll (bounded_run sink moves) pick
  have awake : Awake (w.run polls) := later ▸ run_invariant (.inl rfl) Awake.keep _
  have ends : EndsOnStop (w.run polls) := later ▸ run_invariant (by rintro ⟨⟩) EndsOnStop.keep _
  have place := place_of_waits (later ▸ untorn_run sink _) awake ends (same ▸ waits)
  rw [same, halfway] at place
  exact ⟨waits, place⟩

end WriterWorld

end Screencast
