import Mathlib.Algebra.GroupWithZero.Nat
import Mathlib.Data.List.Perm.Basic
import Mathlib.Tactic.Common
import Screencast.Queue

/-!
Nothing is lost, doubled or reordered between the producers of a queue and its consumer. What is
taken is the front of what was accepted (`Queue.Ordered`, which needs no more than the items). A log
says what has become of each item that was offered: pushes that find the queue full wait and try
again, the longest waiting first, whenever something has happened, and what was accepted was taken,
or discarded by a close, or is still there or went away with the consumer, in this order
(`conserved_of_run`).
-/

namespace Screencast

namespace Queue

variable {α : Type} {q after : Queue α} {a : α} {announced taken : List α}

theorem push_closed (closed : q.isClosed = true) (a : α) : q.push a = (q, .refused) := by
  rw [push, if_pos closed]

theorem push_room (isOpen : q.isClosed = false) (room : q.items.length < q.capacity) (a : α) :
    q.push a = ({ q with items := q.items ++ [a] }, .accepted) := by
  rw [push, if_neg (by simp [isOpen]), if_pos room]

theorem push_full (isOpen : q.isClosed = false) (full : ¬ q.items.length < q.capacity) (a : α) :
    q.push a = (q, .full) := by
  rw [push, if_neg (by simp [isOpen]), if_neg full]

theorem take_nil (none : q.items = []) :
    q.take = (q, if q.isClosed || q.producers = 0 then .ended else .empty) := by
  simp only [take, none]

theorem push_accepted (h : q.push a = (after, .accepted)) :
    q.isClosed = false ∧ after = { q with items := q.items ++ [a] } := by
  unfold push at h
  split at h
  · cases h
  · rename_i isOpen
    split at h <;> cases h
    exact ⟨by simpa using isOpen, rfl⟩

theorem push_other {pushed : Pushed} (h : q.push a = (after, pushed)) (other : pushed ≠ .accepted) :
    after = q := by
  unfold push at h
  split at h
  · cases h
    rfl
  · split at h
    · cases h
      exact absurd rfl other
    · cases h
      rfl

theorem take_item (h : q.take = (after, .item a)) :
    q.items = a :: after.items ∧ after.isClosed = q.isClosed := by
  unfold take at h
  split at h
  · rename_i items
    cases h
    exact ⟨items, rfl⟩
  · split at h <;> cases h

theorem take_other {result : Taken α} (h : q.take = (after, result))
    (other : ∀ a, result ≠ .item a) : after = q := by
  unfold take at h
  split at h <;> cases h
  · exact absurd rfl (other _)
  · rfl

@[simp] theorem isClosed_push (q : Queue α) (a : α) : (q.push a).1.isClosed = q.isClosed := by
  unfold push
  split
  · rfl
  · split <;> rfl

@[simp] theorem isClosed_take (q : Queue α) : q.take.1.isClosed = q.isClosed := by
  unfold take
  split <;> rfl

/-- What was announced is taken in this order. As long as the queue is open, the rest is queued. -/
structure Ordered (announced taken : List α) (q : Queue α) : Prop where
  front : taken ++ q.items <+: announced
  whole : q.isClosed = false → taken ++ q.items = announced

namespace Ordered

theorem fresh (capacity : Nat) : Ordered [] [] ({ capacity } : Queue α) where
  front := ⟨[], rfl⟩
  whole _ := rfl

theorem taken_front (ordered : Ordered announced taken q) : taken <+: announced :=
  (List.prefix_append ..).trans ordered.front

theorem push (ordered : Ordered announced taken q) (h : q.push a = (after, .accepted)) :
    Ordered (announced ++ [a]) taken after := by
  obtain ⟨isOpen, rfl⟩ := push_accepted h
  have all : taken ++ (q.items ++ [a]) = announced ++ [a] := by
    rw [← List.append_assoc, ordered.whole isOpen]
  exact ⟨⟨[], by rw [List.append_nil]; exact all⟩, fun _ => all⟩

theorem take (ordered : Ordered announced taken q) (h : q.take = (after, .item a)) :
    Ordered announced (taken ++ [a]) after := by
  obtain ⟨items, closed⟩ := take_item h
  have same : taken ++ [a] ++ after.items = taken ++ q.items := by rw [items]; simp
  exact ⟨same ▸ ordered.front, fun isOpen => same ▸ ordered.whole (closed ▸ isOpen)⟩

theorem close (ordered : Ordered announced taken q) : Ordered announced taken q.close.1 where
  front := by simpa [Queue.close] using ordered.taken_front
  whole isOpen := by simp [Queue.close] at isOpen

theorem dropProducer (ordered : Ordered announced taken q) :
    Ordered announced taken q.dropProducer := ⟨ordered.front, ordered.whole⟩

end Ordered

end Queue

/-- What has become of the items offered to a queue. -/
structure QueueLog (α : Type) where
  /-- By a push of any producer. -/
  offered : List α := []
  accepted : List α := []
  refused : List α := []
  /-- Given up while they waited. -/
  abandoned : List α := []
  waiting : List α := []
  taken : List α := []
  /-- How many items each close has reported. -/
  discarded : List Nat := []
  /-- Dropped with the consumer. -/
  lost : List α := []
  /-- The consumer is still there. -/
  consumer : Bool := true
deriving DecidableEq, Repr

def QueueLog.answer {α : Type} (log : QueueLog α) (a : α) : Pushed → QueueLog α
  | .accepted => { log with accepted := log.accepted ++ [a] }
  | .full => { log with waiting := log.waiting ++ [a] }
  | .refused => { log with refused := log.refused ++ [a] }

def QueueLog.took {α : Type} (log : QueueLog α) : Taken α → QueueLog α
  | .item a => { log with taken := log.taken ++ [a] }
  | .empty | .ended => log

@[simp] theorem QueueLog.took_consumer {α : Type} (log : QueueLog α) (result : Taken α) :
    (log.took result).consumer = log.consumer := by
  cases result <;> rfl

/-- A close has reported that it discarded so many. -/
def QueueLog.closed {α : Type} (log : QueueLog α) (count : Nat) : QueueLog α :=
  { log with discarded := log.discarded ++ [count] }

/-- The consumer went away with these. -/
def QueueLog.abandon {α : Type} (log : QueueLog α) (items : List α) : QueueLog α :=
  { log with lost := items, consumer := false }

/-- All items that were offered, by what has become of them. -/
def QueueLog.fates {α : Type} (log : QueueLog α) : List α :=
  log.accepted ++ log.refused ++ log.abandoned ++ log.waiting

theorem QueueLog.fates_answer {α : Type} (log : QueueLog α) (a : α) (pushed : Pushed) :
    (log.answer a pushed).fates.Perm (a :: log.fates) := by
  cases pushed with
  | accepted =>
    simp only [answer, fates, List.append_assoc]
    exact List.perm_middle
  | full =>
    simp only [answer, fates, ← List.append_assoc]
    exact List.perm_append_singleton a _
  | refused =>
    have turned : (log.accepted ++ log.refused ++ [a]).Perm
        (a :: (log.accepted ++ log.refused)) := List.perm_append_singleton a _
    simp only [answer, fates, ← List.append_assoc]
    exact (turned.append_right log.abandoned).append_right log.waiting

/-- A queue, or something that contains it, and its log. -/
structure Logged (σ α : Type) where
  state : σ
  log : QueueLog α := {}
deriving DecidableEq, Repr

abbrev QueueWorld (α : Type) := Logged (Queue α) α

namespace Logged

variable {σ τ α : Type} (enter : σ → α → σ × Pushed)

/-- A push, and what it is answered. -/
def offer (w : Logged σ α) (a : α) : Logged σ α :=
  let (state, pushed) := enter w.state a
  ⟨state, w.log.answer a pushed⟩

/-- An item is offered for the first time. -/
def push (w : Logged σ α) (a : α) : Logged σ α :=
  offer enter { w with log.offered := w.log.offered ++ [a] } a

/-- All that wait try again, the longest waiting first. -/
def retry (w : Logged σ α) : Logged σ α :=
  w.log.waiting.foldl (offer enter) { w with log.waiting := [] }

def map (f : σ → τ) (w : Logged σ α) : Logged τ α := ⟨f w.state, w.log⟩

variable {enter' : τ → α → τ × Pushed} {f : σ → τ}

theorem map_offer (same : ∀ s a, enter' (f s) a = (f (enter s a).1, (enter s a).2))
    (w : Logged σ α) (a : α) : (w.offer enter a).map f = (w.map f).offer enter' a := by
  simp [offer, map, same]

theorem map_retry (same : ∀ s a, enter' (f s) a = (f (enter s a).1, (enter s a).2))
    (w : Logged σ α) : (w.retry enter).map f = (w.map f).retry enter' :=
  (List.foldl_hom (map f) fun w a => (map_offer enter same w a).symm).symm

/-- What no answer changes, trying again does not change. -/
theorem retry_same {β : Type} {g : Logged σ α → β} (same : ∀ w a, g (w.offer enter a) = g w)
    (fresh : ∀ w : Logged σ α, g { w with log.waiting := [] } = g w) (w : Logged σ α) :
    g (w.retry enter) = g w := by
  have alone (items : List α) (w : Logged σ α) : g (items.foldl (offer enter) w) = g w := by
    induction items generalizing w with
    | nil => rfl
    | cons a items ih => rw [List.foldl_cons, ih, same]
  exact (alone w.log.waiting _).trans (fresh w)

theorem offer_consumer (w : Logged σ α) (a : α) :
    (w.offer enter a).log.consumer = w.log.consumer := by
  rcases answer : enter w.state a with ⟨state, pushed⟩
  cases pushed <;> simp only [offer, answer, QueueLog.answer]

theorem push_consumer (w : Logged σ α) (a : α) :
    (w.push enter a).log.consumer = w.log.consumer :=
  offer_consumer enter { w with log.offered := w.log.offered ++ [a] } a

theorem retry_consumer (w : Logged σ α) : (w.retry enter).log.consumer = w.log.consumer :=
  retry_same enter (g := (·.log.consumer)) (offer_consumer enter) (fun _ => rfl) w

end Logged

inductive QueueMove (α : Type) where
  /-- By any producer. -/
  | push (a : α)
  /-- The push that waits behind `k` others is given up. -/
  | giveUp (k : Nat)
  | take
  | close
  | addProducer
  | dropProducer
  | dropConsumer
  /-- Nothing that concerns this queue. -/
  | elsewhere
deriving DecidableEq, Repr

namespace QueueWorld

variable {α : Type}

def ofCapacity (capacity : Nat) : QueueWorld α := { state := { capacity } }

/-- Without a producer nothing is pushed, and without a consumer nothing is taken or closed. -/
def step (w : QueueWorld α) : QueueMove α → QueueWorld α
  | .push a =>
    if w.state.producers = 0 then w else Logged.push Queue.push w a
  | .giveUp k =>
    { w with
      log.waiting := w.log.waiting.eraseIdx k
      log.abandoned := w.log.abandoned ++ w.log.waiting[k]?.toList }
  | .take =>
    if w.log.consumer then ⟨w.state.take.1, w.log.took w.state.take.2⟩ else w
  | .close =>
    if w.log.consumer then ⟨w.state.close.1, w.log.closed w.state.close.2⟩ else w
  | .addProducer => { w with state := w.state.addProducer }
  | .dropProducer => { w with state := w.state.dropProducer }
  | .dropConsumer =>
    if w.log.consumer then ⟨w.state.close.1, w.log.abandon w.state.items⟩ else w
  | .elsewhere => w

def apply (w : QueueWorld α) (m : QueueMove α) : QueueWorld α := (w.step m).retry Queue.push

def run (capacity : Nat) (moves : List (QueueMove α)) : QueueWorld α :=
  moves.foldl apply (ofCapacity capacity)

/-- The items balance. These are yet to be answered, beside those that wait. -/
structure Balanced (capacity : Nat) (pending : List α) (w : QueueWorld α) : Prop where
  bound : w.state.capacity = capacity
  room : w.state.items.length ≤ capacity
  order : ∃ dropped, dropped.length = w.log.discarded.sum ∧
    w.log.accepted = w.log.taken ++ dropped ++ (w.log.lost ++ w.state.items)
  fates : (w.log.fates ++ pending).Perm w.log.offered
  closed : w.state.isClosed = true ↔ w.log.discarded ≠ [] ∨ w.log.consumer = false
  empty : w.state.isClosed = true → w.state.items = []
  kept : w.log.consumer = true → w.log.lost = []
  refused : w.log.refused ≠ [] → w.state.isClosed = true

/-- Nothing waits but for room. -/
def Settled (w : QueueWorld α) : Prop :=
  w.log.waiting ≠ [] →
    w.state.isClosed = false ∧ w.state.items.length = w.state.capacity

namespace Balanced

variable {capacity : Nat} {pending : List α} {w : QueueWorld α}

theorem fresh (capacity : Nat) : Balanced capacity [] (ofCapacity capacity : QueueWorld α) where
  bound := rfl
  room := Nat.zero_le capacity
  order := ⟨[], rfl, rfl⟩
  fates := .refl _
  closed := by simp [ofCapacity]
  empty _ := rfl
  kept _ := rfl
  refused some := absurd rfl some

/-- An open queue has discarded and lost nothing. -/
theorem of_open (h : Balanced capacity pending w) (isOpen : w.state.isClosed = false) :
    w.log.discarded = [] ∧ w.log.consumer = true ∧ w.log.lost = [] ∧
      w.log.accepted = w.log.taken ++ w.state.items := by
  have none : ¬ (w.log.discarded ≠ [] ∨ w.log.consumer = false) := by
    intro some
    exact absurd (h.closed.mpr some) (by simp [isOpen])
  obtain ⟨discarded, consumer⟩ := not_or.mp none
  rw [not_not] at discarded
  rw [Bool.not_eq_false] at consumer
  obtain ⟨dropped, count, order⟩ := h.order
  rw [discarded, List.sum_nil] at count
  rw [List.eq_nil_of_length_eq_zero count, h.kept consumer] at order
  exact ⟨discarded, consumer, h.kept consumer, by simpa using order⟩

theorem not_closed_of_item (h : Balanced capacity pending w) {a : α} {rest : List α}
    (items : w.state.items = a :: rest) : w.state.isClosed = false := by
  rw [← Bool.not_eq_true]
  intro closed
  rw [h.empty closed] at items
  cases items

/-- Each answer to a push is accounted for. -/
theorem offer {a : α} (h : Balanced capacity (a :: pending) w) :
    Balanced capacity pending (w.offer Queue.push a) := by
  have fates (pushed : Pushed) : ((w.log.answer a pushed).fates ++ pending).Perm w.log.offered := by
    have first := (w.log.fates_answer a pushed).append_right pending
    exact (first.trans List.perm_middle.symm).trans h.fates
  cases closed : w.state.isClosed with
  | true =>
    simp only [Logged.offer, Queue.push_closed closed, QueueLog.answer]
    exact ⟨h.bound, h.room, h.order, fates .refused, h.closed, h.empty, h.kept,
      fun _ => closed⟩
  | false =>
    obtain ⟨discarded, consumer, lost, order⟩ := h.of_open closed
    by_cases room : w.state.items.length < w.state.capacity
    · simp only [Logged.offer, Queue.push_room closed room, QueueLog.answer]
      refine ⟨h.bound, ?_, ⟨[], by simp [discarded], by simp [order, lost]⟩,
        fates .accepted, h.closed, by simp [closed], h.kept, h.refused⟩
      rw [List.length_append, ← h.bound]
      exact room
    · simp only [Logged.offer, Queue.push_full closed room, QueueLog.answer]
      exact ⟨h.bound, h.room, h.order, fates .full, h.closed, h.empty, h.kept, h.refused⟩

/-- Those that wait are to be answered once more. -/
theorem waiting (h : Balanced capacity [] w) :
    Balanced capacity w.log.waiting { w with log.waiting := [] } := by
  refine ⟨h.bound, h.room, h.order, ?_, h.closed, h.empty, h.kept, h.refused⟩
  have fates := h.fates
  simpa [QueueLog.fates] using fates

theorem retry (h : Balanced capacity [] w) : Balanced capacity [] (w.retry Queue.push) := by
  have all (items : List α) (w : QueueWorld α) (h : Balanced capacity items w) :
      Balanced capacity [] (items.foldl (Logged.offer Queue.push) w) := by
    induction items generalizing w with
    | nil => exact h
    | cons a items ih => exact ih _ h.offer
  exact all w.log.waiting _ h.waiting

theorem take (h : Balanced capacity [] w) : Balanced capacity [] (w.step .take) := by
  simp only [step]
  by_cases present : w.log.consumer = true
  · rw [if_pos present]
    cases items : w.state.items with
    | nil =>
      simp only [Queue.take_nil items]
      split <;> exact h
    | cons a rest =>
      simp only [Queue.take, items, QueueLog.took]
      have isOpen := h.not_closed_of_item items
      obtain ⟨discarded, -, lost, order⟩ := h.of_open isOpen
      have room := h.room
      rw [items, List.length_cons] at room
      exact ⟨h.bound, Nat.le_of_succ_le room,
        ⟨[], by simp [discarded], by simp [order, items, lost]⟩, h.fates, h.closed,
        by simp [isOpen], h.kept, h.refused⟩
  · rw [if_neg present]
    exact h

/-- What is queued when the queue closes is discarded. -/
theorem close (h : Balanced capacity [] w) : Balanced capacity [] (w.step .close) := by
  simp only [step]
  by_cases present : w.log.consumer = true
  · rw [if_pos present]
    obtain ⟨dropped, count, order⟩ := h.order
    have lost := h.kept present
    refine ⟨h.bound, Nat.zero_le _, ⟨dropped ++ w.state.items, ?_, ?_⟩, h.fates, ?_, fun _ => rfl,
      h.kept, fun _ => rfl⟩
    · simp [Queue.close, QueueLog.closed, count]
    · simp [Queue.close, QueueLog.closed, order, lost]
    · simp [Queue.close, QueueLog.closed]
  · rw [if_neg present]
    exact h

theorem dropConsumer (h : Balanced capacity [] w) :
    Balanced capacity [] (w.step .dropConsumer) := by
  simp only [step]
  by_cases present : w.log.consumer = true
  · rw [if_pos present]
    obtain ⟨dropped, count, order⟩ := h.order
    refine ⟨h.bound, Nat.zero_le _, ⟨dropped, count, ?_⟩, h.fates, ?_, fun _ => rfl,
      by simp [QueueLog.abandon], fun _ => rfl⟩
    · simp [Queue.close, QueueLog.abandon, order, h.kept present]
    · simp [Queue.close, QueueLog.abandon]
  · rw [if_neg present]
    exact h

theorem giveUp (h : Balanced capacity [] w) (k : Nat) :
    Balanced capacity [] (w.step (.giveUp k)) := by
  refine ⟨h.bound, h.room, h.order, ?_, h.closed, h.empty, h.kept, h.refused⟩
  have fates := h.fates
  simp only [QueueLog.fates, List.append_nil] at fates ⊢
  refine List.Perm.trans ?_ fates
  simp only [step, List.append_assoc]
  refine ((List.Perm.append_left _) ?_).append_left _
  apply List.Perm.append_left
  by_cases waits : k < w.log.waiting.length
  · rw [List.getElem?_eq_getElem waits]
    exact List.getElem_cons_eraseIdx_perm waits
  · rw [List.getElem?_eq_none (by omega), List.eraseIdx_of_length_le (by omega)]
    exact .refl _

theorem push (h : Balanced capacity [] w) (a : α) : Balanced capacity [] (w.step (.push a)) := by
  simp only [step]
  split
  · exact h
  · apply offer
    have fates := h.fates
    refine ⟨h.bound, h.room, h.order, ?_, h.closed, h.empty, h.kept, h.refused⟩
    rw [List.append_nil] at fates
    exact fates.append_right [a]

theorem step (h : Balanced capacity [] w) (m : QueueMove α) :
    Balanced capacity [] (w.step m) := by
  cases m with
  | push a => exact h.push a
  | giveUp k => exact h.giveUp k
  | take => exact h.take
  | close => exact h.close
  | dropConsumer => exact h.dropConsumer
  | addProducer | dropProducer =>
    exact ⟨h.bound, h.room, h.order, h.fates, h.closed, h.empty, h.kept, h.refused⟩
  | elsewhere => exact h

end Balanced

/-! ### Whatever happens -/

namespace Settled

variable {capacity : Nat} {pending : List α} {w : QueueWorld α}

theorem offer {a : α} (h : w.Settled) (balanced : Balanced capacity (a :: pending) w) :
    Settled (w.offer Queue.push a) := by
  cases closed : w.state.isClosed with
  | true =>
    simp only [Logged.offer, Queue.push_closed closed, QueueLog.answer]
    exact h
  | false =>
    by_cases room : w.state.items.length < w.state.capacity
    · simp only [Logged.offer, Queue.push_room closed room, QueueLog.answer]
      intro some
      have full : w.state.items.length = w.state.capacity := (h some).2
      omega
    · simp only [Logged.offer, Queue.push_full closed room, QueueLog.answer]
      intro _
      have bound := balanced.bound
      have fits := balanced.room
      exact ⟨closed, by dsimp only; omega⟩

theorem retry (balanced : Balanced capacity [] w) : Settled (w.retry Queue.push) := by
  have all (items : List α) (w : QueueWorld α) (h : w.Settled)
      (balanced : Balanced capacity items w) :
      Settled (items.foldl (Logged.offer Queue.push) w) := by
    induction items generalizing w with
    | nil => exact h
    | cons a items ih => exact ih _ (h.offer balanced) balanced.offer
  exact all w.log.waiting _ (absurd rfl) balanced.waiting

end Settled

/-- What holds between any two moves. -/
structure Conserved (capacity : Nat) (w : QueueWorld α) : Prop where
  room : w.state.items.length ≤ capacity
  /-- What was accepted was taken, then discarded, and then lost with the consumer or not yet
  taken. -/
  order : ∃ dropped, dropped.length = w.log.discarded.sum ∧
    w.log.accepted = w.log.taken ++ dropped ++ (w.log.lost ++ w.state.items)
  fates : (w.log.accepted ++ w.log.refused ++ w.log.abandoned ++ w.log.waiting).Perm w.log.offered
  closed : w.state.isClosed = true ↔ w.log.discarded ≠ [] ∨ w.log.consumer = false
  waits : w.log.waiting ≠ [] → w.state.isClosed = false ∧ w.state.items.length = capacity
  refused : w.log.refused ≠ [] → w.state.isClosed = true
  push : ∀ a,
    ((w.state.push a).2 = .full ↔ w.state.isClosed = false ∧ w.state.items.length = capacity) ∧
    ((w.state.push a).2 = .refused ↔ w.state.isClosed = true)
  ended : w.state.take.2 = .ended ↔
    w.state.items = [] ∧ (w.state.isClosed = true ∨ w.state.producers = 0)

theorem push_answer (q : Queue α) (a : α) (fits : q.items.length ≤ q.capacity) :
    ((q.push a).2 = .full ↔ q.isClosed = false ∧ q.items.length = q.capacity) ∧
    ((q.push a).2 = .refused ↔ q.isClosed = true) := by
  cases closed : q.isClosed with
  | true => simp [Queue.push_closed closed]
  | false =>
    by_cases room : q.items.length < q.capacity
    · simp [Queue.push_room closed room]
      omega
    · simp [Queue.push_full closed room]
      omega

theorem take_ended (q : Queue α) :
    q.take.2 = .ended ↔ q.items = [] ∧ (q.isClosed = true ∨ q.producers = 0) := by
  cases items : q.items with
  | nil => cases closed : q.isClosed <;> simp [Queue.take_nil items, closed]
  | cons a rest => simp [Queue.take, items]

theorem Balanced.conserved {capacity : Nat} {w : QueueWorld α} (h : Balanced capacity [] w)
    (settled : w.Settled) : Conserved capacity w := by
  have fates := h.fates
  rw [List.append_nil] at fates
  have bound := h.bound
  have answers (a : α) := push_answer w.state a (h.bound ▸ h.room)
  rw [bound] at answers
  rw [Settled, bound] at settled
  exact ⟨h.room, h.order, fates, h.closed, settled, h.refused, answers, take_ended w.state⟩

theorem conserved_of_run (capacity : Nat) (moves : List (QueueMove α)) :
    Conserved capacity (run capacity moves) := by
  have both : Balanced capacity [] (run capacity moves) ∧ Settled (run capacity moves) := by
    apply List.foldlRecOn (motive := fun w => Balanced capacity [] w ∧ Settled w) moves apply
    · exact ⟨.fresh capacity, absurd rfl⟩
    · rintro w ⟨balanced, -⟩ m -
      have stepped := balanced.step m
      exact ⟨stepped.retry, .retry stepped⟩
  exact both.1.conserved both.2

end QueueWorld

end Screencast
