import Screencast.Encoder.Scripted
import Screencast.Proofs.Device.Layout
import Screencast.Proofs.Encoder.Format
import Screencast.Proofs.Video.Run
import Screencast.Proofs.Video.Service

/-!
Sizes that an encoder rejects. Each rejection moves the larger side of the video to the next
candidate below it (`nextSide?`), and nothing else moves it: turns and new attempts keep it. So the
larger side depends on the number of rejections alone (`sideAfter`), and there are as many as
there are candidates (`candidates_of_run`).
-/

namespace Screencast

/-! ### The candidates -/

/-- The first candidate below a larger side. -/
def nextSide? (side : Nat) : Option Nat := fallbackSizes.find? (· < side)

/-- The larger side after `k` rejections. -/
def sideAfter (side : Nat) : Nat → Option Nat
  | 0 => some side
  | k + 1 => (sideAfter side k).bind nextSide?

/-- A larger side, and the candidates below it. -/
def candidates (side : Nat) : List Nat := side :: fallbackSizes.filter (· < side)

theorem find?_lt_of_descending {l : List Nat} (descending : l.Pairwise (· > ·)) {k a : Nat}
    (h : l[k]? = some a) : l.find? (· < a) = l[k + 1]? := by
  induction l generalizing k with
  | nil => simp at h
  | cons x rest ih =>
    obtain ⟨below, descending⟩ := List.pairwise_cons.mp descending
    cases k with
    | zero =>
      obtain rfl : x = a := by simpa using h
      cases rest with
      | nil => simp
      | cons y rest => simp [below y (.head _)]
    | succ k =>
      have found : rest[k]? = some a := by simpa using h
      have larger : ¬ x < a := Nat.not_lt.mpr (Nat.le_of_lt (below a (List.mem_of_getElem? found)))
      simp [larger, ih descending found]

theorem candidates_descending (side : Nat) : (candidates side).Pairwise (· > ·) := by
  have all : fallbackSizes.Pairwise (· > ·) := by decide
  refine List.pairwise_cons.mpr ⟨fun n member => ?_, all.filter _⟩
  simpa using (List.mem_filter.mp member).2

theorem nextSide?_of_candidates {side k a : Nat} (h : (candidates side)[k]? = some a) :
    nextSide? a = (candidates side)[k + 1]? := by
  rw [← find?_lt_of_descending (candidates_descending side) h]
  have below : a ≤ side := by
    rcases List.mem_cons.mp (List.mem_of_getElem? h) with rfl | member
    · exact Nat.le_refl a
    · exact Nat.le_of_lt (by simpa using (List.mem_filter.mp member).2)
  have first : ¬ side < a := by omega
  rw [candidates, List.find?_cons, decide_eq_false first, List.find?_filter, nextSide?]
  congr 1
  funext n
  have both : n < a → n < side := by omega
  simpa using both

theorem sideAfter_eq (side k : Nat) : sideAfter side k = (candidates side)[k]? := by
  induction k with
  | zero => rfl
  | succ k ih =>
    rw [sideAfter, ih]
    cases found : (candidates side)[k]? with
    | none =>
      have short : (candidates side).length ≤ k := List.getElem?_eq_none_iff.mp found
      exact (List.getElem?_eq_none (by omega)).symm
    | some a => exact nextSide?_of_candidates found

theorem sideAfter_add (side j k : Nat) :
    sideAfter side (j + k) = (sideAfter side j).bind (sideAfter · k) := by
  induction k with
  | zero => simp [sideAfter]
  | succ k ih => rw [← Nat.add_assoc, sideAfter, ih, Option.bind_assoc]; rfl

theorem sideAfter_lt {side k a : Nat} (h : sideAfter side (k + 1) = some a) : a < side := by
  rw [sideAfter_eq, candidates, List.getElem?_cons_succ] at h
  simpa using (List.mem_filter.mp (List.mem_of_getElem? h)).2

theorem lt_of_sideAfter {side k a : Nat} (h : sideAfter side k = some a) : k < 7 := by
  rw [sideAfter_eq] at h
  have inside : k < (candidates side).length := (List.getElem?_eq_some_iff.mp h).1
  have short : (fallbackSizes.filter (· < side)).length ≤ 6 := List.length_filter_le ..
  simp only [candidates, List.length_cons] at inside
  omega

theorem nextSide?_eq_none_iff {side : Nat} :
    nextSide? side = none ↔ ∀ n ∈ fallbackSizes, side ≤ n := by
  simp [nextSide?]

theorem of_nextSide? {side n : Nat} (h : nextSide? side = some n) : 8 ∣ n ∧ 0 < n ∧ n < side := by
  have grid : ∀ n ∈ fallbackSizes, 8 ∣ n ∧ 0 < n := by decide
  have smaller : n < side := by simpa using List.find?_some h
  obtain ⟨dvd, some⟩ := grid n (List.mem_of_find?_eq_some h)
  exact ⟨dvd, some, smaller⟩

/-! ### What a session tries -/

/-- A size that was put before an encoder, or one with which an attempt was rejected. -/
inductive SizeEvent where
  | configured (size : Size)
  | rejected (size : Size)
deriving DecidableEq, Repr

namespace SizeEvent

def size : SizeEvent → Size
  | configured size | rejected size => size

def isRejected : SizeEvent → Bool
  | configured _ => false
  | rejected _ => true

/-- The number of rejections among the events. -/
def rejections (events : List SizeEvent) : Nat := events.countP isRejected

end SizeEvent

open SizeEvent

/-- The size of the attempt that has just ended with a rejection. -/
def VideoStage.rejected? : VideoStage → Option Size
  | .conclude size (.error (.codec (.rejected _))) => some size
  | _ => none

/-- The size of the attempt under way. -/
def VideoStage.size? : VideoStage → Option Size
  | .openEncoder size | .createDisplay _ size | .conclude size _ => some size
  | .configure a | .createSurface a | .project a _ | .bind a _ _ | .startEncoder a | .await a
  | .deliver a _ | .sendHeader a _ _ _ | .sendPacket a _ _ | .giveBack a _ _ | .tearDown a _ =>
    some a.size
  | .idle | .observe | .measure | .announce _ _ | .ended _ => none

/-- What a step tells of sizes: the calls that it makes, and the rejection that it answers. -/
def VideoOutline.sizeEvents (before : VideoOutline) (_ : Option Fetched) (after : VideoOutline) :
    List SizeEvent :=
  (before.stage.rejected?.map .rejected).toList ++
    (after.calls.drop before.calls.length).filterMap fun call =>
      (call.configured?.bind EncoderFormat.size?).map .configured

/-- The larger sides go down the list of candidates, by one with each rejection. -/
structure SizeEvent.FollowCandidates (events : List SizeEvent)
    (outcome? : Option (Except Error Unit)) : Prop where
  followed {before between after : List SizeEvent} {first : Size} {event : SizeEvent}
    (seen : events = before ++ .configured first :: between ++ event :: after) :
    (candidates first.larger)[rejections between]? = some event.size.larger
  decreasing {before between after : List SizeEvent} {size : Size} {event : SizeEvent}
    (seen : events = before ++ .rejected size :: between ++ event :: after) :
    event.size.larger < size.larger
  exhausted {before after : List SizeEvent} {size : Size}
    (seen : events = before ++ .rejected size :: after)
    (last : ∀ n ∈ fallbackSizes, size.larger ≤ n) :
    after = [] ∧ outcome? = some (.error (.fallbackExhausted size.larger))
  bounded : rejections events ≤ 7

theorem SizeEvent.rejections_append (a b : List SizeEvent) :
    rejections (a ++ b) = rejections a + rejections b := List.countP_append

/-- Each event has the larger side that the rejections before it leave. -/
def SizeEvent.Tried (first : Nat) (events : List SizeEvent) : Prop :=
  ∀ before event after, events = before ++ event :: after →
    sideAfter first (rejections before) = some event.size.larger

theorem SizeEvent.Tried.nil (first : Nat) : Tried first [] := by
  intro before event after seen
  simp at seen

theorem SizeEvent.Tried.snoc {first : Nat} {events : List SizeEvent} {event : SizeEvent}
    (tried : Tried first events)
    (last : sideAfter first (rejections events) = some event.size.larger) :
    Tried first (events ++ [event]) := by
  intro before e after seen
  rcases List.eq_nil_or_concat after with rfl | ⟨after, final, rfl⟩
  · obtain ⟨rfl, same⟩ := List.append_inj' seen rfl
    obtain rfl : event = e := by simpa using same
    exact last
  · rw [List.concat_eq_append, ← List.cons_append, ← List.append_assoc] at seen
    obtain ⟨rfl, -⟩ := List.append_inj' seen rfl
    exact tried before e after rfl

namespace VideoOutline

/-- The larger side that the rejections so far leave is that of the geometry, and of the attempt
under way. -/
structure Trying (first : Nat) (events : List SizeEvent) (s : VideoOutline) (g : DeviceGeometry)
    (side : Nat) : Prop where
  left : sideAfter first (rejections events) = some side
  geometry : g.HasSide side
  sizes : ∀ size ∈ s.stage.size?, size.larger = side

/-- The last candidate was rejected. -/
structure Exhausted (events : List SizeEvent) (s : VideoOutline) (before : List SizeEvent)
    (size : Size) : Prop where
  events : events = before ++ [.rejected size]
  last : nextSide? size.larger = none
  outcome : s.outcome? = some (.error (.fallbackExhausted size.larger))

/-- A session that went down the candidates so far, and does so or has nothing left to try. -/
structure Following (first : Nat) (events : List SizeEvent) (s : VideoOutline)
    (g : DeviceGeometry) : Prop where
  enabled : s.setup.downsize = true
  tried : Tried first events
  now : (∃ side, Trying first events s g side) ∨ ∃ before size, Exhausted events s before size

variable {first side : Nat} {events : List SizeEvent} {s s' : VideoOutline}
  {g g' : DeviceGeometry} {fetched : Option Fetched}

theorem sizeEvents_of_plain (calls : List VideoCall) (made : s'.calls = s.calls ++ calls)
    (plain : ∀ call ∈ calls, call.configured? = none) (accepted : s.stage.rejected? = none) :
    s.sizeEvents fetched s' = [] := by
  have nothing : calls.filterMap
      (fun call => (call.configured?.bind EncoderFormat.size?).map SizeEvent.configured) = [] := by
    rw [List.filterMap_eq_nil_iff]
    intro call member
    rw [plain call member]
    rfl
  simp only [sizeEvents, accepted, made, List.drop_left, nothing]
  rfl

/-- Most steps neither configure an encoder nor answer a rejection. -/
theorem Following.quiet (following : Following first events s g)
    (trying : Trying first events s g side) (calls : List VideoCall)
    (made : s'.calls = s.calls ++ calls) (plain : ∀ call ∈ calls, call.configured? = none)
    (accepted : s.stage.rejected? = none) (setup : s'.setup = s.setup)
    (size : s'.stage.size? = none ∨ s'.stage.size? = s.stage.size?) :
    Following first (events ++ s.sizeEvents fetched s') s' g := by
  rw [sizeEvents_of_plain calls made plain accepted, List.append_nil]
  refine ⟨by rw [setup]; exact following.enabled, following.tried, .inl ⟨side, trying.left,
    trying.geometry, ?_⟩⟩
  rcases size with ends | keeps
  · simp [ends]
  · rw [keeps]
    exact trying.sizes

theorem working_size? {stage : VideoStage} {a : Attempt} (h : stage.Working a) :
    stage.size? = some a.size ∧ stage.rejected? = none := by
  unfold VideoStage.Working at h
  split at h
  all_goals first | rw [← h]; exact ⟨rfl, rfl⟩ | contradiction

theorem delivering_size? {stage : VideoStage} {a : Attempt} (h : stage.Delivering a) :
    stage.size? = some a.size ∧ stage.rejected? = none := by
  unfold VideoStage.Delivering at h
  split at h
  all_goals first | rw [← h]; exact ⟨rfl, rfl⟩ | contradiction

theorem beginPacket_size? (s : VideoOutline) (a : Attempt) (output : OutputBuffer) (data : Bytes) :
    (s.beginPacket a output data).stage.size? = some a.size := by
  obtain ⟨framer, next, begun, ⟨result, rfl⟩ | ⟨t, rfl⟩⟩ := s.beginPacket_eq a output data <;>
    rw [begun] <;> rfl

theorem exit_size? (s : VideoOutline) (result : Except Error Unit) :
    (s.exit result).stage.size? = none := by
  obtain ⟨framer, next, exits, rfl | ⟨e, t, rfl, rfl⟩⟩ := s.exit_eq result <;> rw [exits] <;> rfl

theorem Trying.configure (trying : Trying first events s g side)
    (following : Following first events s g) {a : Attempt} {next : VideoStage}
    (stage : s.stage = .configure a) (goesOn : next.size? = some a.size) :
    Following first
      (events ++ s.sizeEvents fetched
        { s.record [.encoder (.configure a.encoder (s.baseFormat.withSize a.size))] with
          stage := next })
      { s.record [.encoder (.configure a.encoder (s.baseFormat.withSize a.size))] with
        stage := next } g := by
  have size : a.size.larger = side := trying.sizes a.size (by rw [stage]; rfl)
  have small : a.size.larger < 2147483648 := by rw [size]; exact trying.geometry.lt
  have told : s.sizeEvents fetched
      { s.record [.encoder (.configure a.encoder (s.baseFormat.withSize a.size))] with
        stage := next } = [.configured a.size] := by
    simp [sizeEvents, stage, VideoStage.rejected?, VideoSession.record, VideoCall.configured?,
      EncoderFormat.size?_withSize _ small]
  rw [told]
  refine ⟨following.enabled, following.tried.snoc (by rw [trying.left, ← size]; rfl),
    .inl ⟨side, ?_, trying.geometry, ?_⟩⟩
  · rw [rejections_append]
    exact trying.left
  · intro other sized
    obtain rfl : a.size = other := by simpa [goesOn] using sized
    exact size

theorem Trying.smaller (trying : Trying first events s g side)
    (following : Following first events s g) {size : Size} {reason : String} {maxSize : Nat}
    (stage : s.stage = .conclude size (.error (.codec (.rejected reason))))
    (next : nextFallback? size = some maxSize) :
    Following first (events ++ s.sizeEvents fetched { s with stage := .observe })
      { s with stage := .observe } (g.limitSize maxSize) := by
  have same : size.larger = side := trying.sizes size (by rw [stage]; rfl)
  have told : s.sizeEvents fetched { s with stage := .observe } = [.rejected size] := by
    simp [sizeEvents, stage, VideoStage.rejected?]
  have next : nextSide? side = some maxSize := by rw [← same]; exact next
  obtain ⟨grid, positive, below⟩ := of_nextSide? next
  rw [told]
  refine ⟨following.enabled, following.tried.snoc (by rw [trying.left, ← same]; rfl),
    .inl ⟨maxSize, ?_, trying.geometry.limitSize grid positive below, by simp [VideoStage.size?]⟩⟩
  rw [rejections_append]
  change sideAfter first (rejections events + 1) = some maxSize
  rw [sideAfter, trying.left]
  exact next

theorem Trying.finish (trying : Trying first events s g side)
    (following : Following first events s g) {size : Size} {ending : Except Error Ending}
    {result : Except Error Unit} (stage : s.stage = .conclude size ending)
    (concludes : Ending.Concludes s.setup.downsize size ending result) :
    Following first (events ++ s.sizeEvents fetched (s.exit result)) (s.exit result) g := by
  cases concludes with
  | done final =>
    exact following.quiet trying [] (by simp) (by simp)
      (by rw [stage]; rfl) (VideoSession.exit_setup ..) (.inl (exit_size? ..))
  | failed other =>
    have accepted : s.stage.rejected? = none := by
      rw [stage]
      unfold VideoStage.rejected?
      split
      · rename_i reason same
        cases same
        exact absurd rfl (other following.enabled _)
      · rfl
    exact following.quiet trying [] (by simp) (by simp) accepted
      (VideoSession.exit_setup ..) (.inl (exit_size? ..))
  | exhausted enabled last =>
    have same : size.larger = side := trying.sizes size (by rw [stage]; rfl)
    have told : s.sizeEvents fetched (s.exit (.error (.fallbackExhausted size.larger))) =
        [.rejected size] := by
      simp [sizeEvents, stage, VideoStage.rejected?]
    rw [told]
    refine ⟨by rw [VideoSession.exit_setup]; exact enabled,
      following.tried.snoc (by rw [trying.left, ← same]; rfl), .inr ⟨events, size, rfl, last, ?_⟩⟩
    exact VideoSession.exit_outcome ..

theorem Trying.step (trying : Trying first events s g side)
    (following : Following first events s g) (step : Step s g fetched s' g') :
    Following first (events ++ s.sizeEvents fetched s') s' g' := by
  cases step with
  -- the one step that reads a size off the geometry, where turns leave the larger side alone
  | measure stage =>
    rw [sizeEvents_of_plain [] (by simp) (by simp) (by rw [stage]; rfl), List.append_nil]
    refine ⟨following.enabled, following.tried, .inl ⟨side, trying.left, trying.geometry, ?_⟩⟩
    intro size measured
    obtain rfl : g.layout.videoSize = size := by simpa [VideoStage.size?] using measured
    exact trying.geometry.larger_videoSize
  | configure stage goesOn =>
    refine trying.configure following stage ?_
    rcases goesOn with rfl | ⟨e, rfl⟩ <;> rfl
  | smaller stage enabled next => exact trying.smaller following stage next
  | finish stage concludes => exact trying.finish following stage concludes
  | noEncoder stage made =>
    refine following.quiet trying _ rfl ?_ (by rw [stage]; rfl) rfl (.inr (by rw [stage]; rfl))
    rcases made with rfl | ⟨name, rfl⟩ <;> simp [VideoCall.configured?]
  | encoder stage | noDisplay stage | display stage | header stage | tearDown stage =>
    exact following.quiet trying _ rfl (by simp [VideoCall.configured?, VideoCall.tearDown])
      (by rw [stage]; rfl) rfl (.inr (by rw [stage]; rfl))
  | work working goesOn uses =>
    obtain ⟨sized, accepted⟩ := working_size? working
    refine following.quiet trying _ rfl (fun call made => (uses call made).2) accepted rfl (.inr ?_)
    rw [sized]
    rcases goesOn with working | ⟨output, rfl⟩ | ⟨ending, rfl⟩
    · exact (working_size? working).1
    · rfl
    · rfl
  | abandon delivering =>
    obtain ⟨sized, accepted⟩ := delivering_size? delivering
    exact following.quiet trying [] (by simp) (by simp) accepted rfl (.inr (by rw [sized]; rfl))
  | skip stage uses =>
    exact following.quiet trying _ rfl (fun call made => (uses call made).2) (by rw [stage]; rfl)
      rfl (.inr (by rw [stage]; rfl))
  | packet stage opened =>
    exact following.quiet trying _ (VideoSession.beginPacket_calls ..)
      (by simp [VideoCall.configured?]) (by rw [stage]; rfl) (VideoSession.beginPacket_setup ..)
      (.inr (by rw [beginPacket_size?, stage]; rfl))
  | headerDone stage =>
    exact following.quiet trying [] (by simp) (by simp)
      (by rw [stage]; rfl) (VideoSession.beginPacket_setup ..)
      (.inr (by rw [beginPacket_size?, stage]; rfl))
  | headerWaits stage | headerFails stage | packetWaits stage | packetEnds stage =>
    exact following.quiet trying [] (by simp) (by simp) (by rw [stage]; rfl) rfl
      (.inr (by rw [stage]; rfl))
  | observe stage | restart stage | markWaits stage | markEnds stage =>
    exact following.quiet trying [] (by simp) (by simp) (by rw [stage]; rfl) rfl (.inl rfl)

theorem Following.step (following : Following first events s g) (step : Step s g fetched s' g') :
    Following first (events ++ s.sizeEvents fetched s') s' g' := by
  rcases following.now with ⟨side, trying⟩ | ⟨before, size, exhausted⟩
  · exact trying.step following step
  · obtain ⟨e, t, stage, outcome, calls⟩ := step.settled exhausted.outcome
    rw [sizeEvents_of_plain [] (by simp [calls]) (by simp) (by rw [stage]; rfl), List.append_nil]
    exact ⟨by rw [step.setup_eq]; exact following.enabled, following.tried,
      .inr ⟨before, size, exhausted.events, exhausted.last, outcome⟩⟩

theorem Following.around (following : Following first events s g) (around : Around s g s' g') :
    Following first events s' g' := by
  cases around with
  | still => exact following
  | start idle =>
    refine ⟨following.enabled, following.tried, ?_⟩
    rcases following.now with ⟨side, trying⟩ | ⟨before, size, exhausted⟩
    · exact .inl ⟨side, trying.left, trying.geometry, by simp [VideoStage.size?]⟩
    · have settled := exhausted.outcome
      simp [VideoSession.outcome?, idle] at settled
  | drain | hangUp =>
    refine ⟨following.enabled, following.tried, ?_⟩
    rcases following.now with ⟨side, trying⟩ | ⟨before, size, exhausted⟩
    · exact .inl ⟨side, trying.left, trying.geometry, trying.sizes⟩
    · exact .inr ⟨before, size, exhausted.events, exhausted.last, exhausted.outcome⟩
  | turn rotation =>
    refine ⟨following.enabled, following.tried, ?_⟩
    rcases following.now with ⟨side, trying⟩ | exhausted
    · exact .inl ⟨side, trying.left, trying.geometry.turn rotation, trying.sizes⟩
    · exact .inr exhausted

/-- After the last candidate nothing more is tried. -/
theorem Following.exhausted (following : Following first events s g) {before after : List SizeEvent}
    {size : Size} (seen : events = before ++ .rejected size :: after)
    (last : nextSide? size.larger = none) :
    after = [] ∧ s.outcome? = some (.error (.fallbackExhausted size.larger)) := by
  have reached := following.tried before (.rejected size) after seen
  -- no number of rejections from here on leaves a larger side, so no event can follow
  have nothing : ∀ k, sideAfter first (rejections before + 1 + k) = none := by
    intro k
    rw [sideAfter_add, sideAfter, reached]
    simp [SizeEvent.size, last]
  have ended : after = [] := by
    cases after with
    | nil => rfl
    | cons event after =>
      have more := following.tried (before ++ [.rejected size]) event after (by simp [seen])
      rw [rejections_append] at more
      exact absurd ((nothing 0).symm.trans more) (by simp)
  subst ended
  rcases following.now with ⟨side, trying⟩ | ⟨before', size', exhausted⟩
  · have more := trying.left
    rw [seen, rejections_append] at more
    exact absurd ((nothing 0).symm.trans more) (by simp)
  · obtain ⟨-, same⟩ := List.append_inj' (seen.symm.trans exhausted.events) rfl
    obtain rfl : size = size' := by simpa using same
    exact ⟨rfl, exhausted.outcome⟩

theorem Following.candidates (following : Following first events s g) :
    FollowCandidates events s.outcome? where
  followed {before between after start event} seen := by
    have reached := following.tried before (.configured start) (between ++ event :: after)
      (by simpa using seen)
    have later := following.tried (before ++ .configured start :: between) event after seen
    rw [rejections_append, sideAfter_add, reached] at later
    rw [← sideAfter_eq]
    exact later
  decreasing {before between after size event} seen := by
    have reached := following.tried before (.rejected size) (between ++ event :: after)
      (by simpa using seen)
    have later := following.tried (before ++ .rejected size :: between) event after seen
    rw [rejections_append, sideAfter_add, reached] at later
    have counted : rejections (.rejected size :: between) = rejections between + 1 :=
      List.countP_cons_of_pos rfl
    rw [counted] at later
    exact sideAfter_lt later
  exhausted {before after size} seen last :=
    following.exhausted seen (nextSide?_eq_none_iff.mpr last)
  bounded := by
    rcases following.now with ⟨side, trying⟩ | ⟨before, size, exhausted⟩
    · exact Nat.le_of_lt (lt_of_sideAfter trying.left)
    · have reached := lt_of_sideAfter
        (following.tried before (.rejected size) [] exhausted.events)
      rw [exhausted.events, rejections_append]
      exact reached

end VideoOutline

/-- Whatever the encoders do and however the device turns, a session goes down the candidates one
by one and ends at the last, from any maximum on the grid. It makes the calls that it notes. -/
theorem Device.candidates_of_run {σ : Type} [EncoderHost σ] {options : Options}
    {platform : Platform} {d : Device} (created : (Device.create options platform).2 = .ok d)
    (grid : 8 ∣ options.maxSize) {setup : VideoSetup} (enabled : setup.downsize = true) (host : σ)
    (codecMeta frameMeta : Bool) (sink : Sink) (moves : List (VideoMove σ)) :
    let world : VideoWorld σ := ⟨d.encodeScreen host setup codecMeta frameMeta sink, d⟩
    FollowCandidates (world.trace VideoOutline.sizeEvents moves)
        (world.run moves).session.outcome? ∧
      (world.run moves).session.Faithful (world.run moves).device := by
  intro world
  let first := d.layout.videoSize.larger
  have start : VideoOutline.Following first [] world.session.outline d.geometry :=
    ⟨enabled, .nil first, .inl ⟨first, rfl, hasSide_create created grid,
      by simp [world, encodeScreen, VideoSession.outline, VideoStage.size?]⟩⟩
  have following := VideoWorld.run_invariant VideoOutline.sizeEvents
    (P := VideoOutline.Following first) start
    (fun following step => following.step step) (fun following around => following.around around)
    moves
  exact ⟨following.candidates, VideoSession.faithful _ _⟩

/-- An encoder that rejects everything, on a device that turns on the way: seven sizes are tried. -/
theorem Device.candidates_of_run_rejectedAll :
    let options : Options := { socketDir := "" }
    let platform : Platform := { naturalSize := ⟨1440, 3200⟩ }
    let host : ScriptedEncoders :=
      { catalogue := [("avc", "video/avc")], rejectAbove := some 0 }
    let moves : List (VideoMove ScriptedEncoders) :=
      .start :: List.replicate 24 (.go 0) ++ .turn 1 :: List.replicate 25 (.go 0)
    ∃ d, (create options platform).2 = .ok d ∧ 8 ∣ options.maxSize ∧
      options.videoSetup.downsize = true ∧
      let world : VideoWorld ScriptedEncoders :=
        ⟨d.encodeScreen host options.videoSetup true true {}, d⟩
      rejections (world.trace VideoOutline.sizeEvents moves) = 7 ∧
        (world.run moves).session.outcome? = some (.error (.fallbackExhausted 800)) ∧
        FollowCandidates (world.trace VideoOutline.sizeEvents moves)
          (world.run moves).session.outcome? := by
  intro options platform host moves
  refine ⟨_, rfl, by decide, rfl, by decide +kernel, by decide +kernel, ?_⟩
  exact (@candidates_of_run _ _ options platform _ rfl (by decide) _ rfl host true true {} moves).1

end Screencast
