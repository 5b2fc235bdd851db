import Screencast.Proofs.Video.Holding
import Screencast.Proofs.Video.Run

/-!
The encoders and displays of a video session are never held twice and always given back. A session
holds what its stage says, and each of its calls takes or gives back one thing at a time
(`Holding.Call`). What follows from that for any run, and for the encoders and the platform that
receive the calls, is in `exclusive_of_run`.
-/

namespace Screencast

open VideoCall

/-- What a session holds in a stage. -/
def VideoStage.holding : VideoStage → Holding
  | .createDisplay e _ => .encoder e
  | .configure a | .createSurface a | .project a _ | .bind a _ _ | .startEncoder a | .await a
  | .deliver a _ | .sendHeader a _ _ _ | .sendPacket a _ _ | .giveBack a _ _ | .tearDown a _ =>
    .both a.encoder a.display
  | .idle | .observe | .measure | .openEncoder _ | .conclude _ _ | .announce _ _ | .ended _ =>
    .nothing

theorem VideoStage.Working.holding {stage : VideoStage} {a : Attempt} (h : stage.Working a) :
    stage.holding = .both a.encoder a.display := by
  unfold VideoStage.Working at h
  split at h
  all_goals first | rw [← h]; rfl | contradiction

theorem VideoStage.Delivering.holding {stage : VideoStage} {a : Attempt} (h : stage.Delivering a) :
    stage.holding = .both a.encoder a.display := by
  unfold VideoStage.Delivering at h
  split at h
  all_goals first | rw [← h]; rfl | contradiction

namespace VideoOutline

theorem beginPacket_holding (s : VideoOutline) (a : Attempt) (output : OutputBuffer)
    (data : Bytes) : (s.beginPacket a output data).stage.holding = .both a.encoder a.display := by
  obtain ⟨framer, next, begun, ⟨result, rfl⟩ | ⟨t, rfl⟩⟩ := s.beginPacket_eq a output data <;>
    rw [begun] <;> rfl

theorem exit_holding (s : VideoOutline) (result : Except Error Unit) :
    (s.exit result).stage.holding = .nothing := by
  obtain ⟨framer, next, exits, rfl | ⟨e, t, rfl, rfl⟩⟩ := s.exit_eq result <;> rw [exits] <;> rfl

/-- The calls so far have left what the stage says. -/
def Balanced (s : VideoOutline) : Prop := Holding.Calls .nothing s.calls s.stage.holding

variable {s s' : VideoOutline} {g g' : DeviceGeometry} {fetched : Option Fetched}

/-- The calls of a step lead from what is at hand before to what is at hand after. -/
def Holds (s s' : VideoOutline) : Prop :=
  ∃ made, s'.calls = s.calls ++ made ∧ Holding.Calls s.stage.holding made s'.stage.holding

theorem Holds.record {before : VideoStage} {calls : List VideoCall} {next : VideoStage}
    (stage : s.stage = before) (more : Holding.Calls before.holding calls next.holding) :
    Holds s { s.record calls with stage := next } := by
  subst stage
  exact ⟨calls, rfl, more⟩

theorem Holds.keep (calls : s'.calls = s.calls) (stage : s'.stage.holding = s.stage.holding) :
    Holds s s' := by
  refine ⟨[], by rw [calls, List.append_nil], ?_⟩
  rw [stage]
  exact .nil _

theorem Step.holds (step : Step s g fetched s' g') : Holds s s' := by
  cases step with
  | observe stage | measure stage | restart stage | smaller stage =>
    exact .keep rfl (by rw [stage]; rfl)
  -- taking: the encoder first, then the display, without which the encoder goes back
  | noEncoder stage made =>
    refine .record stage ?_
    rcases made with rfl | ⟨name, rfl⟩
    · exact .nil _
    · exact .cons (.noEncoder name) (.nil _)
  | encoder stage => exact .record stage (.cons (.takeEncoder ..) (.nil _))
  | noDisplay stage => exact .record stage (.cons (.noDisplay ..) (.cons (.giveUp _) (.nil _)))
  | display stage => exact .record stage (.cons (.takeDisplay ..) (.nil _))
  -- using
  | configure stage goesOn =>
    refine .record stage ?_
    rcases goesOn with rfl | ⟨e, rfl⟩ <;> exact .cons (.use rfl) (.nil _)
  | @work a _ next working goesOn uses =>
    have same : next.holding = .both a.encoder a.display := by
      rcases goesOn with working | ⟨output, rfl⟩ | ⟨ending, rfl⟩
      · exact working.holding
      · rfl
      · rfl
    refine .record rfl ?_
    rw [working.holding, same]
    exact .of_uses fun call made => (uses call made).1
  | abandon delivering => exact .keep rfl delivering.holding.symm
  | skip stage uses => exact .record stage (.of_uses fun call made => (uses call made).1)
  | header stage opened => exact .record stage (.cons (.use rfl) (.nil _))
  | @packet a output data framer stage opened =>
    refine ⟨_, VideoSession.beginPacket_calls .., ?_⟩
    rw [beginPacket_holding, stage]
    exact .cons (.use rfl) (.nil _)
  | headerWaits stage | headerFails stage | packetWaits stage | packetEnds stage | markWaits stage
  | markEnds stage =>
    exact .keep rfl (by rw [stage]; rfl)
  | headerDone stage =>
    exact .keep (VideoSession.beginPacket_calls ..) (by rw [beginPacket_holding, stage]; rfl)
  -- giving back
  | tearDown stage => exact .record stage (.tearDown _ _)
  | finish stage =>
    exact .keep (VideoSession.exit_calls ..) (by rw [exit_holding, stage]; rfl)

theorem Step.balanced (step : Step s g fetched s' g') (balanced : s.Balanced) : s'.Balanced := by
  obtain ⟨made, calls, more⟩ := step.holds
  unfold Balanced
  rw [calls]
  exact Holding.Calls.append balanced more

theorem Around.balanced (around : Around s g s' g') (balanced : s.Balanced) : s'.Balanced := by
  cases around with
  | start idle =>
    unfold Balanced at balanced ⊢
    rw [idle] at balanced
    exact balanced
  | still | drain | hangUp | turn => exact balanced

end VideoOutline

namespace VideoWorld

variable {σ : Type} [EncoderHost σ] {w : VideoWorld σ}

/-- A session has one thing of a kind at a time, and has given everything back when it reports its
result. -/
structure Returns (w : VideoWorld σ) : Prop where
  exclusive : Exclusive w.session.calls
  returned : ∀ result, w.session.result? = some result → Returned w.session.calls

omit [EncoderHost σ] in
theorem holding_of_result? {result : Except Error Unit} (h : w.session.result? = some result) :
    w.session.stage.holding = .nothing := by
  rw [VideoSession.stage_of_result? h]
  rfl

omit [EncoderHost σ] in
theorem returns_of_balanced (balanced : w.session.outline.Balanced) : w.Returns where
  exclusive := Holding.Calls.exclusive balanced
  returned result finished := by
    change Holding.Calls .nothing w.session.calls w.session.stage.holding at balanced
    rw [holding_of_result? finished] at balanced
    exact balanced.returned

theorem balanced_of_run (balanced : w.session.outline.Balanced) (moves : List (VideoMove σ)) :
    (w.run moves).session.outline.Balanced :=
  run_invariant (fun _ _ _ => []) (P := fun (_ : List Unit) s _ => s.Balanced) balanced
    (fun balanced step => step.balanced balanced) (fun balanced around => around.balanced balanced)
    moves

end VideoWorld

/-! ### What the encoders and the platform receive -/

namespace EncoderCall

def made? : EncoderCall → Option Nat
  | .create _ made => made
  | _ => none

def released? : EncoderCall → Option Nat
  | .release e => some e
  | _ => none

end EncoderCall

namespace VideoCall

theorem made_of_heard (calls : List VideoCall) :
    ((calls.filterMap (·.encoder?)).filter EncoderCall.isHeard).filterMap EncoderCall.made? =
      calls.filterMap encoderMade? := by
  rw [List.filterMap_filter, List.filterMap_filterMap]
  refine List.filterMap_congr fun call _ => ?_
  rcases call with call | call <;> cases call <;> rfl

theorem released_of_heard (calls : List VideoCall) :
    ((calls.filterMap (·.encoder?)).filter EncoderCall.isHeard).filterMap EncoderCall.released? =
      calls.filterMap encoderReleased? := by
  rw [List.filterMap_filter, List.filterMap_filterMap]
  refine List.filterMap_congr fun call _ => ?_
  rcases call with call | call <;> cases call <;> rfl

end VideoCall

/-- A move around a session whose host keeps what it receives. Nobody else makes calls there, opens
queues that were closed, or takes virtual displays or gives them back. -/
def VideoMove.monitored {σ : Type} (w : VideoWorld (Monitored σ EncoderCall)) :
    VideoMove σ → VideoMove (Monitored σ EncoderCall)
  | .go pick => .go pick
  | .start => .start
  | .stop => .stop
  | .encoders inner => .encoders { w.session.host with inner }
  | .report listening =>
    .report (if w.session.listening.Closed then listening.close else listening)
  | .drain n => .drain n
  | .hangUp e => .hangUp e
  | .turn rotation => .turn rotation
  | .publish rotation => .publish rotation
  | .platform p => .platform { p with liveDisplays := w.device.platform.liveDisplays }

namespace VideoWorld

variable {σ : Type} [EncoderHost σ]

def monitored (w : VideoWorld (Monitored σ EncoderCall)) :
    List (VideoMove σ) → List (VideoMove (Monitored σ EncoderCall))
  | [] => []
  | move :: moves => move.monitored w :: (w.apply (move.monitored w)).monitored moves

/-- The calls that a session has noted are those that have reached the encoders, and they have made
the queues and the displays of the platform what they are. -/
structure Received (first : Platform) (w : VideoWorld (Monitored σ EncoderCall)) : Prop where
  encoders : w.session.host.received =
    (w.session.calls.filterMap (·.encoder?)).filter EncoderCall.isHeard
  displays : w.device.platform.liveDisplays +
      (w.session.calls.filterMap displayDestroyed?).length =
    first.liveDisplays + (w.session.calls.filterMap displayMade?).length
  /-- Closed queues stay closed until there is a new display. -/
  queues : ∀ encoder before after,
    w.session.calls = before ++ .encoder (.closeQueues encoder) :: after →
      (∀ call ∈ after, ¬ call.Opens) → w.session.listening.Closed

variable {first : Platform} {w w' : VideoWorld (Monitored σ EncoderCall)}

omit [EncoderHost σ] in
/-- What is at hand is what was made and not destroyed. -/
theorem displays_iff (balanced : w.session.outline.Balanced) :
    w.device.platform.liveDisplays + (w.session.calls.filterMap displayDestroyed?).length =
        first.liveDisplays + (w.session.calls.filterMap displayMade?).length ↔
      w.device.platform.liveDisplays =
        first.liveDisplays + w.session.stage.holding.display?.toList.length := by
  have all : w.session.calls.filterMap displayMade? =
      w.session.calls.filterMap displayDestroyed? ++ w.session.stage.holding.display?.toList :=
    balanced.displays
  rw [all, List.length_append]
  omega

theorem Received.go (received : w.Received first) (balanced : w.session.outline.Balanced)
    {pick : Nat} {after : VideoSession (Monitored σ EncoderCall) × Device}
    (stepped : w.session.step pick w.device = some after) :
    VideoWorld.Received first ⟨after.1, after.2⟩ := by
  obtain ⟨made, performs⟩ := VideoSession.step_performs stepped
  have step := VideoSession.step_outline stepped
  obtain ⟨same, calls, holds⟩ := step.holds
  have made_eq : same = made := List.append_cancel_left (calls.symm.trans performs.calls)
  subst made_eq
  refine ⟨?_, ?_, ?_⟩
  · rw [performs.encoders.encoder_received, received.encoders, performs.calls,
      List.filterMap_append, List.filter_append]
  · rw [displays_iff (step.balanced balanced)]
    exact holds.live performs.displays ((displays_iff balanced).mp received.displays)
  · intro encoder before later split unopened
    rw [performs.calls] at split
    refine since_append (received.queues encoder) (fun closes => ?_) performs.kept split unopened
    rw [performs.closes encoder closes]
    exact Listening.closed_close _

theorem Received.apply (received : w.Received first) (balanced : w.session.outline.Balanced)
    (move : VideoMove σ) : (w.apply (move.monitored w)).Received first := by
  obtain ⟨encoders, displays, queues⟩ := received
  cases move with
  | go pick =>
    change ((w.next? pick).getD w).Received first
    cases next : w.next? pick with
    | none => exact ⟨encoders, displays, queues⟩
    | some after =>
      obtain ⟨went, stepped, rfl⟩ := Option.map_eq_some_iff.mp next
      exact Received.go ⟨encoders, displays, queues⟩ balanced stepped
  | start =>
    change Received first { w with session := w.session.start }
    unfold VideoSession.start
    split <;> exact ⟨encoders, displays, queues⟩
  | report listening =>
    refine ⟨encoders, displays, fun encoder before after split unopened => ?_⟩
    have closed := queues encoder before after split unopened
    change (if w.session.listening.Closed then listening.close else listening).Closed
    rw [if_pos closed]
    exact listening.closed_close
  | stop | encoders | drain | hangUp | turn | publish | platform =>
    exact ⟨encoders, displays, queues⟩

theorem received_of_run {w : VideoWorld (Monitored σ EncoderCall)} (received : w.Received first)
    (balanced : w.session.outline.Balanced) (moves : List (VideoMove σ)) :
    (w.run (w.monitored moves)).Received first ∧
      (w.run (w.monitored moves)).session.outline.Balanced := by
  induction moves generalizing w with
  | nil => exact ⟨received, balanced⟩
  | cons move moves ih =>
    exact ih (received.apply balanced move) (balanced_of_run balanced [move.monitored w])

end VideoWorld

/-- Whatever fails and whenever the session is told to stop, it never has two encoders or two
displays at once, and nothing is left when it reports its result. The encoders receive what the
session notes, the queues are closed where it says so, and the platform has one display more than it
had at the most. -/
theorem Device.exclusive_of_run {σ : Type} [EncoderHost σ] (d : Device) (host : σ)
    (setup : VideoSetup) (codecMeta frameMeta : Bool) (sink : Sink) (moves : List (VideoMove σ)) :
    let world : VideoWorld σ := ⟨d.encodeScreen host setup codecMeta frameMeta sink, d⟩
    let heard : VideoWorld (Monitored σ EncoderCall) :=
      ⟨d.encodeScreen { inner := host } setup codecMeta frameMeta sink, d⟩
    let w := heard.run (heard.monitored moves)
    let received := w.session.host.received
    (world.run moves).Returns ∧ w.Returns ∧ w.Received d.platform ∧
      (∃ live : Option Nat, received.filterMap EncoderCall.made? =
        received.filterMap EncoderCall.released? ++ live.toList) ∧
      w.device.platform.liveDisplays ≤ d.platform.liveDisplays + 1 ∧
      ∀ result, w.session.result? = some result →
        received.filterMap EncoderCall.made? = received.filterMap EncoderCall.released? ∧
        w.device.platform.liveDisplays = d.platform.liveDisplays := by
  intro world heard w received
  have begun : world.session.outline.Balanced := Holding.Calls.nil .nothing
  have returns : (world.run moves).Returns :=
    VideoWorld.returns_of_balanced (VideoWorld.balanced_of_run begun moves)
  obtain ⟨all, balanced⟩ : w.Received d.platform ∧ w.session.outline.Balanced :=
    VideoWorld.received_of_run (w := heard) ⟨rfl, rfl, by simp [heard, Device.encodeScreen]⟩
      (Holding.Calls.nil .nothing) moves
  have same : w.Returns := VideoWorld.returns_of_balanced balanced
  have noted (f : EncoderCall → Option Nat) : received.filterMap f =
      ((w.session.calls.filterMap (·.encoder?)).filter EncoderCall.isHeard).filterMap f :=
    congrArg (List.filterMap f) all.encoders
  have live := (VideoWorld.displays_iff balanced).mp all.displays
  rw [noted, noted, made_of_heard, released_of_heard]
  refine ⟨returns, same, all, same.exclusive.oneEncoder (List.prefix_refl _), ?_,
    fun result finished => ⟨(same.returned result finished).encoders, ?_⟩⟩
  · rw [live]
    exact Nat.add_le_add_left Option.length_toList_le _
  · rwa [VideoWorld.holding_of_result? finished] at live

end Screencast
