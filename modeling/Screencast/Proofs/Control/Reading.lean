import Screencast.Proofs.Control.Chunking
import Screencast.Proofs.Control.Serving
import Screencast.Session.Worker

/-!
What a session makes of all that arrives on the control channel, however it is cut into portions
(`served`): the messages are carried out once each and in order, up to the first fault or the end
(`settled_served`). When the desktop goes away in the middle of a message, that counts as a failure
(`served_of_cut`, `fatal_inside_message`).
-/

namespace Screencast

open Decoded (drain Loop)

/-- What is made of some bytes and arrivals: the messages that are carried out, and how that ends,
unless more is to come. -/
structure Served where
  messages : List ControlMessage
  result : Option (Except Error Unit)

namespace Served

/-- After some other messages. -/
def after (messages : List ControlMessage) (s : Served) : Served :=
  { s with messages := messages ++ s.messages }

theorem after_after (first second : List ControlMessage) (s : Served) :
    (s.after second).after first = s.after (first ++ second) := by
  simp [after]

/-- How a stream ends whose bytes were decoded, by the arrival behind them. -/
def close (d : Drained ControlMessage) (last : Option Arrival) : Option (Except Error Unit) :=
  match d.halt, last with
  | .malformed e, _ => some (.error (.protocol e))
  | .overrun, _ => some (.error (.io .bytesRemaining))
  | .incomplete, some .eof =>
    some (if d.rest.isEmpty then .ok () else .error (.io .bytesRemaining))
  | .incomplete, some (.error e) => some (.error (.io e))
  | .incomplete, _ => none

end Served

namespace ControlMessage

/-- All that follows from a buffer and what arrives behind it. -/
def served : Bytes → List Arrival → Served
  | buffer, .bytes b :: arrivals => served (buffer ++ b) arrivals
  | buffer, arrivals =>
    let d := drain decode buffer
    ⟨d.messages, Served.close d arrivals.head?⟩

variable {buffer rest : Bytes} {arrivals : List Arrival}

theorem served_chunks (buffer : Bytes) (chunks : List Bytes) (arrivals : List Arrival) :
    served buffer (chunks.map .bytes ++ arrivals) = served (buffer ++ chunks.flatten) arrivals := by
  induction chunks generalizing buffer with
  | nil => simp
  | cons chunk chunks ih => simp [served, ih]

theorem drain_message {m : ControlMessage} (h : decode buffer = .message m rest) :
    drain decode buffer =
      { drain decode rest with messages := m :: (drain decode rest).messages } :=
  decode_incremental.drain_eq_of_loop (.message h (decode_incremental.loop_drain rest))

theorem served_message {m : ControlMessage} (h : decode buffer = .message m rest) :
    served buffer arrivals = (served rest arrivals).after [m] := by
  induction arrivals generalizing buffer rest with
  | nil => simp [served, drain_message h, Served.after, Served.close]
  | cons arrival arrivals ih =>
    cases arrival with
    | bytes b => exact ih (decode_incremental.append_eq h (by simp) b)
    | eof | error e => simp [served, drain_message h, Served.after, Served.close]

theorem served_malformed {e : MessageFault} (h : decode buffer = .malformed e rest) :
    served buffer arrivals = ⟨[], some (.error (.protocol e))⟩ := by
  have drained := decode_incremental.drain_eq_of_loop (.malformed h)
  induction arrivals generalizing buffer rest with
  | nil => simp [served, drained, Served.close]
  | cons arrival arrivals ih =>
    cases arrival with
    | bytes b =>
      have more := decode_incremental.append_eq h (by simp) b
      exact ih more (decode_incremental.drain_eq_of_loop (.malformed more))
    | eof | error e => simp [served, drained, Served.close]

theorem served_overrun (h : decode buffer = .overrun) :
    served buffer arrivals = ⟨[], some (.error (.io .bytesRemaining))⟩ := by
  have drained := decode_incremental.drain_eq_of_loop (.overrun h)
  induction arrivals generalizing buffer with
  | nil => simp [served, drained, Served.close]
  | cons arrival arrivals ih =>
    cases arrival with
    | bytes b =>
      have more := decode_incremental.append_eq h (by simp) b
      exact ih more (decode_incremental.drain_eq_of_loop (.overrun more))
    | eof | error e => simp [served, drained, Served.close]

theorem served_nil (none : decode buffer = .incomplete) : served buffer [] = ⟨[], Option.none⟩ := by
  simp [served, decode_incremental.drain_eq_of_loop (.incomplete none), Served.close]

/-- Whatever closes a stream ends what is made of it. -/
theorem served_of_close {result : Except Error Unit}
    (why : ControlSession.Close buffer arrivals result) (more : List Arrival) :
    served buffer (arrivals ++ more) = ⟨[], some result⟩ := by
  cases why with
  | malformed found => exact served_malformed found
  | overrun found => exact served_overrun found
  | eof none next =>
    subst next
    simp [served, decode_incremental.drain_eq_of_loop (.incomplete none), Served.close]
  | error none next =>
    subst next
    simp [served, decode_incremental.drain_eq_of_loop (.incomplete none), Served.close]

/-- The first `n` parts lie in the first `k` bytes, and the rest of these is no whole part. -/
structure Cut (parts : List Bytes) (k n : Nat) (rest : Bytes) : Prop where
  bytes : parts.flatten.take k = (parts.take n).flatten ++ rest
  within : n ≤ parts.length
  short : ∀ part, parts[n]? = some part → rest.length < part.length

theorem drain_cut {messages : List ControlMessage} {parts : List Bytes}
    (encoded : List.Forall₂ (fun m part => encode m = .ok part) messages parts) (k : Nat) :
    ∃ n rest, Cut parts k n rest ∧ Loop decode (parts.flatten.take k)
      ⟨(messages.take n).map normalised, .incomplete, rest⟩ := by
  obtain ⟨n, rest, bytes, within, short, loop⟩ :=
    decode_incremental.loop_take (reads_of_encoded encoded) k
  refine ⟨n, rest, ⟨bytes, within, short⟩, ?_⟩
  rwa [List.map_take]

end ControlMessage

namespace ControlSession

open ControlMessage

/-- What may happen to a session that nobody stops. -/
inductive Move where
  | go (pick : Nat)
  | receive (a : Arrival)
  /-- Somebody tells the desktop something. -/
  | push (m : DeviceMessage)
  /-- The desktop does not read any more. -/
  | hangUp (e : IoError)

def Move.arrival? : Move → Option Arrival
  | receive a => some a
  | _ => none

def apply (s : ControlSession × Device) : Move → ControlSession × Device
  | .go pick => (step pick s).getD s
  | .receive a => (s.1.receive a, s.2)
  | .push m => (s.1.push m, s.2)
  | .hangUp e => ({ s.1 with writer.sink := s.1.writer.sink.breakWith e }, s.2)

def run (s : ControlSession × Device) (moves : List Move) : ControlSession × Device :=
  moves.foldl apply s

/-- The device once the session has begun. -/
def begun (c : ControlSession) (d : Device) : Device :=
  match c.stage with
  | .idle | .starting => if c.powerOn then d.wake else d
  | _ => d

/-- A session that began with the device `first` has carried out the first of the messages that it
will have carried out in the end, whatever arrives behind what has been received so far. -/
def Serving (first : Device) (received : List Arrival) (c : ControlSession) (d : Device) : Prop :=
  ∃ handled : List ControlMessage, c.begun d = handled.foldl Device.carry first ∧
    ∀ more, served [] (received ++ more) = match c.stage with
      | .idle | .starting | .reading => (served c.buffer (c.arrivals ++ more)).after handled
      | .handling m => (served c.buffer (c.arrivals ++ more)).after (handled ++ [m])
      | .leaving result | .ended result => ⟨handled, some result⟩

variable {first d d' : Device} {received : List Arrival} {c c' : ControlSession}

theorem Serving.keep (serving : Serving first received c d) (running : c.stopping = false)
    (step : Step c d c' d') : Serving first received c' d' := by
  obtain ⟨handled, same, all⟩ := serving
  unfold begun at same
  cases step with
  | write => exact ⟨handled, same, all⟩
  | begin stage =>
    simp only [stage] at same all
    exact ⟨handled, same, all⟩
  | @take m buffer stage found =>
    simp only [stage] at same all
    refine ⟨handled, same, fun more => ?_⟩
    rw [all more, served_message found, Served.after_after]
  | receive stage none next =>
    simp only [stage] at same all
    refine ⟨handled, by simpa only [begun, stage] using same, fun more => ?_⟩
    simp only [stage, all more, next]
    rfl
  | close stage why =>
    simp only [stage] at same all
    refine ⟨handled, same, fun more => ?_⟩
    rw [all more, served_of_close why more]
    simp [Served.after, leave]
  | @handle m stage =>
    simp only [stage] at same all
    refine ⟨handled ++ [m], ?_, all⟩
    simp only [begun, same, List.foldl_append, List.foldl_cons, List.foldl_nil]
  | halt stopping => simp [running] at stopping
  | finish stage =>
    simp only [stage] at same all
    exact ⟨handled, same, all⟩

theorem Serving.receive (serving : Serving first received c d) (a : Arrival) :
    Serving first (received ++ [a]) (c.receive a) d := by
  obtain ⟨handled, same, all⟩ := serving
  refine ⟨handled, same, fun more => ?_⟩
  have next := all (a :: more)
  simpa only [List.append_assoc, List.singleton_append, ControlSession.receive] using next

/-- A session under way that nobody has told to stop. -/
structure UnderWay (first : Device) (received : List Arrival) (s : ControlSession × Device) :
    Prop where
  serving : Serving first received s.1 s.2
  tidy : s.1.Tidy
  running : s.1.stopping = false
  started : s.1.stage ≠ .idle

theorem UnderWay.keep (underWay : UnderWay first received (c, d)) (step : Step c d c' d') :
    UnderWay first received (c', d') :=
  ⟨underWay.serving.keep underWay.running step, underWay.tidy.keep step,
    step.stopping.trans underWay.running, step.stage_ne_idle underWay.started⟩

theorem UnderWay.receive (underWay : UnderWay first received (c, d)) (a : Arrival) :
    UnderWay first (received ++ [a]) (c.receive a, d) :=
  ⟨underWay.serving.receive a, ⟨underWay.tidy.bounded, underWay.tidy.stopped⟩, underWay.running,
    underWay.started⟩

theorem UnderWay.push (underWay : UnderWay first received (c, d)) (m : DeviceMessage) :
    UnderWay first received (c.push m, d) := by
  have kept := MessageWriter.kept_push c.writer m
  have tidy : (c.push m).Tidy :=
    ⟨kept.bounded underWay.tidy.bounded,
      fun result stage => kept.stopping.trans (underWay.tidy.stopped result stage)⟩
  exact ⟨underWay.serving, tidy, underWay.running, underWay.started⟩

theorem UnderWay.onSink (underWay : UnderWay first received (c, d)) (sink : Sink) :
    UnderWay first received ({ c with writer.sink := sink }, d) :=
  ⟨underWay.serving, ⟨underWay.tidy.bounded, underWay.tidy.stopped⟩, underWay.running,
    underWay.started⟩

/-- The session has ended with this result, or will as soon as its writer has, which waits in the
middle of a message for a sink that is full. -/
def ComesTo (c : ControlSession) (result : Except Error Unit) : Prop :=
  c.stage = .ended result ∨
    c.stage = .leaving result ∧ (∃ rest, c.writer.stage = .writing rest) ∧ c.writer.sink.Full

/-- Once it has to wait, the session has made of everything what is to be made of it. -/
theorem UnderWay.waits {pick : Nat} (underWay : UnderWay first received (c, d))
    (waiting : step pick (c, d) = none) :
    d = (served [] received).messages.foldl Device.carry first ∧
    match (served [] received).result with
    | none => c.stage = .reading
    | some result => c.ComesTo result := by
  obtain ⟨⟨handled, same, all⟩, tidy, running, started⟩ := underWay
  have place := ControlSession.waits tidy waiting
  have whole := all []
  simp only [List.append_nil, begun] at whole same
  cases stage : c.stage with
  | idle => exact absurd stage started
  | starting | handling => simp [stage] at place
  | reading =>
    simp only [stage] at place whole same
    obtain ⟨-, none, empty⟩ := place
    rw [whole, empty, served_nil none]
    simpa [Served.after] using same
  | leaving result =>
    simp only [stage] at place whole same
    rw [whole]
    exact ⟨same, .inr ⟨stage, place⟩⟩
  | ended result =>
    simp only [stage] at whole same
    rw [whole]
    exact ⟨same, .inl stage⟩

/-- With a sink that always has room the session ends. -/
theorem ComesTo.result? {result : Except Error Unit} (comes : c.ComesTo result)
    (room : c.writer.sink.limit = none) : c.result? = some result := by
  obtain ended | ⟨-, -, bound, full, -⟩ := comes
  · simp [ControlSession.result?, ended]
  · exact absurd (room.symm.trans full) (by simp)

/-- A session under way that nobody has told to stop, and whose sink always has room. -/
structure Going (first : Device) (received : List Arrival) (s : ControlSession × Device) :
    Prop where
  serving : Serving first received s.1 s.2
  sound : s.1.Sound
  running : s.1.stopping = false
  started : s.1.stage ≠ .idle

variable {s s' : ControlSession × Device} {pick : Nat}

theorem Going.underWay (going : Going first received s) : UnderWay first received s :=
  ⟨going.serving, going.sound.tidy, going.running, going.started⟩

theorem going_step (going : Going first received s) (step : step pick s = some s') :
    Going first received s' := by
  have step : Step s.1 s.2 s'.1 s'.2 := step_cases step
  have underWay := going.underWay.keep step
  exact ⟨underWay.serving, going.sound.keep step, underWay.running, underWay.started⟩

theorem going_apply (going : Going first received s) (move : Move) :
    Going first (received ++ move.arrival?.toList) (apply s move) := by
  cases move with
  | go pick =>
    change Going first (received ++ []) ((step pick s).getD s)
    rw [List.append_nil]
    cases stepped : step pick s with
    | none => exact going
    | some s' => exact going_step going stepped
  | receive a =>
    exact ⟨going.serving.receive a, ⟨going.sound.bounded, going.sound.room, going.sound.stopped⟩,
      going.running, going.started⟩
  | push m =>
    have underWay := going.underWay.push m
    have kept := MessageWriter.kept_push s.1.writer m
    have sound : (s.1.push m).Sound :=
      ⟨underWay.tidy.bounded, (congrArg Sink.limit kept.sink).trans going.sound.room,
        underWay.tidy.stopped⟩
    change Going first (received ++ []) _
    rw [List.append_nil]
    exact ⟨underWay.serving, sound, underWay.running, underWay.started⟩
  | hangUp e =>
    change Going first (received ++ []) _
    rw [List.append_nil]
    exact ⟨going.serving, ⟨going.sound.bounded, going.sound.room, going.sound.stopped⟩,
      going.running, going.started⟩

theorem going_run (going : Going first received s) (moves : List Move) :
    Going first (received ++ moves.filterMap Move.arrival?) (run s moves) := by
  induction moves generalizing s received with
  | nil => rwa [List.filterMap_nil, List.append_nil]
  | cons move moves ih =>
    have rest := ih (going_apply going move)
    have arrived : move.arrival?.toList ++ moves.filterMap Move.arrival? =
        (move :: moves).filterMap Move.arrival? := by
      cases h : move.arrival? <;> simp [h]
    rwa [List.append_assoc, arrived] at rest

/-- Once it has to wait, the session has made of everything what is to be made of it. -/
theorem going_settled (going : Going first received s) {fuel : Nat}
    (enough : s.1.distance ≤ fuel) (pick : Nat) :
    (settle (step pick) fuel s).1.result? = (served [] received).result ∧
      (settle (step pick) fuel s).2 = (served [] received).messages.foldl Device.carry first := by
  have waiting : step pick (settle (step pick) fuel s) = none :=
    step_settled going.sound.tidy pick enough
  have going : Going first received (settle (step pick) fuel s) :=
    settle_invariant (P := Going first received) going_step going fuel
  generalize settle (step pick) fuel s = after at going waiting
  obtain ⟨c, d⟩ := after
  obtain ⟨device, place⟩ := going.underWay.waits waiting
  refine ⟨?_, device⟩
  cases made : (served [] received).result with
  | none =>
    simp only [made] at place
    simp [result?, place]
  | some result =>
    simp only [made] at place
    exact place.result? going.sound.room

/-- A session that has been started and has received nothing yet. -/
def opened (d : Device) (sink : Sink) (autosync powerOn : Bool) : ControlSession × Device :=
  ((d.control sink autosync powerOn).1.start, (d.control sink autosync powerOn).2)

theorem going_opened (d : Device) {sink : Sink} (room : sink.limit = none)
    (autosync powerOn : Bool) :
    Going ((opened d sink autosync powerOn).1.begun (opened d sink autosync powerOn).2) []
      (opened d sink autosync powerOn) where
  serving := ⟨[], rfl, fun _ => rfl⟩
  sound := ⟨by rintro _ ⟨⟩, room, by rintro _ ⟨⟩⟩
  running := rfl
  started := by rintro ⟨⟩

/-- The desktop sends the first `k` bytes of some messages and closes its end. However these bytes
are cut into portions, and whoever pushes or hangs up meanwhile, the messages that lie in them are
carried out once each, in order, and the session ends; but it ends fatally if a part of a message is
left. -/
theorem ended_of_cut {messages : List ControlMessage} {parts chunks : List Bytes} {k : Nat}
    (encoded : List.Forall₂ (fun m part => encode m = .ok part) messages parts)
    (sent : chunks.flatten = parts.flatten.take k) {sink : Sink} (room : sink.limit = none)
    (d : Device) (autosync powerOn : Bool) {moves : List Move}
    (arrived : moves.filterMap Move.arrival? = chunks.map .bytes ++ [.eof]) :
    let s := opened d sink autosync powerOn
    ∃ n rest, Cut parts k n rest ∧
      ∃ enough, ∀ fuel ≥ enough, ∀ pick,
        let after := settle (step pick) fuel (run s moves)
        after.2 = ((messages.take n).map normalised).foldl Device.carry (s.1.begun s.2) ∧
        ∃ result, after.1.result? = some result ∧
          result = (if rest.isEmpty then .ok () else .error (.io .bytesRemaining)) ∧
          (Outcome.ofResult result).isFatal = !rest.isEmpty := by
  intro s
  obtain ⟨n, rest, cut, loop⟩ := drain_cut encoded k
  have going := going_run (going_opened d room autosync powerOn) moves
  have made : served [] (moves.filterMap Move.arrival?) =
      ⟨(messages.take n).map normalised,
        some (if rest.isEmpty then .ok () else .error (.io .bytesRemaining))⟩ := by
    rw [arrived, served_chunks, List.nil_append, sent]
    simp [served, decode_incremental.drain_eq_of_loop loop, Served.close]
  rw [List.nil_append] at going
  refine ⟨n, rest, cut, (run s moves).1.distance, fun fuel enough pick => ?_⟩
  obtain ⟨result, device⟩ := going_settled going enough pick
  rw [made] at result device
  refine ⟨device, _, result, rfl, ?_⟩
  cases rest <;> rfl

/-- Two bytes of a key are left, and the desktop is gone in both directions. -/
theorem ended_of_cut_inside_key :
    let messages : List ControlMessage := [.openNotifications, .key { action := 0, keycode := 66 }]
    let parts : List Bytes := [[5], [0, 0, 0, 0, 0, 66, 0, 0, 0, 0, 0, 0, 0, 0]]
    let chunks : List Bytes := [[5, 0], [0]]
    let moves : List Move :=
      [.go 0, .receive (.bytes [5, 0]), .go 1, .push (.ack 3), .receive (.bytes [0]),
        .hangUp ⟨.brokenPipe, none⟩, .receive .eof, .go 0]
    let d := Device.unused { naturalSize := ⟨1080, 1920⟩ }
    let s := opened d {} true true
    List.Forall₂ (fun m part => encode m = .ok part) messages parts ∧
    chunks.flatten = parts.flatten.take 3 ∧ ({} : Sink).limit = none ∧
    moves.filterMap Move.arrival? = chunks.map .bytes ++ [.eof] ∧
    ∃ n rest, Cut parts 3 n rest ∧
      ∃ enough, ∀ fuel ≥ enough, ∀ pick,
        let after := settle (step pick) fuel (run s moves)
        after.2 = ((messages.take n).map normalised).foldl Device.carry (s.1.begun s.2) ∧
        ∃ result, after.1.result? = some result ∧
          result = (if rest.isEmpty then .ok () else .error (.io .bytesRemaining)) ∧
          (Outcome.ofResult result).isFatal = !rest.isEmpty := by
  intro messages parts chunks moves d s
  have encoded : List.Forall₂ (fun m part => encode m = .ok part) messages parts :=
    .cons (by decide) (.cons (by decide) .nil)
  have sent : chunks.flatten = parts.flatten.take 3 := by decide
  have arrived : moves.filterMap Move.arrival? = chunks.map .bytes ++ [.eof] := rfl
  exact ⟨encoded, sent, rfl, arrived, ended_of_cut encoded sent rfl d true true arrived⟩

/-- The desktop goes away after the first byte of a key, and that is a failure. -/
theorem fatal_inside_message :
    let s := opened (.unused { naturalSize := ⟨1080, 1920⟩ }) {} true true
    let after := settle (step 0) 20 (run s [.go 0, .receive (.bytes [5, 0]), .receive .eof])
    after.1.result? = some (.error (.io .bytesRemaining)) ∧
      (Outcome.ofResult (.error (.io .bytesRemaining))).isFatal = true ∧
      after.2.platform.panels = [.notifications] := by
  exact ⟨rfl, rfl, rfl⟩

end ControlSession

end Screencast
