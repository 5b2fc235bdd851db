import Screencast.Proofs.Control.Reading

/-!
The portions in which a control channel arrives make no difference. Two sessions on the same device
that receive the same bytes, cut in any two ways, do the same to it and come to the same result
(`ended_alike`), however their steps and those of their writers are interleaved and whatever the
desktop does at its reading end.
-/

namespace Screencast.ControlSession

open ControlMessage
open Decoded (drain)

/-- What a session that nobody stops can come to, having received these arrivals. Its reading side
and its writer go on in any order. -/
inductive Course (start : ControlSession × Device) :
    List Arrival → ControlSession × Device → Prop where
  | start : Course start [] start
  | step {received : List Arrival} {c c' : ControlSession} {d d' : Device}
      (before : Course start received (c, d)) (step : Step c d c' d') :
      Course start received (c', d')
  | receive {received : List Arrival} {c : ControlSession} {d : Device}
      (before : Course start received (c, d)) (a : Arrival) :
      Course start (received ++ [a]) (c.receive a, d)
  /-- Somebody else tells the desktop something. -/
  | push {received : List Arrival} {c : ControlSession} {d : Device}
      (before : Course start received (c, d)) (m : DeviceMessage) :
      Course start received (c.push m, d)
  /-- The desktop makes room for so many bytes. -/
  | drain {received : List Arrival} {c : ControlSession} {d : Device}
      (before : Course start received (c, d)) (n : Nat) :
      Course start received ({ c with writer.sink := c.writer.sink.drain n }, d)
  /-- The desktop does not read any more. -/
  | hangUp {received : List Arrival} {c : ControlSession} {d : Device}
      (before : Course start received (c, d)) (e : IoError) :
      Course start received ({ c with writer.sink := c.writer.sink.breakWith e }, d)

namespace Course

variable {start s : ControlSession × Device} {received : List Arrival} {first : Device}

theorem underWay (course : Course start received s) (begins : UnderWay first [] start) :
    UnderWay first received s := by
  induction course with
  | start => exact begins
  | step _ step ih => exact ih.keep step
  | receive _ a ih => exact ih.receive a
  | push _ m ih => exact ih.push m
  | drain _ n ih => exact ih.onSink _
  | hangUp _ e ih => exact ih.onSink _

/-- A sink that always has room stays one. -/
theorem room (course : Course start received s) (room : start.1.writer.sink.limit = none) :
    s.1.writer.sink.limit = none := by
  induction course with
  | start => exact room
  | step _ step ih => exact step.limit.trans ih
  | receive _ a ih => exact ih
  | @push _ c _ _ m ih =>
    have kept := MessageWriter.kept_push c.writer m
    exact (congrArg Sink.limit kept.sink).trans ih
  | drain _ n ih =>
    change Option.map _ _ = none
    rw [ih, Option.map_none]
  | hangUp _ e ih => exact ih

theorem settle (course : Course start received s) (pick fuel : Nat) :
    Course start received (settle (ControlSession.step pick) fuel s) :=
  settle_invariant (P := Course start received)
    (fun course stepped => course.step (step_cases stepped)) course fuel

end Course

theorem underWay_opened (d : Device) (sink : Sink) (autosync powerOn : Bool) :
    UnderWay ((opened d sink autosync powerOn).1.begun (opened d sink autosync powerOn).2) []
      (opened d sink autosync powerOn) where
  serving := ⟨[], rfl, fun _ => rfl⟩
  tidy := ⟨by rintro _ ⟨⟩, by rintro _ ⟨⟩⟩
  running := rfl
  started := by rintro ⟨⟩

/-- What becomes of a session once a whole stream has arrived. -/
theorem settled_of_course {chunks : List Bytes} {d : Device} {sink : Sink}
    {autosync powerOn : Bool} {s : ControlSession × Device} {result : Except Error Unit}
    (course : Course (opened d sink autosync powerOn) (chunks.map .bytes ++ [.eof]) s)
    (closes : Served.close (drain decode chunks.flatten) (some .eof) = some result) {fuel : Nat}
    (enough : s.1.distance ≤ fuel) (pick : Nat) :
    let after := settle (step pick) fuel s
    after.2 = (drain decode chunks.flatten).messages.foldl Device.carry
      ((opened d sink autosync powerOn).1.begun (opened d sink autosync powerOn).2) ∧
    after.1.ComesTo result ∧ (sink.limit = none → after.1.result? = some result) := by
  intro after
  have begins := underWay_opened d sink autosync powerOn
  have waiting : step pick after = none := step_settled (course.underWay begins).tidy pick enough
  have course : Course _ _ after := course.settle pick fuel
  have made : served [] (chunks.map .bytes ++ [.eof]) =
      ⟨(drain decode chunks.flatten).messages, some result⟩ := by
    rw [served_chunks, List.nil_append, ← closes]
    rfl
  obtain ⟨device, comes⟩ := (course.underWay begins).waits waiting
  rw [made] at device comes
  exact ⟨device, comes, fun room => ComesTo.result? comes (course.room room)⟩

theorem exists_close (d : Drained ControlMessage) :
    ∃ result, Served.close d (some .eof) = some result := by
  unfold Served.close
  cases d.halt with
  | incomplete | malformed | overrun => exact ⟨_, rfl⟩

/-- Two sessions on the same device receive the same bytes in different portions, and then the end
of the stream. Both carry out the messages that lie in these bytes up to the first fault, once each
and in order, and both come to the result that follows from the bytes alone, even if their desktops
read differently. -/
theorem ended_alike {chunks chunks' : List Bytes} (same : chunks'.flatten = chunks.flatten)
    (d : Device) (autosync powerOn : Bool) {sink sink' : Sink} {s s' : ControlSession × Device}
    (course : Course (opened d sink autosync powerOn) (chunks.map .bytes ++ [.eof]) s)
    (course' : Course (opened d sink' autosync powerOn) (chunks'.map .bytes ++ [.eof]) s') :
    let stream := drain decode chunks.flatten
    let first := (opened d sink autosync powerOn).1.begun (opened d sink autosync powerOn).2
    ∃ result, Served.close stream (some .eof) = some result ∧
      ∃ enough, ∀ fuel ≥ enough, ∀ pick pick',
        let after := settle (step pick) fuel s
        let after' := settle (step pick') fuel s'
        after.2 = stream.messages.foldl Device.carry first ∧ after'.2 = after.2 ∧
        (after.1.ComesTo result ∧ (sink.limit = none → after.1.result? = some result)) ∧
        after'.1.ComesTo result ∧ (sink'.limit = none → after'.1.result? = some result) := by
  intro stream first
  obtain ⟨result, closes⟩ := exists_close stream
  refine ⟨result, closes, max s.1.distance s'.1.distance, fun fuel enough pick pick' => ?_⟩
  have closes' : Served.close (drain decode chunks'.flatten) (some .eof) = some result := by
    rw [same]
    exact closes
  have near : s.1.distance ≤ fuel := Nat.le_trans (Nat.le_max_left _ _) enough
  have near' : s'.1.distance ≤ fuel := Nat.le_trans (Nat.le_max_right _ _) enough
  obtain ⟨device, comes, ends⟩ := settled_of_course course closes near pick
  obtain ⟨device', comes', ends'⟩ := settled_of_course course' closes' near' pick'
  rw [same] at device'
  exact ⟨device, device'.trans device.symm, ⟨comes, ends⟩, comes', ends'⟩

/-- The fault is the third message. One session gets everything at once, the other one has begun
before, gets it in pieces, and tells its clipboard to a desktop that reads two bytes. -/
theorem ended_alike_up_to_fault :
    let chunks : List Bytes := [[11, 8, 0, 200, 5]]
    let chunks' : List Bytes := [[11], [8], [0, 200], [5]]
    let d := Device.unused { naturalSize := ⟨1080, 1920⟩, clipboard := some "é" }
    let sink : Sink := {}
    let sink' : Sink := { limit := some 2 }
    chunks'.flatten = chunks.flatten ∧ ∃ s s',
      Course (opened d sink true true) (chunks.map .bytes ++ [.eof]) s ∧
      Course (opened d sink' true true) (chunks'.map .bytes ++ [.eof]) s' ∧
      ∃ enough, ∀ fuel ≥ enough, ∀ pick pick',
        let after := settle (step pick) fuel s
        let after' := settle (step pick') fuel s'
        after.1.result? = some (.error (.protocol (.unknownMessageType 200))) ∧
          after.2.platform.rotation = 1 ∧ after'.2 = after.2 := by
  intro chunks chunks' d sink sink'
  have same : chunks'.flatten = chunks.flatten := rfl
  have course : Course (opened d sink true true) (chunks.map .bytes ++ [.eof]) _ :=
    (Course.start.receive _).receive _
  have course' : Course (opened d sink' true true) (chunks'.map .bytes ++ [.eof]) _ :=
    (((((Course.start.step (.begin rfl)).receive _).receive _).receive _).receive _).receive _
  refine ⟨same, _, _, course, course', ?_⟩
  obtain ⟨result, closes, enough, ends⟩ := ended_alike same d true true course course'
  have fault : Served.close (drain decode chunks.flatten) (some .eof) =
      some (.error (.protocol (.unknownMessageType 200))) := rfl
  obtain rfl := Option.some.inj (fault.symm.trans closes)
  refine ⟨enough, fun fuel far pick pick' => ?_⟩
  obtain ⟨device, alike, ⟨-, result⟩, -⟩ := ends fuel far pick pick'
  refine ⟨result rfl, ?_, alike⟩
  rw [device]
  rfl

end Screencast.ControlSession
