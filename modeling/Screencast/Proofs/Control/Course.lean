import Screencast.Proofs.Control.Reading
import Screencast.Proofs.Device.Input

/-!
What comes of a device while it is controlled: the desktop asks for something, or something happens
on the device by itself, one thing after the other (`Device.course`), and the desktop is told of it
(`Device.toldOver`). The session leaves it at that (`ControlSession.course_eq`), from its beginning
on (`attended_eq`). Occasions that the device ignores can be left out (`Device.course_filter`).
-/

namespace Screencast

/-- What happens on the device apart from the session. -/
inductive DeviceEvent where
  | turn (rotation : Nat)
  | freeze (rotation : Nat)
  | thaw
  | screen (on : Bool)
  | clipboard (text : String)

def DeviceEvent.act : DeviceEvent → Device → Device
  | .turn rotation => fun d => d.turnScreen rotation
  | .freeze rotation => fun d => d.freezeScreen rotation
  | .thaw => Device.thawScreen
  | .screen on => fun d => { d with platform.screenOn := on }
  | .clipboard text => fun d => d.appSetsClipboard text

/-- What a device meets with while it is controlled. -/
inductive Occasion where
  | message (m : ControlMessage)
  | event (e : DeviceEvent)

namespace Device

variable {d : Device} {o : Occasion}

/-- The device of a session that has begun. -/
def controlled (d : Device) (sink : Sink) (autosync powerOn : Bool) : Device :=
  let s := ControlSession.opened d sink autosync powerOn
  s.1.begun s.2

/-- The device listens to its clipboard from now on, if this is wanted. -/
def listen (d : Device) (autosync : Bool) : Device :=
  if autosync then { d with listening := true } else d

theorem controlled_eq (d : Device) (sink : Sink) (autosync powerOn : Bool) :
    d.controlled sink autosync powerOn =
      if powerOn then (d.listen autosync).wake else d.listen autosync := rfl

theorem inputSide_listen (d : Device) (autosync : Bool) :
    (d.listen autosync).inputSide = d.inputSide := by
  cases autosync <;> rfl

theorem muted_listen (d : Device) (autosync : Bool) :
    (d.listen autosync).muted = d.muted.listen autosync := by
  cases autosync <;> rfl

theorem heard_listen (d : Device) (autosync : Bool) : (d.listen autosync).heard = d.heard := by
  cases autosync <;> rfl

/-- At most the power key is pressed before the first message. -/
theorem injects_controlled {P : InputEvent → Prop}
    (power : ∀ action, P (.key { action, keycode := Keycode.power })) (d : Device) (sink : Sink)
    (autosync powerOn : Bool) :
    Injects P (d.listen autosync) (d.controlled sink autosync powerOn) := by
  rw [controlled_eq]
  split
  · exact injects_wake power
  · exact .refl _ _

theorem muted_controlled (d : Device) (sink : Sink) (autosync powerOn : Bool) :
    (d.controlled sink autosync powerOn).muted = d.muted.listen autosync := by
  have woken : Injects (fun _ => True) _ _ :=
    injects_controlled (fun _ => trivial) d sink autosync powerOn
  exact woken.muted.trans (muted_listen d autosync)

theorem heard_controlled (d : Device) (sink : Sink) (autosync powerOn : Bool) :
    (d.controlled sink autosync powerOn).heard = d.heard :=
  (congrArg heard (muted_controlled d sink autosync powerOn)).trans (heard_listen d.muted autosync)

/-- What the device does, and answers if it was asked. -/
def face (d : Device) : Occasion → Device × Option DeviceMessage
  | .message m => d.handle m
  | .event e => (e.act d, none)

/-- What an occasion has done once its news are passed on. -/
def meet (d : Device) (o : Occasion) : Device := { (d.face o).1 with heard := [] }

/-- What the desktop is told on an occasion. -/
def toldOf (d : Device) (o : Occasion) : List DeviceMessage :=
  (d.face o).1.heard.map .clipboard ++ (d.face o).2.toList

/-- One occasion after the other. -/
def course (d : Device) (os : List Occasion) : Device := os.foldl meet d

/-- What the desktop is told in the course of some occasions. -/
def toldOver (d : Device) : List Occasion → List DeviceMessage
  | [] => []
  | o :: os => d.toldOf o ++ (d.meet o).toldOver os

/-- The texts that are heard in the course of some occasions. -/
def heardOver (d : Device) : List Occasion → List String
  | [] => []
  | o :: os => (d.face o).1.heard ++ (d.meet o).heardOver os

theorem course_append (d : Device) (os more : List Occasion) :
    d.course (os ++ more) = (d.course os).course more :=
  List.foldl_append

/-- What every occasion preserves holds in the end. -/
theorem course_invariant {I : Device → Prop} (meets : ∀ d o, I d → I (d.meet o)) (start : I d)
    (os : List Occasion) : I (d.course os) := by
  induction os generalizing d with
  | nil => exact start
  | cons o os ih => exact ih (meets d o start)

/-- Nothing comes of it. -/
def Ignores (d : Device) (o : Occasion) : Prop := d.face o = (d, none)

theorem Ignores.meet_eq (ignores : d.Ignores o) (settled : d.heard = []) : d.meet o = d := by
  calc d.meet o = { d with heard := [] } := by rw [meet, ignores]
    _ = d := by rw [← settled]

theorem Ignores.toldOf_eq (ignores : d.Ignores o) (settled : d.heard = []) : d.toldOf o = [] := by
  rw [toldOf, ignores, settled]
  rfl

/-- What is ignored whenever it comes can be left out. -/
theorem course_filter {I : Device → Prop} {keep : Occasion → Bool}
    (meets : ∀ d o, I d → I (d.meet o)) (ignores : ∀ d o, I d → keep o = false → d.Ignores o)
    (start : I d) (settled : d.heard = []) (os : List Occasion) :
    d.course (os.filter keep) = d.course os ∧ d.toldOver (os.filter keep) = d.toldOver os := by
  induction os generalizing d with
  | nil => exact ⟨rfl, rfl⟩
  | cons o os ih =>
    by_cases kept : keep o = true
    · obtain ⟨course, told⟩ := ih (meets d o start) rfl
      rw [List.filter_cons_of_pos kept]
      exact ⟨course, congrArg (d.toldOf o ++ ·) told⟩
    · have ignored := ignores d o start (eq_false_of_ne_true kept)
      have same := ignored.meet_eq settled
      obtain ⟨course, told⟩ := ih start settled
      rw [List.filter_cons_of_neg kept]
      refine ⟨course.trans (congrArg (·.course os) same).symm, told.trans ?_⟩
      rw [toldOver, ignored.toldOf_eq settled, same, List.nil_append]

end Device

namespace ControlSession

/-- The session carries out a message, or passes on what the device has heard of an event. -/
def meet (s : ControlSession × Device) : Occasion → ControlSession × Device
  | .message m => s.1.carryOut s.2 m
  | .event e => s.1.passOn (e.act s.2)

variable {c : ControlSession} {d : Device}

theorem meet_eq (c : ControlSession) (d : Device) (o : Occasion) :
    meet (c, d) o = ({ c with writer := c.writer.pushAll (d.toldOf o) }, d.meet o) := by
  cases o with
  | message m => exact carryOut_eq c d m
  | event e =>
    refine (passOn_eq c (e.act d)).trans ?_
    rw [Device.toldOf, Device.face, Option.toList_none, List.append_nil]
    rfl

/-- All that the session does in the course of some occasions. -/
theorem course_eq (c : ControlSession) (d : Device) (os : List Occasion) :
    os.foldl meet (c, d) =
      ({ c with writer := c.writer.pushAll (d.toldOver os) }, d.course os) := by
  induction os generalizing c d with
  | nil => rfl
  | cons o os ih =>
    rw [List.foldl_cons, meet_eq, ih]
    refine Prod.ext ?_ rfl
    simp only [Device.toldOver, MessageWriter.pushAll, List.foldl_append]

/-- A session that has begun, after some occasions. -/
def attended (d : Device) (sink : Sink) (autosync powerOn : Bool) (os : List Occasion) :
    ControlSession × Device :=
  os.foldl meet ((opened d sink autosync powerOn).1, d.controlled sink autosync powerOn)

theorem attended_eq (d : Device) (sink : Sink) (autosync powerOn : Bool) (os : List Occasion) :
    let first := d.controlled sink autosync powerOn
    attended d sink autosync powerOn os =
      ({ (opened d sink autosync powerOn).1 with
          writer := MessageWriter.pushAll { sink } (first.toldOver os) }, first.course os) :=
  course_eq ..

/-- All that the desktop is told goes through the writer. -/
theorem attended_writer (d : Device) (sink : Sink) (autosync powerOn : Bool) (os : List Occasion) :
    (attended d sink autosync powerOn os).1.writer =
      MessageWriter.pushAll { sink } ((d.controlled sink autosync powerOn).toldOver os) := by
  rw [attended_eq]

theorem attended_device (d : Device) (sink : Sink) (autosync powerOn : Bool) (os : List Occasion) :
    (attended d sink autosync powerOn os).2 = (d.controlled sink autosync powerOn).course os := by
  rw [attended_eq]

end ControlSession

end Screencast
