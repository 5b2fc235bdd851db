import Screencast.Proofs.Control.Course

/-!
A device that takes no input is never given any, and for the rest is like one that takes input and
is not asked for it. Nor are the keys of the clipboard pressed on early platforms, unless the
desktop presses them itself (`Device.gated`).
-/

namespace Screencast

/-- The message asks for input, or for another power mode. -/
def ControlMessage.needsInput : ControlMessage → Bool
  | .key _ | .typeText _ | .touch _ | .scroll _ | .backOrWake _ | .setPower _ => true
  | .openNotifications | .openSettings | .closePanels => false
  | .fetchClipboard _ | .fillClipboard _ | .rotate => false

namespace Occasion

def needsInput : Occasion → Bool
  | .message m => m.needsInput
  | .event _ => false

def typesText : Occasion → Bool
  | .message (.typeText _) => true
  | _ => false

/-- The key that the desktop presses. -/
def key? : Occasion → Option InputEvent
  | .message (.key key) => some (.key key)
  | _ => none

end Occasion

/-- The event is about a key that reads or writes the clipboard. -/
def InputEvent.isClipboardKey : InputEvent → Bool
  | .key e => e.keycode == Keycode.copy || e.keycode == Keycode.cut || e.keycode == Keycode.paste
  | .motion _ | .scroll _ => false

namespace Device

variable {d d' d'' : Device} {o : Occasion} {os : List Occasion}

/-! ### What does not pass the gates -/

theorem pressesKeys_congr (same : d'.inputSide = d.inputSide) :
    d'.pressesKeys = d.pressesKeys := by
  have level : d'.platform.apiLevel = d.platform.apiLevel := congrArg InputSide.apiLevel same
  rw [pressesKeys, pressesKeys, supportsInput_congr same, level]

theorem pressesKeys_of_unsupported (unsupported : d.supportsInput = false) :
    d.pressesKeys = false := by
  rw [pressesKeys, unsupported, Bool.false_and]

theorem pressesKeys_of_early (early : d.platform.apiLevel < ApiLevel.pasteInjection) :
    d.pressesKeys = false := by
  rw [pressesKeys, decide_eq_false (Nat.not_le.mpr early), Bool.and_false]

theorem ignores_of_unsupported (unsupported : d.supportsInput = false)
    (needs : o.needsInput = true) : d.Ignores o := by
  cases o with
  | event e => cases needs
  | message m =>
    cases m with
    | key | typeText | touch | scroll | backOrWake | setPower =>
      exact Prod.ext (if_neg (by simp [unsupported])) rfl
    | openNotifications | openSettings | closePanels | fetchClipboard | fillClipboard | rotate =>
      cases needs

theorem ignores_of_early (early : d.platform.apiLevel < ApiLevel.pasteInjection)
    (types : o.typesText = true) : d.Ignores o := by
  cases o with
  | event e => cases types
  | message m =>
    cases m with
    | typeText text =>
      have untyped : (d.typeText text).1 = d := by rw [typeText, if_pos early]
      refine Prod.ext ?_ rfl
      change (if d.supportsInput then (d.typeText text).1 else d) = d
      rw [untyped, ite_self]
    | key | touch | scroll | backOrWake | setPower | openNotifications | openSettings
    | closePanels | fetchClipboard | fillClipboard | rotate => cases types

theorem pressCopyKey_of_closed (closed : d.pressesKeys = false) (key : CopyKey) :
    d.pressCopyKey key = d :=
  if_neg (by rw [pressesKeys] at closed; simp [closed])

theorem updateClipboard_of_closed (closed : d.pressesKeys = false) (c : ClipboardUpdate) :
    d.updateClipboard c = (d.fillClipboard c.text).1 := by
  have still : (d.fillClipboard c.text).1.pressesKeys = false :=
    (pressesKeys_congr (inputSide_fillClipboard c.text)).trans closed
  rw [updateClipboard_eq, still, Bool.and_false]
  rfl

theorem wake_of_unsupported (unsupported : d.supportsInput = false) : d.wake = d :=
  if_neg (by simp [unsupported])

/-! ### A device that takes no input -/

theorem inputSide_act (e : DeviceEvent) : (e.act d).inputSide = d.inputSide := by
  cases e with
  | turn rotation => exact inputSide_turnScreen rotation
  | freeze rotation => exact inputSide_freezeScreen rotation
  | thaw | screen on => rfl
  | clipboard text => exact inputSide_appSetsClipboard text

/-- As long as no key of the clipboard is pressed, only what needs input touches it. -/
theorem inputSide_face (closed : d.pressesKeys = false) (plain : o.needsInput = false) :
    (d.face o).1.inputSide = d.inputSide := by
  cases o with
  | event e => exact inputSide_act e
  | message m =>
    cases m with
    | key | typeText | touch | scroll | backOrWake | setPower => cases plain
    | openNotifications | openSettings | closePanels => exact inputSide_showPanel _
    | fetchClipboard key => exact congrArg inputSide (pressCopyKey_of_closed closed key)
    | fillClipboard c =>
      exact (congrArg inputSide (updateClipboard_of_closed closed c)).trans
        (inputSide_fillClipboard c.text)
    | rotate => exact inputSide_rotate

theorem inputSide_meet_of_unsupported (unsupported : d.supportsInput = false) (o : Occasion) :
    (d.meet o).inputSide = d.inputSide := by
  by_cases needs : o.needsInput = true
  · exact congrArg (fun s : Device × Option DeviceMessage => s.1.inputSide)
      (ignores_of_unsupported unsupported needs)
  · exact inputSide_face (pressesKeys_of_unsupported unsupported) (eq_false_of_ne_true needs)

theorem inputSide_course_of_unsupported (unsupported : d.supportsInput = false)
    (os : List Occasion) : (d.course os).inputSide = d.inputSide := by
  refine course_invariant (I := fun now => now.inputSide = d.inputSide) ?_ rfl os
  intro now o same
  have still : now.supportsInput = false := (supportsInput_congr same).trans unsupported
  exact (inputSide_meet_of_unsupported still o).trans same

/-! ### What is there to see does not depend on input -/

theorem muted_act (e : DeviceEvent) : (e.act d).muted = e.act d.muted := by
  cases e with
  | turn rotation => exact muted_turnScreen rotation
  | freeze rotation => exact muted_freezeScreen rotation
  | thaw | screen on => rfl
  | clipboard text => exact muted_appSetsClipboard text

theorem muted_updateClipboard (c : ClipboardUpdate) :
    d.muted.updateClipboard c = (d.updateClipboard c).muted := by
  have filled : (d.fillClipboard c.text).1.muted = (d.muted.fillClipboard c.text).1 :=
    (congrArg Prod.fst (muted_fillClipboard c.text)).symm
  rw [updateClipboard_of_closed d.pressesKeys_muted, updateClipboard_eq, ← filled]
  split
  · exact (injects_pressKey (P := fun _ => True) (fun _ => trivial) _).muted.symm
  · rfl

theorem muted_face (plain : o.needsInput = false) :
    d.muted.face o = ((d.face o).1.muted, (d.face o).2) := by
  cases o with
  | event e => exact Prod.ext (muted_act e).symm rfl
  | message m =>
    cases m with
    | key | typeText | touch | scroll | backOrWake | setPower => cases plain
    | openNotifications | openSettings | closePanels =>
      exact Prod.ext (muted_showPanel _).symm rfl
    | fetchClipboard key =>
      have pressed : (d.pressCopyKey key).muted = d.muted :=
        (injects_pressCopyKey (P := fun _ => True) (fun _ => trivial) key).muted
      have unpressed : d.muted.pressCopyKey key = (d.pressCopyKey key).muted :=
        (pressCopyKey_of_closed d.pressesKeys_muted key).trans pressed.symm
      exact congrArg
        (fun d : Device => (d, d.platform.clipboard.map DeviceMessage.clipboard)) unpressed
    | fillClipboard c => exact Prod.ext (muted_updateClipboard c) rfl
    | rotate => exact Prod.ext muted_rotate.symm rfl

theorem muted_course (plain : ∀ o ∈ os, o.needsInput = false) :
    d.muted.course os = (d.course os).muted ∧ d.muted.toldOver os = d.toldOver os := by
  induction os generalizing d with
  | nil => exact ⟨rfl, rfl⟩
  | cons o os ih =>
    have faced := muted_face (d := d) (plain o List.mem_cons_self)
    have met : d.muted.meet o = (d.meet o).muted :=
      congrArg (fun s : Device × Option DeviceMessage => { s.1 with heard := [] }) faced
    have told : d.muted.toldOf o = d.toldOf o := by
      rw [toldOf, faced]
      rfl
    obtain ⟨course, rest⟩ := ih (d := d.meet o) fun o mem => plain o (List.mem_cons_of_mem _ mem)
    constructor
    · exact (congrArg (·.course os) met).trans course
    · rw [toldOver, toldOver, told, met, rest]

/-- Devices that differ in their input only are asked for the same, but not for input. -/
theorem course_alike (alike : d'.muted = d.muted) (plain : ∀ o ∈ os, o.needsInput = false) :
    (d'.course os).muted = (d.course os).muted ∧ d'.toldOver os = d.toldOver os := by
  obtain ⟨course, told⟩ := muted_course (d := d) plain
  obtain ⟨course', told'⟩ := muted_course (d := d') plain
  constructor
  · rw [← course', alike, course]
  · rw [← told', alike, told]

/-- A device that takes no input need not be asked for it. -/
theorem course_of_unsupported (unsupported : d.supportsInput = false) (settled : d.heard = [])
    (os : List Occasion) :
    d.course (os.filter (!·.needsInput)) = d.course os ∧
      d.toldOver (os.filter (!·.needsInput)) = d.toldOver os := by
  refine course_filter (I := fun now => now.supportsInput = false) ?_ ?_ unsupported settled os
  · intro now o still
    exact (supportsInput_congr (inputSide_meet_of_unsupported still o)).trans still
  · intro now o still needs
    exact ignores_of_unsupported still (by simpa using needs)

/-! ### Early platforms -/

/-- Meanwhile no keys of the clipboard were injected but these, or some of them. -/
structure Presses (keys : List InputEvent) (d d' : Device) : Prop where
  apiLevel : d'.platform.apiLevel = d.platform.apiLevel
  events : ∃ injected, d'.platform.events = d.platform.events ++ injected ∧
    (injected.filter (·.isClipboardKey)).Sublist keys

theorem Presses.of_inputSide (same : d'.inputSide = d.inputSide) : Presses [] d d' where
  apiLevel := congrArg InputSide.apiLevel same
  events := ⟨[], by rw [List.append_nil]; exact congrArg InputSide.events same, .slnil⟩

theorem Presses.of_injects (injects : Injects (·.isClipboardKey = false) d d') :
    Presses [] d d' := by
  obtain ⟨injected, after, others⟩ := injects.events
  refine ⟨injects.apiLevel, injected, after, ?_⟩
  have none : injected.filter (·.isClipboardKey) = [] := by
    rw [List.filter_eq_nil_iff]
    intro e mem
    exact ne_true_of_eq_false (others e mem)
  rw [none]

theorem Presses.trans {keys more : List InputEvent} (first : Presses keys d d')
    (second : Presses more d' d'') : Presses (keys ++ more) d d'' := by
  obtain ⟨before, start, some⟩ := first.events
  obtain ⟨after, rest, others⟩ := second.events
  refine ⟨second.apiLevel.trans first.apiLevel, before ++ after, ?_, ?_⟩
  · rw [rest, start, List.append_assoc]
  · rw [List.filter_append]
    exact some.append others

theorem Presses.still (keys : List InputEvent) (d : Device) : Presses keys d d :=
  ⟨rfl, [], (List.append_nil _).symm, List.nil_sublist keys⟩

theorem presses_inject (event : InputEvent) (mode : InjectionMode) :
    Presses [event] d (d.inject event mode).1 := by
  unfold inject
  split
  · unfold Platform.inject
    dsimp only
    split
    · exact ⟨rfl, [], (List.append_nil _).symm, List.nil_sublist _⟩
    · exact ⟨rfl, [event], rfl, List.filter_sublist⟩
  · exact .still _ d

/-- As long as a text cannot be pasted, the keys of the clipboard are left to the desktop. -/
theorem presses_face_of_early (early : d.platform.apiLevel < ApiLevel.pasteInjection)
    (o : Occasion) : Presses o.key?.toList d (d.face o).1 := by
  cases o with
  | event e => exact .of_inputSide (inputSide_act e)
  | message m =>
    have ifInput {keys : List InputEvent} {after : Device} (presses : Presses keys d after) :
        Presses keys d (if d.supportsInput then after else d) := by
      split
      · exact presses
      · exact .still keys d
    cases m with
    | key key => exact ifInput (presses_inject _ _)
    | typeText text =>
      have ignored : d.face (.message (.typeText text)) = (d, none) := ignores_of_early early rfl
      rw [ignored]
      exact .still _ d
    | touch t => exact ifInput (.of_injects (injects_touch (fun _ => rfl) t))
    | scroll s => exact ifInput (.of_injects (injects_scroll (fun _ => rfl) s))
    | backOrWake action =>
      exact ifInput (.of_injects (injects_backOrWake (fun _ => rfl) (fun _ => rfl) action))
    | setPower mode => exact ifInput (.of_injects (injects_setPowerMode _ mode))
    | openNotifications | openSettings | closePanels | fetchClipboard | fillClipboard | rotate =>
      exact .of_inputSide (inputSide_face (pressesKeys_of_early early) rfl)

theorem presses_course_of_early (early : d.platform.apiLevel < ApiLevel.pasteInjection)
    (os : List Occasion) : Presses (os.filterMap Occasion.key?) d (d.course os) := by
  induction os generalizing d with
  | nil => exact .still [] d
  | cons o os ih =>
    have met : Presses o.key?.toList d (d.meet o) :=
      ⟨(presses_face_of_early early o).apiLevel, (presses_face_of_early early o).events⟩
    have rest := ih (d := d.meet o) (by rw [met.apiLevel]; exact early)
    have keys : (o :: os).filterMap Occasion.key? =
        o.key?.toList ++ os.filterMap Occasion.key? := by
      cases key : o.key? <;> simp [key]
    rw [keys]
    exact met.trans rest

/-- Nor need it be asked to type on an early platform. -/
theorem course_of_early (early : d.platform.apiLevel < ApiLevel.pasteInjection)
    (settled : d.heard = []) (os : List Occasion) :
    d.course (os.filter (!·.typesText)) = d.course os ∧
      d.toldOver (os.filter (!·.typesText)) = d.toldOver os := by
  refine course_filter (I := fun now => now.platform.apiLevel < ApiLevel.pasteInjection)
    ?_ ?_ early settled os
  · intro now o still
    exact (presses_face_of_early still o).apiLevel.trans_lt still
  · intro now o still types
    exact ignores_of_early still (by simpa using types)

/-! ### From the start of a session -/

theorem controlled_of_unsupported (unsupported : d.supportsInput = false) (sink : Sink)
    (autosync powerOn : Bool) : d.controlled sink autosync powerOn = d.listen autosync := by
  have still : (d.listen autosync).supportsInput = false :=
    (supportsInput_congr (inputSide_listen d autosync)).trans unsupported
  rw [controlled_eq, wake_of_unsupported still, ite_self]

theorem presses_controlled (d : Device) (sink : Sink) (autosync powerOn : Bool) :
    Presses [] d (d.controlled sink autosync powerOn) :=
  (Presses.of_inputSide (inputSide_listen d autosync)).trans
    (.of_injects (injects_controlled (fun _ => rfl) d sink autosync powerOn))

/-- A device that takes no input is not given any: no event is injected, no power mode is set, and
neither is tried. What else there is to see of it, and what its session tells the desktop, is as if
another device took input in its place and was never asked for it. On an early platform the keys of
the clipboard are not injected either, unless the desktop presses them itself, and it makes no
difference if no text is typed. -/
theorem gated (d : Device) (settled : d.heard = []) (sink : Sink) (autosync powerOn : Bool)
    (os : List Occasion) :
    let first := d.controlled sink autosync powerOn
    let after := ControlSession.attended d sink autosync powerOn
    (after os).1.writer = MessageWriter.pushAll { sink } (first.toldOver os) ∧
    (d.supportsInput = false →
      (after os).2.inputSide = d.inputSide ∧
      ∀ able : Device, able.supportsInput = true → able.muted = d.muted →
        let plain := os.filter (!·.needsInput)
        let other := ControlSession.attended able sink autosync powerOn plain
        other.1 = (after os).1 ∧ other.2.muted = (after os).2.muted ∧
          (able.controlled sink autosync powerOn).toldOver plain = first.toldOver os) ∧
    (d.platform.apiLevel < ApiLevel.pasteInjection →
      (∃ injected, (after os).2.platform.events = d.platform.events ++ injected ∧
        (injected.filter (·.isClipboardKey)).Sublist (os.filterMap Occasion.key?)) ∧
      let untyped := os.filter (!·.typesText)
      after untyped = after os ∧ first.toldOver untyped = first.toldOver os) := by
  intro first after
  have begun : first.heard = [] := (heard_controlled d sink autosync powerOn).trans settled
  refine ⟨ControlSession.attended_writer .., ?_, ?_⟩
  · intro unsupported
    have same : first.inputSide = d.inputSide :=
      (congrArg inputSide (controlled_of_unsupported unsupported sink autosync powerOn)).trans
        (inputSide_listen d autosync)
    have still : first.supportsInput = false := (supportsInput_congr same).trans unsupported
    constructor
    · change (ControlSession.attended d sink autosync powerOn os).2.inputSide = _
      rw [ControlSession.attended_device]
      exact (inputSide_course_of_unsupported still os).trans same
    · intro able _ alike plain other
      have asked : ∀ o ∈ plain, o.needsInput = false := by
        intro o mem
        simpa using List.of_mem_filter mem
      have start : (able.controlled sink autosync powerOn).muted = first.muted := by
        rw [muted_controlled, muted_controlled, alike]
      obtain ⟨unasked, untold⟩ := course_of_unsupported still begun os
      obtain ⟨course, told⟩ := course_alike start asked
      dsimp only [other, after]
      rw [ControlSession.attended_eq, ControlSession.attended_eq, told.trans untold]
      exact ⟨rfl, course.trans (congrArg muted unasked), rfl⟩
  · intro early
    have presses := presses_controlled d sink autosync powerOn
    have still : first.platform.apiLevel < ApiLevel.pasteInjection :=
      presses.apiLevel.trans_lt early
    obtain ⟨course, told⟩ := course_of_early still begun os
    dsimp only [after]
    rw [ControlSession.attended_eq, ControlSession.attended_eq, course, told]
    exact ⟨(presses.trans (presses_course_of_early still os)).events, rfl, rfl⟩

/-- A second display, to which an early platform gives no input, and the main one beside it. -/
theorem gated_beside_main :
    let platform : Platform :=
      { naturalSize := ⟨1080, 1920⟩
        apiLevel := 23
        hasSecondary := true
        screenOn := false
        clipboardWatched := true }
    let main := unused platform
    let second : Device := { unused platform with displayId := 1, layerStack := 1 }
    let paste : KeyEvent := { action := Action.down, keycode := Keycode.paste }
    let os : List Occasion :=
      [.message (.key paste), .event (.clipboard "a"), .message (.typeText "b"),
        .message (.fetchClipboard .copy), .message (.fillClipboard ⟨7, true, "c"⟩)]
    let after (d : Device) := ControlSession.attended d {} true true
    second.supportsInput = false ∧ main.supportsInput = true ∧ main.muted = second.muted ∧
    (after second os).2.inputSide = second.inputSide ∧
    (after main (os.filter (!·.needsInput))).1 = (after second os).1 ∧
    (after second os).1.writer =
      MessageWriter.pushAll {} [.clipboard "a", .clipboard "a", .ack 7] ∧
    (∃ injected, (after main os).2.platform.events = injected ∧
      (injected.filter (·.isClipboardKey)).Sublist [.key paste]) ∧
    after main (os.filter (!·.typesText)) = after main os := by
  intro platform main second paste os after
  have unsupported : second.supportsInput = false := rfl
  have early : main.platform.apiLevel < ApiLevel.pasteInjection := by decide
  have told : (second.controlled {} true true).toldOver os =
      [.clipboard "a", .clipboard "a", .ack 7] := by decide
  obtain ⟨written, gate, -⟩ := gated second rfl {} true true os
  obtain ⟨untouched, alike⟩ := gate unsupported
  obtain ⟨keys, untyped, -⟩ := (gated main rfl {} true true os).2.2 early
  rw [told] at written
  exact ⟨rfl, rfl, rfl, untouched, (alike main rfl rfl).1, written, keys, untyped⟩

end Device

end Screencast
