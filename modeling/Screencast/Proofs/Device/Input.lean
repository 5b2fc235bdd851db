import Mathlib.Tactic.Common
import Screencast.Control.Handling

/-!
The two sides of a device: its input, and all the rest. What injects input leaves the rest alone
(`Injects`), and what is done to the rest neither touches the input (`inputSide_setText` and the
like) nor depends on it (`muted_setText` and the like).
-/

namespace Screencast

/-- The call injects input or sets the power mode, or tries to. -/
def PlatformCall.isInput : PlatformCall → Bool
  | .inject .. | .setPowerMode _ => true
  | _ => false

/-- The call sets the clipboard, shows a panel or turns the screen. -/
def PlatformCall.isShown : PlatformCall → Bool
  | .setText _ | .panel _ | .freezeRotation _ | .thawRotation => true
  | _ => false

/-- All that input leaves alone. -/
def Platform.muted (p : Platform) : Platform :=
  { p with
    apiLevel := 0
    events := []
    powerModes := []
    calls := p.calls.filter (·.isShown)
    script := { p.script with inject := [], setPowerMode := [] } }

/-- What is known of the input of a device: where it goes, and what was injected, set or tried. -/
structure InputSide where
  displayId : Nat
  apiLevel : Nat
  events : List InputEvent
  powerModes : List UInt8
  calls : List PlatformCall
deriving DecidableEq

/-- What hearing of the clipboard depends on. -/
structure ClipboardSide where
  clipboard : Option String
  watched : Bool
  listening : Bool
  setting : Bool
  heard : List String
  /-- Which texts the platform will refuse. -/
  refusals : List (Option Unit)
deriving DecidableEq

namespace Device

/-- The device on a platform that takes no input, wherever it is and whatever was injected. -/
def muted (d : Device) : Device :=
  { d with displayId := 1, layerStack := 0, platform := d.platform.muted }

def inputSide (d : Device) : InputSide :=
  { displayId := d.displayId
    apiLevel := d.platform.apiLevel
    events := d.platform.events
    powerModes := d.platform.powerModes
    calls := d.platform.calls.filter (·.isInput) }

def clipboardSide (d : Device) : ClipboardSide :=
  { clipboard := d.platform.clipboard
    watched := d.platform.clipboardWatched
    listening := d.listening
    setting := d.settingClipboard
    heard := d.heard
    refusals := d.platform.script.setText }

/-- The session may press the keys of the clipboard on its own account. -/
def pressesKeys (d : Device) : Bool :=
  d.supportsInput && d.platform.apiLevel ≥ ApiLevel.pasteInjection

variable {d d' d'' : Device} {P : InputEvent → Prop}

theorem pressesKeys_muted (d : Device) : d.muted.pressesKeys = false := rfl

theorem supportsInput_congr (same : d'.inputSide = d.inputSide) :
    d'.supportsInput = d.supportsInput := by
  have display : d'.displayId = d.displayId := congrArg InputSide.displayId same
  have level : d'.platform.apiLevel = d.platform.apiLevel := congrArg InputSide.apiLevel same
  rw [supportsInput, supportsInput, display, level]

theorem clipboardSide_muted (d : Device) : d.muted.clipboardSide = d.clipboardSide := rfl

/-! ### What injects input -/

/-- Nothing happens but that some events are injected, or not accepted, all of them of one kind. -/
structure Injects (P : InputEvent → Prop) (d d' : Device) : Prop where
  muted : d'.muted = d.muted
  displayId : d'.displayId = d.displayId
  apiLevel : d'.platform.apiLevel = d.platform.apiLevel
  events : ∃ injected, d'.platform.events = d.platform.events ++ injected ∧ ∀ e ∈ injected, P e

theorem Injects.refl (P : InputEvent → Prop) (d : Device) : Injects P d d :=
  ⟨rfl, rfl, rfl, [], (List.append_nil _).symm, nofun⟩

theorem Injects.trans (first : Injects P d d') (second : Injects P d' d'') : Injects P d d'' := by
  obtain ⟨some, before, permitted⟩ := first.events
  obtain ⟨more, after, permittedMore⟩ := second.events
  refine ⟨second.muted.trans first.muted, second.displayId.trans first.displayId,
    second.apiLevel.trans first.apiLevel, some ++ more, ?_, ?_⟩
  · rw [after, before, List.append_assoc]
  · rw [List.forall_mem_append]
    exact ⟨permitted, permittedMore⟩

theorem Injects.clipboardSide (injects : Injects P d d') : d'.clipboardSide = d.clipboardSide := by
  rw [← clipboardSide_muted, injects.muted, clipboardSide_muted]

theorem injects_inject {event : InputEvent} (permitted : P event) (mode : InjectionMode) :
    Injects P d (d.inject event mode).1 := by
  unfold inject
  split
  · have one : ∀ e ∈ [event], P e := by simpa using permitted
    unfold Platform.inject
    dsimp only
    split
    · exact ⟨by simp [Device.muted, Platform.muted, Platform.record, PlatformCall.isShown],
        rfl, rfl, [], (List.append_nil _).symm, nofun⟩
    · exact ⟨by simp [Device.muted, Platform.muted, Platform.record, PlatformCall.isShown],
        rfl, rfl, [event], rfl, one⟩
  · exact .refl P d

theorem injects_pressKey {keycode : UInt32} (permitted : ∀ action, P (.key { action, keycode }))
    (mode : InjectionMode) : Injects P d (d.pressKey keycode mode).1 := by
  have pressed : Injects P d (d.inject (.key { action := Action.down, keycode }) .async).1 :=
    injects_inject (permitted _) _
  unfold pressKey
  split <;> rename_i now taken <;> rw [taken] at pressed
  · exact pressed
  · exact pressed.trans (injects_inject (permitted _) mode)

theorem injects_touch (permitted : ∀ e, P (.motion e)) (t : Touch) : Injects P d (d.touch t) := by
  unfold touch
  split
  · exact .refl P d
  · exact injects_inject (permitted _) _

theorem injects_scroll (permitted : ∀ e, P (.scroll e)) (s : Scroll) :
    Injects P d (d.scroll s) := by
  unfold scroll
  split
  · exact .refl P d
  · exact injects_inject (permitted _) _

theorem injects_backOrWake (back : ∀ action, P (.key { action, keycode := Keycode.back }))
    (power : ∀ action, P (.key { action, keycode := Keycode.power })) (action : UInt8) :
    Injects P d (d.backOrWake action) := by
  unfold backOrWake
  split
  · exact injects_inject (back _) _
  · split
    · exact injects_pressKey power _
    · exact .refl P d

theorem injects_wake (power : ∀ action, P (.key { action, keycode := Keycode.power })) :
    Injects P d d.wake := by
  unfold wake
  split
  · exact injects_pressKey power _
  · exact .refl P d

theorem injects_pressCopyKey (permitted : ∀ e, P (.key e)) (key : CopyKey) :
    Injects P d (d.pressCopyKey key) := by
  unfold pressCopyKey
  split
  · cases key with
    | none => exact .refl P d
    | copy | cut => exact injects_pressKey (fun _ => permitted _) _
  · exact .refl P d

theorem injects_setPowerMode (P : InputEvent → Prop) (mode : UInt8) :
    Injects P d (d.setPowerMode mode).1 := by
  have changed : (d.setPowerMode mode).1 =
      { d with platform := (d.platform.setPowerMode mode).1 } := by
    unfold setPowerMode
    split <;> rename_i platform set <;> rw [set]
  rw [changed]
  unfold Platform.setPowerMode
  dsimp only
  split <;>
    exact ⟨by simp [Device.muted, Platform.muted, Platform.record, PlatformCall.isShown],
      rfl, rfl, [], (List.append_nil _).symm, nofun⟩

/-! ### What turns the screen or shows a panel -/

theorem inputSide_turnScreen (rotation : Nat) :
    (d.turnScreen rotation).inputSide = d.inputSide := by
  unfold turnScreen
  dsimp only
  split <;> rfl

theorem muted_turnScreen (rotation : Nat) :
    (d.turnScreen rotation).muted = d.muted.turnScreen rotation := by
  unfold turnScreen
  dsimp only [muted, Platform.muted, Platform.turn]
  split <;> rfl

theorem clipboardSide_turnScreen (rotation : Nat) :
    (d.turnScreen rotation).clipboardSide = d.clipboardSide := by
  unfold turnScreen
  dsimp only
  split <;> rfl

theorem inputSide_freezeScreen (rotation : Nat) :
    (d.freezeScreen rotation).inputSide = d.inputSide := by
  unfold freezeScreen
  dsimp only
  split
  · exact inputSide_turnScreen rotation
  · rfl

theorem muted_freezeScreen (rotation : Nat) :
    (d.freezeScreen rotation).muted = d.muted.freezeScreen rotation := by
  unfold freezeScreen
  dsimp only [muted, Platform.muted, Platform.freeze]
  split
  · exact muted_turnScreen rotation
  · rfl

theorem clipboardSide_freezeScreen (rotation : Nat) :
    (d.freezeScreen rotation).clipboardSide = d.clipboardSide := by
  unfold freezeScreen
  dsimp only
  split
  · exact clipboardSide_turnScreen rotation
  · rfl

/-- The platform takes note of a call. -/
def note (d : Device) (call : PlatformCall) : Device :=
  { d with platform := d.platform.record call }

theorem inputSide_note (d : Device) (call : PlatformCall) (other : call.isInput = false) :
    (d.note call).inputSide = d.inputSide := by
  simp [note, inputSide, Platform.record, other]

theorem muted_note (d : Device) (call : PlatformCall) (shown : call.isShown = true) :
    (d.note call).muted = d.muted.note call := by
  simp [note, muted, Platform.muted, Platform.record, shown]

/-- The screen as it is while it turns on request. -/
def flip (d : Device) : Device :=
  let rotation := if d.platform.rotation % 2 = 0 then 1 else 0
  (d.note (.freezeRotation rotation)).freezeScreen rotation

theorem rotate_eq (d : Device) :
    d.rotate = if d.platform.isFrozen then d.flip else (d.flip.note .thawRotation).thawScreen := rfl

theorem inputSide_rotate : d.rotate.inputSide = d.inputSide := by
  have flipped : d.flip.inputSide = d.inputSide :=
    (inputSide_freezeScreen _).trans (inputSide_note d _ rfl)
  rw [rotate_eq]
  split
  · exact flipped
  · exact (inputSide_note d.flip .thawRotation rfl).trans flipped

theorem muted_rotate : d.rotate.muted = d.muted.rotate := by
  have flipped : d.flip.muted = d.muted.flip := by
    unfold flip
    dsimp only
    rw [muted_freezeScreen, muted_note d _ rfl]
    rfl
  have frozen : d.muted.platform.isFrozen = d.platform.isFrozen := rfl
  rw [rotate_eq, rotate_eq, frozen, ← flipped]
  split
  · rfl
  · exact congrArg thawScreen (muted_note d.flip .thawRotation rfl)

theorem clipboardSide_rotate : d.rotate.clipboardSide = d.clipboardSide := by
  have flipped : d.flip.clipboardSide = d.clipboardSide := clipboardSide_freezeScreen _
  rw [rotate_eq]
  split
  · exact flipped
  · exact flipped

theorem inputSide_showPanel (panel : Panel) : (d.showPanel panel).inputSide = d.inputSide :=
  inputSide_note d (.panel panel) rfl

theorem muted_showPanel (panel : Panel) :
    (d.showPanel panel).muted = d.muted.showPanel panel := by
  simp [showPanel, Platform.showPanel, muted, Platform.muted, Platform.record,
    PlatformCall.isShown]

/-! ### The clipboard -/

/-- What the device hears if its clipboard has just changed. -/
def news (d : Device) : List String :=
  if d.platform.clipboardWatched && d.listening && !d.settingClipboard
  then d.platform.clipboard.toList else []

theorem clipboardChanged_eq (d : Device) :
    d.clipboardChanged = { d with heard := d.heard ++ d.news } := by
  have unheard (none : d.news = []) : d = { d with heard := d.heard ++ d.news } := by
    rw [none, List.append_nil]
  unfold clipboardChanged hearClipboard
  split
  · rename_i watched
    split
    · rename_i deaf
      refine unheard (if_neg ?_)
      grind
    · rename_i hears
      have news : d.news = d.platform.clipboard.toList := by
        refine if_pos ?_
        grind
      rw [news]
  · rename_i unwatched
    exact unheard (if_neg (by simp [unwatched]))

theorem appSetsClipboard_eq (d : Device) (text : String) :
    d.appSetsClipboard text =
      { d with
        platform := d.platform.fillClipboard text
        heard := d.heard ++ { d with platform := d.platform.fillClipboard text }.news } :=
  clipboardChanged_eq _

theorem inputSide_appSetsClipboard (text : String) :
    (d.appSetsClipboard text).inputSide = d.inputSide := by
  rw [appSetsClipboard_eq]
  rfl

theorem muted_appSetsClipboard (text : String) :
    (d.appSetsClipboard text).muted = d.muted.appSetsClipboard text := by
  rw [appSetsClipboard_eq, appSetsClipboard_eq]
  rfl

/-- The platform will take the next text. -/
def takesText (d : Device) : Bool := (nextOutcome d.platform.script.setText).1.isNone

/-- The platform was asked to take a text. -/
def asked (d : Device) (text : String) : Device :=
  let d := d.note (.setText text)
  { d with platform.script.setText := (nextOutcome d.platform.script.setText).2 }

theorem setText_eq (d : Device) (text : String) :
    d.setText text =
      if d.takesText then ((d.asked text).appSetsClipboard text, true)
      else (d.asked text, false) := by
  unfold setText Platform.setText takesText
  dsimp only [asked, note, Platform.record]
  cases nextOutcome d.platform.script.setText with
  | mk refusal rest =>
    cases refusal with
    | none => rfl
    | some => rfl

theorem inputSide_setText (text : String) : (d.setText text).1.inputSide = d.inputSide := by
  have asked : (d.asked text).inputSide = d.inputSide :=
    inputSide_note d (.setText text) rfl
  rw [setText_eq]
  split
  · exact (inputSide_appSetsClipboard text).trans asked
  · exact asked

theorem muted_setText (text : String) :
    d.muted.setText text = ((d.setText text).1.muted, (d.setText text).2) := by
  have asked : (d.asked text).muted = d.muted.asked text := by
    simp [Device.asked, note, muted, Platform.muted, Platform.record, PlatformCall.isShown]
  have takes : d.muted.takesText = d.takesText := rfl
  rw [setText_eq, setText_eq, takes, ← asked]
  split
  · exact Prod.ext (muted_appSetsClipboard text).symm rfl
  · rfl

theorem inputSide_fillClipboard (text : String) :
    (d.fillClipboard text).1.inputSide = d.inputSide :=
  inputSide_setText (d := { d with settingClipboard := true }) text

theorem muted_fillClipboard (text : String) :
    d.muted.fillClipboard text = ((d.fillClipboard text).1.muted, (d.fillClipboard text).2) := by
  have set := muted_setText (d := { d with settingClipboard := true }) text
  exact congrArg
    (fun s : Device × Bool => ({ s.1 with settingClipboard := false }, s.2)) set

/-- The paste key is pressed once the text is taken, if this is asked for and can be done. -/
theorem updateClipboard_eq (d : Device) (c : ClipboardUpdate) :
    d.updateClipboard c =
      if (d.fillClipboard c.text).2 && c.paste && (d.fillClipboard c.text).1.pressesKeys then
        ((d.fillClipboard c.text).1.pressKey Keycode.paste .async).1
      else (d.fillClipboard c.text).1 := by
  unfold updateClipboard pressesKeys
  cases d.fillClipboard c.text with
  | mk after taken =>
    cases taken with
    | false => rfl
    | true => simp [Bool.and_assoc]

end Device

end Screencast
