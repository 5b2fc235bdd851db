import Screencast.Proofs.Control.Course

/-!
A session that listens to the clipboard hears what the apps make of it, all of it and in order, and
nothing of what it does to the clipboard itself. When it has typed a text, the clipboard is as it
was before (`Device.heardOver_controlled`).
-/

namespace Screencast

/-- The text that an app sets the clipboard to. -/
def Occasion.appText? : Occasion → Option String
  | .event (.clipboard text) => some text
  | _ => none

/-- The platform tells of changes of the clipboard, and takes every text. -/
structure Platform.Obliging (p : Platform) : Prop where
  watchClipboard : ∀ outcome ∈ p.script.watchClipboard, outcome = none
  setText : ∀ outcome ∈ p.script.setText, outcome = none

namespace ClipboardSide

variable {c c' c'' : ClipboardSide}

/-- Every text will be taken. -/
def Obliging (c : ClipboardSide) : Prop := ∀ refusal ∈ c.refusals, refusal = none

/-- The next change that an app makes will be heard, and no other. -/
structure Attentive (c : ClipboardSide) : Prop where
  watched : c.watched = true
  listening : c.listening = true
  unset : c.setting = false
  obliging : c.Obliging

/-- Nothing was heard meanwhile, whatever became of the clipboard. -/
structure Unheard (c c' : ClipboardSide) : Prop where
  watched : c'.watched = c.watched
  listening : c'.listening = c.listening
  setting : c'.setting = c.setting
  heard : c'.heard = c.heard
  obliging : c.Obliging → c'.Obliging

theorem Unheard.refl (c : ClipboardSide) : Unheard c c := ⟨rfl, rfl, rfl, rfl, id⟩

theorem Unheard.of_eq (same : c' = c) : Unheard c c' := by
  rw [same]
  exact .refl c

theorem Unheard.trans (first : Unheard c c') (second : Unheard c' c'') : Unheard c c'' where
  watched := second.watched.trans first.watched
  listening := second.listening.trans first.listening
  setting := second.setting.trans first.setting
  heard := second.heard.trans first.heard
  obliging := second.obliging ∘ first.obliging

theorem Unheard.attentive (unheard : Unheard c c') (attentive : c.Attentive) : c'.Attentive where
  watched := unheard.watched.trans attentive.watched
  listening := unheard.listening.trans attentive.listening
  unset := unheard.setting.trans attentive.unset
  obliging := unheard.obliging attentive.obliging

end ClipboardSide

namespace Device

open ClipboardSide (Unheard)

variable {d : Device}

/-! ### What the session does to the clipboard -/

/-- While the session sets the clipboard, a text is taken and not heard. -/
theorem setText_unheard (setting : d.settingClipboard = true) (obliging : d.clipboardSide.Obliging)
    (text : String) :
    (d.setText text).2 = true ∧ Unheard d.clipboardSide (d.setText text).1.clipboardSide ∧
      (d.setText text).1.platform.clipboard = some text := by
  obtain ⟨next, rest⟩ := nextOutcome_of_none obliging
  have takes : d.takesText = true := congrArg Option.isNone next
  have unheard : { d.asked text with
      platform := (d.asked text).platform.fillClipboard text }.news = [] :=
    if_neg (by simp [asked, note, setting])
  rw [setText_eq, if_pos takes, appSetsClipboard_eq, unheard, List.append_nil]
  exact ⟨rfl, ⟨rfl, rfl, rfl, rfl, fun _ => rest⟩, rfl⟩

/-- What is done quietly is not heard. -/
theorem quietly_unheard {α : Type} {change : Device → Device × α}
    (unset : d.settingClipboard = false)
    (changes : Unheard { d with settingClipboard := true }.clipboardSide
      (change { d with settingClipboard := true }).1.clipboardSide) :
    Unheard d.clipboardSide (d.quietly change).1.clipboardSide where
  watched := changes.watched
  listening := changes.listening
  setting := unset.symm
  heard := changes.heard
  obliging := changes.obliging

theorem fillClipboard_unheard (attentive : d.clipboardSide.Attentive) (text : String) :
    Unheard d.clipboardSide (d.fillClipboard text).1.clipboardSide :=
  quietly_unheard attentive.unset
    (setText_unheard (d := { d with settingClipboard := true }) rfl attentive.obliging text).2.1

theorem pasteText_unheard (setting : d.settingClipboard = true)
    (obliging : d.clipboardSide.Obliging) (text : String) :
    Unheard d.clipboardSide (d.pasteText text).1.clipboardSide := by
  obtain ⟨taken, unheard, -⟩ := setText_unheard setting obliging text
  have pasted : d.pasteText text =
      (d.setText text).1.pressKey Keycode.paste .waitForResult := by
    unfold pasteText
    split <;> rename_i after set <;> rw [set] at taken ⊢
    cases taken
  have pressed : Injects (fun _ => True) (d.setText text).1 (d.pasteText text).1 := by
    rw [pasted]
    exact injects_pressKey (fun _ => trivial) _
  exact unheard.trans (.of_eq pressed.clipboardSide)

/-- The text that was there before is put back. -/
def putBack (d : Device) : Option String → Device
  | some text => (d.setText text).1
  | none => d

theorem typeText_eq (d : Device) (text : String) :
    d.typeText text =
      if d.platform.apiLevel < ApiLevel.pasteInjection then (d, false)
      else d.quietly fun quiet =>
        ((quiet.pasteText text).1.putBack d.platform.clipboard, (quiet.pasteText text).2) := by
  unfold typeText putBack
  cases d.platform.clipboard with
  | none => rfl
  | some kept => rfl

/-- Typing a text is not heard, and leaves the clipboard as it was if it held a text before. -/
theorem typeText_unheard (attentive : d.clipboardSide.Attentive) (text : String) :
    Unheard d.clipboardSide (d.typeText text).1.clipboardSide ∧
      ∀ kept, d.platform.clipboard = some kept →
        (d.typeText text).1.platform.clipboard = some kept := by
  have pasted := pasteText_unheard (d := { d with settingClipboard := true }) rfl
    attentive.obliging text
  generalize pastes : { d with settingClipboard := true }.pasteText text = paste at pasted
  have setting : paste.1.settingClipboard = true := pasted.setting
  have obliging : paste.1.clipboardSide.Obliging := pasted.obliging attentive.obliging
  rw [typeText_eq]
  split
  · exact ⟨.refl _, fun _ held => held⟩
  · constructor
    · apply quietly_unheard attentive.unset
      dsimp only
      rw [pastes]
      cases d.platform.clipboard with
      | none => exact pasted
      | some kept => exact pasted.trans (setText_unheard setting obliging kept).2.1
    · intro kept held
      dsimp only [quietly]
      rw [pastes, held]
      exact (setText_unheard setting obliging kept).2.2

/-! ### What is heard on an occasion -/

theorem handle_unheard (attentive : d.clipboardSide.Attentive) (m : ControlMessage) :
    Unheard d.clipboardSide (d.handle m).1.clipboardSide := by
  have ifInput {after : Device} (unheard : Unheard d.clipboardSide after.clipboardSide) :
      Unheard d.clipboardSide (if d.supportsInput then after else d).clipboardSide := by
    split
    · exact unheard
    · exact .refl _
  have input {after : Device} (injects : Injects (fun _ => True) d after) :
      Unheard d.clipboardSide after.clipboardSide := .of_eq injects.clipboardSide
  cases m with
  | key key => exact ifInput (input (injects_inject trivial _))
  | typeText text => exact ifInput (typeText_unheard attentive text).1
  | touch t => exact ifInput (input (injects_touch (fun _ => trivial) t))
  | scroll s => exact ifInput (input (injects_scroll (fun _ => trivial) s))
  | backOrWake action =>
    exact ifInput (input (injects_backOrWake (fun _ => trivial) (fun _ => trivial) action))
  | openNotifications | openSettings | closePanels => exact .refl _
  | fetchClipboard key => exact input (injects_pressCopyKey (fun _ => trivial) key)
  | fillClipboard c =>
    have filled := fillClipboard_unheard attentive c.text
    change Unheard _ (d.updateClipboard c).clipboardSide
    rw [updateClipboard_eq]
    split
    · have pressed : Injects (fun _ => True) (d.fillClipboard c.text).1
          ((d.fillClipboard c.text).1.pressKey Keycode.paste .async).1 :=
        injects_pressKey (fun _ => trivial) _
      exact filled.trans (.of_eq pressed.clipboardSide)
    · exact filled
  | setPower mode => exact ifInput (input (injects_setPowerMode _ mode))
  | rotate => exact .of_eq clipboardSide_rotate

theorem clipboardSide_appSetsClipboard (attentive : d.clipboardSide.Attentive)
    (settled : d.heard = []) (text : String) :
    (d.appSetsClipboard text).clipboardSide =
      { d.clipboardSide with clipboard := some text, heard := [text] } := by
  have watched : d.platform.clipboardWatched = true := attentive.watched
  have listening : d.listening = true := attentive.listening
  have unset : d.settingClipboard = false := attentive.unset
  have news : { d with platform := d.platform.fillClipboard text }.news = [text] :=
    if_pos (by simp [Platform.fillClipboard, watched, listening, unset])
  rw [appSetsClipboard_eq, news, settled]
  rfl

/-- Of an event on the device, what an app sets the clipboard to is heard. -/
theorem act_heard (attentive : d.clipboardSide.Attentive) (settled : d.heard = [])
    (e : DeviceEvent) :
    (e.act d).clipboardSide.Attentive ∧
      (e.act d).heard = (Occasion.event e).appText?.toList := by
  have aside {after : Device} (same : after.clipboardSide = d.clipboardSide) :
      after.clipboardSide.Attentive ∧ after.heard = [] :=
    ⟨same ▸ attentive, (congrArg ClipboardSide.heard same).trans settled⟩
  cases e with
  | turn rotation => exact aside (clipboardSide_turnScreen rotation)
  | freeze rotation => exact aside (clipboardSide_freezeScreen rotation)
  | thaw | screen on => exact aside rfl
  | clipboard text =>
    have set := clipboardSide_appSetsClipboard attentive settled text
    change (d.appSetsClipboard text).clipboardSide.Attentive ∧ _
    rw [set]
    obtain ⟨watched, listening, unset, obliging⟩ := attentive
    exact ⟨⟨watched, listening, unset, obliging⟩, congrArg ClipboardSide.heard set⟩

theorem face_heard (attentive : d.clipboardSide.Attentive) (settled : d.heard = [])
    (o : Occasion) :
    (d.face o).1.clipboardSide.Attentive ∧ (d.face o).1.heard = o.appText?.toList := by
  cases o with
  | event e => exact act_heard attentive settled e
  | message m =>
    have unheard := handle_unheard attentive m
    exact ⟨unheard.attentive attentive, unheard.heard.trans settled⟩

/-- An occasion leaves the session as attentive as it was. -/
theorem attentive_meet (attentive : d.clipboardSide.Attentive) (settled : d.heard = [])
    (o : Occasion) : (d.meet o).clipboardSide.Attentive := by
  obtain ⟨watched, listening, unset, obliging⟩ := (face_heard attentive settled o).1
  exact ⟨watched, listening, unset, obliging⟩

theorem attentive_course (attentive : d.clipboardSide.Attentive) (settled : d.heard = [])
    (os : List Occasion) : (d.course os).clipboardSide.Attentive := by
  have both : (d.course os).clipboardSide.Attentive ∧ (d.course os).heard = [] := by
    refine course_invariant (I := fun now => now.clipboardSide.Attentive ∧ now.heard = [])
      ?_ ⟨attentive, settled⟩ os
    rintro now o ⟨still, settled⟩
    exact ⟨attentive_meet still settled o, rfl⟩
  exact both.1

theorem heardOver_of_attentive (attentive : d.clipboardSide.Attentive) (settled : d.heard = [])
    (os : List Occasion) : d.heardOver os = os.filterMap Occasion.appText? := by
  induction os generalizing d with
  | nil => rfl
  | cons o os ih =>
    have rest := ih (attentive_meet attentive settled o) rfl
    rw [heardOver, (face_heard attentive settled o).2, rest]
    cases text : o.appText? with
    | none => rw [List.filterMap_cons_none text]; rfl
    | some app => rw [List.filterMap_cons_some text]; rfl

/-- A text was in the clipboard, and is in it again when another one was typed. -/
theorem clipboard_meet_typeText (attentive : d.clipboardSide.Attentive) {kept : String}
    (held : d.platform.clipboard = some kept) (text : String) :
    (d.meet (.message (.typeText text))).platform.clipboard = some kept := by
  change (if d.supportsInput then (d.typeText text).1 else d).platform.clipboard = some kept
  split
  · exact (typeText_unheard attentive text).2 kept held
  · exact held

/-! ### From the start of a session -/

theorem script_watchRotation (p : Platform) (id : Nat) :
    (p.watchRotation id).1.script.watchClipboard = p.script.watchClipboard ∧
      (p.watchRotation id).1.script.setText = p.script.setText := by
  unfold Platform.watchRotation
  dsimp only
  split <;> exact ⟨rfl, rfl⟩

theorem watchClipboard_of_obliging {p : Platform} (obliging : p.Obliging) :
    p.watchClipboard.1.clipboardWatched = true ∧
      p.watchClipboard.1.script.setText = p.script.setText := by
  have next : (nextOutcome (p.record .watchClipboard).script.watchClipboard).1 = none :=
    (nextOutcome_of_none obliging.watchClipboard).1
  unfold Platform.watchClipboard
  dsimp only
  split <;> rename_i outcome
  · rw [outcome] at next
    cases next
  · exact ⟨rfl, rfl⟩

theorem attentive_create {options : Options} {platform : Platform}
    (created : (create options platform).2 = .ok d) (control : options.control = true)
    (autosync : options.clipboardAutosync = true) (obliging : platform.Obliging) :
    (d.listen options.clipboardAutosync).clipboardSide.Attentive ∧ d.heard = [] := by
  have scripts := script_watchRotation platform options.displayId
  unfold create at created
  split at created
  · cases created
  · split at created <;> rename_i p watched
    · cases created
    · rw [watched] at scripts
      have obliging : p.Obliging :=
        ⟨scripts.1 ▸ obliging.watchClipboard, scripts.2 ▸ obliging.setText⟩
      obtain ⟨clipboard, script⟩ := watchClipboard_of_obliging obliging
      have takes : ∀ outcome ∈ p.watchClipboard.1.script.setText, outcome = none := by
        rw [script]
        exact obliging.setText
      rw [control, autosync] at created
      cases created
      rw [autosync]
      exact ⟨⟨clipboard, rfl, rfl, takes⟩, rfl⟩

/-- On a platform that tells of changes of the clipboard and takes every text, a session that is to
keep the clipboards alike hears exactly the texts that apps set, in order, whatever the desktop asks
for between them; it passes on what it hears, beside its answers. Typing a text leaves the clipboard
as it was if it held a text before. -/
theorem heardOver_controlled {options : Options} {platform : Platform}
    (created : (create options platform).2 = .ok d) (control : options.control = true)
    (autosync : options.clipboardAutosync = true) (obliging : platform.Obliging) (sink : Sink)
    (powerOn : Bool) (os : List Occasion) :
    let first := d.controlled sink options.clipboardAutosync powerOn
    let after := ControlSession.attended d sink options.clipboardAutosync powerOn
    first.heardOver os = os.filterMap Occasion.appText? ∧
      (after os).1.writer = MessageWriter.pushAll { sink } (first.toldOver os) ∧
      ∀ text kept, (after os).2.platform.clipboard = some kept →
        (after (os ++ [.message (.typeText text)])).2.platform.clipboard = some kept := by
  intro first after
  obtain ⟨listens, unheard⟩ := attentive_create created control autosync obliging
  have woken : Injects (fun _ => True) (d.listen options.clipboardAutosync) first :=
    injects_controlled (fun _ => trivial) d sink options.clipboardAutosync powerOn
  have attentive : first.clipboardSide.Attentive := by
    rw [woken.clipboardSide]
    exact listens
  have settled : first.heard = [] :=
    (heard_controlled d sink options.clipboardAutosync powerOn).trans unheard
  refine ⟨heardOver_of_attentive attentive settled os, ControlSession.attended_writer .., ?_⟩
  intro text kept held
  rw [ControlSession.attended_device] at held ⊢
  rw [course_append]
  exact clipboard_meet_typeText (attentive_course attentive settled os) held text

/-- The desktop types a text while the clipboard holds what an app has set, and sets the clipboard
to another text afterwards. -/
theorem heardOver_controlled_between_apps :
    let options : Options := { socketDir := "" }
    let os : List Occasion :=
      [.event (.clipboard "a"), .message (.typeText "b"), .message (.fillClipboard ⟨1, true, "c"⟩),
        .message (.fetchClipboard .cut), .event (.clipboard "d")]
    ∃ d : Device,
      (create options { naturalSize := ⟨1080, 1920⟩ }).2 = .ok d ∧
      let first := d.controlled {} options.clipboardAutosync true
      let after := ControlSession.attended d {} options.clipboardAutosync true
      first.heardOver os = ["a", "d"] ∧
        (after os).1.writer = MessageWriter.pushAll {}
          [.clipboard "a", .ack 1, .clipboard "c", .clipboard "d"] ∧
        (after (os ++ [.message (.typeText "e")])).2.platform.clipboard = some "d" := by
  intro options os
  have heard (d : Device) (created : (create options { naturalSize := ⟨1080, 1920⟩ }).2 = .ok d)
      (told : (d.controlled {} true true).toldOver os =
        [.clipboard "a", .ack 1, .clipboard "c", .clipboard "d"])
      (last : (ControlSession.attended d {} true true os).2.platform.clipboard = some "d") :
      let first := d.controlled {} options.clipboardAutosync true
      let after := ControlSession.attended d {} options.clipboardAutosync true
      first.heardOver os = ["a", "d"] ∧
        (after os).1.writer = MessageWriter.pushAll {}
          [.clipboard "a", .ack 1, .clipboard "c", .clipboard "d"] ∧
        (after (os ++ [.message (.typeText "e")])).2.platform.clipboard = some "d" := by
    obtain ⟨apps, written, typed⟩ :=
      heardOver_controlled created rfl rfl ⟨nofun, nofun⟩ {} true os
    exact ⟨apps, told ▸ written, typed "e" "d" last⟩
  exact ⟨_, rfl, heard _ rfl (by decide) (by decide)⟩

end Device

end Screencast
