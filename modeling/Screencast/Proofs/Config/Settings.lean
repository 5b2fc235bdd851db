import Screencast.Config.Settings
import Screencast.Proofs.Geometry.Scaling
import Screencast.Proofs.Options.Crop
import Screencast.Proofs.Options.Listing

/-!
Which settings stand for options: those whose texts can be read, whose bit rates are words and that
enable a channel (`Settings.Readable`). What is read has the form that sessions and encoders rely on
(`Settings.Checked`).
-/

namespace Screencast

/-! ### Parts -/

theorem boundBitRate_eq_ok_iff {stream : String} {bitRate kept : Nat} :
    boundBitRate stream bitRate = .ok kept ↔ bitRate ≤ 2147483647 ∧ kept = bitRate := by
  unfold boundBitRate
  split
  · rename_i fits
    rw [Except.ok.injEq, eq_comm]
    exact (and_iff_right fits).symm
  · rename_i large
    exact iff_of_false nofun fun kept => large kept.1

theorem OrientationLock.rotation_lt {text : String} {rotation : Nat}
    (read : parse text = .ok (.locked rotation)) : rotation < 4 := by
  unfold parse at read
  split at read
  -- the words that lock no rotation by its number
  iterate 5 cases read
  split at read
  · rename_i number
    cases read
    exact Nat.lt_succ_of_le (Text.natural?_le number)
  · cases read

namespace Settings

/-- A blank text names no encoder. White space around a name does not belong to it. -/
inductive Names (text : String) : Option String → Prop
  | blank (blank : Text.Blank text.toList) : Names text none
  | name (ink : ¬ Text.Blank (Text.trim text).toList) : Names text (some (Text.trim text))

/-- A blank text does not crop. -/
inductive Crops (text : String) : Option Rect → Prop
  | blank (blank : Text.Blank text.toList) : Crops text none
  | area {crop : Rect} (parsed : Crop.parse text = .ok crop) (sound : Crop.Sound crop) :
    Crops text (some crop)

theorem nonBlank?_of_blank {text : String} (blank : Text.Blank text.toList) :
    nonBlank? text = none := by
  simp only [nonBlank?, if_pos (Text.isEmpty_trim_iff.mpr blank)]

theorem nonBlank?_of_ink {text : String} (ink : ¬ Text.Blank text.toList) :
    nonBlank? text = some (Text.trim text) := by
  simp only [nonBlank?, if_neg (Text.isEmpty_trim_iff.not.mpr ink)]

theorem names_nonBlank? (text : String) : Names text (nonBlank? text) := by
  by_cases blank : Text.Blank text.toList
  · rw [nonBlank?_of_blank blank]
    exact .blank blank
  · rw [nonBlank?_of_ink blank]
    apply Names.name
    rw [Text.trim, String.toList_ofList, Text.blank_trimChars_iff]
    exact blank

theorem not_blank_of_parse {text : String} {crop : Rect} (parsed : Crop.parse text = .ok crop) :
    ¬ Text.Blank text.toList := by
  intro blank
  rw [← Crop.parse_trim_eq_ok_iff, Text.trim, Text.trimChars_eq_nil_iff.mpr blank] at parsed
  cases parsed

theorem crops_iff {text : String} {crop : Option Rect} :
    (nonBlank? text).mapM Crop.parse = .ok crop ↔ Crops text crop := by
  by_cases blank : Text.Blank text.toList
  · rw [nonBlank?_of_blank blank]
    constructor
    · rintro ⟨⟩
      exact .blank blank
    · intro crops
      cases crops with
      | blank => rfl
      | area parsed => exact absurd blank (not_blank_of_parse parsed)
  · rw [nonBlank?_of_ink blank, Option.mapM_some, ← bind_pure_comp, Except.bind_eq_ok_iff]
    simp only [Crop.parse_trim_eq_ok_iff]
    constructor
    · rintro ⟨_, parsed, ⟨⟩⟩
      exact .area parsed (Crop.sound_of_parse parsed)
    · intro crops
      cases crops with
      | blank white => exact absurd white blank
      | area parsed => exact ⟨_, parsed, rfl⟩

theorem exists_crops_iff {text : String} :
    (∃ crop, Crops text crop) ↔
      Text.Blank text.toList ∨ ∃ crop, Crop.parse text = .ok crop := by
  constructor
  · rintro ⟨_, crops⟩
    cases crops with
    | blank blank => exact .inl blank
    | area parsed => exact .inr ⟨_, parsed⟩
  · rintro (blank | ⟨crop, parsed⟩)
    · exact ⟨none, .blank blank⟩
    · exact ⟨some crop, .area parsed (Crop.sound_of_parse parsed)⟩

/-! ### The whole -/

structure Readable (s : Settings) : Prop where
  videoCodecOptions : ∃ options, CodecOption.parseAll s.video.codecOptions = .ok options
  audioCodecOptions : ∃ options, CodecOption.parseAll s.audio.codecOptions = .ok options
  videoBitRate : s.video.bitRate ≤ 2147483647
  audioBitRate : s.audio.bitRate ≤ 2147483647
  crop : Text.Blank s.video.crop.toList ∨ ∃ crop, Crop.parse s.video.crop = .ok crop
  lock : ∃ lock, OrientationLock.parse (Text.trim s.video.lockOrientation) = .ok lock
  channel : s.video.enabled = true ∨ s.audio.enabled = true ∨ s.control.enabled = true

/-- What can be relied on in options that come of settings. -/
structure Checked (s : Settings) (o : Options) : Prop where
  /-- One option for each item, in the same order. -/
  videoCodecOptions : List.Forall₂ (fun item option => CodecOption.parse item = .ok option)
    (CodecOption.itemTexts s.video.codecOptions) o.videoCodecOptions
  audioCodecOptions : List.Forall₂ (fun item option => CodecOption.parse item = .ok option)
    (CodecOption.itemTexts s.audio.codecOptions) o.audioCodecOptions
  videoBitRate : o.videoBitRate = s.video.bitRate ∧ s.video.bitRate ≤ 2147483647
  audioBitRate : o.audioBitRate = s.audio.bitRate ∧ s.audio.bitRate ≤ 2147483647
  videoEncoder : Names s.video.encoder o.videoEncoder
  audioEncoder : Names s.audio.encoder o.audioEncoder
  /-- The greatest size on the grid that does not exceed the one that was set. -/
  maxSize : 8 ∣ o.maxSize ∧ o.maxSize ≤ s.video.maxSize ∧ s.video.maxSize < o.maxSize + 8
  crop : Crops s.video.crop o.crop
  lock : OrientationLock.parse (Text.trim s.video.lockOrientation) = .ok o.lock ∧
    ∀ rotation, o.lock = .locked rotation → rotation < 4
  channel : o.video = true ∨ o.audio = true ∨ o.control = true

/-- What is read from the texts of settings. -/
structure Texts where
  videoCodecOptions : List CodecOption
  audioCodecOptions : List CodecOption
  crop : Option Rect
  lock : OrientationLock

structure Reads (s : Settings) (texts : Texts) : Prop where
  videoCodecOptions : CodecOption.parseAll s.video.codecOptions = .ok texts.videoCodecOptions
  audioCodecOptions : CodecOption.parseAll s.audio.codecOptions = .ok texts.audioCodecOptions
  videoBitRate : s.video.bitRate ≤ 2147483647
  audioBitRate : s.audio.bitRate ≤ 2147483647
  crop : Crops s.video.crop texts.crop
  lock : OrientationLock.parse (Text.trim s.video.lockOrientation) = .ok texts.lock
  channel : s.video.enabled = true ∨ s.audio.enabled = true ∨ s.control.enabled = true

/-- The options that these texts and the other settings make up. -/
def optionsOf (s : Settings) (texts : Texts) : Options :=
  let options : Options :=
    { video := s.video.enabled
      audio := s.audio.enabled
      control := s.control.enabled
      videoCodec := s.video.codec
      audioCodec := s.audio.codec
      videoEncoder := nonBlank? s.video.encoder
      audioEncoder := nonBlank? s.audio.encoder
      videoCodecOptions := texts.videoCodecOptions
      audioCodecOptions := texts.audioCodecOptions
      videoBitRate := s.video.bitRate
      audioBitRate := s.audio.bitRate
      maxFps := s.video.maxFps
      crop := texts.crop
      lock := texts.lock
      displayId := s.video.displayId
      sendFrameMeta := s.connection.sendFrameMeta
      sendCodecMeta := s.connection.sendCodecMeta
      sendDeviceMeta := s.connection.sendDeviceMeta
      sendDummyByte := s.connection.sendDummyByte
      tunnelForward := s.connection.tunnelForward
      socketDir := s.connection.socketDir
      clipboardAutosync := s.control.clipboardAutosync
      powerOn := s.control.powerOn }
  options.limitedTo s.video.maxSize

variable {s : Settings} {o : Options}

theorem options_eq_ok_iff :
    s.options = .ok o ↔ ∃ texts, s.Reads texts ∧ o = s.optionsOf texts := by
  simp only [options, Except.bind_eq_ok_iff, boundBitRate_eq_ok_iff, crops_iff]
  constructor
  · rintro ⟨videoCodecOptions, video, audioCodecOptions, audio, _, ⟨videoBitRate, rfl⟩,
      _, ⟨audioBitRate, rfl⟩, crop, cropped, lock, locked, enabled⟩
    split at enabled
    · rename_i channel
      cases enabled
      rw [Bool.or_eq_true, Bool.or_eq_true, or_assoc] at channel
      exact ⟨⟨videoCodecOptions, audioCodecOptions, crop, lock⟩,
        ⟨video, audio, videoBitRate, audioBitRate, cropped, locked, channel⟩, rfl⟩
    · cases enabled
  · rintro ⟨texts, ⟨video, audio, videoBitRate, audioBitRate, crop, lock, channel⟩, rfl⟩
    refine ⟨_, video, _, audio, _, ⟨videoBitRate, rfl⟩, _, ⟨audioBitRate, rfl⟩, _, crop, _, lock, ?_⟩
    rw [if_pos (by simpa [or_assoc] using channel)]
    rfl

theorem exists_reads_iff : (∃ texts, s.Reads texts) ↔ s.Readable := by
  constructor
  · rintro ⟨texts, reads⟩
    exact ⟨⟨_, reads.videoCodecOptions⟩, ⟨_, reads.audioCodecOptions⟩, reads.videoBitRate,
      reads.audioBitRate, exists_crops_iff.mp ⟨_, reads.crop⟩, ⟨_, reads.lock⟩, reads.channel⟩
  · rintro ⟨⟨_, video⟩, ⟨_, audio⟩, videoBitRate, audioBitRate, crop, ⟨_, lock⟩, channel⟩
    obtain ⟨_, crop⟩ := exists_crops_iff.mpr crop
    exact ⟨⟨_, _, _, _⟩, video, audio, videoBitRate, audioBitRate, crop, lock, channel⟩

theorem Reads.checked {texts : Texts} (reads : s.Reads texts) :
    s.Checked (s.optionsOf texts) := by
  constructor <;> dsimp only [optionsOf, Options.limitedTo]
  · exact CodecOption.parseAll_eq_ok_iff.mp reads.videoCodecOptions
  · exact CodecOption.parseAll_eq_ok_iff.mp reads.audioCodecOptions
  · exact ⟨rfl, reads.videoBitRate⟩
  · exact ⟨rfl, reads.audioBitRate⟩
  · exact names_nonBlank? s.video.encoder
  · exact names_nonBlank? s.audio.encoder
  · exact ⟨Nat.dvd_mul_left 8 _, onGrid_le _, lt_onGrid_add _⟩
  · exact reads.crop
  · refine ⟨reads.lock, fun rotation locked => ?_⟩
    have read := reads.lock
    rw [locked] at read
    exact OrientationLock.rotation_lt read
  · exact reads.channel

/-- Settings stand for options just if they are readable, and all options that come of them have been
checked. -/
theorem options_checked (s : Settings) :
    ((∃ o, s.options = .ok o) ↔ s.Readable) ∧ ∀ o, s.options = .ok o → s.Checked o := by
  simp only [options_eq_ok_iff]
  constructor
  · rw [← exists_reads_iff]
    constructor
    · rintro ⟨_, texts, reads, -⟩
      exact ⟨texts, reads⟩
    · rintro ⟨texts, reads⟩
      exact ⟨_, texts, reads, rfl⟩
  · rintro _ ⟨texts, reads, rfl⟩
    exact reads.checked

/-- White space around every text and a blank item, and a bit rate that is no word any more. -/
theorem options_checked_spaced :
    let video : VideoSettings :=
      { encoder := " c2.avc\t", bitRate := 2147483647, maxSize := 1023, crop := " 8: +9 :0:1\n"
        lockOrientation := " 3 ", codecOptions := " a:string=x\\,y, ,b=-1 " }
    let s : Settings :=
      { Settings.ofTempDir "" with video, audio := { enabled := false, encoder := " " } }
    let o : Options :=
      { socketDir := "", audio := false, videoEncoder := some "c2.avc", videoBitRate := 2147483647
        videoCodecOptions := [⟨"a", .string "x,y"⟩, ⟨"b", .int (-1)⟩], maxSize := 1016
        crop := some ⟨0, 1, 8, 10⟩, lock := .locked 3 }
    s.options = .ok o ∧ s.Readable ∧ s.Checked o ∧
      ¬ ({ s with audio := { bitRate := 2147483648 } } : Settings).Readable := by
  intro video s o
  have accepted : s.options = .ok o := by
    dsimp only [s, video, o]
    rfl
  obtain ⟨readable, checked⟩ := options_checked s
  refine ⟨accepted, readable.mp ⟨o, accepted⟩, checked o accepted, ?_⟩
  intro readable
  exact absurd readable.audioBitRate (by decide)

end Settings

end Screencast
