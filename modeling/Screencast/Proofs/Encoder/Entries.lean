import Screencast.Proofs.Encoder.Format

/-!
The entries of a format: what all encoders get, and over it the options of the user. No key is there
twice, each stands where it was set first, and has the value that was set last (`Overlays`).
-/

namespace Screencast

namespace EncoderFormat

def keys (f : EncoderFormat) : List String := f.entries.map Prod.fst

theorem keys_setEntry (key : String) (value : OptionValue) (entries : List (String × OptionValue)) :
    (setEntry key value entries).map Prod.fst =
      if key ∈ entries.map Prod.fst then entries.map Prod.fst
      else entries.map Prod.fst ++ [key] := by
  induction entries with
  | nil => rfl
  | cons entry rest ih =>
    obtain ⟨k, v⟩ := entry
    by_cases same : k = key
    · simp [setEntry, same]
    · have other : key ≠ k := Ne.symm same
      simp only [setEntry, if_neg same, List.map_cons, ih, List.mem_cons, other, false_or]
      split
      · rfl
      · rfl

theorem keys_set (f : EncoderFormat) (key : String) (value : OptionValue) :
    (f.set key value).keys = if key ∈ f.keys then f.keys else f.keys ++ [key] :=
  keys_setEntry key value f.entries

theorem nodup_keys_set {f : EncoderFormat} (once : f.keys.Nodup) (key : String)
    (value : OptionValue) : (f.set key value).keys.Nodup := by
  rw [keys_set]
  split
  · exact once
  · rename_i new
    rw [List.nodup_append]
    refine ⟨once, List.pairwise_singleton _ key, ?_⟩
    rintro k mem _ last rfl
    exact new (List.mem_singleton.mp last ▸ mem)

theorem get?_set (f : EncoderFormat) (key asked : String) (value : OptionValue) :
    (f.set key value).get? asked = if key = asked then some value else f.get? asked := by
  split
  · rename_i same
    subst same
    exact lookup_setEntry_self key value f.entries
  · rename_i other
    exact lookup_setEntry_of_ne (Ne.symm other) value f.entries

/-! ### Options over a base -/

/-- The keys of the options that the base does not have, in the order in which they come first. -/
def laterKeys (base : List (String × OptionValue)) (options : List CodecOption) : List String :=
  ((options.map CodecOption.key).filter (· ∉ base.map Prod.fst)).eraseDups

/-- The value of the last option with this key. -/
def lastValue? (options : List CodecOption) (key : String) : Option OptionValue :=
  (options.filter fun o => o.key = key).getLast?.map CodecOption.value

structure Overlays (base : List (String × OptionValue)) (options : List CodecOption)
    (f : EncoderFormat) : Prop where
  once : f.keys.Nodup
  order : f.keys = base.map Prod.fst ++ laterKeys base options
  value : ∀ key, f.get? key = (lastValue? options key).or (base.lookup key)

variable {base : List (String × OptionValue)} {options : List CodecOption} {f : EncoderFormat}

theorem eraseDups_concat (keys : List String) (key : String) :
    (keys ++ [key]).eraseDups =
      if key ∈ keys then keys.eraseDups else keys.eraseDups ++ [key] := by
  rw [List.eraseDups_append]
  split
  · rename_i old
    simp [List.removeAll, old]
  · rename_i new
    simp [List.removeAll, new, List.eraseDups_cons]

theorem laterKeys_concat (o : CodecOption) :
    laterKeys base (options ++ [o]) =
      if o.key ∈ base.map Prod.fst ++ laterKeys base options then laterKeys base options
      else laterKeys base options ++ [o.key] := by
  unfold laterKeys
  rw [List.map_append, List.map_singleton, List.filter_append]
  by_cases known : o.key ∈ base.map Prod.fst
  · rw [List.filter_cons_of_neg (by simpa using known), List.filter_nil, List.append_nil,
      if_pos (List.mem_append_left _ known)]
  · rw [List.filter_cons_of_pos (by simpa using known), List.filter_nil, eraseDups_concat]
    simp only [List.mem_append, known, false_or, List.mem_eraseDups]

theorem lastValue?_concat (o : CodecOption) (key : String) :
    lastValue? (options ++ [o]) key = if o.key = key then some o.value else lastValue? options key := by
  rw [lastValue?, List.filter_append]
  split
  · rename_i same
    simp [same]
  · rename_i other
    simp [lastValue?, other]

theorem Overlays.start (once : (base.map Prod.fst).Nodup) : Overlays base [] ⟨base⟩ where
  once := once
  order := (List.append_nil _).symm
  value _ := rfl

theorem Overlays.set (overlays : Overlays base options f) (o : CodecOption) :
    Overlays base (options ++ [o]) (f.set o.key o.value) where
  once := nodup_keys_set overlays.once o.key o.value
  order := by
    rw [keys_set, overlays.order, laterKeys_concat]
    split
    · rfl
    · exact List.append_assoc ..
  value key := by
    rw [get?_set, lastValue?_concat, overlays.value]
    split
    · rfl
    · rfl

theorem Overlays.withOptions (overlays : Overlays base options f) (more : List CodecOption) :
    Overlays base (options ++ more) (f.withOptions more) := by
  induction more generalizing options f with
  | nil => rwa [List.append_nil]
  | cons o more ih =>
    have rest := ih (overlays.set o)
    rwa [List.append_assoc] at rest

/-- A size as the options that set it. -/
def sides (size : Size) : List CodecOption :=
  [⟨"width", .int (signed32 size.width)⟩, ⟨"height", .int (signed32 size.height)⟩]

/-- The options of the user come over the base, and a size over both. -/
structure Configured (base : List (String × OptionValue)) (options : List CodecOption)
    (f : EncoderFormat) : Prop where
  overlays : Overlays base options f
  resized (size : Size) : Overlays base (options ++ sides size) (f.withSize size)
  size (size : Size) : size.larger ≤ 2147483647 → (f.withSize size).size? = some size

theorem configured_withOptions (once : (base.map Prod.fst).Nodup) (options : List CodecOption) :
    Configured base options (withOptions ⟨base⟩ options) := by
  have overlays := (Overlays.start once).withOptions options
  constructor
  · exact overlays
  · intro size
    exact overlays.withOptions (sides size)
  · intro size small
    exact size?_withSize _ (Nat.lt_succ_of_le small)

/-! ### Bases -/

def videoBase (mime : String) (bitRate maxFps : Nat) : List (String × OptionValue) :=
  [ ("mime", .string mime), ("bitrate", clampedBitRate bitRate), ("frame-rate", .int 60)
  , ("i-frame-interval", .int 10), ("repeat-previous-frame-after", .long 100000) ] ++
    if maxFps = 0 then [] else [("max-fps-to-encoder", .float (.ofNat maxFps))]

def audioBase (mime : String) (bitRate sampleRate channels : Nat) : List (String × OptionValue) :=
  [ ("mime", .string mime), ("bitrate", clampedBitRate bitRate), ("channel-count", .int channels)
  , ("sample-rate", .int (signed32 sampleRate)) ]

theorem nodup_videoBase (mime : String) (bitRate maxFps : Nat) :
    ((videoBase mime bitRate maxFps).map Prod.fst).Nodup := by
  unfold videoBase
  split
  · simp
  · simp

theorem nodup_audioBase (mime : String) (bitRate sampleRate channels : Nat) :
    ((audioBase mime bitRate sampleRate channels).map Prod.fst).Nodup := by
  simp [audioBase]

theorem video_eq (mime : String) (bitRate maxFps : Nat) (options : List CodecOption) :
    video mime bitRate maxFps options = withOptions ⟨videoBase mime bitRate maxFps⟩ options := by
  unfold video videoBase
  split
  · rfl
  · rfl

theorem audio_eq (mime : String) (bitRate sampleRate channels : Nat) (options : List CodecOption) :
    audio mime bitRate sampleRate channels options =
      withOptions ⟨audioBase mime bitRate sampleRate channels⟩ options := rfl

/-- Formats of both kinds, whatever the options are. -/
theorem configured_formats (mime : String) (bitRate : Nat) (options : List CodecOption) :
    (∀ maxFps, Configured (videoBase mime bitRate maxFps) options
      (video mime bitRate maxFps options)) ∧
    ∀ sampleRate channels, Configured (audioBase mime bitRate sampleRate channels) options
      (audio mime bitRate sampleRate channels options) := by
  constructor
  · intro maxFps
    rw [video_eq]
    exact configured_withOptions (nodup_videoBase mime bitRate maxFps) options
  · intro sampleRate channels
    rw [audio_eq]
    exact configured_withOptions (nodup_audioBase mime bitRate sampleRate channels) options

/-- A key of the base twice, a later one twice, and sides that are no ints. -/
theorem configured_formats_repeated :
    let options : List CodecOption :=
      [⟨"width", .string "640"⟩, ⟨"bitrate", .long 1⟩, ⟨"profile", .int 1⟩, ⟨"height", .long 480⟩,
        ⟨"profile", .int 8⟩, ⟨"bitrate", .string "low"⟩]
    let f := video "video/avc" 3000000000 0 options
    let size : Size := ⟨2147483647, 8⟩
    f.entries =
      [("mime", .string "video/avc"), ("bitrate", .string "low"), ("frame-rate", .int 60),
        ("i-frame-interval", .int 10), ("repeat-previous-frame-after", .long 100000),
        ("width", .string "640"), ("profile", .int 8), ("height", .long 480)] ∧
    Overlays (videoBase "video/avc" 3000000000 0) options f ∧ f.size? = none ∧
    size.larger ≤ 2147483647 ∧ (f.withSize size).size? = some size ∧
    (f.withSize size).keys = f.keys := by
  intro options f size
  have configured := (configured_formats "video/avc" 3000000000 options).1 0
  have small : size.larger ≤ 2147483647 := by decide
  exact ⟨by decide, configured.overlays, by decide, small, configured.size size small, by decide⟩

end EncoderFormat

end Screencast
