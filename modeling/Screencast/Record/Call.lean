import Screencast.Audio.Basic
import Screencast.Device.Platform
import Screencast.Encoder.Bridge
import Screencast.Encoder.Host
import Screencast.Record.Message
import Screencast.Record.Options
import Screencast.Video.Session

/-!
Records of calls: a name and the arguments. Timestamps and pointers stand as decimal text.
-/

namespace Screencast

instance : Recorded InputEvent := ⟨fun
  | .key k =>
    record [ record "key", record k.action.toNat, record k.keycode.toNat
           , record k.repeats.toNat, record k.metastate.toNat ]
  | .motion m =>
    record [ record "motion", record m.action.toNat, .wide m.pointerId.toNat, record m.point.x
           , record m.point.y, record m.pressure.bits.toNat, record m.actionButton.toNat
           , record m.buttons.toNat ]
  | .scroll s =>
    record [ record "scroll", record s.point.x, record s.point.y, record s.horizontal.toInt
           , record s.vertical.toInt, record s.buttons.toNat ]⟩

def InjectionMode.names : List (String × InjectionMode) :=
  [("async", async), ("result", waitForResult), ("finish", waitForFinish)]

instance : Recorded InjectionMode := ⟨fun m => record (Value.nameIn InjectionMode.names m)⟩

instance : Recorded Panel := ⟨fun
  | .notifications => .text "notifications"
  | .settings => .text "settings"
  | .collapse => .text "collapse"⟩

instance : Recorded PlatformCall := ⟨fun
  | .inject id mode event => record [record "inject", record id, record mode, record event]
  | .setText text => record [record "set_text", record text]
  | .setPowerMode mode => record [record "power_mode", record mode.toNat]
  | .panel panel => record [record "panel", record panel]
  | .freezeRotation r => record [record "freeze", record r]
  | .thawRotation => record [record "thaw"]
  | .watchRotation id => record [record "watch_rotation", record id]
  | .unwatchRotation id => record [record "unwatch_rotation", record id]
  | .watchClipboard => record [record "watch_clipboard"]⟩

instance : Recorded DisplayCall := ⟨fun
  | .create name secure _ => record [record "create_display", record name, record secure]
  | .setSurface display surface p =>
    record [ record "set_surface", record display, record surface, record p.orientation
           , record p.contentRect, record p.videoRect, record p.layerStack ]
  | .destroy display => record [record "destroy_display", record display]⟩

instance : Recorded EncoderCall := ⟨fun
  | .create name _ => record [record "create", record name]
  | .configure encoder format => record [record "configure", record encoder, record format]
  | .surface encoder => record [record "surface", record encoder]
  | .start encoder => record [record "start", record encoder]
  | .submitInput encoder index unit =>
    record [ record "queue_input", record encoder, record index, record unit.data
           , .wide unit.pts, record unit.flags.bits ]
  | .readOutput encoder index => record [record "output_buffer", record encoder, record index]
  | .returnOutput encoder index =>
    record [record "release_output", record encoder, record index]
  | .closeQueues encoder => record [record "close_queues", record encoder]
  | .stop encoder => record [record "stop", record encoder]
  | .release encoder => record [record "release", record encoder]⟩

instance : Recorded VideoCall := ⟨fun
  | .encoder call => record call
  | .display call => record call⟩

instance : Recorded CaptureCall := ⟨fun
  | .start => record [record "cap_start"]
  | .read capacity result =>
    let outcome := match result with
      | .ok bytes => record bytes.length
      | .error _ => record "error"
    record [record "read", record capacity, outcome]
  | .stop => record [record "cap_stop"]⟩

instance : Recorded AudioCall := ⟨fun
  | .encoder call => record call
  | .capture call => record call⟩

instance : Recorded OutputBuffer := ⟨fun o =>
  record [record o.index, .wide o.info.pts, record o.info.size, record o.info.flags.bits]⟩

/-- What became of a platform. -/
instance : Recorded Platform := ⟨fun p => .table
  [ ("clipboard", record p.clipboard), ("frozen", record p.isFrozen)
  , ("frozen_rotations", record p.frozenRotations), ("rotation", record p.rotation)
  , ("has_watcher", record p.rotationWatched)
  , ("power_modes", record (p.powerModes.map UInt8.toNat)), ("panels", record p.panels)
  , ("live_displays", record p.liveDisplays), ("projections", record p.projections.length)
  , ("keycodes", record (p.keycodes.map fun (action, code) => [action.toNat, code.toNat]))
  , ("events", record p.events.length) ]⟩

end Screencast
