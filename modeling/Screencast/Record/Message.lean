import Screencast.Control.Message
import Screencast.Record.Geometry

/-!
Records of the messages of the control channel: the name of the type, and the fields. Pressures
stand as their bits.
-/

namespace Screencast

namespace ControlMessage

def typeName : ControlMessage → String
  | key _ => "keycode"
  | typeText _ => "text"
  | touch _ => "touch"
  | scroll _ => "scroll"
  | backOrWake _ => "back_or_screen_on"
  | openNotifications => "expand_notification_panel"
  | openSettings => "expand_settings_panel"
  | closePanels => "collapse_panels"
  | fetchClipboard _ => "get_clipboard"
  | fillClipboard _ => "set_clipboard"
  | setPower _ => "set_screen_power_mode"
  | rotate => "rotate_device"

def entries : ControlMessage → List (String × Value)
  | key k =>
    [ ("action", record k.action.toNat), ("keycode", record k.keycode.toNat)
    , ("repeat", record k.repeats.toNat), ("metastate", record k.metastate.toNat) ]
  | typeText text => [("text", record text)]
  | touch t =>
    [ ("action", record t.action.toNat), ("pointer_id", .wide t.pointerId.toNat)
    , ("pressure_bits", record t.pressure.bits.toNat)
    , ("action_button", record t.actionButton.toNat)
    , ("buttons", record t.buttons.toNat) ] ++ t.position.entries
  | scroll s =>
    [ ("hscroll", record s.horizontal.toInt), ("vscroll", record s.vertical.toInt)
    , ("buttons", record s.buttons.toNat) ] ++ s.position.entries
  | backOrWake action => [("action", record action.toNat)]
  | fetchClipboard copyKey => [("copy_key", record copyKey.code)]
  | fillClipboard c =>
    [("sequence", .wide c.sequence.toNat), ("paste", record c.paste), ("text", record c.text)]
  | setPower mode => [("mode", record mode.toNat)]
  | openNotifications | openSettings | closePanels | rotate => []

instance : Recorded ControlMessage := ⟨fun m =>
  .table (("type", record m.typeName) :: ("kind", record m.tag) :: m.entries)⟩

end ControlMessage

instance : Recorded DeviceMessage := ⟨fun
  | .clipboard text => .table [("type", record "clipboard"), ("text", record text)]
  | .ack sequence =>
    .table [("type", record "ack"), ("sequence", .wide sequence.toNat)]⟩

namespace Value

def u8 (v : Value) (key : String) : Reading UInt8 := UInt8.ofNat <$> v.nat 8 key

def u32 (v : Value) (key : String) : Reading UInt32 := UInt32.ofNat <$> v.nat 32 key

def u64 (v : Value) (key : String) : Reading UInt64 := UInt64.ofNat <$> v.nat 64 key

def keyEvent (v : Value) : Reading KeyEvent := do
  let repeats ← v.natOr 0 32 "repeat"
  let metastate ← v.natOr 0 32 "metastate"
  return ⟨← v.u8 "action", ← v.u32 "keycode", UInt32.ofNat repeats, UInt32.ofNat metastate⟩

def touch (v : Value) : Reading Touch := do
  return ⟨← v.u8 "action", ← v.u64 "pointer_id", ← v.position, ⟨← v.u32 "pressure_bits"⟩,
    ← v.u32 "action_button", ← v.u32 "buttons"⟩

def scroll (v : Value) : Reading Scroll := do
  return ⟨← v.position, Int16.ofInt (← v.signed 16 "hscroll"),
    Int16.ofInt (← v.signed 16 "vscroll"), ← v.u32 "buttons"⟩

def controlMessage (v : Value) : Reading ControlMessage := do
  match ← v.string "type" with
  | "keycode" => return .key (← v.keyEvent)
  | "text" => return .typeText (← v.string "text")
  | "touch" => return .touch (← v.touch)
  | "scroll" => return .scroll (← v.scroll)
  | "back_or_screen_on" => return .backOrWake (← v.u8 "action")
  | "expand_notification_panel" => return .openNotifications
  | "expand_settings_panel" => return .openSettings
  | "collapse_panels" => return .closePanels
  | "get_clipboard" =>
    return .fetchClipboard (← v.read (fun n => (n.nat? 8).bind CopyKey.ofCode?) "copy_key")
  | "set_clipboard" =>
    return .fillClipboard ⟨← v.u64 "sequence", ← v.flag "paste", ← v.string "text"⟩
  | "set_screen_power_mode" => return .setPower (← v.u8 "mode")
  | "rotate_device" => return .rotate
  | _ => throw "type"

def deviceMessage (v : Value) : Reading DeviceMessage := do
  match ← v.string "type" with
  | "clipboard" => return .clipboard (← v.string "text")
  | "ack" => return .ack (← v.u64 "sequence")
  | _ => throw "type"

end Value

end Screencast
