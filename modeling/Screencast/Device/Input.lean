import Screencast.Binary32.Basic
import Screencast.Geometry.Basic

/-!
Input events as the device takes them, in its own coordinates, and the key codes that the session
presses on its own account.
-/

namespace Screencast

structure KeyEvent where
  action : UInt8
  keycode : UInt32
  repeats : UInt32 := 0
  metastate : UInt32 := 0
deriving DecidableEq, Repr, Inhabited

/-- One finger, or the mouse. -/
structure MotionEvent where
  action : UInt8
  pointerId : UInt64
  point : Point
  pressure : Binary32
  actionButton : UInt32
  buttons : UInt32
deriving DecidableEq, Repr, Inhabited

structure ScrollEvent where
  point : Point
  horizontal : Int16
  vertical : Int16
  buttons : UInt32
deriving DecidableEq, Repr, Inhabited

inductive InputEvent where
  | key (e : KeyEvent)
  | motion (e : MotionEvent)
  | scroll (e : ScrollEvent)
deriving DecidableEq, Repr, Inhabited

/-- What an injection waits for. -/
inductive InjectionMode where
  | async
  | waitForResult
  | waitForFinish
deriving DecidableEq, Repr, Inhabited

def Action.down : UInt8 := 0

def Action.up : UInt8 := 1

namespace Keycode

def back : UInt32 := 4

def power : UInt32 := 26

def cut : UInt32 := 277

def copy : UInt32 := 278

def paste : UInt32 := 279

end Keycode

end Screencast
