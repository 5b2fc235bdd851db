import Screencast.Control.Session

/-!
A channel between its two ends: the desktop's, and the server's, which has it only once it has
accepted it.
-/

namespace Screencast

structure Line where
  accepted : Bool := false
  desktopOpen : Bool := true
  serverOpen : Bool := true
  /-- What the server writes before a processor takes the channel over. -/
  sink : Sink := {}
  /-- What the desktop did before a processor took the channel over. -/
  arrivals : List Arrival := []

namespace Line

def brokenPipe : IoError := ⟨.brokenPipe, none⟩

/-- The server takes its end, and writes a byte if it is asked to: by reading that byte the desktop
finds out whether it is connected. -/
def accept (l : Line) (dummyByte : Bool) : Line × Except Error Unit :=
  let l := { l with accepted := true }
  if dummyByte then
    match l.sink.write [0] with
    | (sink, .failed e) => ({ l with sink }, .error (.io e))
    | (sink, _) => ({ l with sink }, .ok ())
  else (l, .ok ())

def closeServerEnd (l : Line) : Line := { l with serverOpen := false }

def closeDesktopEnd (l : Line) : Line :=
  { l with
    desktopOpen := false
    sink := l.sink.breakWith brokenPipe
    arrivals := l.arrivals ++ [.eof] }

/-- The desktop can still send. -/
def isOpen (l : Line) : Bool := l.desktopOpen && l.serverOpen

/-- The server has closed the channel under the desktop. -/
def isHungUp (l : Line) : Bool := l.desktopOpen && !l.serverOpen

end Line

end Screencast
