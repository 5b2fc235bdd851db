import Screencast.Error

/-!
The channels of a session and the directory of their endpoints. An endpoint is a socket file; a file
that an earlier session left behind makes room for a new one, a directory does not.
-/

namespace Screencast

inductive ChannelKind where
  | video
  | audio
  | control
deriving DecidableEq, Repr, Inhabited

namespace ChannelKind

/-- In the order in which they are opened. -/
def all : List ChannelKind := [video, audio, control]

def endpoint : ChannelKind → String
  | video => "svideo"
  | audio => "saudio"
  | control => "svideo-control"

end ChannelKind

/-- One thing for each channel. -/
structure PerChannel (α : Type) where
  video : α
  audio : α
  control : α
deriving DecidableEq, Repr, Inhabited

namespace PerChannel

variable {α β : Type}

def get (p : PerChannel α) : ChannelKind → α
  | .video => p.video
  | .audio => p.audio
  | .control => p.control

def set (p : PerChannel α) (kind : ChannelKind) (a : α) : PerChannel α :=
  match kind with
  | .video => { p with video := a }
  | .audio => { p with audio := a }
  | .control => { p with control := a }

def map (f : α → β) (p : PerChannel α) : PerChannel β := ⟨f p.video, f p.audio, f p.control⟩

end PerChannel

/-! ### The directory -/

inductive DirEntry where
  /-- A file, or a socket that nobody listens on any more. -/
  | file
  | directory
  | desktopSocket
  | serverSocket
deriving DecidableEq, Repr, Inhabited

structure SocketDir where
  /-- There is such a directory. -/
  present : Bool := true
  entries : PerChannel (Option DirEntry) := ⟨none, none, none⟩
deriving DecidableEq, Repr, Inhabited

namespace SocketDir

/-- What is in the directory, sorted by name. -/
def names (dir : SocketDir) : List String :=
  ([ChannelKind.audio, .video, .control].filter fun kind => (dir.entries.get kind).isSome).map
    ChannelKind.endpoint

/-- Makes a socket to listen on. -/
def bind (dir : SocketDir) (kind : ChannelKind) : SocketDir × Except IoError Unit :=
  if !dir.present then (dir, .error ⟨.notFound, none⟩)
  else match dir.entries.get kind with
    | some .directory => (dir, .error ⟨.isADirectory, none⟩)
    | _ => ({ dir with entries := dir.entries.set kind (some .serverSocket) }, .ok ())

/-- Removes the sockets of the server. -/
def unbind (dir : SocketDir) : SocketDir :=
  { dir with entries := dir.entries.map fun entry => entry.filter (· != .serverSocket) }

/-- Makes all these sockets, or none. -/
def bindAll (dir : SocketDir) : List ChannelKind → SocketDir × Except IoError Unit
  | [] => (dir, .ok ())
  | kind :: rest =>
    match dir.bind kind with
    | (dir, .ok ()) => dir.bindAll rest
    | (dir, .error e) => (dir.unbind, .error e)

/-- Whether the server can connect to the desktop there. -/
def connect (dir : SocketDir) (kind : ChannelKind) : Except IoError Unit :=
  match dir.entries.get kind with
  | none => .error ⟨.notFound, none⟩
  | some .desktopSocket => .ok ()
  | some _ => .error ⟨.connectionRefused, none⟩

/-- Whether the desktop can connect to the server there. -/
def listens (dir : SocketDir) (kind : ChannelKind) : Bool :=
  dir.entries.get kind = some .serverSocket

end SocketDir

end Screencast
