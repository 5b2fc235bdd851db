import Screencast.Scheduling
import Screencast.Session.Endpoint
import Screencast.Session.Worker

/-!
The main task of a session, once its processors are started. It waits until all have ended, one has
ended fatally, or the session is to stop; then it stops all of them and waits for each. The session
has failed if any of them ended fatally, however late.
-/

namespace Screencast

inductive SupervisorStage where
  | waiting
  /-- All processors were told to stop. `fatal` says how the wait ended. -/
  | joining (fatal : Bool)
  | ended (result : Except Error Unit)
deriving Repr, Inhabited

structure Supervisor where
  workers : List (ChannelKind × Worker)
  barrier : Barrier
  stage : SupervisorStage := .waiting
deriving Repr, Inhabited

namespace Supervisor

/-- Over one started processor for each of these channels. -/
def start (kinds : List ChannelKind) : Supervisor :=
  { workers := kinds.map fun kind => (kind, Worker.spawn {})
    barrier := { running := kinds.length } }

def hasEnded (w : Worker) : Bool := !w.reports.isEmpty

/-- The processor of this channel has not ended yet. -/
def runs (s : Supervisor) (kind : ChannelKind) : Bool :=
  s.workers.any fun (k, w) => k = kind && !hasEnded w

/-- The processor of a channel has ended. -/
def report (s : Supervisor) (kind : ChannelKind) (outcome : Outcome) : Supervisor :=
  if s.runs kind then
    { s with
      workers := s.workers.map fun (k, w) => (k, if k = kind then w.finish outcome else w)
      barrier := s.barrier.add outcome.isFatal }
  else s

def beginJoining (s : Supervisor) (fatal : Bool) : Supervisor :=
  { s with
    workers := s.workers.map fun (k, w) => (k, w.stop)
    stage := .joining fatal }

def verdict (fatal : Bool) : Except Error Unit :=
  if fatal then .error .sessionFailed else .ok ()

/-- The last processor to end may still have failed. -/
def join? (s : Supervisor) (fatal : Bool) : Option Supervisor :=
  if s.workers.all fun (_, w) => hasEnded w then
    some { s with
      workers := s.workers.map fun (k, w) => (k, w.join)
      stage := .ended (verdict (fatal || s.barrier.fatal)) }
  else none

/-- One step, or nothing as long as the task has to wait. `stop` says that the session is to stop;
when the wait is over as well, `pick` decides. -/
def step (pick : Nat) (stop : Bool) (s : Supervisor) : Option Supervisor :=
  match s.stage with
  | .waiting =>
    firstReady pick
      [ s.barrier.wait?.map s.beginJoining
      , if stop then some (s.beginJoining false) else none ]
  | .joining fatal => s.join? fatal
  | .ended _ => none

end Supervisor

end Screencast
