import Screencast.Proofs.Video.Service

/-!
Encoders and displays that are taken one at a time and given back in order, as a matter of the calls
that take them and give them back (`Holding.Call`): what follows for a list of such calls
(`Calls.exclusive`, `Calls.returned`), and for the platform that they are made on (`Calls.live`).
-/

namespace Screencast

namespace VideoCall

def encoderMade? : VideoCall → Option Nat
  | .encoder (.create _ made) => made
  | _ => none

def encoderReleased? : VideoCall → Option Nat
  | .encoder (.release e) => some e
  | _ => none

def displayMade? : VideoCall → Option Nat
  | .display (.create _ _ made) => made
  | _ => none

def displayDestroyed? : VideoCall → Option Nat
  | .display (.destroy d) => some d
  | _ => none

/-- Each encoder that was made was released since, and each display destroyed, once and in the
order they were made in. -/
structure Returned (calls : List VideoCall) : Prop where
  encoders : calls.filterMap encoderMade? = calls.filterMap encoderReleased?
  displays : calls.filterMap displayMade? = calls.filterMap displayDestroyed?

/-- Calls that take one thing at a time and give it back in order. -/
structure Exclusive (calls : List VideoCall) : Prop where
  /-- At any moment at most one encoder is not released. -/
  oneEncoder {before : List VideoCall} (moment : before <+: calls) :
    ∃ live : Option Nat,
      before.filterMap encoderMade? = before.filterMap encoderReleased? ++ live.toList
  oneDisplay {before : List VideoCall} (moment : before <+: calls) :
    ∃ live : Option Nat,
      before.filterMap displayMade? = before.filterMap displayDestroyed? ++ live.toList
  /-- Nothing is left of an attempt when the next one asks for an encoder. -/
  fresh {before after : List VideoCall} {name : String} {made : Option Nat}
    (asked : calls = before ++ .encoder (.create name made) :: after) : Returned before
  /-- A display that was made is used with the encoder at hand, and then both are given back. -/
  inOrder {before after : List VideoCall} {name : String} {secure : Bool} {display : Nat}
    (made : calls = before ++ .display (.create name secure (some display)) :: after) :
    ∃ encoder uses rest,
      before.filterMap encoderMade? = before.filterMap encoderReleased? ++ [encoder] ∧
      after = uses ++ rest ∧ (∀ call ∈ uses, call.Uses encoder display) ∧
      (rest <+: tearDown encoder display ∨ tearDown encoder display <+: rest)

end VideoCall

open VideoCall

/-- What a session has to give back. -/
inductive Holding where
  | nothing
  | encoder (encoder : Nat)
  | both (encoder display : Nat)
  | closed (encoder display : Nat)
  | stopped (encoder display : Nat)
  | display (display : Nat)
deriving DecidableEq, Repr

namespace Holding

def encoder? : Holding → Option Nat
  | .encoder e | .both e _ | .closed e _ | .stopped e _ => some e
  | .nothing | .display _ => none

def display? : Holding → Option Nat
  | .both _ d | .closed _ d | .stopped _ d | .display d => some d
  | .nothing | .encoder _ => none

/-- The calls that may be made with this at hand, and what is at hand then. -/
inductive Call : Holding → VideoCall → Holding → Prop
  | noEncoder (name : String) : Call .nothing (.encoder (.create name none)) .nothing
  | takeEncoder (name : String) (e : Nat) :
      Call .nothing (.encoder (.create name (some e))) (.encoder e)
  | noDisplay (name : String) (secure : Bool) (e : Nat) :
      Call (.encoder e) (.display (.create name secure none)) (.encoder e)
  | giveUp (e : Nat) : Call (.encoder e) (.encoder (.release e)) .nothing
  | takeDisplay (name : String) (secure : Bool) (e d : Nat) :
      Call (.encoder e) (.display (.create name secure (some d))) (.both e d)
  | use {call : VideoCall} {e d : Nat} (uses : call.Uses e d) : Call (.both e d) call (.both e d)
  | close (e d : Nat) : Call (.both e d) (.encoder (.closeQueues e)) (.closed e d)
  | stop (e d : Nat) : Call (.closed e d) (.encoder (.stop e)) (.stopped e d)
  | release (e d : Nat) : Call (.stopped e d) (.encoder (.release e)) (.display d)
  | destroy (d : Nat) : Call (.display d) (.display (.destroy d)) .nothing

/-- The calls that may be made one after the other. -/
inductive Calls : Holding → List VideoCall → Holding → Prop
  | nil (h : Holding) : Calls h [] h
  | cons {h middle h' : Holding} {call : VideoCall} {calls : List VideoCall}
      (first : Call h call middle) (rest : Calls middle calls h') : Calls h (call :: calls) h'

variable {h h' : Holding} {call : VideoCall} {calls before after : List VideoCall}

theorem Calls.append {middle : Holding} (first : Calls h before middle)
    (second : Calls middle after h') : Calls h (before ++ after) h' := by
  induction first with
  | nil => exact second
  | cons call _ ih => exact .cons call (ih second)

theorem Calls.split (all : Calls h (before ++ after) h') :
    ∃ middle, Calls h before middle ∧ Calls middle after h' := by
  induction before generalizing h with
  | nil => exact ⟨h, .nil h, all⟩
  | cons call before ih =>
    cases all with
    | cons first rest =>
      obtain ⟨middle, start, finish⟩ := ih rest
      exact ⟨middle, .cons first start, finish⟩

/-- Using what is at hand changes nothing. -/
theorem Calls.of_uses {e d : Nat} (uses : ∀ call ∈ calls, call.Uses e d) :
    Calls (.both e d) calls (.both e d) := by
  induction calls with
  | nil => exact .nil _
  | cons call calls ih =>
    rw [List.forall_mem_cons] at uses
    exact .cons (.use uses.1) (ih uses.2)

theorem Calls.tearDown (e d : Nat) : Calls (.both e d) (tearDown e d) .nothing :=
  .cons (.close e d) (.cons (.stop e d) (.cons (.release e d) (.cons (.destroy d) (.nil _))))

/-- A use neither makes anything nor gives it back. -/
theorem uses_silent {e d : Nat} (uses : call.Uses e d) :
    call.encoderMade? = none ∧ call.encoderReleased? = none ∧ call.displayMade? = none ∧
      call.displayDestroyed? = none := by
  unfold VideoCall.Uses at uses
  split at uses
  all_goals first | exact ⟨rfl, rfl, rfl, rfl⟩ | contradiction

theorem Call.encoders (step : Call h call h') :
    h.encoder?.toList ++ call.encoderMade?.toList =
      call.encoderReleased?.toList ++ h'.encoder?.toList := by
  cases step with
  | use uses =>
    obtain ⟨made, released, -, -⟩ := uses_silent uses
    simp [made, released]
  | noEncoder | takeEncoder | noDisplay | giveUp | takeDisplay | close | stop | release | destroy =>
    rfl

theorem Call.displays (step : Call h call h') :
    h.display?.toList ++ call.displayMade?.toList =
      call.displayDestroyed?.toList ++ h'.display?.toList := by
  cases step with
  | use uses =>
    obtain ⟨-, -, made, destroyed⟩ := uses_silent uses
    simp [made, destroyed]
  | noEncoder | takeEncoder | noDisplay | giveUp | takeDisplay | close | stop | release | destroy =>
    rfl

/-- What was at hand or was made is what was given back or is at hand, as soon as this is so of a
single call. -/
theorem Calls.accounted {held : Holding → Option Nat} {made returned : VideoCall → Option Nat}
    (once : ∀ {h call h'}, Call h call h' →
      (held h).toList ++ (made call).toList = (returned call).toList ++ (held h').toList)
    (all : Calls h calls h') :
    (held h).toList ++ calls.filterMap made = calls.filterMap returned ++ (held h').toList := by
  have split : ∀ (f : VideoCall → Option Nat) call calls,
      (call :: calls).filterMap f = (f call).toList ++ calls.filterMap f := by
    intro f call calls
    cases found : f call <;> simp [found]
  induction all with
  | nil => simp
  | cons first _ ih =>
    rw [split, split, ← List.append_assoc, once first, List.append_assoc, ih, List.append_assoc]

theorem Calls.encoders (all : Calls h calls h') :
    h.encoder?.toList ++ calls.filterMap encoderMade? =
      calls.filterMap encoderReleased? ++ h'.encoder?.toList :=
  all.accounted Call.encoders

theorem Calls.displays (all : Calls h calls h') :
    h.display?.toList ++ calls.filterMap displayMade? =
      calls.filterMap displayDestroyed? ++ h'.display?.toList :=
  all.accounted Call.displays

theorem Calls.returned (all : Calls .nothing calls .nothing) : Returned calls where
  encoders := by simpa [encoder?] using all.encoders
  displays := by simpa [display?] using all.displays

/-- Once the queues are closed there is one way to go on. -/
theorem Calls.afterClose {e d : Nat} (all : Calls (.closed e d) calls h) :
    .encoder (.closeQueues e) :: calls <+: VideoCall.tearDown e d ∨
      VideoCall.tearDown e d <+: .encoder (.closeQueues e) :: calls := by
  cases all with
  | nil => exact .inl ⟨_, rfl⟩
  | cons stop rest =>
    cases stop
    cases rest with
    | nil => exact .inl ⟨_, rfl⟩
    | cons release rest =>
      cases release
      cases rest with
      | nil => exact .inl ⟨_, rfl⟩
      | cons destroy rest =>
        cases destroy
        exact .inr ⟨_, rfl⟩

/-- What follows once an encoder and a display are at hand. -/
theorem Calls.inOrder {e d : Nat} (all : Calls (.both e d) calls h) :
    ∃ uses rest, calls = uses ++ rest ∧ (∀ call ∈ uses, call.Uses e d) ∧
      (rest <+: VideoCall.tearDown e d ∨ VideoCall.tearDown e d <+: rest) := by
  generalize same : Holding.both e d = start at all
  -- a use leaves both at hand; the only other call with both at hand closes the queues
  induction all with
  | nil => exact ⟨[], [], rfl, by simp, .inl ⟨_, rfl⟩⟩
  | @cons _ _ _ call calls first rest ih =>
    subst same
    cases first with
    | use uses =>
      obtain ⟨used, left, rfl, all, order⟩ := ih rfl
      exact ⟨call :: used, left, rfl, by simpa using ⟨uses, all⟩, order⟩
    | close => exact ⟨[], _, rfl, by simp, rest.afterClose⟩

/-- Calls that start and end with nothing at hand, or stop in the middle of that, are exclusive. -/
theorem Calls.exclusive (all : Calls .nothing calls h) : Exclusive calls where
  oneEncoder {before} moment := by
    obtain ⟨after, rfl⟩ := moment
    obtain ⟨middle, start, -⟩ := all.split
    exact ⟨middle.encoder?, by simpa [encoder?] using start.encoders⟩
  oneDisplay {before} moment := by
    obtain ⟨after, rfl⟩ := moment
    obtain ⟨middle, start, -⟩ := all.split
    exact ⟨middle.display?, by simpa [display?] using start.displays⟩
  fresh {before after name made} asked := by
    subst asked
    obtain ⟨middle, start, rest⟩ := all.split
    cases rest with
    | cons first rest =>
      cases first with
      | noEncoder | takeEncoder => exact start.returned
      | use uses => exact uses.elim
  inOrder {before after name secure display} made := by
    subst made
    obtain ⟨middle, start, rest⟩ := all.split
    cases rest with
    | cons first rest =>
      cases first with
      | takeDisplay _ _ e =>
        obtain ⟨uses, left, rfl, used, order⟩ := rest.inOrder
        exact ⟨e, uses, left, by simpa [encoder?] using start.encoders, rfl, used, order⟩
      | use uses => exact uses.elim

/-- The displays of a platform are the ones it had apart from these calls, and the one at hand. -/
theorem Call.live {p p' : Platform} {base : Nat} {c : DisplayCall}
    (step : Call h (.display c) h') (takes : p.Takes (some c) p')
    (live : p.liveDisplays = base + h.display?.toList.length) :
    p'.liveDisplays = base + h'.display?.toList.length := by
  have now := takes.live
  cases step with
  | noDisplay | takeDisplay => exact now.trans (congrArg (· + _) live)
  | destroy => exact now.trans (congrArg (· - 1) live)
  | use uses =>
    cases c with
    | setSurface => exact now.trans live
    | create | destroy => exact uses.elim

theorem Calls.live {p p' : Platform} {base : Nat} (all : Calls h calls h')
    (asked : Asked Platform.Takes p (calls.filterMap (·.display?)) p')
    (live : p.liveDisplays = base + h.display?.toList.length) :
    p'.liveDisplays = base + h'.display?.toList.length := by
  induction all generalizing p with
  | nil =>
    cases asked with
    | nil => exact live
    | unnoted first => nomatch first
  | @cons h middle h' call calls first rest ih =>
    cases call with
    | encoder call =>
      have same : middle.display? = h.display? := by
        cases first <;> rfl
      exact ih asked (by rw [same]; exact live)
    | display c =>
      cases asked with
      | noted takes asked => exact ih asked (first.live takes live)
      | unnoted first => nomatch first

end Holding

end Screencast
