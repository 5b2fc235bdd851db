import Mathlib.Tactic.Common
import Screencast.Capture.Source
import Screencast.Device.Platform
import Screencast.Encoder.Host

/-!
What comes of calls. Encoders, a source of sound and the displays of a platform each go on by what
they are asked for (`Asked`), so that the calls that somebody notes can be held against what has
become of those they were made on. One that keeps what it receives has these calls then
(`encoder_received`, `sound_received`).
-/

namespace Screencast

/-- Something that was asked for these calls, one after the other; not every request is noted. -/
inductive Asked {α ε : Type} (takes : α → Option ε → α → Prop) : α → List ε → α → Prop
  | nil (a : α) : Asked takes a [] a
  | noted {a b c : α} {call : ε} {calls : List ε} (first : takes a (some call) b)
      (rest : Asked takes b calls c) : Asked takes a (call :: calls) c
  | unnoted {a b c : α} {calls : List ε} (first : takes a none b)
      (rest : Asked takes b calls c) : Asked takes a calls c

namespace Asked

variable {α ε : Type} {takes : α → Option ε → α → Prop} {a b c : α} {call : ε}
  {calls more : List ε}

theorem one (first : takes a (some call) b) : Asked takes a [call] b := .noted first (.nil b)

theorem quiet (first : takes a none b) : Asked takes a [] b := .unnoted first (.nil b)

theorem append (first : Asked takes a calls b) (rest : Asked takes b more c) :
    Asked takes a (calls ++ more) c := by
  induction first with
  | nil => exact rest
  | noted first _ ih => exact .noted first (ih rest)
  | unnoted first _ ih => exact .unnoted first (ih rest)

end Asked

/-- A host and what it makes of a call. A buffer is read without a trace, and the queues are not its
own. -/
inductive EncoderHost.Takes {σ : Type} [EncoderHost σ] (h : σ) : Option EncoderCall → σ → Prop
  | create {name : String} {h' : σ} {made : Except EncoderError Nat}
      (answered : EncoderHost.create h name = (h', made)) :
      Takes h (some (.create name made.toOption)) h'
  | configure {encoder : Nat} {format : EncoderFormat} {h' : σ} {answer : Except EncoderError Unit}
      (answered : EncoderHost.configure h encoder format = (h', answer)) :
      Takes h (some (.configure encoder format)) h'
  | surface {encoder : Nat} {h' : σ} {answer : Except EncoderError Nat}
      (answered : EncoderHost.surface h encoder = (h', answer)) :
      Takes h (some (.surface encoder)) h'
  | start {encoder : Nat} {h' : σ} {answer : Except EncoderError Unit}
      (answered : EncoderHost.start h encoder = (h', answer)) : Takes h (some (.start encoder)) h'
  | submitInput {encoder index : Nat} {unit : AccessUnit} {h' : σ}
      {answer : Except EncoderError Unit}
      (answered : EncoderHost.submitInput h encoder index unit = (h', answer)) :
      Takes h (some (.submitInput encoder index unit)) h'
  | readOutput (encoder index : Nat) : Takes h (some (.readOutput encoder index)) h
  | returnOutput {encoder index : Nat} {h' : σ} {answer : Except EncoderError Unit}
      (answered : EncoderHost.returnOutput h encoder index = (h', answer)) :
      Takes h (some (.returnOutput encoder index)) h'
  | closeQueues (encoder : Nat) : Takes h (some (.closeQueues encoder)) h
  | stop (encoder : Nat) : Takes h (some (.stop encoder)) (EncoderHost.stop h encoder)
  | release (encoder : Nat) : Takes h (some (.release encoder)) (EncoderHost.release h encoder)

/-- A source and what it makes of a call. That it is looked at, and that a read is begun, is not
noted. -/
inductive PcmSource.Takes {γ : Type} [PcmSource γ] (g : γ) : Option CaptureCall → γ → Prop
  | check {g' : γ} {answer : Except Error Unit} (answered : PcmSource.check g = (g', answer)) :
      Takes g none g'
  | beginRead (capacity : Nat) : Takes g none (PcmSource.beginRead g capacity)
  | start {g' : γ} {answer : Except Error Unit} (answered : PcmSource.start g = (g', answer)) :
      Takes g (some .start) g'
  | read {capacity : Nat} {g' : γ} {result : Except IoError Bytes}
      (answered : PcmSource.answer? g capacity = some (g', result)) :
      Takes g (some (.read capacity result)) g'
  | stop : Takes g (some .stop) (PcmSource.stop g)

/-- A platform and what it makes of a call about its virtual displays. -/
inductive Platform.Takes (p : Platform) : Option DisplayCall → Platform → Prop
  | create {name : String} {secure : Bool} {p' : Platform} {made : Except Error Nat}
      (answered : p.createDisplay = (p', made)) :
      Takes p (some (.create name secure made.toOption)) p'
  | setSurface {display surface : Nat} {projection : Projection} {p' : Platform}
      {answer : Except Error Unit} (answered : p.setSurface projection = (p', answer)) :
      Takes p (some (.setSurface display surface projection)) p'
  | destroy (display : Nat) : Takes p (some (.destroy display)) p.dropDisplay

/-- How many displays there are then. -/
theorem Platform.Takes.live {p p' : Platform} {call : DisplayCall}
    (takes : p.Takes (some call) p') :
    p'.liveDisplays = match call with
      | .create _ _ made => p.liveDisplays + made.toList.length
      | .setSurface _ _ _ => p.liveDisplays
      | .destroy _ => p.liveDisplays - 1 := by
  cases takes with
  | create answered =>
    unfold createDisplay at answered
    split at answered <;> cases answered <;> rfl
  | setSurface answered =>
    unfold Platform.setSurface at answered
    split at answered <;> cases answered <;> rfl
  | destroy display => rfl

/-! ### Hosts and sources that keep what they receive -/

/-- A host or a source, and the calls that have reached it. -/
structure Monitored (α ε : Type) where
  inner : α
  received : List ε := []

namespace Monitored

variable {σ γ : Type}

def receive {α ε : Type} (l : Monitored α ε) (call : ε) (inner : α) : Monitored α ε :=
  { inner, received := l.received ++ [call] }

instance [EncoderHost σ] : EncoderHost (Monitored σ EncoderCall) where
  names l := EncoderHost.names l.inner
  find l := EncoderHost.find l.inner
  create l name :=
    let (inner, made) := EncoderHost.create l.inner name
    (l.receive (.create name made.toOption) inner, made)
  configure l encoder format :=
    let (inner, answer) := EncoderHost.configure l.inner encoder format
    (l.receive (.configure encoder format) inner, answer)
  surface l encoder :=
    let (inner, answer) := EncoderHost.surface l.inner encoder
    (l.receive (.surface encoder) inner, answer)
  start l encoder :=
    let (inner, answer) := EncoderHost.start l.inner encoder
    (l.receive (.start encoder) inner, answer)
  inputRoom l := EncoderHost.inputRoom l.inner
  submitInput l encoder index unit :=
    let (inner, answer) := EncoderHost.submitInput l.inner encoder index unit
    (l.receive (.submitInput encoder index unit) inner, answer)
  readOutput l := EncoderHost.readOutput l.inner
  returnOutput l encoder index :=
    let (inner, answer) := EncoderHost.returnOutput l.inner encoder index
    (l.receive (.returnOutput encoder index) inner, answer)
  stop l encoder := l.receive (.stop encoder) (EncoderHost.stop l.inner encoder)
  release l encoder := l.receive (.release encoder) (EncoderHost.release l.inner encoder)

instance [PcmSource γ] : PcmSource (Monitored γ CaptureCall) where
  check l :=
    let (inner, answer) := PcmSource.check l.inner
    ({ l with inner }, answer)
  start l :=
    let (inner, answer) := PcmSource.start l.inner
    (l.receive .start inner, answer)
  beginRead l capacity := { l with inner := PcmSource.beginRead l.inner capacity }
  answer? l capacity := (PcmSource.answer? l.inner capacity).map fun (inner, result) =>
    (l.receive (.read capacity result) inner, result)
  stop l := l.receive .stop (PcmSource.stop l.inner)
  responds l := PcmSource.responds l.inner

end Monitored

/-- The host has a part in the call. -/
def EncoderCall.isHeard : EncoderCall → Bool
  | .readOutput _ _ | .closeQueues _ => false
  | .create _ _ | .configure _ _ | .surface _ | .start _ | .submitInput _ _ _ | .returnOutput _ _
  | .stop _ | .release _ => true

namespace Asked

/-- The calls that are heard have been received, if this is so for each of them. -/
theorem received_of_takes {α ε : Type} {takes : Monitored α ε → Option ε → Monitored α ε → Prop}
    {heard : ε → Bool}
    (noted : ∀ {l l' call}, takes l (some call) l' →
      l'.received = l.received ++ [call].filter heard)
    (unnoted : ∀ {l l'}, takes l none l' → l'.received = l.received) {l l' : Monitored α ε}
    {calls : List ε} (asked : Asked takes l calls l') :
    l'.received = l.received ++ calls.filter heard := by
  induction asked with
  | nil => exact (List.append_nil _).symm
  | noted first _ ih =>
    rw [ih, noted first, List.append_assoc, ← List.filter_append, List.singleton_append]
  | unnoted first _ ih => rw [ih, unnoted first]

theorem encoder_received {σ : Type} [EncoderHost σ] {l l' : Monitored σ EncoderCall}
    {calls : List EncoderCall} (asked : Asked EncoderHost.Takes l calls l') :
    l'.received = l.received ++ calls.filter EncoderCall.isHeard := by
  refine asked.received_of_takes (fun {l l' call} takes => ?_) nofun
  cases takes with
  | create answered | configure answered | surface answered | start answered
  | submitInput answered | returnOutput answered =>
    cases answered
    rfl
  | readOutput | closeQueues => exact (List.append_nil _).symm
  | stop | release => rfl

theorem sound_received {γ : Type} [PcmSource γ] {l l' : Monitored γ CaptureCall}
    {calls : List CaptureCall} (asked : Asked PcmSource.Takes l calls l') :
    l'.received = l.received ++ calls := by
  have all : l'.received = l.received ++ calls.filter fun _ => true := by
    refine asked.received_of_takes (fun {l l' call} takes => ?_) fun {l l'} takes => ?_
    · cases takes with
      | start answered =>
        cases answered
        rfl
      | read answered =>
        obtain ⟨answer, -, same⟩ := Option.map_eq_some_iff.mp answered
        cases same
        rfl
      | stop => rfl
    · cases takes with
      | check answered =>
        cases answered
        rfl
      | beginRead => rfl
  rw [all, List.filter_eq_self.mpr fun _ _ => rfl]

end Asked

/-! ### What holds from one call until another -/

/-- What such a call brings about and only another kind of call ends, holds for the calls so far if
it held before and the new ones keep to this. -/
theorem since_append {κ : Type} {first : κ} {ends : κ → Prop} {calls made : List κ}
    {held holds : Prop}
    (before : ∀ start rest, calls = start ++ first :: rest → (∀ call ∈ rest, ¬ ends call) → held)
    (now : first ∈ made → holds) (kept : held → (∀ call ∈ made, ¬ ends call) → holds)
    {start rest : List κ} (split : calls ++ made = start ++ first :: rest)
    (unended : ∀ call ∈ rest, ¬ ends call) : holds := by
  -- the call was made just now, or earlier with nothing to end it since
  obtain ⟨more, -, new⟩ | ⟨more, old, left⟩ := List.append_eq_append_iff.mp split
  · exact now (by simp [new])
  · obtain ⟨-, new⟩ | ⟨more, rfl, rfl⟩ := List.cons_eq_append_iff.mp left
    · exact now (by simp [new])
    · rw [List.forall_mem_append] at unended
      exact kept (before start more old unended.1) unended.2

end Screencast
