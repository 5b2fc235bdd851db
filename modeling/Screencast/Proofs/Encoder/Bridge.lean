import Mathlib.Data.List.Induction
import Screencast.Encoder.Bridge
import Screencast.Proofs.Queue

/-!
Both queues of a bridge behave as queues do (`Follows`), so nothing that an encoder announces is
lost or reordered. Of the errors reported since the last one was taken the first is handed out.
-/

namespace Screencast

inductive BridgeMove where
  /-- An input buffer is ready. -/
  | input (index : Nat)
  /-- An output buffer is ready. -/
  | output (o : OutputBuffer)
  | report (e : EncoderError)
  /-- The reporting side is cloned. -/
  | clone
  /-- A clone of the reporting side goes away. -/
  | drop
  | takeInput
  | takeOutput
  | takeError
  | close
  /-- The driving side goes away. -/
  | hangUp
deriving DecidableEq, Repr

namespace BridgeMove

/-- What a move does to the queue of input buffers. -/
def onInputs : BridgeMove → QueueMove Nat
  | input index => .push index
  | clone => .addProducer
  | drop => .dropProducer
  | takeInput => .take
  | close => .close
  | hangUp => .dropConsumer
  | output _ | report _ | takeOutput | takeError => .elsewhere

/-- What a move does to the queue of output buffers. -/
def onOutputs : BridgeMove → QueueMove OutputBuffer
  | output o => .push o
  | clone => .addProducer
  | drop => .dropProducer
  | takeOutput => .take
  | close => .close
  | hangUp => .dropConsumer
  | input _ | report _ | takeInput | takeError => .elsewhere

/-- The errors reported and not taken after a move, when there were these before. -/
def reports (errors : List EncoderError) : BridgeMove → List EncoderError
  | report e => errors ++ [e]
  | takeError => []
  | _ => errors

/-- The errors reported since the last one was taken. -/
def reported (moves : List BridgeMove) : List EncoderError := moves.foldl reports []

end BridgeMove

/-- A bridge, and a log for each of its queues. -/
structure BridgeWorld where
  bridge : Bridge
  inputs : QueueLog Nat := {}
  outputs : QueueLog OutputBuffer := {}
deriving DecidableEq, Repr

namespace BridgeWorld

def ofCapacity (capacity : Nat) : BridgeWorld := { bridge := .ofCapacity capacity }

def inputQueue (w : BridgeWorld) : QueueWorld Nat := ⟨w.bridge.inputs, w.inputs⟩

def outputQueue (w : BridgeWorld) : QueueWorld OutputBuffer := ⟨w.bridge.outputs, w.outputs⟩

def withInputs (w : BridgeWorld) (l : Logged Bridge Nat) : BridgeWorld :=
  { w with bridge := l.state, inputs := l.log }

def withOutputs (w : BridgeWorld) (l : Logged Bridge OutputBuffer) : BridgeWorld :=
  { w with bridge := l.state, outputs := l.log }

def step (w : BridgeWorld) : BridgeMove → BridgeWorld
  | .input index =>
    if w.bridge.inputs.producers = 0 then w
    else w.withInputs (Logged.push Bridge.onInput ⟨w.bridge, w.inputs⟩ index)
  | .output o =>
    if w.bridge.outputs.producers = 0 then w
    else w.withOutputs (Logged.push Bridge.onOutput ⟨w.bridge, w.outputs⟩ o)
  | .report e => { w with bridge := w.bridge.noteError e }
  | .clone => { w with bridge := w.bridge.addProducer }
  | .drop => { w with bridge := w.bridge.dropProducer }
  | .takeInput =>
    if w.inputs.consumer then
      { w with
        bridge.inputs := w.bridge.inputs.take.1
        inputs := w.inputs.took w.bridge.inputs.take.2 }
    else w
  | .takeOutput =>
    if w.outputs.consumer then
      { w with
        bridge.outputs := w.bridge.outputs.take.1
        outputs := w.outputs.took w.bridge.outputs.take.2 }
    else w
  | .takeError => { w with bridge := w.bridge.takeFailure.1 }
  | .close =>
    if w.inputs.consumer then
      { bridge := w.bridge.close
        inputs := w.inputs.closed w.bridge.inputs.close.2
        outputs := w.outputs.closed w.bridge.outputs.close.2 }
    else w
  | .hangUp =>
    if w.inputs.consumer then
      { bridge := w.bridge.close
        inputs := w.inputs.abandon w.bridge.inputs.items
        outputs := w.outputs.abandon w.bridge.outputs.items }
    else w

def retryInputs (w : BridgeWorld) : BridgeWorld :=
  w.withInputs (Logged.retry Bridge.onInput ⟨w.bridge, w.inputs⟩)

def retryOutputs (w : BridgeWorld) : BridgeWorld :=
  w.withOutputs (Logged.retry Bridge.onOutput ⟨w.bridge, w.outputs⟩)

def apply (w : BridgeWorld) (m : BridgeMove) : BridgeWorld := (w.step m).retryInputs.retryOutputs

def run (capacity : Nat) (moves : List BridgeMove) : BridgeWorld :=
  moves.foldl apply (ofCapacity capacity)

variable (w : BridgeWorld)

/-! ### One queue at a time -/

theorem retryInputs_inputQueue : w.retryInputs.inputQueue = w.inputQueue.retry Queue.push :=
  Logged.map_retry Bridge.onInput (f := Bridge.inputs) (fun _ _ => rfl)
    ⟨w.bridge, w.inputs⟩

theorem retryOutputs_outputQueue : w.retryOutputs.outputQueue = w.outputQueue.retry Queue.push :=
  Logged.map_retry Bridge.onOutput (f := Bridge.outputs) (fun _ _ => rfl)
    ⟨w.bridge, w.outputs⟩

theorem retryInputs_outputQueue : w.retryInputs.outputQueue = w.outputQueue := by
  have same := Logged.retry_same Bridge.onInput (g := fun l => l.state.outputs)
    (fun _ _ => rfl) (fun _ => rfl) ⟨w.bridge, w.inputs⟩
  simp only [outputQueue, retryInputs, withInputs, same]

theorem retryOutputs_inputQueue : w.retryOutputs.inputQueue = w.inputQueue := by
  have same := Logged.retry_same Bridge.onOutput (g := fun l => l.state.inputs)
    (fun _ _ => rfl) (fun _ => rfl) ⟨w.bridge, w.outputs⟩
  simp only [inputQueue, retryOutputs, withOutputs, same]

theorem step_inputQueue (m : BridgeMove) :
    (w.step m).inputQueue = w.inputQueue.step m.onInputs := by
  cases m with
  | input index =>
    simp only [step, BridgeMove.onInputs, QueueWorld.step]
    by_cases gone : w.bridge.inputs.producers = 0
    · rw [if_pos gone]
      exact (if_pos gone).symm
    · rw [if_neg gone]
      exact (if_neg gone).symm
  | takeInput | close | hangUp =>
    simp only [step, BridgeMove.onInputs, QueueWorld.step]
    by_cases present : w.inputs.consumer = true
    · rw [if_pos present]
      exact (if_pos present).symm
    · rw [if_neg present]
      exact (if_neg present).symm
  | output o | takeOutput =>
    simp only [step, BridgeMove.onInputs, QueueWorld.step]
    split <;> rfl
  | report e | takeError | clone | drop => rfl

theorem step_outputQueue (together : w.inputs.consumer = w.outputs.consumer) (m : BridgeMove) :
    (w.step m).outputQueue = w.outputQueue.step m.onOutputs := by
  cases m with
  | output o =>
    simp only [step, BridgeMove.onOutputs, QueueWorld.step]
    by_cases gone : w.bridge.outputs.producers = 0
    · rw [if_pos gone]
      exact (if_pos gone).symm
    · rw [if_neg gone]
      exact (if_neg gone).symm
  | takeOutput | close | hangUp =>
    simp only [step, BridgeMove.onOutputs, QueueWorld.step, together]
    by_cases present : w.outputs.consumer = true
    · rw [if_pos present]
      exact (if_pos present).symm
    · rw [if_neg present]
      exact (if_neg present).symm
  | input index | takeInput =>
    simp only [step, BridgeMove.onOutputs, QueueWorld.step]
    split <;> rfl
  | report e | takeError | clone | drop => rfl

theorem apply_inputQueue (m : BridgeMove) :
    (w.apply m).inputQueue = w.inputQueue.apply m.onInputs := by
  rw [apply, retryOutputs_inputQueue, retryInputs_inputQueue, step_inputQueue, QueueWorld.apply]

theorem apply_outputQueue (together : w.inputs.consumer = w.outputs.consumer) (m : BridgeMove) :
    (w.apply m).outputQueue = w.outputQueue.apply m.onOutputs := by
  rw [apply, retryOutputs_outputQueue, retryInputs_outputQueue, w.step_outputQueue together,
    QueueWorld.apply]

/-- The driving side goes away as a whole. -/
theorem step_together (together : w.inputs.consumer = w.outputs.consumer) (m : BridgeMove) :
    (w.step m).inputs.consumer = (w.step m).outputs.consumer := by
  cases m with
  | input index =>
    simp only [step]
    split
    · exact together
    · have same := Logged.push_consumer Bridge.onInput ⟨w.bridge, w.inputs⟩ index
      exact same.trans together
  | output o =>
    simp only [step]
    split
    · exact together
    · have same := Logged.push_consumer Bridge.onOutput ⟨w.bridge, w.outputs⟩ o
      exact together.trans same.symm
  | takeInput | takeOutput =>
    simp only [step]
    split <;> simp [together]
  | close =>
    simp only [step]
    split <;> exact together
  | hangUp =>
    simp only [step]
    split
    · rfl
    · exact together
  | report e | takeError | clone | drop => exact together

theorem apply_together (together : w.inputs.consumer = w.outputs.consumer) (m : BridgeMove) :
    (w.apply m).inputs.consumer = (w.apply m).outputs.consumer := by
  have inputs := Logged.retry_consumer Bridge.onInput
    ⟨(w.step m).bridge, (w.step m).inputs⟩
  have outputs := Logged.retry_consumer Bridge.onOutput
    ⟨(w.step m).retryInputs.bridge, (w.step m).outputs⟩
  exact inputs.trans ((w.step_together together m).trans outputs.symm)

/-- Each queue of a bridge goes the way of a queue of its own. -/
theorem follows_of_run (capacity : Nat) (moves : List BridgeMove) :
    (run capacity moves).inputQueue = QueueWorld.run capacity (moves.map BridgeMove.onInputs) ∧
    (run capacity moves).outputQueue = QueueWorld.run capacity (moves.map BridgeMove.onOutputs) ∧
    (run capacity moves).inputs.consumer = (run capacity moves).outputs.consumer := by
  induction moves using List.reverseRecOn with
  | nil => exact ⟨rfl, rfl, rfl⟩
  | append_singleton moves m ih =>
    obtain ⟨inputs, outputs, together⟩ := ih
    simp only [run, QueueWorld.run, List.map_append, List.map_cons, List.map_nil,
      List.foldl_append, List.foldl_cons, List.foldl_nil] at inputs outputs together ⊢
    rw [apply_inputQueue, apply_outputQueue _ together, inputs, outputs]
    exact ⟨rfl, rfl, apply_together _ together m⟩

/-! ### The error that is kept -/

theorem apply_error (m : BridgeMove) : (w.apply m).bridge.error = (w.step m).bridge.error := by
  have inputs := Logged.retry_same Bridge.onInput (g := fun l => l.state.error)
    (fun _ _ => rfl) (fun _ => rfl) ⟨(w.step m).bridge, (w.step m).inputs⟩
  have outputs := Logged.retry_same Bridge.onOutput (g := fun l => l.state.error)
    (fun _ _ => rfl) (fun _ => rfl)
    ⟨(w.step m).retryInputs.bridge, (w.step m).retryInputs.outputs⟩
  exact outputs.trans inputs

theorem step_error {errors : List EncoderError} (kept : w.bridge.error = errors.head?)
    (m : BridgeMove) : (w.step m).bridge.error = (m.reports errors).head? := by
  cases m with
  | report e =>
    simp only [step, Bridge.noteError, BridgeMove.reports, kept, List.head?_append, List.head?_cons]
  | takeError => rfl
  | input | output | takeInput | takeOutput | close | hangUp =>
    simp only [step, BridgeMove.reports]
    split
    · exact kept
    · exact kept
  | clone | drop => exact kept

theorem error_of_run (capacity : Nat) (moves : List BridgeMove) :
    (run capacity moves).bridge.error = (BridgeMove.reported moves).head? := by
  induction moves using List.reverseRecOn with
  | nil => rfl
  | append_singleton moves m ih =>
    simp only [run, BridgeMove.reported, List.foldl_append, List.foldl_cons,
      List.foldl_nil] at ih ⊢
    rw [apply_error, step_error _ ih]

end BridgeWorld

/-- Whatever happens to a queue, or to the two queues of a bridge, in any order, nothing is lost,
doubled or reordered; and the first error since the last one was taken is handed out. -/
theorem conserved_of_moves :
    (∀ {α : Type} (capacity : Nat) (moves : List (QueueMove α)),
      (QueueWorld.run capacity moves).Conserved capacity) ∧
    ∀ (capacity : Nat) (moves : List BridgeMove),
      (BridgeWorld.run capacity moves).inputQueue.Conserved capacity ∧
      (BridgeWorld.run capacity moves).outputQueue.Conserved capacity ∧
      (BridgeWorld.run capacity moves).bridge.takeFailure.2 =
        .codec ((BridgeMove.reported moves).head?.getD
          (.rejected "unspecified encoder failure")) := by
  constructor
  · intro α capacity moves
    exact QueueWorld.conserved_of_run capacity moves
  · intro capacity moves
    obtain ⟨inputs, outputs, -⟩ := BridgeWorld.follows_of_run capacity moves
    refine ⟨?_, ?_, ?_⟩
    · rw [inputs]
      exact QueueWorld.conserved_of_run capacity _
    · rw [outputs]
      exact QueueWorld.conserved_of_run capacity _
    · rw [Bridge.takeFailure, BridgeWorld.error_of_run]

end Screencast
