import Mathlib.Tactic.Common
import Screencast.Control.Outbox

/-!
What waits in an outbox: at most one message of each kind, acknowledgements before texts.
-/

namespace Screencast

@[simp] theorem DeviceMessage.tag_clipboard (text : String) : (clipboard text).tag = 0 := rfl

@[simp] theorem DeviceMessage.tag_ack (sequence : UInt64) : (ack sequence).tag = 1 := rfl

namespace Outbox

/-- The messages that wait, in the order in which they go. -/
def pending (o : Outbox) : List DeviceMessage :=
  (o.ack.map .ack).toList ++ (o.clipboard.map .clipboard).toList

/-- The message that waits of one kind. Kinds are told apart by their tags. -/
def ofKind? (o : Outbox) (kind : Nat) : Option DeviceMessage := o.pending.find? (·.tag = kind)

variable {o rest : Outbox} {m : DeviceMessage}

theorem length_pending_le (o : Outbox) : o.pending.length ≤ 2 := by
  obtain ⟨clipboard, ack⟩ := o
  cases clipboard <;> cases ack <;> simp [pending]

theorem take?_eq_none : o.take? = none ↔ o.pending = [] := by
  obtain ⟨clipboard, ack⟩ := o
  cases clipboard <;> cases ack <;> simp [take?, pending]

theorem pending_of_take (h : o.take? = some (m, rest)) : o.pending = m :: rest.pending := by
  obtain ⟨clipboard, ack⟩ := o
  cases ack with
  | some sequence => cases h; rfl
  | none => cases clipboard <;> cases h; rfl

/-- A newer message takes the place of an older one of its kind. -/
theorem ofKind?_push (o : Outbox) (m : DeviceMessage) (kind : Nat) :
    (o.push m).ofKind? kind = if m.tag = kind then some m else o.ofKind? kind := by
  obtain ⟨clipboard, ack⟩ := o
  by_cases h : m.tag = kind
  · subst h
    cases m <;> cases ack <;> simp [push, ofKind?, pending]
  · cases m <;> cases ack <;> cases clipboard <;>
      simp_all [push, ofKind?, pending, List.find?_cons]

theorem ofKind?_taken (h : o.take? = some (m, rest)) :
    o.ofKind? m.tag = some m ∧ rest.ofKind? m.tag = none := by
  obtain ⟨clipboard, ack⟩ := o
  cases ack with
  | some sequence => cases h; cases clipboard <;> simp [ofKind?, pending]
  | none => cases clipboard <;> cases h; simp [ofKind?, pending]

theorem ofKind?_left (h : o.take? = some (m, rest)) {kind : Nat} (other : m.tag ≠ kind) :
    rest.ofKind? kind = o.ofKind? kind := by
  simp [ofKind?, pending_of_take h, other]

/-- A text goes only when no acknowledgement waits. -/
theorem ack_first {text : String} (h : o.take? = some (.clipboard text, rest)) (sequence : UInt64) :
    o.ofKind? (DeviceMessage.ack sequence).tag = none := by
  obtain ⟨clipboard, ack⟩ := o
  cases ack with
  | some _ => cases h
  | none => cases clipboard <;> simp [ofKind?, pending]

end Outbox

end Screencast
