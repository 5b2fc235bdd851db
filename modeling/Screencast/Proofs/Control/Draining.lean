import Mathlib.Tactic.Common
import Screencast.Control.Decoding

/-!
Decoding from a buffer that grows. A decoder is incremental when more bytes change nothing about
what it has found in a buffer. Then it makes no difference in which portions a stream arrives
(`feed_eq_drain`), and `drain` is a run of the decode loop to its end (`loop_drain`).
-/

namespace Screencast.Decoded

variable {μ : Type} {decode : Bytes → Decoded μ}

/-- More bytes at the end of what was left over. -/
def extend (c : Bytes) : Decoded μ → Decoded μ
  | .message m r => .message m (r ++ c)
  | .malformed e r => .malformed e (r ++ c)
  | d => d

/-- Once it has found something, a decoder finds the same in every longer buffer, and leaves the
bytes that were added. -/
structure Incremental (decode : Bytes → Decoded μ) : Prop where
  empty : decode [] = .incomplete
  append {b : Bytes} : decode b ≠ .incomplete → ∀ c, decode (b ++ c) = (decode b).extend c
  shorter {b r : Bytes} {m : μ} : decode b = .message m r → r.length < b.length

theorem Incremental.append_eq (inc : Incremental decode) {b : Bytes} {d : Decoded μ}
    (h : decode b = d) (found : d ≠ .incomplete) (c : Bytes) : decode (b ++ c) = d.extend c :=
  h ▸ inc.append (h ▸ found) c

/-- The decode loop: an attempt after the other, as long as each yields a message. -/
inductive Loop (decode : Bytes → Decoded μ) : Bytes → Drained μ → Prop where
  | incomplete {b : Bytes} : decode b = .incomplete → Loop decode b ⟨[], .incomplete, b⟩
  | message {b r : Bytes} {m : μ} {d : Drained μ} : decode b = .message m r → Loop decode r d →
      Loop decode b { d with messages := m :: d.messages }
  | malformed {b r : Bytes} {e : MessageFault} : decode b = .malformed e r →
      Loop decode b ⟨[], .malformed e, r⟩
  | overrun {b : Bytes} : decode b = .overrun → Loop decode b ⟨[], .overrun, b⟩

theorem Loop.drainFrom_eq {b : Bytes} {d : Drained μ} (h : Loop decode b d)
    (shorter : ∀ {b r m}, decode b = .message m r → r.length < b.length) {fuel : Nat}
    (taken : List μ) (enough : b.length < fuel) :
    drainFrom decode fuel taken b = { d with messages := taken.reverse ++ d.messages } := by
  induction h generalizing fuel taken with
  | incomplete h | malformed h | overrun h =>
    obtain ⟨fuel, rfl⟩ : ∃ n, fuel = n + 1 := ⟨fuel - 1, by omega⟩
    simp [drainFrom, h]
  | message h _ ih =>
    obtain ⟨fuel, rfl⟩ : ∃ n, fuel = n + 1 := ⟨fuel - 1, by omega⟩
    have less := shorter h
    simp [drainFrom, h, ih (_ :: taken) (show _ < fuel by omega)]

namespace Incremental

/-- The loop ends on every buffer, since each message takes a byte or more. -/
theorem exists_loop (inc : Incremental decode) (b : Bytes) : ∃ d, Loop decode b d := by
  induction hn : b.length using Nat.strongRecOn generalizing b with
  | ind n ih =>
    cases h : decode b with
    | incomplete => exact ⟨_, .incomplete h⟩
    | malformed e r => exact ⟨_, .malformed h⟩
    | overrun => exact ⟨_, .overrun h⟩
    | message m r =>
      obtain ⟨d, hd⟩ := ih r.length (hn ▸ inc.shorter h) r rfl
      exact ⟨_, .message h hd⟩

theorem drain_eq_of_loop (inc : Incremental decode) {b : Bytes} {d : Drained μ}
    (h : Loop decode b d) : drain decode b = d :=
  h.drainFrom_eq inc.shorter [] (Nat.lt_succ_self _)

theorem loop_drain (inc : Incremental decode) (b : Bytes) : Loop decode b (drain decode b) := by
  obtain ⟨d, h⟩ := inc.exists_loop b
  rwa [inc.drain_eq_of_loop h]

end Incremental

/-! ### Messages that were written one after the other -/

/-- The bytes of `part` are read as the message `m`, whatever stands behind them. -/
def Reads (decode : Bytes → Decoded μ) (m : μ) (part : Bytes) : Prop :=
  ∀ rest, decode (part ++ rest) = .message m rest

namespace Incremental

variable {messages : List μ} {parts : List Bytes}

theorem loop_parts (inc : Incremental decode)
    (reads : List.Forall₂ (Reads decode) messages parts) :
    Loop decode parts.flatten ⟨messages, .incomplete, []⟩ := by
  induction reads with
  | nil => exact .incomplete inc.empty
  | cons first _ ih => exact .message (first _) ih

/-- The front of a message is no message. -/
theorem incomplete_of_take (inc : Incremental decode) {m : μ} {part : Bytes}
    (reads : Reads decode m part) {k : Nat} (short : k < part.length) :
    decode (part.take k) = .incomplete := by
  by_contra found
  have whole : decode part = .message m [] := by
    have := reads []
    rwa [List.append_nil] at this
  have extended := inc.append found (part.drop k)
  rw [List.take_append_drop, whole] at extended
  cases front : decode (part.take k) with
  | message m' rest =>
    simp only [front, extend, message.injEq] at extended
    have none : part.drop k = [] := (List.append_eq_nil_iff.mp extended.2.symm).2
    have := List.drop_eq_nil_iff.mp none
    omega
  | incomplete | malformed | overrun => simp [front, extend] at extended

/-- Of the first `k` bytes the whole messages are taken, and the rest is left, which is none. -/
theorem loop_take (inc : Incremental decode)
    (reads : List.Forall₂ (Reads decode) messages parts) (k : Nat) :
    ∃ n rest, parts.flatten.take k = (parts.take n).flatten ++ rest ∧ n ≤ parts.length ∧
      (∀ part, parts[n]? = some part → rest.length < part.length) ∧
      Loop decode (parts.flatten.take k) ⟨messages.take n, .incomplete, rest⟩ := by
  induction reads generalizing k with
  | nil =>
    refine ⟨0, [], by simp, by simp, by simp, ?_⟩
    simpa using Loop.incomplete inc.empty
  | @cons m part messages parts first _ ih =>
    by_cases whole : part.length ≤ k
    · obtain ⟨n, rest, bytes, within, short, loop⟩ := ih (k - part.length)
      have front : (part :: parts).flatten.take k =
          part ++ parts.flatten.take (k - part.length) := by
        rw [List.flatten_cons, List.take_append, List.take_of_length_le whole]
      refine ⟨n + 1, rest, ?_, by simpa using within, by simpa using short, ?_⟩
      · rw [front, bytes, List.take_succ_cons, List.flatten_cons, List.append_assoc]
      · rw [front]
        exact .message (first _) loop
    · have short : k < part.length := by omega
      have front : (part :: parts).flatten.take k = part.take k := by
        rw [List.flatten_cons, List.take_append_of_le_length (by omega)]
      refine ⟨0, part.take k, by simpa using front, by simp, by simp; omega, ?_⟩
      rw [front]
      exact .incomplete (inc.incomplete_of_take first short)

end Incremental

/-! ### A stream in portions -/

/-- What is decoded once more bytes have arrived. After a fault they stay where they are. -/
def receive (decode : Bytes → Decoded μ) (d : Drained μ) (chunk : Bytes) : Drained μ :=
  match d.halt with
  | .incomplete =>
    let more := drain decode (d.rest ++ chunk)
    { more with messages := d.messages ++ more.messages }
  | _ => { d with rest := d.rest ++ chunk }

/-- All that is decoded from a stream that arrives in these portions. -/
def feed (decode : Bytes → Decoded μ) (chunks : List Bytes) : Drained μ :=
  chunks.foldl (receive decode) ⟨[], .incomplete, []⟩

theorem Loop.receive (inc : Incremental decode) {b : Bytes} {d : Drained μ}
    (h : Loop decode b d) (chunk : Bytes) :
    Loop decode (b ++ chunk) (Decoded.receive decode d chunk) := by
  induction h with
  | incomplete h => exact inc.loop_drain _
  | malformed h => exact .malformed (inc.append_eq h (by simp) chunk)
  | overrun h => exact .overrun (inc.append_eq h (by simp) chunk)
  | @message b r m d h _ ih =>
    have next := Loop.message (inc.append_eq h (by simp) chunk) ih
    have same : Decoded.receive decode { d with messages := m :: d.messages } chunk =
        { Decoded.receive decode d chunk with
          messages := m :: (Decoded.receive decode d chunk).messages } := by
      cases hd : d.halt <;> simp [Decoded.receive, hd]
    rwa [same]

/-- The portions in which a stream arrives make no difference. -/
theorem feed_eq_drain (inc : Incremental decode) (chunks : List Bytes) :
    feed decode chunks = drain decode chunks.flatten := by
  have run (chunks : List Bytes) : ∀ {b d}, Loop decode b d →
      Loop decode (b ++ chunks.flatten) (chunks.foldl (receive decode) d) := by
    induction chunks with
    | nil => intro b d h; simpa using h
    | cons chunk chunks ih =>
      intro b d h
      simpa [List.append_assoc] using ih (h.receive inc chunk)
  exact (inc.drain_eq_of_loop (run chunks (.incomplete inc.empty))).symm

end Screencast.Decoded
