import Screencast.Proofs.Control.Chunking

/-!
Requests that are encoded one after the other at the end of one buffer. Only a text that is too long
to be typed is refused, and then its tag stays behind. All requests before it are read as they were
encoded, but the one that follows it is not (`appended_until_refusal`, `misread_behind_refusal`).
-/

namespace Screencast

namespace Decoded

variable {μ : Type} {decode : Bytes → Decoded μ}

/-- Behind whole messages a buffer is read as if it began there. -/
theorem Incremental.drain_append (inc : Incremental decode) {whole : Bytes} {messages : List μ}
    (read : drain decode whole = ⟨messages, .incomplete, []⟩) (b : Bytes) :
    drain decode (whole ++ b) =
      { drain decode b with messages := messages ++ (drain decode b).messages } := by
  have loop := inc.loop_drain whole
  rw [read] at loop
  exact inc.drain_eq_of_loop (loop.receive inc b)

/-- What a drained buffer begins with is what one attempt finds. -/
theorem Incremental.head?_drain (inc : Incremental decode) {b : Bytes} {m : μ}
    (first : (drain decode b).messages.head? = some m) : ∃ rest, decode b = .message m rest := by
  have loop := inc.loop_drain b
  generalize drain decode b = d at first loop
  cases loop with
  | message found _ =>
    cases first
    exact ⟨_, found⟩
  | incomplete | malformed | overrun => cases first

end Decoded

namespace ControlMessage

open Decoded (drain)

variable {m : ControlMessage} {text : String}

/-- Requests encoded at the end of a buffer, whatever becomes of each of them. -/
def appendAll (buffer : Bytes) (messages : List ControlMessage) : Bytes :=
  messages.foldl (fun buffer m => (append buffer m).1) buffer

/-- Text to be typed that no message can carry. -/
def Oversized (m : ControlMessage) : Prop :=
  ∃ text : String, m = .typeText text ∧ typedTextMax < text.utf8ByteSize

/-! ### One request -/

theorem append_of_encoded {part : Bytes} (encoded : m.encode = .ok part) (buffer : Bytes) :
    append buffer m = (buffer ++ part, none) := by
  rw [append, encoded]

theorem append_typeText_of_lt (long : typedTextMax < text.utf8ByteSize) (buffer : Bytes) :
    append buffer (.typeText text) =
      (buffer ++ [1], some (.textTooLong text.utf8ByteSize typedTextMax)) := by
  simp [append, encode, body, long, tag, Bytes.ofNat]

theorem exists_encode (fits : ¬ m.Oversized) : ∃ part, m.encode = .ok part := by
  cases m with
  | typeText text =>
    have short : ¬ typedTextMax < text.utf8ByteSize := fun long => fits ⟨text, rfl, long⟩
    exact ⟨_, encode_eq_ok.mpr ⟨_, if_neg short, rfl⟩⟩
  | _ => exact ⟨_, rfl⟩

theorem oversized_of_append {buffer : Bytes} (refused : (append buffer m).2.isSome) :
    m.Oversized := by
  by_contra fits
  obtain ⟨part, encoded⟩ := exists_encode fits
  rw [append_of_encoded encoded] at refused
  cases refused

/-- Accepted or refused, a request leaves its tag behind what was there. -/
theorem append_tag (buffer : Bytes) (m : ControlMessage) :
    ∃ more, (append buffer m).1 = buffer ++ UInt8.ofNat m.tag :: more := by
  by_cases oversized : m.Oversized
  · obtain ⟨text, rfl, long⟩ := oversized
    exact ⟨[], by rw [append_typeText_of_lt long]; rfl⟩
  · obtain ⟨part, encoded⟩ := exists_encode oversized
    obtain ⟨more, -, rfl⟩ := encode_eq_ok.mp encoded
    exact ⟨more, by rw [append_of_encoded encoded]⟩

/-! ### One after the other -/

theorem appendAll_append (buffer : Bytes) (messages later : List ControlMessage) :
    appendAll buffer (messages ++ later) = appendAll (appendAll buffer messages) later :=
  List.foldl_append

/-- Nothing that is in the buffer changes. -/
theorem exists_appendAll (buffer : Bytes) (messages : List ControlMessage) :
    ∃ more, appendAll buffer messages = buffer ++ more := by
  induction messages generalizing buffer with
  | nil => exact ⟨[], (List.append_nil buffer).symm⟩
  | cons m messages ih =>
    obtain ⟨first, appended⟩ := append_tag buffer m
    obtain ⟨more, rest⟩ := ih (append buffer m).1
    refine ⟨UInt8.ofNat m.tag :: first ++ more, ?_⟩
    rw [appendAll, List.foldl_cons, ← appendAll, rest, appended, List.append_assoc]

theorem appendAll_of_fits {messages : List ControlMessage} (fits : ∀ m ∈ messages, ¬ m.Oversized)
    (buffer : Bytes) : ∃ parts, List.Forall₂ (fun m part => encode m = .ok part) messages parts ∧
      appendAll buffer messages = buffer ++ parts.flatten := by
  induction messages generalizing buffer with
  | nil => exact ⟨[], .nil, (List.append_nil buffer).symm⟩
  | cons m messages ih =>
    obtain ⟨part, encoded⟩ := exists_encode (fits m (.head _))
    obtain ⟨parts, all, rest⟩ := ih (fun m member => fits m (.tail _ member)) (buffer ++ part)
    refine ⟨part :: parts, .cons encoded all, ?_⟩
    rw [appendAll, List.foldl_cons, ← appendAll, append_of_encoded encoded, rest,
      List.flatten_cons, List.append_assoc]

/-- Requests that fit are read back behind whatever is read from the buffer they were added to. -/
theorem drain_appendAll {buffer : Bytes} {earlier messages : List ControlMessage}
    (whole : drain decode buffer = ⟨earlier, .incomplete, []⟩)
    (fits : ∀ m ∈ messages, ¬ m.Oversized) :
    drain decode (appendAll buffer messages) =
      ⟨earlier ++ messages.map normalised, .incomplete, []⟩ := by
  obtain ⟨parts, encoded, appended⟩ := appendAll_of_fits fits buffer
  rw [appended, decode_incremental.drain_append whole,
    decode_incremental.drain_eq_of_loop (loop_encoded encoded)]

/-! ### Behind a refused text -/

theorem tag_normalised (m : ControlMessage) : m.normalised.tag = m.tag := by
  cases m <;> rfl

/-- A tag that was left behind makes the tag after it the first byte of a length. Only that of a key
is small enough, and then the key is taken for a text. -/
theorem decode_behind_tag (m : ControlMessage) (more rest : Bytes) :
    decode (1 :: UInt8.ofNat m.tag :: more) ≠ .message m.normalised rest := by
  intro decoded
  have front := front_decode (1 :: UInt8.ofNat m.tag :: more)
  generalize bytes : 1 :: UInt8.ofNat m.tag :: more = b at decoded front
  rw [decoded] at front
  cases front with
  | message f rest means =>
    cases f with
    | typeText content fits =>
      have zero : UInt8.ofNat m.tag = 0 := by
        have high : content.length >>> (8 * 3) = 0 := by
          rw [Nat.shiftRight_eq_div_pow]
          exact Nat.div_eq_of_lt (Nat.lt_of_le_of_lt fits (by decide))
        simp only [Frame.bytes, Frame.textBytes, Bytes.ofNat, List.cons_append,
          List.cons.injEq, high] at bytes
        exact bytes.2.1
      have one : m.tag = 1 := by
        rw [← tag_normalised]
        cases utf : utf8? content <;> simp [Frame.message, Frame.textOf, Except.map, utf] at means
        rw [← means, tag]
      rw [one] at zero
      exact absurd zero (by decide)
    | _ => simp [Frame.bytes] at bytes

/-- The request after a refused text is not read where it stands. -/
theorem drain_behind_refusal {buffer : Bytes} {earlier : List ControlMessage}
    (whole : drain decode buffer = ⟨earlier, .incomplete, []⟩)
    (long : typedTextMax < text.utf8ByteSize) (next : ControlMessage)
    (later : List ControlMessage) :
    ∃ more, (drain decode (appendAll buffer (.typeText text :: next :: later))).messages =
      earlier ++ more ∧ more.head? ≠ some next.normalised := by
  obtain ⟨first, tagged⟩ := append_tag (buffer ++ [1]) next
  obtain ⟨rest, added⟩ := exists_appendAll (append (buffer ++ [1]) next).1 later
  have left : appendAll buffer (.typeText text :: next :: later) =
      buffer ++ 1 :: UInt8.ofNat next.tag :: (first ++ rest) := by
    rw [appendAll, List.foldl_cons, List.foldl_cons, ← appendAll, append_typeText_of_lt long,
      added, tagged]
    simp
  refine ⟨(drain decode (1 :: UInt8.ofNat next.tag :: (first ++ rest))).messages, ?_, ?_⟩
  · rw [left, decode_incremental.drain_append whole]
  · intro same
    obtain ⟨rest, decoded⟩ := decode_incremental.head?_drain same
    exact decode_behind_tag next _ rest decoded

/-- As long as no text is too long, all requests are read as they were encoded, behind whatever was
in the buffer. A text that is too long is the only request that is refused, and its tag is all that
it leaves. The request after it is not read where it stands. -/
theorem appended_until_refusal {buffer : Bytes} {earlier messages : List ControlMessage}
    (whole : drain decode buffer = ⟨earlier, .incomplete, []⟩)
    (fits : ∀ m ∈ messages, ¬ m.Oversized) :
    drain decode (appendAll buffer messages) =
        ⟨earlier ++ messages.map normalised, .incomplete, []⟩ ∧
    (∀ (m : ControlMessage) (b : Bytes), (append b m).2.isSome → m.Oversized) ∧
    ∀ text : String, typedTextMax < text.utf8ByteSize →
      (∀ b : Bytes, append b (.typeText text) =
        (b ++ [1], some (.textTooLong text.utf8ByteSize typedTextMax))) ∧
      ∀ (next : ControlMessage) (later : List ControlMessage), ∃ more,
        (drain decode (appendAll buffer (messages ++ .typeText text :: next :: later))).messages =
          earlier ++ messages.map normalised ++ more ∧ more.head? ≠ some next.normalised := by
  have read := drain_appendAll whole fits
  refine ⟨read, fun m b => oversized_of_append, fun text long => ⟨append_typeText_of_lt long, ?_⟩⟩
  intro next later
  rw [appendAll_append]
  exact drain_behind_refusal read long next later

/-- Behind a request that was there before, and then a request to turn the device that is lost. -/
theorem appended_until_refusal_turn :
    let text := String.ofList (List.replicate 301 'a')
    let messages : List ControlMessage := [.fillClipboard ⟨1, true, "é"⟩, .key ⟨0, 29, 0, 0⟩]
    drain decode [4, 0] = ⟨[.backOrWake 0], .incomplete, []⟩ ∧
      (∀ m ∈ messages, ¬ m.Oversized) ∧ typedTextMax < text.utf8ByteSize ∧
      drain decode (appendAll [4, 0] messages) = ⟨.backOrWake 0 :: messages, .incomplete, []⟩ ∧
      ∃ more, (drain decode (appendAll [4, 0] (messages ++ [.typeText text, .rotate]))).messages =
        .backOrWake 0 :: messages ++ more ∧ more.head? ≠ some .rotate := by
  intro text messages
  have whole : drain decode [4, 0] = ⟨[.backOrWake 0], .incomplete, []⟩ := rfl
  have fits : ∀ m ∈ messages, ¬ m.Oversized := by
    rintro m member ⟨text, rfl, -⟩
    simp [messages] at member
  have long : typedTextMax < text.utf8ByteSize := by decide +kernel
  have plain : [.backOrWake 0] ++ messages.map normalised = .backOrWake 0 :: messages := rfl
  obtain ⟨read, -, refused⟩ := appended_until_refusal whole fits
  have lost := (refused text long).2 .rotate []
  rw [plain] at read lost
  exact ⟨whole, fits, long, read, lost⟩

/-- A refused text leaves a byte in an empty buffer, and the request after it is not read. -/
theorem misread_behind_refusal :
    let text := String.ofList (List.replicate 301 'a')
    append [] (.typeText text) = ([1], some (.textTooLong 301 300)) ∧
      append [1] .rotate = ([1, 11], none) ∧ drain decode [1, 11] = ⟨[], .incomplete, [1, 11]⟩ ∧
      drain decode [11] = ⟨[.rotate], .incomplete, []⟩ :=
  ⟨by decide +kernel, by decide, rfl, rfl⟩

end ControlMessage

end Screencast
