import Screencast.Proofs.Stream.Open

/-!
Calls on a sink that takes so many bytes and no more, in writes as short as it likes. Up to the call
that it cuts off they return what they return on a sink that takes everything, and what was taken
then is the front of what that sink would have got (`cut_of_run`). It makes no difference how the
bytes of a call are divided among writes (`writeEach_eq`).
-/

namespace Screencast

namespace Sink

variable {s : Sink} {bound : Nat} {stop : Outcome}

/-- What becomes of writes once `bound` bytes are there: whichever comes first, the failure or the
end of the room. -/
inductive EndsAt (s : Sink) (bound : Nat) : Outcome → Prop where
  | failure {e : IoError} (fails : s.failure = some (bound, e)) (room : ∀ b ∈ s.limit, bound ≤ b) :
      EndsAt s bound (.failed e)
  | limit (stalls : s.limit = some bound) (healthy : ∀ f ∈ s.failure, bound < f.1) :
      EndsAt s bound .stalled

/-- Every write takes a byte or more, until `bound` bytes are there. -/
structure Bounded (s : Sink) (bound : Nat) (stop : Outcome) : Prop where
  quota : ∀ total, 0 < s.quota total
  ends : s.EndsAt bound stop
  room : s.accepted.length ≤ bound

theorem EndsAt.offer_before (ends : s.EndsAt bound stop) {total : Nat} (before : total < bound)
    (n : Nat) : s.offer total n = .taken (min (min n (s.quota total)) (bound - total)) := by
  cases ends with
  | failure fails room =>
    simp only [Sink.offer, Sink.offer.limited, fails]
    rw [if_neg (by omega)]
    split
    · rename_i b limit
      have := room b limit
      rw [if_neg (by omega), Nat.min_eq_left (by omega)]
    · rfl
  | limit stalls healthy =>
    simp only [Sink.offer, Sink.offer.limited, stalls]
    split
    · rename_i f e failure
      have := healthy _ failure
      rw [if_neg (by omega), if_neg (by omega)]
      congr 1
      omega
    · rw [if_neg (by omega)]

theorem EndsAt.advance_end (ends : s.EndsAt bound stop) (zero : IoError) {n : Nat} (some : n ≠ 0) :
    s.advance zero bound n = (bound, stop) := by
  rw [Sink.advance, if_neg some]
  cases ends with
  | failure fails room => simp [Sink.offer, fails]
  | limit stalls healthy =>
    have full : s.offer bound n = .full := by
      simp only [Sink.offer, Sink.offer.limited, stalls, Nat.le_refl, ↓reduceIte]
      split
      · rename_i failure
        have := healthy _ failure
        rw [if_neg (by omega)]
      · rfl
    rw [full]

namespace Bounded

theorem advance (h : s.Bounded bound stop) (zero : IoError) {total : Nat} (room : total ≤ bound)
    (n : Nat) :
    s.advance zero total n = if total + n ≤ bound then (total + n, .done) else (bound, stop) := by
  induction n using Nat.strongRecOn generalizing total with
  | ind n ih =>
    by_cases none : n = 0
    · subst none
      rw [Sink.advance, if_pos rfl, Nat.add_zero, if_pos room]
    rcases Nat.lt_or_eq_of_le room with before | rfl
    · -- the first write takes some of the bytes, and the rest are on their own
      have quota := h.quota total
      obtain ⟨k, taken⟩ : ∃ k, min (min n (s.quota total)) (bound - total) = k + 1 :=
        ⟨min (min n (s.quota total)) (bound - total) - 1, by omega⟩
      rw [Sink.advance, if_neg none, h.ends.offer_before before, taken]
      dsimp only
      rw [ih _ (by omega) (by omega)]
      have same : total + (k + 1) + (n - (k + 1)) = total + n := by omega
      rw [same]
    · rw [h.ends.advance_end zero none, if_neg (by omega)]

theorem write_fits (h : s.Bounded bound stop) {bytes : Bytes}
    (fits : s.accepted.length + bytes.length ≤ bound) :
    s.write bytes = (s.taking bytes, .done) := by
  simp [Sink.write, writeOr, h.advance _ h.room, fits, Sink.taking]

/-- The same sink with more bytes, flushed any number of times. -/
theorem added (h : s.Bounded bound stop) {bytes : Bytes}
    (fits : s.accepted.length + bytes.length ≤ bound) (flushes : Nat) :
    Bounded { s with accepted := s.accepted ++ bytes, flushes } bound stop where
  quota := h.quota
  ends := by
    cases h.ends with
    | failure fails room => exact .failure fails room
    | limit stalls healthy => exact .limit stalls healthy
  room := by
    rw [List.length_append]
    exact fits

end Bounded

/-- How a write ends on a sink that takes no more, with these bytes left. -/
def Outcome.written (rest : Bytes) : Outcome → Written
  | .done => .done
  | .stalled => .stalled rest
  | .failed e => .failed e

theorem Bounded.write_short (h : s.Bounded bound stop) {bytes : Bytes}
    (short : bound < s.accepted.length + bytes.length) :
    s.write bytes = ({ s with accepted := (s.accepted ++ bytes).take bound },
      stop.written (bytes.drop (bound - s.accepted.length))) := by
  have room := h.room
  have front : s.accepted ++ bytes.take (bound - s.accepted.length) =
      (s.accepted ++ bytes).take bound := by
    rw [List.take_append, List.take_of_length_le room]
  simp only [Sink.write, writeOr, h.advance _ room, if_neg (Nat.not_le.mpr short), front]
  cases h.ends with
  | failure fails room => rfl
  | limit stalls healthy => rfl

/-! ### Several writes for the bytes of one call -/

/-- Writes these pieces one after the other, each to its end, and flushes once. -/
def writeEach (s : Sink) : List Bytes → Sink × Written
  | [] => ({ s with flushes := s.flushes + 1 }, .done)
  | piece :: pieces =>
    match s.write piece with
    | (after, .done) => writeEach { after with flushes := s.flushes } pieces
    | (after, .stalled rest) => (after, .stalled (rest ++ pieces.flatten))
    | (after, .failed e) => (after, .failed e)

namespace Bounded

theorem writeEach_fits (h : s.Bounded bound stop) {pieces : List Bytes}
    (fits : s.accepted.length + pieces.flatten.length ≤ bound) :
    s.writeEach pieces = (s.taking pieces.flatten, .done) := by
  induction pieces generalizing s with
  | nil => rw [writeEach, List.flatten_nil, Sink.taking, List.append_nil]
  | cons piece pieces ih =>
    rw [List.flatten_cons, List.length_append] at fits
    have first : s.accepted.length + piece.length ≤ bound := by omega
    rw [writeEach, h.write_fits first]
    refine (ih (h.added first s.flushes) ?_).trans ?_
    · rw [List.length_append]
      omega
    · simp only [Sink.taking, List.flatten_cons, List.append_assoc]

theorem writeEach_short (h : s.Bounded bound stop) {pieces : List Bytes}
    (short : bound < s.accepted.length + pieces.flatten.length) :
    s.writeEach pieces = ({ s with accepted := (s.accepted ++ pieces.flatten).take bound },
      stop.written (pieces.flatten.drop (bound - s.accepted.length))) := by
  induction pieces generalizing s with
  | nil => exact absurd h.room (Nat.not_le.mpr short)
  | cons piece pieces ih =>
    have room := h.room
    rw [List.flatten_cons, List.length_append] at short
    rw [writeEach]
    by_cases first : s.accepted.length + piece.length ≤ bound
    · rw [h.write_fits first]
      have left : (piece ++ pieces.flatten).drop (bound - s.accepted.length) =
          pieces.flatten.drop (bound - (s.accepted ++ piece).length) := by
        rw [List.drop_append, List.drop_eq_nil_of_le (by omega), List.nil_append,
          List.length_append, Nat.sub_add_eq]
      refine (ih (h.added first s.flushes) ?_).trans ?_
      · rw [List.length_append]
        omega
      · rw [List.flatten_cons, left, List.append_assoc]
    · have taken : (s.accepted ++ (piece ++ pieces.flatten)).take bound =
          (s.accepted ++ piece).take bound := by
        rw [← List.append_assoc, List.take_append_of_le_length]
        rw [List.length_append]
        omega
      have left : (piece ++ pieces.flatten).drop (bound - s.accepted.length) =
          piece.drop (bound - s.accepted.length) ++ pieces.flatten :=
        List.drop_append_of_le_length (by omega)
      rw [h.write_short (Nat.not_le.mp first), List.flatten_cons, taken, left]
      cases h.ends <;> rfl

/-- However the bytes are divided, the same becomes of them. -/
theorem writeEach_eq (h : s.Bounded bound stop) (pieces : List Bytes) :
    s.writeEach pieces = s.write pieces.flatten := by
  rcases Nat.lt_or_ge bound (s.accepted.length + pieces.flatten.length) with short | fits
  · rw [h.writeEach_short short, h.write_short short]
  · rw [h.writeEach_fits fits, h.write_fits fits]

end Bounded

end Sink

open Channel (Call Reply)

/-- The answer of a call whose write ends like this. -/
def Channel.Reply.ofOutcome : Sink.Outcome → Reply
  | .done => .ok
  | .stalled => .pending
  | .failed e => .error (.io e)

/-- The call did not get through, because of the sink. -/
def Channel.Reply.isCut : Reply → Bool
  | .pending | .error (.io _) => true
  | _ => false

/-- What a framer refuses is a misuse, and not a matter of the sink. -/
theorem Framer.isCut_step (f : Framer) (call : Call) : (f.step call).2.2.isCut = false := by
  unfold step
  cases framed : call.frame f with
  | ok output => rfl
  | error e =>
    cases call with
    | packet unit =>
      simp only [Call.frame, packet, adtsPacket] at framed
      split at framed
      · cases framed; rfl
      · split at framed
        · split at framed
          · cases framed
          · split at framed <;> cases framed
            rfl
        · split at framed <;> cases framed
    | videoHeader | audioHeader | disable => cases framed

namespace Channel

variable {c : Channel} {bound : Nat} {stop : Sink.Outcome}

theorem perform_fits (h : c.sink.Bounded bound stop) {call : Call}
    (fits : c.sink.accepted.length + (c.framer.step call).2.1.length ≤ bound) :
    ∃ after : Channel, c.perform call = (after, (c.framer.step call).2.2) ∧
      after.framer = (c.framer.step call).1 ∧ after.sink.Bounded bound stop ∧
      after.sink.accepted = c.sink.accepted ++ (c.framer.step call).2.1 := by
  unfold perform Framer.step at *
  match framed : call.frame c.framer with
  | .error e => exact ⟨c, rfl, rfl, h, by simp⟩
  | .ok (f, none) => exact ⟨⟨f, c.sink⟩, rfl, rfl, h, by simp⟩
  | .ok (f, some bytes) =>
    simp only [framed, Option.getD_some] at fits
    exact ⟨⟨f, c.sink.taking bytes⟩, by simp [h.write_fits fits], rfl, h.added fits _, rfl⟩

theorem perform_short (h : c.sink.Bounded bound stop) {call : Call}
    (short : bound < c.sink.accepted.length + (c.framer.step call).2.1.length) :
    (c.perform call).2 = .ofOutcome stop ∧
      (c.perform call).1.sink.accepted =
        (c.sink.accepted ++ (c.framer.step call).2.1).take bound := by
  have room := h.room
  unfold perform Framer.step at *
  match framed : call.frame c.framer with
  | .error e => simp only [framed, List.length_nil] at short; omega
  | .ok (f, none) => simp only [framed, Option.getD_none, List.length_nil] at short; omega
  | .ok (f, some bytes) =>
    simp only [framed, Option.getD_some] at short
    simp only [h.write_short short, Option.getD_some, and_true]
    cases h.ends <;> rfl

theorem run_cons (c : Channel) (call : Call) (calls : List Call) :
    c.run (call :: calls) = (((c.perform call).1.run calls).1,
      (c.perform call).2 :: ((c.perform call).1.run calls).2) := rfl

/-- How calls fare on a sink with an end, as far as the first that is cut off. -/
structure CutAt (c : Channel) (bound : Nat) (stop : Sink.Outcome) (calls : List Call) (cut : Nat) :
    Prop where
  /-- Before it they answer as they do where everything is taken. -/
  replies : (c.run calls).2.take cut = (c.framer.run calls).2.2.take cut
  /-- What is there after it. -/
  accepted : (c.run (calls.take (cut + 1))).1.sink.accepted =
    (c.sink.accepted ++ (c.framer.run calls).2.1).take bound
  /-- There is one if the bytes of all calls are too many. -/
  exists_of_short : bound < (c.sink.accepted ++ (c.framer.run calls).2.1).length →
    cut < calls.length
  /-- There is one only if its own bytes are too many. -/
  reply : cut < calls.length → (c.run calls).2[cut]? = some (.ofOutcome stop)
  short : cut < calls.length →
    bound < (c.sink.accepted ++ (c.framer.run (calls.take (cut + 1))).2.1).length

theorem Reply.isCut_ofOutcome {s : Sink} (ends : s.EndsAt bound stop) :
    (ofOutcome stop).isCut = true := by
  cases ends <;> rfl

theorem cutAt_findIdx (h : c.sink.Bounded bound stop) (calls : List Call) :
    c.CutAt bound stop calls ((c.run calls).2.findIdx Reply.isCut) := by
  induction calls generalizing c with
  | nil =>
    have room := h.room
    have whole : c.sink.accepted ++ (c.framer.run []).2.1 = c.sink.accepted := List.append_nil _
    refine ⟨rfl, ?_, fun short => ?_, nofun, nofun⟩
    · rw [whole, List.take_of_length_le room]
      rfl
    · rw [whole] at short
      omega
  | cons call calls ih =>
    have steps : c.framer.run (call :: calls) = (((c.framer.step call).1.run calls).1,
      (c.framer.step call).2.1 ++ ((c.framer.step call).1.run calls).2.1,
      (c.framer.step call).2.2 :: ((c.framer.step call).1.run calls).2.2) := rfl
    by_cases fits : c.sink.accepted.length + (c.framer.step call).2.1.length ≤ bound
    · -- the call gets through, and the others go on from there
      obtain ⟨next, performed, framer, bounded, accepted⟩ := perform_fits h fits
      have rest := ih bounded
      have ran : c.run (call :: calls) =
          ((next.run calls).1, (c.framer.step call).2.2 :: (next.run calls).2) := by
        rw [run_cons, performed]
      have whole (calls : List Call) : c.sink.accepted ++ (c.framer.run (call :: calls)).2.1 =
          next.sink.accepted ++ (next.framer.run calls).2.1 := by
        rw [accepted, framer, List.append_assoc]
        rfl
      rw [ran, List.findIdx_cons, c.framer.isCut_step, cond_false]
      refine ⟨?_, ?_, fun short => ?_, fun cut => ?_, fun cut => ?_⟩
      · rw [ran, steps, List.take_succ_cons, List.take_succ_cons, rest.replies, framer]
      · rw [List.take_succ_cons, run_cons, performed, whole]
        exact rest.accepted
      · rw [whole] at short
        exact Nat.succ_lt_succ (rest.exists_of_short short)
      · rw [ran, List.getElem?_cons_succ]
        exact rest.reply (Nat.lt_of_succ_lt_succ cut)
      · rw [List.take_succ_cons, whole]
        exact rest.short (Nat.lt_of_succ_lt_succ cut)
    · -- the call is the first one that is cut off
      have short := Nat.not_le.mp fits
      rw [← List.length_append] at short
      obtain ⟨reply, accepted⟩ := perform_short h (Nat.not_le.mp fits)
      have first : (c.run (call :: calls)).2.findIdx Reply.isCut = 0 := by
        rw [run_cons, List.findIdx_cons, reply, Reply.isCut_ofOutcome h.ends, cond_true]
      rw [first]
      refine ⟨rfl, ?_, fun _ => Nat.succ_pos _, fun _ => ?_, fun _ => ?_⟩
      · rw [steps, ← List.append_assoc, List.take_append_of_le_length (Nat.le_of_lt short)]
        exact accepted
      · rw [run_cons, List.getElem?_cons_zero, reply]
      · rw [List.take_succ_cons, List.take_zero]
        simpa [Framer.run] using short

theorem length_run (c : Channel) (calls : List Call) : (c.run calls).2.length = calls.length := by
  induction calls generalizing c with
  | nil => rfl
  | cons call calls ih => rw [run_cons, List.length_cons, List.length_cons, ih]

/-- Which call is the first that does not get through because of the sink. -/
def cut (c : Channel) (calls : List Call) : Nat := (c.run calls).2.findIdx Reply.isCut

/-- Compared with a sink that takes everything, calls answer the same up to the one that is cut off,
which wants more bytes than there is room for; it fills the room with the front of what that sink
gets. If none is cut off, everything is there. -/
theorem cut_of_run {ideal : Sink} (bounded : c.sink.Bounded bound stop) (opened : ideal.Open)
    (same : ideal.accepted = c.sink.accepted) (calls : List Call) :
    (c.run calls).2.take (c.cut calls) =
        (Channel.run ⟨c.framer, ideal⟩ calls).2.take (c.cut calls) ∧
      (∀ reply, (c.run calls).2[c.cut calls]? = some reply → reply = .ofOutcome stop ∧
        bound < (Channel.run ⟨c.framer, ideal⟩
          (calls.take (c.cut calls + 1))).1.sink.accepted.length) ∧
      (c.run (calls.take (c.cut calls + 1))).1.sink.accepted =
        (Channel.run ⟨c.framer, ideal⟩ calls).1.sink.accepted.take bound ∧
      ((∀ reply ∈ (c.run calls).2, reply.isCut = false) →
        (c.run calls).2 = (Channel.run ⟨c.framer, ideal⟩ calls).2 ∧
        (c.run calls).1.sink.accepted =
          (Channel.run ⟨c.framer, ideal⟩ calls).1.sink.accepted) ∧
      ∀ pieces, c.sink.writeEach pieces = c.sink.write pieces.flatten := by
  have at_cut : c.CutAt bound stop calls (c.cut calls) := cutAt_findIdx bounded calls
  have replies (calls : List Call) :
      (Channel.run ⟨c.framer, ideal⟩ calls).2 = (c.framer.run calls).2.2 := by
    obtain ⟨after, ran, -⟩ := run_open (c := ⟨c.framer, ideal⟩) opened calls
    rw [ran]
  have accepted (calls : List Call) : (Channel.run ⟨c.framer, ideal⟩ calls).1.sink.accepted =
      c.sink.accepted ++ (c.framer.run calls).2.1 := by
    obtain ⟨after, ran, -, -, taken⟩ := run_open (c := ⟨c.framer, ideal⟩) opened calls
    rw [ran, taken, same]
  refine ⟨?_, fun reply found => ?_, ?_, fun none => ?_, bounded.writeEach_eq⟩
  · rw [replies, at_cut.replies]
  · have before : c.cut calls < calls.length := by
      rw [← c.length_run calls]
      exact (List.getElem?_eq_some_iff.mp found).1
    rw [at_cut.reply before] at found
    rw [accepted]
    exact ⟨(Option.some.inj found).symm, at_cut.short before⟩
  · rw [accepted, at_cut.accepted]
  · have last : c.cut calls = calls.length := by
      rw [← c.length_run calls]
      exact List.findIdx_eq_length.mpr none
    have fits : (c.sink.accepted ++ (c.framer.run calls).2.1).length ≤ bound :=
      Nat.le_of_not_lt fun short => absurd (at_cut.exists_of_short short) (by omega)
    have first := at_cut.replies
    have all := at_cut.accepted
    rw [last, ← replies, List.take_of_length_le (Nat.le_of_eq (c.length_run calls)),
      List.take_of_length_le (Nat.le_of_eq (length_run _ calls))] at first
    rw [last, List.take_of_length_le (Nat.le_succ _), List.take_of_length_le fits,
      ← accepted] at all
    exact ⟨first, all⟩

/-- The room ends within the timestamp in front of the second packet. -/
theorem cut_of_run_within_meta :
    let c : Channel :=
      ⟨{ codec := .audio .opus }, { quota := fun total => total % 3 + 1, limit := some 25 }⟩
    let calls : List Call := [.audioHeader, .packet ⟨[], 5, .none⟩, .packet ⟨[1, 2, 3], 7, .none⟩]
    c.cut calls = 2 ∧ (c.run calls).2[2]? = some .pending ∧
      (c.run calls).1.sink.accepted =
        (Channel.run ⟨c.framer, {}⟩ calls).1.sink.accepted.take 25 := by
  intro c calls
  have bounded : c.sink.Bounded 25 .stalled :=
    ⟨fun _ => Nat.succ_pos _, .limit rfl nofun, Nat.zero_le _⟩
  have opened : Sink.Open {} := ⟨fun _ => Nat.succ_pos _, rfl, rfl⟩
  obtain ⟨-, -, accepted, -⟩ := cut_of_run bounded opened rfl calls
  have cut : c.cut calls = 2 := by decide +kernel
  rw [cut] at accepted
  exact ⟨cut, by decide +kernel, accepted⟩

end Channel

end Screencast
