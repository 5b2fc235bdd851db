import Screencast.Proofs.Service

/-!
What a device makes of the wish for an encoder, whether one is asked for by name or not
(`openEncoder_settled`).
-/

namespace Screencast

/-- What came of the wish for an encoder. A smaller size would not have helped where there is
none. The host is asked for what is noted, and for nothing else. -/
inductive Creation.Settled {σ : Type} [EncoderHost σ] (host : σ) (c : Creation σ) : Prop
  | refused {e : Error} (result : c.result = .error e)
      (calls : c.calls = [] ∨ ∃ name, c.calls = [.create name none])
      (final : ∀ reason, e ≠ .codec (.rejected reason))
      (asked : Asked EncoderHost.Takes host c.calls c.host)
  | made {name : String} {encoder : Nat} (result : c.result = .ok encoder)
      (calls : c.calls = [.create name (some encoder)])
      (asked : Asked EncoderHost.Takes host c.calls c.host)

theorem openEncoder_settled {σ : Type} [EncoderHost σ] (host : σ) (mime : String)
    (name : Option String) : (openEncoder host mime name).Settled host := by
  unfold openEncoder
  dsimp only
  cases name with
  | none =>
    dsimp only
    rcases EncoderHost.find host (.byMime mime) with e | found
    · exact .refused rfl (.inl rfl) (by simp) (.nil host)
    · dsimp only
      rcases answered : EncoderHost.create host found with ⟨after, e | encoder⟩
      · exact .refused rfl (.inr ⟨_, rfl⟩) (by simp) (.one (.create answered))
      · exact .made rfl rfl (.one (.create answered))
  | some name =>
    dsimp only
    split
    · rcases EncoderHost.find host (.byName name) with e | found
      · exact .refused rfl (.inl rfl) (by simp) (.nil host)
      · dsimp only
        rcases answered : EncoderHost.create host found with ⟨after, e | encoder⟩
        · exact .refused rfl (.inr ⟨_, rfl⟩) (by simp) (.one (.create answered))
        · exact .made rfl rfl (.one (.create answered))
    · exact .refused rfl (.inl rfl) (by simp) (.nil host)

namespace Creation.Settled

variable {σ : Type} [EncoderHost σ] {host : σ} {c : Creation σ}

theorem calls_eq (settled : c.Settled host) :
    c.calls = [] ∨ ∃ name made, c.calls = [.create name made] := by
  cases settled with
  | refused _ calls =>
    rcases calls with none | ⟨name, one⟩
    · exact .inl none
    · exact .inr ⟨name, none, one⟩
  | made _ calls => exact .inr ⟨_, _, calls⟩

theorem asked (settled : c.Settled host) : Asked EncoderHost.Takes host c.calls c.host := by
  cases settled <;> assumption

end Creation.Settled

end Screencast
