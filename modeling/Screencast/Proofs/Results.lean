import Mathlib.Data.List.Forall2

/-!
Computations that can fail. Two of them in a row succeed if both do, and a list is read if each of its
items is.
-/

namespace Screencast

variable {ε α β : Type}

theorem Except.bind_eq_ok_iff {x : Except ε α} {f : α → Except ε β} {b : β} :
    x >>= f = .ok b ↔ ∃ a, x = .ok a ∧ f a = .ok b := by
  cases x with
  | error e => exact ⟨nofun, nofun⟩
  | ok a => exact ⟨fun h => ⟨a, rfl, h⟩, by rintro ⟨_, ⟨⟩, h⟩; exact h⟩

/-- For every kind of failure, as long as what is computed can be told from the result. -/
theorem mapM_eq_pure_iff {m : Type → Type} [Monad m] [LawfulMonad m] {f : α → m β}
    (pure_inj : ∀ {bs cs : List β}, (pure bs : m (List β)) = pure cs → bs = cs)
    (bind_eq_pure_iff : ∀ {γ : Type} {x : m γ} {g : γ → m (List β)} {bs : List β},
      x >>= g = pure bs ↔ ∃ c, x = pure c ∧ g c = pure bs) {as : List α} {bs : List β} :
    as.mapM f = pure bs ↔ List.Forall₂ (fun a b => f a = pure b) as bs := by
  induction as generalizing bs with
  | nil =>
    rw [List.mapM_nil, List.forall₂_nil_left_iff]
    exact ⟨fun same => (pure_inj same).symm, fun none => congrArg pure none.symm⟩
  | cons a as ih =>
    rw [List.mapM_cons, List.forall₂_cons_left_iff]
    simp only [bind_eq_pure_iff, ih]
    constructor
    · rintro ⟨b, read, rest, others, whole⟩
      exact ⟨b, rest, read, others, (pure_inj whole).symm⟩
    · rintro ⟨b, rest, read, others, rfl⟩
      exact ⟨b, read, rest, others, rfl⟩

theorem Except.mapM_eq_ok_iff {f : α → Except ε β} {as : List α} {bs : List β} :
    as.mapM f = .ok bs ↔ List.Forall₂ (fun a b => f a = .ok b) as bs :=
  mapM_eq_pure_iff (fun same => Except.ok.inj same) Except.bind_eq_ok_iff

theorem Option.mapM_eq_some_iff {f : α → Option β} {as : List α} {bs : List β} :
    as.mapM f = some bs ↔ List.Forall₂ (fun a b => f a = some b) as bs :=
  mapM_eq_pure_iff (fun same => Option.some.inj same) Option.bind_eq_some_iff

end Screencast
