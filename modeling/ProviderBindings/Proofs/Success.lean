/-!
When a computation that may fail succeeds, and when it fails.
-/

namespace ProviderBindings

variable {ε α β : Type}

instance decidableEqExcept [DecidableEq ε] [DecidableEq α] : DecidableEq (Except ε α)
  | .ok a, .ok b => decidable_of_iff (a = b) (by simp)
  | .error d, .error e => decidable_of_iff (d = e) (by simp)
  | .ok _, .error _ => isFalse nofun
  | .error _, .ok _ => isFalse nofun

theorem bind_eq_ok_iff {x : Except ε α} {f : α → Except ε β} {b : β} :
    x >>= f = .ok b ↔ ∃ a, x = .ok a ∧ f a = .ok b := by
  cases x <;> simp [bind, Except.bind]

theorem bind_eq_error_iff {x : Except ε α} {f : α → Except ε β} {e : ε} :
    x >>= f = .error e ↔ x = .error e ∨ ∃ a, x = .ok a ∧ f a = .error e := by
  cases x <;> simp [bind, Except.bind]

theorem map_eq_ok_iff {x : Except ε α} {f : α → β} {b : β} :
    x.map f = .ok b ↔ ∃ a, x = .ok a ∧ f a = b := by
  cases x <;> simp [Except.map]

theorem map_eq_error_iff {x : Except ε α} {f : α → β} {e : ε} : x.map f = .error e ↔ x = .error e := by
  cases x <;> simp [Except.map]

theorem exists_of_toBool {x : Except ε α} (h : x.toBool = true) : ∃ a, x = .ok a := by
  cases x with
  | error e => cases h
  | ok a => exact ⟨a, rfl⟩

def SameResult {δ : Type} (x : Except ε α) (y : Except δ α) : Prop := ∀ a, x = .ok a ↔ y = .ok a

namespace SameResult

variable {δ : Type} {x : Except ε α} {y : Except δ α}

theorem of_eq {x' : Except ε α} (h : x = x') : SameResult x x' := fun a => by rw [h]

theorem errors (e : ε) (e' : δ) : SameResult (.error e : Except ε α) (.error e' : Except δ α) :=
  fun _ => iff_of_false nofun nofun

theorem symm (h : SameResult x y) : SameResult y x := fun a => (h a).symm

theorem trans {γ : Type} {z : Except γ α} (h : SameResult x y) (h' : SameResult y z) : SameResult x z :=
  fun a => (h a).trans (h' a)

theorem bind {f : α → Except ε β} {g : α → Except δ β} (h : SameResult x y)
    (hf : ∀ a, SameResult (f a) (g a)) : SameResult (x >>= f) (y >>= g) := by
  intro b
  simp only [bind_eq_ok_iff, h _, hf _ _]

theorem map (f : α → β) (h : SameResult x y) : SameResult (x.map f) (y.map f) := by
  intro b
  simp only [map_eq_ok_iff, h _]

end SameResult

structure FailsWith (x : Except ε α) (P : ε → Prop) : Prop where
  reports : ∀ e, x = .error e → P e
  fails : ∀ e, P e → ∃ e', x = .error e'

namespace FailsWith

variable {x : Except ε α} {f : α → Except ε β} {P Q : ε → Prop}

theorem ok {a : α} (h : ∀ e, ¬ P e) : FailsWith (.ok a) P := ⟨nofun, fun e he => absurd he (h e)⟩

theorem error {e : ε} (h : P e) : FailsWith (.error e : Except ε α) P where
  reports := by
    rintro _ ⟨⟩
    exact h
  fails := fun _ _ => ⟨e, rfl⟩

theorem congr (h : FailsWith x P) (hpq : ∀ e, P e ↔ Q e) : FailsWith x Q :=
  ⟨fun e he => (hpq e).mp (h.reports e he), fun e he => h.fails e ((hpq e).mpr he)⟩

theorem bind (hx : FailsWith x P) (hf : ∀ a, x = .ok a → FailsWith (f a) Q) :
    FailsWith (x >>= f) fun e => P e ∨ Q e := by
  cases x with
  | error e => exact error (.inl (hx.reports e rfl))
  | ok a =>
      have hrest := hf a rfl
      refine ⟨fun e he => .inr (hrest.reports e he), fun e he => he.elim (fun hp => ?_) (hrest.fails e)⟩
      obtain ⟨_, hno⟩ := hx.fails e hp
      cases hno

theorem bind_of_ok (hx : FailsWith x P) (hf : ∀ a, ∃ b, f a = .ok b) : FailsWith (x >>= f) P := by
  have hrest : ∀ a, x = .ok a → FailsWith (f a) fun _ => False := by
    intro a _
    obtain ⟨b, hb⟩ := hf a
    rw [hb]
    exact .ok fun _ h => h
  exact (hx.bind hrest).congr fun e => or_iff_left (fun h => h)

theorem map {f : α → β} (hx : FailsWith x P) : FailsWith (x.map f) P := by
  cases x with
  | error e => exact error (hx.reports e rfl)
  | ok a =>
      refine ok fun e he => ?_
      obtain ⟨_, hno⟩ := hx.fails e he
      cases hno

end FailsWith

end ProviderBindings
