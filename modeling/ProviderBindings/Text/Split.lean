/-!
Splitting a list at a character.
-/

namespace ProviderBindings.Text

def splitAtFirst (c : Char) : List Char → Option (List Char × List Char)
  | [] => none
  | d :: rest =>
      if d = c then some ([], rest)
      else (splitAtFirst c rest).map fun p => (d :: p.1, p.2)

def splitAtLast (c : Char) : List Char → Option (List Char × List Char)
  | [] => none
  | d :: rest =>
      match splitAtLast c rest with
      | some p => some (d :: p.1, p.2)
      | none => if d = c then some ([], rest) else none

theorem splitAtFirst_eq_some_iff {c : Char} {cs a b : List Char} :
    splitAtFirst c cs = some (a, b) ↔ cs = a ++ c :: b ∧ c ∉ a := by
  induction cs generalizing a with
  | nil => simp [splitAtFirst]
  | cons d rest ih =>
      simp only [splitAtFirst]
      by_cases h : d = c
      · subst h
        cases a with
        | nil => simp [eq_comm]
        | cons x xs =>
            simp only [↓reduceIte, Option.some.injEq, Prod.mk.injEq, List.cons_append, List.cons.injEq,
              List.mem_cons, not_or]
            constructor
            · rintro ⟨h, _⟩
              cases h
            · rintro ⟨⟨rfl, _⟩, h, _⟩
              exact absurd rfl h
      · cases a with
        | nil => simp [h]
        | cons x xs =>
            simp only [h, ↓reduceIte, Option.map_eq_some_iff, Prod.mk.injEq, List.cons.injEq, Prod.exists,
              List.cons_append, List.mem_cons, not_or]
            constructor
            · rintro ⟨u, v, huv, ⟨rfl, rfl⟩, rfl⟩
              obtain ⟨hr, hc⟩ := ih.1 huv
              exact ⟨⟨rfl, hr⟩, fun e => h e.symm, hc⟩
            · rintro ⟨⟨rfl, hr⟩, _, hc⟩
              exact ⟨xs, b, ih.2 ⟨hr, hc⟩, ⟨rfl, rfl⟩, rfl⟩

theorem splitAtLast_eq_none_iff {c : Char} {cs : List Char} : splitAtLast c cs = none ↔ c ∉ cs := by
  induction cs with
  | nil => simp [splitAtLast]
  | cons d rest ih =>
      simp only [splitAtLast, List.mem_cons, not_or]
      cases hr : splitAtLast c rest with
      | some p =>
          have : ¬ c ∉ rest := fun h => by simp [ih.2 h] at hr
          simp [this]
      | none =>
          have hc := ih.1 hr
          by_cases h : d = c
          · simp [h]
          · simp [h, hc, Ne.symm h]

theorem splitAtLast_append {c : Char} (a : List Char) {b : List Char} (h : c ∉ b) :
    splitAtLast c (a ++ c :: b) = some (a, b) := by
  induction a with
  | nil => simp [splitAtLast, splitAtLast_eq_none_iff.mpr h]
  | cons d a ih => rw [List.cons_append, splitAtLast, ih]

theorem splitAtLast_eq_some_iff {c : Char} {cs a b : List Char} :
    splitAtLast c cs = some (a, b) ↔ cs = a ++ c :: b ∧ c ∉ b := by
  constructor
  · intro h
    induction cs generalizing a with
    | nil => cases h
    | cons d rest ih =>
        rw [splitAtLast] at h
        split at h
        · rename_i p hp
          cases h
          obtain ⟨hrest, hb⟩ := ih hp
          exact ⟨congrArg (d :: ·) hrest, hb⟩
        · rename_i hnone
          split at h
          · rename_i hd
            cases h
            exact ⟨by rw [hd, List.nil_append], splitAtLast_eq_none_iff.mp hnone⟩
          · cases h
  · rintro ⟨rfl, hb⟩
    exact splitAtLast_append a hb

end ProviderBindings.Text
