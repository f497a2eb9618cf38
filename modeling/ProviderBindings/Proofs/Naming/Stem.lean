import ProviderBindings.Naming

/-!
The names of files: how the `snake_case` form of a name depends on its parts, and what escaping adds to it.
-/

namespace ProviderBindings.Naming

open Text (isAlphanumeric isUppercase isLowercase toLowercase)

def Wordless (name : String) : Prop := ∀ c ∈ name.toList, isAlphanumeric c = false

instance (name : String) : Decidable (Wordless name) :=
  List.decidableBAll (fun c => isAlphanumeric c = false) name.toList

theorem not_alphanumeric_of_isSeparator {c : Char} (h : isSeparator c = true) :
    isAlphanumeric c = false := by
  simp only [isSeparator, Bool.or_eq_true, beq_iff_eq] at h
  rcases h with (((rfl | rfl) | rfl) | rfl) | rfl <;> decide

theorem Junction.separated_ne_start {j : Junction} (h : j ≠ .start) : j.separated = .gap := by
  cases j with
  | start => exact absurd rfl h
  | lower | other | gap => rfl

theorem snakeChars_append (a b : List Char) :
    ∀ j, ∃ j', (j ≠ .start → j' ≠ .start) ∧ snakeChars j (a ++ b) = snakeChars j a ++ snakeChars j' b := by
  induction a with
  | nil => exact fun j => ⟨j, id, rfl⟩
  | cons c rest ih =>
      intro j
      simp only [List.cons_append, snakeChars]
      split
      · obtain ⟨j', hj, heq⟩ := ih j.separated
        refine ⟨j', fun h => hj ?_, heq⟩
        simp [Junction.separated_ne_start h]
      · split
        · exact ih j
        · split
          · obtain ⟨j', hj, heq⟩ := ih .other
            exact ⟨j', fun _ => hj (by simp), by simp [heq]⟩
          · obtain ⟨j', hj, heq⟩ := ih (if isLowercase c || c.isDigit then .lower else .other)
            refine ⟨j', fun _ => hj ?_, ?_⟩
            · split <;> simp
            · rw [heq, List.append_assoc, List.cons_append]

theorem snakeChars_gap_append {c : Char} (h : isSeparator c = true) (a b : List Char) :
    snakeChars .gap (a ++ c :: b) = snakeChars .gap a ++ snakeChars .gap b := by
  obtain ⟨j, hj, heq⟩ := snakeChars_append a (c :: b) .gap
  have hgap := Junction.separated_ne_start (hj (by simp))
  rw [heq, snakeChars, if_pos h, hgap]

theorem snakeChars_gap_eq_nil_iff (cs : List Char) :
    snakeChars .gap cs = [] ↔ ∀ c ∈ cs, isAlphanumeric c = false := by
  induction cs with
  | nil => simp [snakeChars]
  | cons c rest ih =>
      rw [snakeChars, List.forall_mem_cons]
      split
      · rename_i hs
        simp [Junction.separated, ih, not_alphanumeric_of_isSeparator hs]
      · split
        · rename_i ha
          simp [ih, Bool.not_eq_eq_eq_not.mp ha]
        · rename_i ha
          have hc : isAlphanumeric c = true := by simpa using ha
          split <;> simp [Junction.beforeUpper, Junction.beforeOther, hc]

theorem length_snakeChars_start_le (cs : List Char) :
    (snakeChars .start cs).length ≤ (snakeChars .gap cs).length := by
  induction cs with
  | nil => simp [snakeChars]
  | cons c rest ih =>
      simp only [snakeChars]
      split
      · exact ih
      · split
        · exact ih
        · split <;> simp [Junction.beforeUpper, Junction.beforeOther]

theorem guardDigit_cases (cs : List Char) : guardDigit cs = cs ∨ guardDigit cs = '_' :: cs := by
  cases cs with
  | nil => exact .inr rfl
  | cons c rest =>
      simp only [guardDigit]
      split
      · exact .inr rfl
      · exact .inl rfl

theorem length_snakeCase_le (name : String) :
    (snakeCase name).length ≤ (snakeChars .gap name.toList).length + 1 := by
  have hstart := length_snakeChars_start_le name.toList
  rw [snakeCase, String.length_ofList]
  rcases guardDigit_cases (snakeChars .start name.toList) with h | h
  · rw [h]
    omega
  · rw [h, List.length_cons]
    omega

/-! ### Escapes -/

theorem moduleName_cases (name : String) :
    moduleName name = snakeCase name ++ "_" ∨ moduleName name = "r#" ++ snakeCase name ∨
      moduleName name = snakeCase name := by
  simp only [moduleName, escape]
  grind

theorem fileStem_cases (identifier : String) :
    fileStem identifier = identifier ∨ identifier = "r#" ++ fileStem identifier := by
  rw [fileStem]
  split
  · rename_i rest h
    refine .inr ?_
    rw [← String.toList_inj, h]
    simp
  · exact .inl rfl

theorem fileStem_raw (name : String) : fileStem ("r#" ++ name) = name := by
  simp [fileStem]

theorem length_fileStem_le (identifier : String) :
    (fileStem identifier).length ≤ identifier.length := by
  rcases fileStem_cases identifier with h | h
  · exact Nat.le_of_eq (congrArg String.length h)
  · have hlength := congrArg String.length h
    rw [String.length_append] at hlength
    omega

theorem length_fileStem_moduleName_le (name : String) :
    (fileStem (moduleName name)).length ≤ (snakeCase name).length + 1 := by
  have hstem := length_fileStem_le (moduleName name)
  rcases moduleName_cases name with h | h | h
  · rw [h, String.length_append] at hstem
    rw [h]
    exact hstem
  · rw [h, fileStem_raw]
    omega
  · rw [h] at hstem ⊢
    omega

theorem moduleName_of_lead {lead rest : List Char} {name : String}
    (h : (snakeCase name).toList = lead ++ rest)
    (hfree : ∀ word ∈ reservedModuleNames ++ nonRawKeywords ++ keywords, ¬ lead <+: word.toList) :
    moduleName name = snakeCase name := by
  have hnot : ∀ word ∈ reservedModuleNames ++ nonRawKeywords ++ keywords, snakeCase name ≠ word := by
    rintro word hword rfl
    exact hfree _ hword ⟨rest, h.symm⟩
  simp only [moduleName, escape, isKeyword]
  grind

theorem fileStem_moduleName_of_lead {lead rest : List Char} {name : String}
    (h : (snakeCase name).toList = lead ++ rest)
    (hfree : ∀ word ∈ reservedModuleNames ++ nonRawKeywords ++ keywords, ¬ lead <+: word.toList)
    (hraw : ¬ ['r', '#'] <+: lead) (hlead : 2 ≤ lead.length) :
    fileStem (moduleName name) = snakeCase name := by
  rw [moduleName_of_lead h hfree]
  rcases fileStem_cases (snakeCase name) with hs | hs
  · exact hs
  · have hprefix : ['r', '#'] <+: (snakeCase name).toList := by
      rw [hs, String.toList_append]
      exact List.prefix_append _ _
    rw [h] at hprefix
    exact absurd (List.prefix_of_prefix_length_le hprefix (List.prefix_append lead rest) hlead) hraw

end ProviderBindings.Naming
