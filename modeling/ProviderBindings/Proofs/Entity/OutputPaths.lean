import ProviderBindings.Entity
import ProviderBindings.Proofs.Naming.Stem

/-!
When the two files of an entity have one path. The files are told apart by their names alone, which come from
the type name with and without the provider type in front of it.
-/

namespace ProviderBindings

open Naming

theorem sourcePath_inj {directory a b : String} :
    sourcePath directory a = sourcePath directory b ↔ fileStem a = fileStem b := by
  refine ⟨fun h => ?_, fun h => by rw [sourcePath, sourcePath, h]⟩
  rw [sourcePath, sourcePath, String.append_left_inj, String.append_right_inj] at h
  exact h

theorem afterLeading_eq_some {lead cs rest : List Char} (h : afterLeading lead cs = some rest) :
    cs = lead ++ rest := by
  induction lead generalizing cs with
  | nil => simpa [afterLeading] using h
  | cons a as ih =>
      cases cs with
      | nil => simp [afterLeading] at h
      | cons c cs =>
          rw [afterLeading] at h
          split at h
          · rename_i heq
            rw [heq, ih h, List.cons_append]
          · cases h

theorem shortTypeName_cases (provider typeName : String) :
    shortTypeName provider typeName = typeName ∨
      typeName = provider ++ "_" ++ shortTypeName provider typeName := by
  rw [shortTypeName]
  split
  · exact .inl rfl
  · rename_i rest _ h
    have heq := afterLeading_eq_some h
    refine .inr ?_
    rw [← String.toList_inj, heq]
    simp
  · exact .inl rfl

namespace Entity

theorem short_cases (e : Entity) :
    e.shortName = e.typeName ∨ e.typeName.toList =
      (providerType e.spec.source).toList ++ '_' :: e.shortName.toList := by
  rcases shortTypeName_cases (providerType e.spec.source) e.typeName with h | h
  · exact .inl h
  · have hlist := congrArg String.toList h
    rw [String.toList_append, String.toList_append, List.append_assoc] at hlist
    exact .inr hlist

theorem toList_snakeCase_resource (typeName : String) :
    (snakeCase ("resource_" ++ typeName)).toList =
      "resource".toList ++ snakeChars .gap typeName.toList := by
  rw [snakeCase, String.toList_append, String.toList_ofList]
  rfl

theorem toList_snakeCase_data (name : String) :
    (snakeCase ("data_" ++ name)).toList = "data".toList ++ snakeChars .gap name.toList := by
  rw [snakeCase, String.toList_append, String.toList_ofList]
  rfl

theorem fileStem_data (name : String) :
    fileStem (moduleName ("data_" ++ name)) = snakeCase ("data_" ++ name) :=
  fileStem_moduleName_of_lead (toList_snakeCase_data name) (by decide) (by decide) (by decide)

theorem fileStem_resource (typeName : String) :
    fileStem (moduleName ("resource_" ++ typeName)) = snakeCase ("resource_" ++ typeName) :=
  fileStem_moduleName_of_lead (toList_snakeCase_resource typeName) (by decide) (by decide) (by decide)

theorem snakeCase_config (localName : String) :
    ∃ lead, (snakeCase (localName ++ "_config")).toList = lead ++ "config".toList := by
  obtain ⟨j, _, heq⟩ := snakeChars_append localName.toList "_config".toList .start
  have hconfig : snakeChars j "_config".toList = j.separated.beforeOther ++ "config".toList := by
    cases j <;> rfl
  rw [hconfig, ← List.append_assoc] at heq
  rw [snakeCase, String.toList_append, String.toList_ofList, heq]
  rcases guardDigit_cases (snakeChars .start localName.toList ++ j.separated.beforeOther ++
    "config".toList) with h | h
  · exact ⟨_, h⟩
  · exact ⟨'_' :: _, h⟩

theorem getLast?_config (localName : String) :
    (moduleName (localName ++ "_config")).toList.getLast? = some 'g' ∨
      (moduleName (localName ++ "_config")).toList.getLast? = some '_' := by
  obtain ⟨lead, hlead⟩ := snakeCase_config localName
  rcases moduleName_cases (localName ++ "_config") with h | h | h
  · exact .inr (by simp [h])
  · exact .inl (by simp [h, hlead, List.getLast?_cons])
  · exact .inl (by simp [h, hlead])

theorem fileStem_config_ne (localName : String) :
    fileStem (moduleName (localName ++ "_config")) ≠ "provider" := by
  intro hstem
  have hlast : (moduleName (localName ++ "_config")).toList.getLast? = some 'r' := by
    rcases fileStem_cases (moduleName (localName ++ "_config")) with h | h
    · rw [← h, hstem]
      decide
    · rw [h, hstem]
      decide
  rcases getLast?_config localName with h | h
  · exact absurd (h.symm.trans hlast) (by decide)
  · exact absurd (h.symm.trans hlast) (by decide)

theorem length_short_le (e : Entity) :
    (snakeChars .gap e.shortName.toList).length ≤ (snakeChars .gap e.typeName.toList).length := by
  rcases e.short_cases with h | h
  · exact Nat.le_of_eq (by rw [h])
  · rw [h, snakeChars_gap_append (by decide), List.length_append]
    omega

theorem fileStem_resource_ne (e : Entity) :
    fileStem (moduleName ("resource_" ++ e.typeName)) ≠ fileStem (moduleName e.shortName) := by
  intro h
  have hstem := length_fileStem_moduleName_le e.shortName
  have hsnake := length_snakeCase_le e.shortName
  have hshort := e.length_short_le
  have hlength := congrArg List.length (toList_snakeCase_resource e.typeName)
  rw [List.length_append, String.length_toList] at hlength
  have height : "resource".toList.length = 8 := by decide
  rw [← h, fileStem_resource] at hstem
  omega

theorem fileStem_data_eq_iff (e : Entity) :
    fileStem (moduleName ("data_" ++ e.typeName)) = fileStem (moduleName ("data_" ++ e.shortName)) ↔
      e.shortName = e.typeName ∨ Wordless (providerType e.spec.source) := by
  rw [fileStem_data, fileStem_data, ← String.toList_inj, toList_snakeCase_data, toList_snakeCase_data,
    List.append_cancel_left_eq]
  rcases e.short_cases with h | h
  · simp [h]
  · have hne : e.shortName ≠ e.typeName := by
      intro heq
      have hlength := congrArg List.length h
      rw [heq, List.length_append, List.length_cons] at hlength
      omega
    rw [h, snakeChars_gap_append (by decide), List.append_left_eq_self, snakeChars_gap_eq_nil_iff]
    simp [hne, Wordless]

theorem filePath_eq_nestedPath_iff (e : Entity) :
    e.names.filePath = e.names.nestedPath ↔
      e.kind = .dataSource ∧ (e.shortName = e.typeName ∨ Wordless (providerType e.spec.source)) := by
  refine sourcePath_inj.trans ?_
  cases hk : e.kind with
  | provider =>
      have hne := (fileStem_config_ne e.spec.localName).symm
      have hprovider : fileStem "provider" = "provider" := by decide
      simp [names, unit, nestedUnit, hk, hprovider, hne]
  | resource =>
      simp [names, unit, nestedUnit, hk, e.fileStem_resource_ne]
  | dataSource => simp [names, unit, nestedUnit, hk, e.fileStem_data_eq_iff]

end Entity

end ProviderBindings
