import ProviderBindings.Naming

/-!
How record names grow under suffixing: `_block` behind a name that is not reserved puts `Block` behind its
record name, and a reserved name, which has got its `Block` already, stays as it is for one suffix.
-/

namespace ProviderBindings.Naming

theorem pascalChars_suffix (name : String) :
    pascalChars true (name ++ "_block").toList =
      pascalChars true name.toList ++ ['B', 'l', 'o', 'c', 'k'] := by
  have h : ("_block" : String).toList = '_' :: "block".toList := by decide
  rw [String.toList_append, h, pascalChars_append_separator (by decide)]
  congr 1

theorem guardDigit_append {cs : List Char} (h : cs ≠ []) (more : List Char) :
    guardDigit (cs ++ more) = guardDigit cs ++ more := by
  cases cs with
  | nil => exact absurd rfl h
  | cons c rest =>
      simp only [List.cons_append, guardDigit]
      split <;> rfl

def IsBare (name : String) : Prop := pascalChars true name.toList = []

theorem pascalCase_suffix_of_bare {name : String} (h : IsBare name) :
    pascalCase name = "_" ∧ pascalCase (name ++ "_block") = "Block" := by
  unfold IsBare at h
  refine ⟨?_, ?_⟩
  · rw [pascalCase, h]
    rfl
  · rw [pascalCase, pascalChars_suffix, h]
    rfl

theorem pascalCase_suffix {name : String} (h : ¬ IsBare name) :
    pascalCase (name ++ "_block") = pascalCase name ++ "Block" := by
  rw [pascalCase, pascalChars_suffix, guardDigit_append h, String.ofList_append]
  rfl

theorem not_mem_of_suffix {words : List String} {suffix : String}
    (h : ∀ word ∈ words, ¬ suffix.toList <:+ word.toList) (s : String) : s ++ suffix ∉ words := by
  intro hmem
  refine h _ hmem ⟨s.toList, ?_⟩
  rw [String.toList_append]

theorem not_reserved_block (s : String) : s ++ "Block" ∉ reservedTypeNames :=
  not_mem_of_suffix (by decide) s

theorem recordName_of_reserved {name : String} (h : pascalCase name ∈ reservedTypeNames) :
    recordName name = pascalCase name ++ "Block" := by
  simp [recordName, h]

theorem recordName_of_not_reserved {name : String} (h : pascalCase name ∉ reservedTypeNames) :
    recordName name = pascalCase name := by
  simp [recordName, h]

theorem pascalCase_suffix_not_reserved (name : String) :
    pascalCase (name ++ "_block") ∉ reservedTypeNames := by
  by_cases hb : IsBare name
  · rw [(pascalCase_suffix_of_bare hb).2]
    decide
  · rw [pascalCase_suffix hb]
    exact not_reserved_block _

theorem recordName_suffix_eq (name : String) :
    recordName (name ++ "_block") = pascalCase (name ++ "_block") :=
  recordName_of_not_reserved (pascalCase_suffix_not_reserved name)

theorem recordName_suffix_of_bare {name : String} (h : IsBare name) :
    recordName name = "_" ∧ recordName (name ++ "_block") = "Block" := by
  obtain ⟨h₁, h₂⟩ := pascalCase_suffix_of_bare h
  refine ⟨?_, ?_⟩
  · rw [recordName_of_not_reserved (by rw [h₁]; decide), h₁]
  · rw [recordName_suffix_eq, h₂]

theorem not_bare_of_reserved {name : String} (h : pascalCase name ∈ reservedTypeNames) :
    ¬ IsBare name := by
  intro hb
  rw [(pascalCase_suffix_of_bare hb).1] at h
  exact absurd h (by decide)

theorem recordName_suffix_of_reserved {name : String} (h : pascalCase name ∈ reservedTypeNames) :
    recordName (name ++ "_block") = recordName name := by
  rw [recordName_suffix_eq, pascalCase_suffix (not_bare_of_reserved h), recordName_of_reserved h]

theorem recordName_suffix {name : String} (hb : ¬ IsBare name)
    (h : pascalCase name ∉ reservedTypeNames) :
    recordName (name ++ "_block") = recordName name ++ "Block" := by
  rw [recordName_suffix_eq, pascalCase_suffix hb, recordName_of_not_reserved h]

/-- A number that every suffix raises: twice the length of the record name, and one more for a name that
is not reserved. -/
def stature (name : String) : Nat :=
  2 * (recordName name).length + if pascalCase name ∈ reservedTypeNames then 0 else 1

theorem stature_suffix (name : String) :
    stature name < stature (name ++ "_block") ∧ stature (name ++ "_block") ≤ stature name + 10 := by
  have hblock : ("Block" : String).length = 5 := by decide
  by_cases hb : IsBare name
  · obtain ⟨h₁, h₂⟩ := recordName_suffix_of_bare hb
    obtain ⟨p₁, p₂⟩ := pascalCase_suffix_of_bare hb
    rw [stature, stature, h₁, h₂, p₁, p₂]
    decide
  · have hn := pascalCase_suffix_not_reserved name
    by_cases h : pascalCase name ∈ reservedTypeNames
    · simp only [stature, recordName_suffix_of_reserved h, h, hn, if_true, if_false]
      omega
    · simp only [stature, recordName_suffix hb h, h, hn, if_false, String.length_append, hblock]
      omega

theorem length_of_mem_recordTriad {name record : String} (h : record ∈ (recordTriad name).toList) :
    (recordName name).length ≤ record.length ∧ record.length ≤ (recordName name).length + 10 := by
  have ha : ("Attributes" : String).length = 10 := by decide
  have hs : ("State" : String).length = 5 := by decide
  simp only [recordTriad, RecordTriad.toList, List.mem_cons, List.not_mem_nil, or_false] at h
  rcases h with rfl | rfl | rfl
  · omega
  · rw [String.length_append]
    omega
  · rw [String.length_append]
    omega

theorem stature_of_shared {a b record : String} (ha : record ∈ (recordTriad a).toList)
    (hb : record ∈ (recordTriad b).toList) : stature b ≤ stature a + 21 := by
  have h₁ := length_of_mem_recordTriad ha
  have h₂ := length_of_mem_recordTriad hb
  simp only [stature]
  split <;> split <;> omega

end ProviderBindings.Naming
