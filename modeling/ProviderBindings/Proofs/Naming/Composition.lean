import ProviderBindings.Proofs.Naming.Casing

/-!
Record names put together from names. The words of a qualified name are those of the qualifier and then its
own; the underscore in front of a digit and the placeholder of a name without words belong to the whole. A
suffix is one word more, except behind a reserved name, whose record has that word already; with suffix after
suffix the names of the records outgrow every length.
-/

namespace ProviderBindings.Naming

open Text (isAlphanumeric)

theorem isBare_iff_wordless {name : String} : IsBare name ↔ Wordless name := by
  refine ⟨fun h c hc => ?_, Wordless.isBare⟩
  rw [Bool.eq_false_iff]
  intro halnum
  obtain ⟨first, rest, -, -, hpascal, -⟩ := exists_first ⟨c, hc, halnum⟩
  obtain ⟨d, ds, hupper, -⟩ := toUppercase_cases first
  rw [IsBare, hpascal, hupper] at h
  cases h

/-! ### Qualification -/

theorem pascalChars_qualified (a b : String) :
    pascalChars true (a ++ "." ++ b).toList = pascalChars true a.toList ++ pascalChars true b.toList := by
  have hdot : ("." : String).toList = ['.'] := by decide
  rw [String.toList_append, String.toList_append, hdot, List.append_assoc, List.singleton_append,
    pascalChars_append_separator (by decide)]

theorem pascalCase_qualified_of_wordless {a : String} (h : Wordless a) (b : String) :
    pascalCase (a ++ "." ++ b) = pascalCase b := by
  have hnone : pascalChars true a.toList = [] := isBare_iff_wordless.mpr h
  rw [pascalCase, pascalChars_qualified, hnone, List.nil_append, pascalCase]

theorem pascalCase_qualified {a : String} (h : ¬ Wordless a) (b : String) :
    pascalCase (a ++ "." ++ b) = pascalCase a ++ String.ofList (pascalChars true b.toList) := by
  have hsome : pascalChars true a.toList ≠ [] := fun hnone => h (isBare_iff_wordless.mp hnone)
  rw [pascalCase, pascalChars_qualified, guardDigit_append hsome, String.ofList_append, pascalCase]

/-! ### Suffixes -/

def withSuffixes (name : String) : Nat → String
  | 0 => name
  | count + 1 => withSuffixes name count ++ "_block"

theorem not_wordless_suffix (name : String) : ¬ Wordless (name ++ "_block") := by
  intro h
  have hletter : isAlphanumeric 'b' = false := h 'b' (by simp)
  exact absurd hletter (by decide)

theorem recordName_suffix_twice (name : String) :
    recordName (name ++ "_block" ++ "_block") = recordName (name ++ "_block") ++ "Block" :=
  recordName_suffix (fun hbare => not_wordless_suffix name (isBare_iff_wordless.mp hbare))
    (pascalCase_suffix_not_reserved name)

theorem recordName_withSuffixes (name : String) (count : Nat) :
    recordName (withSuffixes name (count + 1)) =
      recordName (name ++ "_block") ++ String.join (List.replicate count "Block") := by
  -- The first suffix may not show, but behind it a name is neither reserved nor without words.
  induction count with
  | zero => simp [withSuffixes]
  | succ count ih =>
      have hstep : recordName (withSuffixes name (count + 2)) =
          recordName (withSuffixes name (count + 1)) ++ "Block" :=
        recordName_suffix_twice (withSuffixes name count)
      rw [hstep, ih, List.replicate_succ', String.join_append, String.append_assoc, String.join_cons,
        String.join_nil, String.append_empty]

theorem le_length_recordName (name : String) (count : Nat) :
    count ≤ (recordName (withSuffixes name (count + 1))).length := by
  have hblock : ("Block" : String).length = 5 := by decide
  rw [recordName_withSuffixes, String.length_append, String.length_join, List.map_replicate, hblock,
    List.sum_replicate_nat]
  omega

theorem lt_length_of_mem_recordTriad {bound count : Nat} (h : bound + 2 ≤ count) {record : String}
    (hr : record ∈ (recordTriad (withSuffixes name count)).toList) : bound < record.length := by
  obtain ⟨earlier, rfl⟩ : ∃ earlier, count = earlier + 1 := ⟨count - 1, by omega⟩
  have hlong := le_length_recordName name earlier
  have hrecord := (length_of_mem_recordTriad hr).1
  omega

/-- The words of a qualified name are those of the qualifier and then its own, and it starts as the qualifier
does, unless that has no words. One suffix puts `Block` behind the name of a record, but a reserved name keeps
the record it has, and a name without words gets the record `Block`. Every further suffix puts one more `Block`
there, so that the names of the records become longer than any bound. -/
theorem recordName_composes (a b name : String) :
    (pascalChars true (a ++ "." ++ b).toList = pascalChars true a.toList ++ pascalChars true b.toList ∧
      (Wordless a → pascalCase (a ++ "." ++ b) = pascalCase b) ∧
      (¬ Wordless a →
        pascalCase (a ++ "." ++ b) = pascalCase a ++ String.ofList (pascalChars true b.toList))) ∧
    (pascalCase name ∈ reservedTypeNames → recordName (name ++ "_block") = recordName name) ∧
    (Wordless name → recordName (name ++ "_block") = "Block") ∧
    (pascalCase name ∉ reservedTypeNames → ¬ Wordless name →
      recordName (name ++ "_block") = recordName name ++ "Block") ∧
    (∀ count, recordName (withSuffixes name (count + 1)) =
      recordName (name ++ "_block") ++ String.join (List.replicate count "Block")) ∧
    ∀ bound, ∃ least, ∀ count, least ≤ count →
      ∀ record ∈ (recordTriad (withSuffixes name count)).toList, bound < record.length := by
  refine ⟨⟨pascalChars_qualified a b, fun h => pascalCase_qualified_of_wordless h b,
    fun h => pascalCase_qualified h b⟩, recordName_suffix_of_reserved, fun h => ?_, fun hreserved h => ?_,
    recordName_withSuffixes name, fun bound => ⟨bound + 2, fun count hcount record => ?_⟩⟩
  · exact (recordName_suffix_of_bare h.isBare).2
  · exact recordName_suffix (fun hbare => h (isBare_iff_wordless.mp hbare)) hreserved
  · exact lt_length_of_mem_recordTriad hcount

theorem recordName_composes_option :
    ¬ Wordless "3d" ∧ pascalCase ("3d" ++ "." ++ "4k") = "_3d4k" ∧
      Wordless "--" ∧ pascalCase ("--" ++ "." ++ "4k") = "_4k" ∧ recordName ("--" ++ "_block") = "Block" ∧
      pascalCase "option" ∈ reservedTypeNames ∧ recordName ("option" ++ "_block") = "OptionBlock" ∧
      recordName (withSuffixes "option" 3) = "OptionBlockBlockBlock" ∧
      pascalCase "3d" ∉ reservedTypeNames ∧ recordName ("3d" ++ "_block") = "_3dBlock" := by
  obtain ⟨⟨-, -, hqualified⟩, hreserved, -, -, hrun, -⟩ := recordName_composes "3d" "4k" "option"
  obtain ⟨⟨-, hplain, -⟩, -, hwordless, -⟩ := recordName_composes "--" "4k" "--"
  obtain ⟨-, -, -, hsuffix, -⟩ := recordName_composes "3d" "4k" "3d"
  have hword : ¬ Wordless "3d" := by decide +kernel
  have hnone : Wordless "--" := by decide +kernel
  have hoption : pascalCase "option" ∈ reservedTypeNames := by decide
  have hfree : pascalCase "3d" ∉ reservedTypeNames := by decide
  refine ⟨hword, (hqualified hword).trans (by decide), hnone, (hplain hnone).trans (by decide),
    hwordless hnone, hoption, (hreserved hoption).trans (by decide), (hrun 2).trans ?_, hfree,
    (hsuffix hfree hword).trans (by decide)⟩
  rw [hreserved hoption]
  decide

end ProviderBindings.Naming
