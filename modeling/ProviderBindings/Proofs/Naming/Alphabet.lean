import ProviderBindings.Proofs.Naming.Stem

/-!
The characters of file names. The stem of a module's file is never empty and holds neither slashes of either
kind nor dots, whatever name it comes from.
-/

namespace ProviderBindings.Naming

open Text

section

variable {P : Char → Prop} [DecidablePred P]

-- Whether the characters of a text are of a kind is decided along the text and not for every character.
instance (priority := 2000) decidableForallChar (cs : List Char) : Decidable (∀ c ∈ cs, P c) :=
  List.decidableBAll P cs

instance (priority := 2000) decidableExistsChar (cs : List Char) : Decidable (∃ c ∈ cs, P c) :=
  List.decidableBEx P cs

instance (priority := 2000) decidableForallFirst (first : Option Char) : Decidable (∀ c ∈ first, P c) :=
  Option.decidableForallMem first

instance (priority := 2000) decidableExistsFirst (first : Option Char) : Decidable (∃ c ∈ first, P c) :=
  Option.decidableExistsMem first

end

def IsPlain (c : Char) : Prop := c ≠ '/' ∧ c ≠ '\\' ∧ c ≠ '.' ∧ c ≠ '#'

instance (c : Char) : Decidable (IsPlain c) := inferInstanceAs (Decidable (_ ∧ _))

theorem toNat_ofNat_cases (n : Nat) : (Char.ofNat n).toNat = n ∨ Char.ofNat n = Char.ofNat 0 := by
  by_cases hn : n.isValidChar
  · refine .inl ?_
    rw [Char.ofNat, dif_pos hn]
    rfl
  · refine .inr ?_
    rw [Char.ofNat, dif_neg hn]
    rfl

def IsFolded (c : Char) : Prop := c.isDigit = true ∨ 97 ≤ c.toNat ∨ c.toNat = 0

instance (c : Char) : Decidable (IsFolded c) := inferInstanceAs (Decidable (_ ∨ _))

theorem isFolded_ofNat {n : Nat} (h : 97 ≤ n) : IsFolded (Char.ofNat n) := by
  rcases toNat_ofNat_cases n with hcode | hzero
  · exact .inr (.inl (hcode.symm ▸ h))
  · rw [hzero]
    decide

theorem isPlain_of_isFolded {c : Char} (h : IsFolded c) : IsPlain c := by
  refine ⟨?_, ?_, ?_, ?_⟩ <;> (rintro rfl; revert h; decide)

theorem caseImage_cases (sequences : List (Nat × List Nat)) (runs : List CaseRun) (c : Char) :
    (∃ codes, (c.toNat, codes) ∈ sequences ∧ caseImage sequences runs c = codes.map Char.ofNat) ∨
    (∃ run ∈ runs, run.covers c.toNat = true ∧
      caseImage sequences runs c = [Char.ofNat (run.image c.toNat)]) ∨
    caseImage sequences runs c = [c] := by
  rw [caseImage]
  split
  · rename_i codes hcodes
    obtain ⟨before, after, hs, _⟩ := List.lookup_eq_some_iff.mp hcodes
    exact .inl ⟨codes, by rw [hs]; simp, rfl⟩
  · split
    · rename_i run hrun
      exact .inr (.inl ⟨run, List.mem_of_find?_eq_some hrun, by simpa using List.find?_some hrun, rfl⟩)
    · exact .inr (.inr rfl)

theorem forall_ascii {P : Char → Prop} (h : ∀ n < 128, P (Char.ofNat n)) {c : Char}
    (hc : isAscii c = true) : P c := by
  have hn : c.toNat < 128 := by simpa [isAscii] using hc
  rw [← Char.ofNat_toNat c]
  exact h c.toNat hn

theorem isFolded_toLowercase {c : Char} (h : isAlphanumeric c = true) : ∀ d ∈ toLowercase c, IsFolded d := by
  rw [toLowercase]
  split
  · rename_i hascii
    have hall : ∀ n < 128, (Char.ofNat n).isAlphanum = true → IsFolded (Char.ofNat n).toLower := by
      decide +kernel
    rw [isAlphanumeric_ascii hascii] at h
    intro d hd
    rw [List.mem_singleton.mp hd]
    exact @forall_ascii (fun c => c.isAlphanum = true → IsFolded c.toLower) hall c hascii h
  · rename_i hascii
    -- No character beyond ASCII has a lower-case form before the lower-case letters of ASCII.
    have hsequences : ∀ s ∈ CaseTable.lowerSequences, ∀ n ∈ s.2, 97 ≤ n := by decide +kernel
    have hruns : ∀ run ∈ CaseTable.lowerRuns, 97 ≤ run.target := by decide +kernel
    intro d hd
    rcases caseImage_cases CaseTable.lowerSequences CaseTable.lowerRuns c with
      ⟨codes, hmem, heq⟩ | ⟨run, hrun, -, heq⟩ | heq <;> rw [heq] at hd
    · obtain ⟨n, hn, rfl⟩ := List.mem_map.mp hd
      exact isFolded_ofNat (hsequences (c.toNat, codes) hmem n hn)
    · rw [List.mem_singleton.mp hd]
      exact isFolded_ofNat (Nat.le_trans (hruns run hrun) (Nat.le_add_right _ _))
    · rw [List.mem_singleton.mp hd]
      have hcode : 128 ≤ c.toNat := by simpa [isAscii] using hascii
      exact .inr (.inl (by omega))

def lowered (c : Char) : List Char := if isUppercase c then toLowercase c else [c]

theorem mem_lowered_cases {c d : Char} (h : d ∈ lowered c) : d = c ∨ d ∈ toLowercase c := by
  rw [lowered] at h
  split at h
  · exact .inr h
  · exact .inl (List.mem_singleton.mp h)

theorem isFolded_lowered {c : Char} (h : isAlphanumeric c = true) : ∀ d ∈ lowered c, IsFolded d := by
  rw [lowered]
  split
  · exact isFolded_toLowercase h
  · rename_i hupper
    intro d hd
    rw [List.mem_singleton.mp hd]
    by_cases hascii : isAscii c = true
    · have hall : ∀ n < 128, (Char.ofNat n).isAlphanum = true → (Char.ofNat n).isUpper = false →
          IsFolded (Char.ofNat n) := by decide +kernel
      rw [isAlphanumeric_ascii hascii] at h
      have hown : c.isUpper = false := by simpa [isUppercase, hascii] using hupper
      exact @forall_ascii (fun c => c.isAlphanum = true → c.isUpper = false → IsFolded c) hall c hascii h hown
    · have hcode : 128 ≤ c.toNat := by simpa [isAscii] using hascii
      exact .inr (.inl (by omega))

theorem mem_snakeChars {d : Char} {cs : List Char} :
    ∀ {j : Junction}, d ∈ snakeChars j cs →
      d = '_' ∨ ∃ c ∈ cs, isAlphanumeric c = true ∧ d ∈ lowered c := by
  have hbefore : ∀ {j : Junction}, d ∈ j.beforeUpper ∨ d ∈ j.beforeOther → d = '_' := by
    intro j
    cases j <;> simp [Junction.beforeUpper, Junction.beforeOther]
  induction cs with
  | nil => simp [snakeChars]
  | cons c rest ih =>
      intro j hd
      have hlater : ∀ {j' : Junction}, d ∈ snakeChars j' rest →
          d = '_' ∨ ∃ c' ∈ c :: rest, isAlphanumeric c' = true ∧ d ∈ lowered c' := by
        intro j' hd
        refine (ih hd).imp_right ?_
        rintro ⟨c', hc', h⟩
        exact ⟨c', List.mem_cons_of_mem _ hc', h⟩
      rw [snakeChars] at hd
      split at hd
      · exact hlater hd
      · split at hd
        · exact hlater hd
        · rename_i halnum
          have halnum : isAlphanumeric c = true := by simpa using halnum
          have hown : d ∈ lowered c →
              d = '_' ∨ ∃ c' ∈ c :: rest, isAlphanumeric c' = true ∧ d ∈ lowered c' :=
            fun hd => .inr ⟨c, List.mem_cons_self, halnum, hd⟩
          split at hd
          · rename_i hupper
            rcases List.mem_append.mp hd with hd | hd
            · rcases List.mem_append.mp hd with hd | hd
              · exact .inl (hbefore (.inl hd))
              · exact hown (by rwa [lowered, if_pos hupper])
            · exact hlater hd
          · rename_i hupper
            rcases List.mem_append.mp hd with hd | hd
            · exact .inl (hbefore (.inr hd))
            · rcases List.mem_cons.mp hd with rfl | hd
              · exact hown (by rw [lowered, if_neg hupper]; exact List.mem_cons_self)
              · exact hlater hd

theorem mem_snakeCase {name : String} {d : Char} (h : d ∈ (snakeCase name).toList) :
    d = '_' ∨ ∃ c ∈ name.toList, isAlphanumeric c = true ∧ d ∈ lowered c := by
  rw [snakeCase, String.toList_ofList] at h
  rcases guardDigit_cases (snakeChars .start name.toList) with heq | heq <;> rw [heq] at h
  · exact mem_snakeChars h
  · exact (List.mem_cons.mp h).elim .inl mem_snakeChars

theorem isPlain_snakeCase (name : String) : ∀ d ∈ (snakeCase name).toList, IsPlain d := by
  intro d hd
  obtain rfl | ⟨c, _, halnum, hfrom⟩ := mem_snakeCase hd
  · decide
  · exact isPlain_of_isFolded (isFolded_lowered halnum d hfrom)

theorem mark_not_mem_snakeCase (name : String) : '#' ∉ (snakeCase name).toList :=
  fun h => (isPlain_snakeCase name '#' h).2.2.2 rfl

theorem snakeCase_ne_nil (name : String) : (snakeCase name).toList ≠ [] := by
  rw [snakeCase, String.toList_ofList]
  exact guardDigit_ne_nil _

theorem fileStem_eq_self {identifier : String} (h : '#' ∉ identifier.toList) :
    fileStem identifier = identifier := by
  refine (fileStem_cases identifier).resolve_right fun hraw => h ?_
  rw [hraw]
  simp

theorem fileStem_moduleName_cases (name : String) :
    fileStem (moduleName name) = snakeCase name ∨ fileStem (moduleName name) = snakeCase name ++ "_" := by
  have hmark := mark_not_mem_snakeCase name
  rcases moduleName_cases name with h | h | h
  · refine .inr ?_
    rw [h, fileStem_eq_self]
    simp [hmark]
  · rw [h, fileStem_raw]
    exact .inl rfl
  · rw [h, fileStem_eq_self hmark]
    exact .inl rfl

structure IsStem (s : String) : Prop where
  nonempty : s.toList ≠ []
  plain : ∀ c ∈ s.toList, c ≠ '/' ∧ c ≠ '\\' ∧ c ≠ '.'

theorem isStem_moduleName (name : String) : IsStem (fileStem (moduleName name)) := by
  have hplain : ∀ c ∈ (snakeCase name).toList, c ≠ '/' ∧ c ≠ '\\' ∧ c ≠ '.' := by
    intro c hc
    obtain ⟨hslash, hback, hdot, _⟩ := isPlain_snakeCase name c hc
    exact ⟨hslash, hback, hdot⟩
  rcases fileStem_moduleName_cases name with h | h
  · rw [h]
    exact ⟨snakeCase_ne_nil name, hplain⟩
  · rw [h]
    refine ⟨by simp, fun c hc => ?_⟩
    rw [String.toList_append] at hc
    rcases List.mem_append.mp hc with hc | hc
    · exact hplain c hc
    · rw [List.mem_singleton.mp hc]
      decide

end ProviderBindings.Naming
