import ProviderBindings.Proofs.Naming.Identifier

/-!
The two forms of a name compared: its record in `PascalCase` and its module in `snake_case`. They are the
same name exactly for names without case and without a second word, such as those of digits.
-/

namespace ProviderBindings.Naming

open Text

/-! ### Single characters -/

def IsRaised (c : Char) : Prop := c.isDigit = true ∨ c.isUpper = true ∨ 128 ≤ c.toNat ∨ c.toNat = 0

instance (c : Char) : Decidable (IsRaised c) := inferInstanceAs (Decidable (_ ∨ _))

theorem isRaised_ofNat {n : Nat} (h : 128 ≤ n ∨ 65 ≤ n ∧ n ≤ 90) : IsRaised (Char.ofNat n) := by
  rcases h with hlate | hupper
  · rcases toNat_ofNat_cases n with hcode | hzero
    · exact .inr (.inr (.inl (hcode.symm ▸ hlate)))
    · rw [hzero]
      decide
  · have hall : ∀ n < 128, 65 ≤ n ∧ n ≤ 90 → IsRaised (Char.ofNat n) := by decide +kernel
    exact hall n (by omega) hupper

theorem isRaised_toUppercase {c : Char} (h : isAlphanumeric c = true) : ∀ d ∈ toUppercase c, IsRaised d := by
  rw [toUppercase]
  split
  · rename_i hascii
    have hall : ∀ n < 128, (Char.ofNat n).isAlphanum = true → IsRaised (Char.ofNat n).toUpper := by
      decide +kernel
    rw [isAlphanumeric_ascii hascii] at h
    intro d hd
    rw [List.mem_singleton.mp hd]
    exact @forall_ascii (fun c => c.isAlphanum = true → IsRaised c.toUpper) hall c hascii h
  · rename_i hascii
    have hsequences : ∀ s ∈ CaseTable.upperSequences, ∀ n ∈ s.2, 128 ≤ n ∨ 65 ≤ n ∧ n ≤ 90 := by
      decide +kernel
    have hruns : ∀ run ∈ CaseTable.upperRuns, 128 ≤ run.target ∨
        run.first = run.last ∧ 65 ≤ run.target ∧ run.target ≤ 90 := by decide +kernel
    intro d hd
    rcases caseImage_cases CaseTable.upperSequences CaseTable.upperRuns c with
      ⟨codes, hmem, heq⟩ | ⟨run, hrun, hcovers, heq⟩ | heq <;> rw [heq] at hd
    · obtain ⟨n, hn, rfl⟩ := List.mem_map.mp hd
      exact isRaised_ofNat (hsequences (c.toNat, codes) hmem n hn)
    · rw [List.mem_singleton.mp hd]
      refine isRaised_ofNat ?_
      have htarget := hruns run hrun
      simp only [CaseRun.covers, Bool.and_eq_true, decide_eq_true_eq] at hcovers
      rw [CaseRun.image]
      omega
    · rw [List.mem_singleton.mp hd, ← Char.ofNat_toNat c]
      exact isRaised_ofNat (.inl (by simpa [isAscii] using hascii))

theorem toUppercase_cases (c : Char) :
    ∃ d ds, toUppercase c = d :: ds ∧ (ds = [] ∨ isUppercase c = false ∧ d ≠ c) := by
  rw [toUppercase]
  split
  · exact ⟨_, [], rfl, .inl rfl⟩
  · rename_i hascii
    have hsequences : ∀ s ∈ CaseTable.upperSequences, withinBounds ClassTable.uppercase s.1 = false ∧
        ∃ n ∈ s.2.head?, n ≠ s.1 := by decide +kernel
    rcases caseImage_cases CaseTable.upperSequences CaseTable.upperRuns c with
      ⟨codes, hmem, heq⟩ | ⟨run, -, -, heq⟩ | heq
    · obtain ⟨hlower, n, hn, hne⟩ := hsequences (c.toNat, codes) hmem
      obtain ⟨rest, rfl⟩ := List.head?_eq_some_iff.mp hn
      refine ⟨Char.ofNat n, rest.map Char.ofNat, heq, .inr ⟨by simpa [isUppercase, hascii] using hlower, ?_⟩⟩
      rintro rfl
      rcases toNat_ofNat_cases n with hcode | hzero
      · exact hne hcode.symm
      · exact hascii (hzero ▸ by decide)
    · exact ⟨_, [], heq, .inl rfl⟩
    · exact ⟨_, [], heq, .inl rfl⟩

theorem lowered_ne_nil (c : Char) : lowered c ≠ [] := by
  have hsequences : ∀ s ∈ CaseTable.lowerSequences, s.2 ≠ [] := by decide +kernel
  rw [lowered, toLowercase]
  split
  · split
    · simp
    · rcases caseImage_cases CaseTable.lowerSequences CaseTable.lowerRuns c with
        ⟨codes, hmem, heq⟩ | ⟨run, -, -, heq⟩ | heq <;> rw [heq]
      · simpa using hsequences (c.toNat, codes) hmem
      · simp
      · simp
  · simp

/-! ### Whole names -/

def letters (name : String) : List Char := name.toList.filter isAlphanumeric

def IsUncased (name : String) : Prop :=
  ∃ c rest, letters name = c :: rest ∧ toUppercase c = lowered c ∧ (∀ d ∈ rest, lowered d = [d]) ∧
    '_' ∉ snakeChars .start name.toList

section

variable {cs : List Char}

theorem raised_or_alphanumeric {wordStart : Bool} {d : Char} (h : d ∈ pascalChars wordStart cs) :
    IsRaised d ∨ isAlphanumeric d = true := by
  induction cs generalizing wordStart with
  | nil => simp [pascalChars] at h
  | cons c rest ih =>
      rw [pascalChars] at h
      split at h
      · exact ih h
      · split at h
        · exact ih h
        · rename_i halnum
          have halnum : isAlphanumeric c = true := by simpa using halnum
          split at h
          · rcases List.mem_append.mp h with h | h
            · exact .inl (isRaised_toUppercase halnum d h)
            · exact ih h
          · rcases List.mem_cons.mp h with rfl | h
            · exact .inr halnum
            · exact ih h

theorem not_mem_pascalChars {d : Char} (hraised : ¬ IsRaised d) (h : isAlphanumeric d = false)
    (wordStart : Bool) : d ∉ pascalChars wordStart cs := fun hmem => by
  simpa [hraised, h] using raised_or_alphanumeric hmem

def before (j : Junction) (c : Char) : List Char :=
  if isUppercase c then j.beforeUpper else j.beforeOther

def junctionAfter (c : Char) : Junction :=
  if isUppercase c then .other else if isLowercase c || c.isDigit then .lower else .other

theorem junctionAfter_cases (c : Char) : junctionAfter c = .lower ∨ junctionAfter c = .other := by
  rw [junctionAfter]
  split
  · exact .inr rfl
  · split
    · exact .inl rfl
    · exact .inr rfl

theorem not_isSeparator {c : Char} (h : isAlphanumeric c = true) : isSeparator c = false := by
  rw [Bool.eq_false_iff]
  intro hs
  rw [not_alphanumeric_of_isSeparator hs] at h
  cases h

theorem snakeChars_letter {c : Char} (h : isAlphanumeric c = true) (j : Junction) :
    snakeChars j (c :: cs) = before j c ++ lowered c ++ snakeChars (junctionAfter c) cs := by
  rw [snakeChars, before, lowered, junctionAfter]
  by_cases hupper : isUppercase c = true <;> simp [not_isSeparator h, h, hupper]

theorem pascalChars_letter {c : Char} (h : isAlphanumeric c = true) (wordStart : Bool) :
    pascalChars wordStart (c :: cs) = (if wordStart then toUppercase c else [c]) ++ pascalChars false cs := by
  rw [pascalChars]
  cases wordStart <;> simp [not_isSeparator h, h]

theorem exists_first (h : ∃ c ∈ cs, isAlphanumeric c = true) :
    ∃ c rest, isAlphanumeric c = true ∧ cs.filter isAlphanumeric = c :: rest.filter isAlphanumeric ∧
      pascalChars true cs = toUppercase c ++ pascalChars false rest ∧
      snakeChars .start cs = lowered c ++ snakeChars (junctionAfter c) rest := by
  induction cs with
  | nil => simp at h
  | cons c rest ih =>
      by_cases halnum : isAlphanumeric c = true
      · refine ⟨c, rest, halnum, by simp [halnum], pascalChars_letter halnum true, ?_⟩
        rw [snakeChars_letter halnum]
        simp [before, Junction.beforeUpper, Junction.beforeOther]
      · obtain ⟨c', rest', hfirst, hletters, hpascal, hsnake⟩ := ih (by simpa [halnum] using h)
        refine ⟨c', rest', hfirst, by simpa [halnum] using hletters, ?_, ?_⟩
        · simpa [pascalChars, halnum] using hpascal
        · simpa [snakeChars, halnum, Junction.separated] using hsnake

theorem one_word {j : Junction} (hj : j ≠ .start) (h : '_' ∉ snakeChars j cs) :
    pascalChars (decide (j = .gap)) cs = cs.filter isAlphanumeric ∧
      snakeChars j cs = (cs.filter isAlphanumeric).flatMap lowered := by
  induction cs generalizing j with
  | nil => simp [pascalChars, snakeChars]
  | cons c rest ih =>
      by_cases halnum : isAlphanumeric c = true
      · rw [snakeChars_letter halnum, List.mem_append, List.mem_append, not_or, not_or] at h
        obtain ⟨⟨hbefore, -⟩, hrest⟩ := h
        have hgap : j ≠ .gap := by
          rintro rfl
          simp [before, Junction.beforeUpper, Junction.beforeOther] at hbefore
        have hnothing : before j c = [] := by
          cases j <;> simp_all [before, Junction.beforeUpper, Junction.beforeOther]
        have hafter : junctionAfter c ≠ .start ∧ junctionAfter c ≠ .gap := by
          rcases junctionAfter_cases c with h | h <;> simp [h]
        obtain ⟨hpascal, hsnake⟩ := ih hafter.1 hrest
        rw [decide_eq_false hafter.2] at hpascal
        rw [snakeChars_letter halnum, pascalChars_letter halnum, hnothing, hpascal, hsnake]
        simp [halnum, hgap]
      · have hfilter : (c :: rest).filter isAlphanumeric = rest.filter isAlphanumeric := by simp [halnum]
        rw [hfilter]
        by_cases hs : isSeparator c = true
        · have hgap := Junction.separated_ne_start hj
          simp only [snakeChars, pascalChars, hs, hgap, ↓reduceIte] at h ⊢
          exact ih (j := .gap) (by simp) h
        · simp only [snakeChars, pascalChars, hs, halnum] at h ⊢
          exact ih hj h

theorem length_le_flatMap_lowered (ls : List Char) : ls.length ≤ (ls.flatMap lowered).length := by
  induction ls with
  | nil => simp
  | cons d rest ih =>
      have hd := List.length_pos_iff.mpr (lowered_ne_nil d)
      rw [List.flatMap_cons, List.length_append, List.length_cons]
      omega

theorem eq_nil_of_flatMap_lowered {more ls : List Char} (h : more ++ ls.flatMap lowered = ls) :
    more = [] := by
  have hlong := congrArg List.length h
  have hle := length_le_flatMap_lowered ls
  rw [List.length_append] at hlong
  exact List.length_eq_zero_iff.mp (by omega)

theorem flatMap_lowered_eq_self_iff {ls : List Char} :
    ls.flatMap lowered = ls ↔ ∀ d ∈ ls, lowered d = [d] := by
  induction ls with
  | nil => simp
  | cons d rest ih =>
      obtain ⟨d', more, hd⟩ := List.exists_cons_of_ne_nil (lowered_ne_nil d)
      rw [List.flatMap_cons, List.forall_mem_cons, ← ih, hd, List.cons_append]
      constructor
      · intro h
        obtain ⟨rfl, hrest⟩ := List.cons.inj h
        obtain rfl := eq_nil_of_flatMap_lowered hrest
        exact ⟨rfl, hrest⟩
      · rintro ⟨hown, hrest⟩
        obtain ⟨rfl, rfl⟩ := List.cons.inj hown
        rw [List.nil_append, hrest]

theorem toUppercase_eq_lowered {c : Char} {ls : List Char}
    (h : toUppercase c ++ ls = lowered c ++ ls.flatMap lowered) :
    toUppercase c = lowered c ∧ ls.flatMap lowered = ls := by
  obtain ⟨d, ds, hupper, hsingle⟩ := toUppercase_cases c
  obtain ⟨l, more, hlower⟩ := List.exists_cons_of_ne_nil (lowered_ne_nil c)
  rw [hupper, hlower, List.cons_append, List.cons_append] at h
  obtain ⟨rfl, hrest⟩ := List.cons.inj h
  have hds : ds = [] := hsingle.resolve_right fun ⟨hcase, hne⟩ => by
    rw [lowered, if_neg (by simp [hcase])] at hlower
    exact hne (List.cons.inj hlower).1.symm
  subst hds
  obtain rfl := eq_nil_of_flatMap_lowered hrest.symm
  exact ⟨hupper.trans hlower.symm, hrest.symm⟩

theorem pascalChars_eq_snakeChars_iff {name : String} (h : ∃ c ∈ name.toList, isAlphanumeric c = true) :
    pascalChars true name.toList = snakeChars .start name.toList ↔ IsUncased name := by
  obtain ⟨c, rest, -, hletters, hpascal, hsnake⟩ := exists_first h
  have hafter : junctionAfter c ≠ .start ∧ junctionAfter c ≠ .gap := by
    rcases junctionAfter_cases c with h | h <;> simp [h]
  have hword : '_' ∉ snakeChars .start name.toList →
      pascalChars false rest = rest.filter isAlphanumeric ∧
        snakeChars (junctionAfter c) rest = (rest.filter isAlphanumeric).flatMap lowered := by
    intro hnot
    rw [hsnake, List.mem_append, not_or] at hnot
    simpa [hafter.2] using one_word hafter.1 hnot.2
  constructor
  · intro heq
    have hnot : '_' ∉ snakeChars .start name.toList := heq ▸ not_mem_pascalChars (by decide) (by decide) true
    obtain ⟨hplain, hlow⟩ := hword hnot
    rw [hpascal, hsnake, hplain, hlow] at heq
    obtain ⟨hfirst, hothers⟩ := toUppercase_eq_lowered heq
    exact ⟨c, _, hletters, hfirst, flatMap_lowered_eq_self_iff.mp hothers, hnot⟩
  · rintro ⟨c', ls, hls, hfirst, hothers, hnot⟩
    obtain ⟨hplain, hlow⟩ := hword hnot
    obtain ⟨rfl, rfl⟩ := List.cons.inj (hletters.symm.trans hls)
    rw [hpascal, hsnake, hplain, hlow, hfirst, flatMap_lowered_eq_self_iff.mpr hothers]

end

/-! ### Records and modules -/

theorem folded_snakeCase (name : String) : ∀ d ∈ (snakeCase name).toList, d = '_' ∨ IsFolded d :=
  fun d hd => (mem_snakeCase hd).imp_right fun ⟨_, _, halnum, hfrom⟩ => isFolded_lowered halnum d hfrom

theorem not_isUpper_of_isFolded {c : Char} (h : IsFolded c) : c.isUpper = false := by
  rw [Bool.eq_false_iff]
  intro hupper
  have hbounds : 65 ≤ c.toNat ∧ c.toNat ≤ 90 := by
    delta Char.isUpper at hupper
    simpa [UInt32.le_iff_toNat_le] using hupper
  rcases h with hdigit | hlate | hzero
  · have hlow : c.toNat ≤ 57 := by
      delta Char.isDigit at hdigit
      simp only [ge_iff_le, UInt32.le_iff_toNat_le, Bool.and_eq_true, decide_eq_true_eq] at hdigit
      exact hdigit.2
    omega
  · omega
  · omega

theorem not_isUpper_snakeCase {name : String} {c : Char} (hc : c ∈ (snakeCase name).toList) :
    c.isUpper = false := by
  rcases folded_snakeCase name c hc with rfl | hfolded
  · decide
  · exact not_isUpper_of_isFolded hfolded

theorem fileStem_moduleName_ne {record : String} (h : ∃ c ∈ record.toList, c.isUpper = true) (name : String) :
    fileStem (moduleName name) ≠ record := by
  obtain ⟨c, hc, hupper⟩ := h
  rintro rfl
  have hlower : c.isUpper = false := by
    rcases fileStem_moduleName_cases name with hstem | hstem <;> rw [hstem] at hc
    · exact not_isUpper_snakeCase hc
    · rw [String.toList_append] at hc
      rcases List.mem_append.mp hc with hc | hc
      · exact not_isUpper_snakeCase hc
      · rw [List.mem_singleton.mp hc]
        decide
  rw [hlower] at hupper
  cases hupper

theorem Wordless.isBare {name : String} (h : Wordless name) : IsBare name := by
  have hnone : ∀ cs : List Char, (∀ c ∈ cs, isAlphanumeric c = false) → pascalChars true cs = [] := by
    intro cs
    induction cs with
    | nil => simp [pascalChars]
    | cons c rest ih =>
        intro h
        obtain ⟨hc, hrest⟩ := List.forall_mem_cons.mp h
        simpa [pascalChars, hc] using ih hrest
  exact hnone name.toList h

theorem fileStem_moduleName_of_wordless {name : String} (h : Wordless name) :
    fileStem (moduleName name) = "__" := by
  have hgap := (snakeChars_gap_eq_nil_iff name.toList).mpr h
  have hstart : snakeChars .start name.toList = [] := by
    have hle := length_snakeChars_start_le name.toList
    rw [hgap] at hle
    exact List.length_eq_zero_iff.mp (Nat.le_zero.mp hle)
  rw [moduleName, snakeCase, hstart]
  decide

theorem guardDigit_inj {c d : Char} {cs ds : List Char} (hc : c ≠ '_') (hd : d ≠ '_') :
    guardDigit (c :: cs) = guardDigit (d :: ds) ↔ c :: cs = d :: ds := by
  refine ⟨fun h => ?_, fun h => h ▸ rfl⟩
  simp only [guardDigit] at h
  split at h <;> split at h
  · exact (List.cons.inj h).2
  · exact absurd (List.cons.inj h).1.symm hd
  · exact absurd (List.cons.inj h).1 hc
  · exact h

theorem pascalCase_eq_snakeCase_iff {name : String} (h : ∃ c ∈ name.toList, isAlphanumeric c = true) :
    pascalCase name = snakeCase name ↔ IsUncased name := by
  rw [← pascalChars_eq_snakeChars_iff h, pascalCase, snakeCase, String.ofList_inj]
  obtain ⟨c, rest, halnum, -, hpascal, hsnake⟩ := exists_first h
  obtain ⟨d, ds, hupper, -⟩ := toUppercase_cases c
  obtain ⟨l, ls, hlower⟩ := List.exists_cons_of_ne_nil (lowered_ne_nil c)
  have hd : d ≠ '_' := by
    rintro rfl
    exact absurd (isRaised_toUppercase halnum '_' (by simp [hupper])) (by decide)
  have hl : l ≠ '_' := by
    rintro rfl
    exact absurd (isFolded_lowered halnum '_' (by simp [hlower])) (by decide)
  rw [hpascal, hsnake, hupper, hlower]
  exact guardDigit_inj hd hl

theorem pascalCase_ne_underscored (name : String) : pascalCase name ≠ snakeCase name ++ "_" := by
  intro h
  have hlist := congrArg String.toList h
  rw [pascalCase, String.toList_ofList, String.toList_append] at hlist
  have hnot : '_' ∉ pascalChars true name.toList := not_mem_pascalChars (by decide) (by decide) true
  rcases guardDigit_cases (pascalChars true name.toList) with hguard | hguard <;> rw [hguard] at hlist
  · rw [hlist] at hnot
    simp at hnot
  · obtain ⟨c, rest, heq⟩ := List.exists_cons_of_ne_nil (snakeCase_ne_nil name)
    rw [heq, List.cons_append] at hlist
    rw [(List.cons.inj hlist).2] at hnot
    simp at hnot

theorem IsUncased.hasLetter {name : String} (h : IsUncased name) :
    ∃ c ∈ name.toList, isAlphanumeric c = true := by
  obtain ⟨c, rest, hletters, -⟩ := h
  have hmem : c ∈ letters name := hletters ▸ List.mem_cons_self
  exact ⟨c, List.mem_filter.mp hmem⟩

theorem IsUncased.moduleName_eq {name : String} (h : IsUncased name) : moduleName name = snakeCase name := by
  obtain ⟨c', rest, halnum, hletters, -, hsnake⟩ := exists_first h.hasLetter
  obtain ⟨c, ls, hls, hfirst, -, -⟩ := h
  obtain rfl : c' = c := (List.cons.inj (hletters.symm.trans hls)).1
  obtain ⟨d, ds, hupper, -⟩ := toUppercase_cases c'
  obtain ⟨tail, htail⟩ : ∃ tail, snakeChars .start name.toList = d :: tail :=
    ⟨_, hsnake.trans (by rw [← hfirst, hupper, List.cons_append])⟩
  have hlist : (snakeCase name).toList = guardDigit (d :: tail) := by
    rw [snakeCase, String.toList_ofList, htail]
  have hboth : IsRaised d ∧ IsFolded d :=
    ⟨isRaised_toUppercase halnum d (by simp [hupper]), isFolded_lowered halnum d (by simp [← hfirst, hupper])⟩
  rw [guardDigit] at hlist
  split at hlist
  · have hlead : (snakeCase name).toList = ['_', d] ++ tail := hlist
    refine moduleName_of_lead hlead fun word hmem hprefix => ?_
    have hlong : ∀ word ∈ reservedModuleNames ++ nonRawKeywords ++ keywords,
        word.toList.head? = some '_' → word.toList.length < 2 := by decide
    obtain ⟨rest, heq⟩ := hprefix
    have hshort := hlong word hmem (by rw [← heq]; rfl)
    rw [← heq, List.length_append] at hshort
    simp only [List.length_cons, List.length_nil] at hshort
    omega
  · have hlead : (snakeCase name).toList = [d] ++ tail := hlist
    refine moduleName_of_lead hlead fun word hmem hprefix => ?_
    have hheads : ∀ word ∈ reservedModuleNames ++ nonRawKeywords ++ keywords,
        ∀ first ∈ word.toList.head?, ¬ (IsRaised first ∧ IsFolded first) := by decide
    obtain ⟨rest, heq⟩ := hprefix
    exact hheads word hmem d (by rw [← heq]; rfl) hboth

theorem recordName_eq_fileStem_iff (name : String) :
    recordName name = fileStem (moduleName name) ↔ IsUncased name := by
  by_cases hword : ∃ c ∈ name.toList, isAlphanumeric c = true
  · rw [← pascalCase_eq_snakeCase_iff hword]
    constructor
    · intro h
      by_cases hreserved : pascalCase name ∈ reservedTypeNames
      · rw [recordName_of_reserved hreserved] at h
        exact absurd h.symm (fileStem_moduleName_ne ⟨'B', by simp, by decide⟩ name)
      · rw [recordName_of_not_reserved hreserved] at h
        rcases fileStem_moduleName_cases name with hstem | hstem
        · exact h.trans hstem
        · exact absurd (h.trans hstem) (pascalCase_ne_underscored name)
    · intro h
      have huncased := (pascalCase_eq_snakeCase_iff hword).mp h
      have hreserved : pascalCase name ∉ reservedTypeNames := by
        intro hmem
        have hupper : ∀ word ∈ reservedTypeNames, ∃ c ∈ word.toList, c.isUpper = true := by decide
        obtain ⟨c, hc, hc'⟩ := hupper _ hmem
        rw [h] at hc
        rw [not_isUpper_snakeCase hc] at hc'
        cases hc'
      have hmark : '#' ∉ (snakeCase name).toList := fun hmem => (isPlain_snakeCase name '#' hmem).2.2.2 rfl
      rw [recordName_of_not_reserved hreserved, huncased.moduleName_eq, fileStem_eq_self hmark, h]
  · have hwordless : Wordless name := by simpa [Wordless] using hword
    rw [fileStem_moduleName_of_wordless hwordless, (recordName_suffix_of_bare hwordless.isBare).1]
    exact iff_of_false (by decide) fun h => hword h.hasLetter

end ProviderBindings.Naming
