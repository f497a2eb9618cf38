import ProviderBindings.Proofs.Naming.Casing

/-!
The normal form of names in `snake_case`. Underscores stand alone and join words of lower-case letters and
digits, and a name in this form is its own `snake_case` form.
-/

namespace ProviderBindings.Naming

open Text

/-! ### Underscores -/

def Joins (cs : List Char) : Prop :=
  ∀ rest, '_' :: rest <:+ cs → ∃ c more, rest = c :: more ∧ c ≠ '_'

namespace Joins

variable {c : Char} {cs : List Char}

theorem nil : Joins [] := by
  intro rest h
  cases List.suffix_nil.mp h

theorem cons_iff : Joins (c :: cs) ↔ (c = '_' → ∃ d more, cs = d :: more ∧ d ≠ '_') ∧ Joins cs := by
  constructor
  · intro h
    refine ⟨?_, fun rest hrest => h rest (List.suffix_cons_iff.mpr (.inr hrest))⟩
    rintro rfl
    exact h cs (List.suffix_refl _)
  · rintro ⟨hfirst, hcs⟩ rest hrest
    rcases List.suffix_cons_iff.mp hrest with heq | hrest
    · obtain ⟨rfl, rfl⟩ := List.cons.inj heq
      exact hfirst rfl
    · exact hcs rest hrest

theorem append {ls : List Char} (hls : '_' ∉ ls) (h : Joins cs) : Joins (ls ++ cs) := by
  induction ls with
  | nil => exact h
  | cons l ls ih =>
      rw [List.mem_cons, not_or] at hls
      exact cons_iff.mpr ⟨fun hl => absurd hl.symm hls.1, ih hls.2⟩

theorem underscore (h : Joins (c :: cs)) (hc : c ≠ '_') : Joins ('_' :: c :: cs) :=
  cons_iff.mpr ⟨fun _ => ⟨c, cs, rfl, hc⟩, h⟩

theorem getLast?_ne (h : Joins cs) : cs.getLast? ≠ some '_' := by
  intro hlast
  obtain ⟨before, rfl⟩ := List.getLast?_eq_some_iff.mp hlast
  obtain ⟨c, more, hnil, -⟩ := h [] (List.suffix_append before ['_'])
  cases hnil

theorem not_doubled (h : Joins cs) : ¬ ['_', '_'] <:+: cs := by
  rintro ⟨before, after, rfl⟩
  obtain ⟨c, more, heq, hc⟩ := h ('_' :: after) ⟨before, by simp⟩
  exact hc (List.cons.inj heq).1.symm

theorem of_not_doubled (hdoubled : ¬ ['_', '_'] <:+: cs) (hlast : cs.getLast? ≠ some '_') : Joins cs := by
  rintro rest ⟨before, rfl⟩
  cases rest with
  | nil => exact absurd (by simp) hlast
  | cons c more =>
      refine ⟨c, more, rfl, ?_⟩
      rintro rfl
      exact hdoubled ⟨before, more, by simp⟩

end Joins

theorem before_cases (j : Junction) (c : Char) : before j c = [] ∨ before j c = ['_'] := by
  rw [before]
  split <;> cases j <;> simp [Junction.beforeUpper, Junction.beforeOther]

theorem underscore_not_mem_lowered {c : Char} (h : isAlphanumeric c = true) : '_' ∉ lowered c :=
  fun hmem => absurd (isFolded_lowered h '_' hmem) (by decide)

theorem joins_snakeChars (cs : List Char) : ∀ j, Joins (snakeChars j cs) := by
  induction cs with
  | nil =>
      intro j
      rw [snakeChars]
      exact .nil
  | cons c rest ih =>
      intro j
      by_cases halnum : isAlphanumeric c = true
      · obtain ⟨d, ds, hlower⟩ := List.exists_cons_of_ne_nil (lowered_ne_nil c)
        have hplain := underscore_not_mem_lowered halnum
        have hword := (ih (junctionAfter c)).append hplain
        rw [hlower] at hplain hword
        rw [snakeChars_letter halnum, hlower]
        rcases before_cases j c with hbefore | hbefore <;> rw [hbefore]
        · exact hword
        · exact hword.underscore fun hd => hplain (hd ▸ List.mem_cons_self)
      · rw [snakeChars]
        split
        · exact ih _
        · rw [if_pos (by simpa using halnum)]
          exact ih j

theorem head?_snakeChars (cs : List Char) : (snakeChars .start cs).head? ≠ some '_' := by
  induction cs with
  | nil => simp [snakeChars]
  | cons c rest ih =>
      by_cases halnum : isAlphanumeric c = true
      · obtain ⟨d, ds, hlower⟩ := List.exists_cons_of_ne_nil (lowered_ne_nil c)
        have hplain := underscore_not_mem_lowered halnum
        rw [hlower] at hplain
        rw [snakeChars_letter halnum, hlower]
        intro hd
        simp only [before, Junction.beforeUpper, Junction.beforeOther, ite_self, List.nil_append,
          List.cons_append, List.head?_cons, Option.some.injEq] at hd
        exact hplain (hd ▸ List.mem_cons_self)
      · simpa [snakeChars, halnum, Junction.separated] using ih

theorem snakeCase_cases (name : String) : snakeCase name = "_" ∨ Joins (snakeCase name).toList := by
  have hjoins := joins_snakeChars name.toList .start
  have hhead := head?_snakeChars name.toList
  rw [snakeCase, String.toList_ofList]
  cases hchars : snakeChars .start name.toList with
  | nil => exact .inl rfl
  | cons c rest =>
      rw [hchars] at hjoins hhead
      refine .inr ?_
      rcases guardDigit_cases (c :: rest) with h | h <;> rw [h]
      · exact hjoins
      · exact hjoins.underscore (by simpa using hhead)

/-! ### The normal form -/

structure IsSnake (s : String) : Prop where
  nonempty : s ≠ ""
  alphabet : ∀ c ∈ s.toList, c.isLower = true ∨ c.isDigit = true ∨ c = '_'
  start : ∀ c ∈ s.toList.head?, c.isDigit = false
  apart : ¬ ['_', '_'] <:+: s.toList
  trailing : s.toList.getLast? = some '_' → s = "_"
  leading : ∀ rest, s.toList = '_' :: rest → s = "_" ∨ ∃ c ∈ rest.head?, c.isDigit = true

variable {cs : List Char}

theorem snakeChars_plain {c : Char} (h : c.isLower = true ∨ c.isDigit = true) (j : Junction) :
    snakeChars j (c :: cs) = j.beforeOther ++ c :: snakeChars .lower cs := by
  have hall : ∀ n < 128, (Char.ofNat n).isLower = true ∨ (Char.ofNat n).isDigit = true →
      isAlphanumeric (Char.ofNat n) = true ∧ isUppercase (Char.ofNat n) = false ∧
        junctionAfter (Char.ofNat n) = .lower := by decide +kernel
  have halphanum : (c.isUpper || c.isLower || c.isDigit) = true := by
    rcases h with h | h <;> simp [h]
  have hname : Code.isNameChar c = true := isNameChar_of_isAlphanum halphanum
  obtain ⟨halnum, hupper, hafter⟩ := @forall_ascii (fun c => c.isLower = true ∨ c.isDigit = true →
    isAlphanumeric c = true ∧ isUppercase c = false ∧ junctionAfter c = .lower) hall c
      (isAscii_of_isNameChar hname) h
  rw [snakeChars_letter halnum, before, lowered, hafter]
  simp [hupper]

theorem snakeChars_of_joins (h : ∀ c ∈ cs, c.isLower = true ∨ c.isDigit = true ∨ c = '_')
    (hjoins : Joins cs) :
    snakeChars .lower cs = cs ∧ (cs ≠ [] → cs.head? ≠ some '_' → snakeChars .gap cs = '_' :: cs) := by
  induction cs with
  | nil => simp [snakeChars]
  | cons c rest ih =>
      obtain ⟨hc, hrest⟩ := List.forall_mem_cons.mp h
      obtain ⟨hunderscore, hjoins⟩ := Joins.cons_iff.mp hjoins
      obtain ⟨hword, hgap⟩ := ih hrest hjoins
      by_cases hplain : c.isLower = true ∨ c.isDigit = true
      · rw [snakeChars_plain hplain, snakeChars_plain hplain, hword]
        exact ⟨rfl, fun _ _ => rfl⟩
      · obtain rfl : c = '_' := by simpa [not_or.mp hplain] using hc
        obtain ⟨d, more, rfl, hd⟩ := hunderscore rfl
        refine ⟨?_, fun _ hhead => absurd rfl hhead⟩
        rw [snakeChars, if_pos (by decide)]
        exact hgap (by simp) (by simpa using hd)

theorem snakeCase_of_isSnake {s : String} (h : IsSnake s) : snakeCase s = s := by
  by_cases hs : s = "_"
  · rw [hs]
    decide
  have hjoins : Joins s.toList := .of_not_doubled h.apart fun hlast => hs (h.trailing hlast)
  obtain ⟨hnonempty, halphabet, hstart, -, -, hleading⟩ := h
  rw [← String.toList_inj, snakeCase, String.toList_ofList]
  cases hchars : s.toList with
  | nil => exact absurd (String.toList_eq_nil_iff.mp hchars) hnonempty
  | cons c rest =>
      rw [hchars] at hjoins halphabet hstart
      obtain ⟨hc, hrest⟩ := List.forall_mem_cons.mp halphabet
      by_cases hunderscore : c = '_'
      · subst hunderscore
        obtain ⟨d, hd, hdigit⟩ := (hleading rest hchars).resolve_left hs
        obtain ⟨more, rfl⟩ := List.head?_eq_some_iff.mp hd
        have hmore := (Joins.cons_iff.mp (Joins.cons_iff.mp hjoins).2).2
        rw [snakeChars, if_pos (by decide), Junction.separated, snakeChars_plain (.inr hdigit),
          (snakeChars_of_joins (List.forall_mem_cons.mp hrest).2 hmore).1]
        simp [Junction.beforeOther, guardDigit, hdigit]
      · have hdigit : c.isDigit = false := hstart c rfl
        have hlower : c.isLower = true := by simpa [hunderscore, hdigit] using hc
        rw [snakeChars_plain (.inl hlower), (snakeChars_of_joins hrest (Joins.cons_iff.mp hjoins).2).1]
        simp [Junction.beforeOther, guardDigit, hdigit]

/-! ### Names of ASCII -/

theorem lowered_ascii {c : Char} (h : isAscii c = true) (halnum : c.isAlphanum = true) :
    lowered c = [c.toLower] := by
  have hall : ∀ n < 128, (Char.ofNat n).isAlphanum = true →
      lowered (Char.ofNat n) = [(Char.ofNat n).toLower] := by decide +kernel
  exact @forall_ascii (fun c => c.isAlphanum = true → lowered c = [c.toLower]) hall c h halnum

theorem isLower_or_isDigit_toLower {c : Char} (h : isAscii c = true) (halnum : c.isAlphanum = true) :
    c.toLower.isLower = true ∨ c.toLower.isDigit = true := by
  have hall : ∀ n < 128, (Char.ofNat n).isAlphanum = true →
      (Char.ofNat n).toLower.isLower = true ∨ (Char.ofNat n).toLower.isDigit = true := by decide +kernel
  exact @forall_ascii (fun c => c.isAlphanum = true → c.toLower.isLower = true ∨ c.toLower.isDigit = true)
    hall c h halnum

theorem filter_snakeChars (h : ∀ c ∈ cs, isAscii c = true) :
    ∀ j, (snakeChars j cs).filter Char.isAlphanum = (cs.filter Char.isAlphanum).map Char.toLower := by
  induction cs with
  | nil => simp [snakeChars]
  | cons c rest ih =>
      obtain ⟨hc, hrest⟩ := List.forall_mem_cons.mp h
      have hclass := isAlphanumeric_ascii hc
      intro j
      by_cases halnum : c.isAlphanum = true
      · have hbefore : (before j c).filter Char.isAlphanum = [] := by
          rcases before_cases j c with h | h <;> rw [h] <;> decide
        rw [snakeChars_letter (hclass.trans halnum), lowered_ascii hc halnum, List.filter_append,
          List.filter_append, hbefore, ih hrest]
        simp [halnum, isAlphanum_toLower hc halnum]
      · have hskip : (c :: rest).filter Char.isAlphanum = rest.filter Char.isAlphanum := by simp [halnum]
        rw [snakeChars, hclass, hskip]
        split
        · exact ih hrest _
        · rw [if_pos (by simpa using halnum)]
          exact ih hrest j

theorem filter_snakeCase {name : String} (h : ∀ c ∈ name.toList, isAscii c = true) :
    (snakeCase name).toList.filter Char.isAlphanum =
      (name.toList.filter Char.isAlphanum).map Char.toLower := by
  rw [← filter_snakeChars h .start, snakeCase, String.toList_ofList]
  rcases guardDigit_cases (snakeChars .start name.toList) with h | h <;> rw [h]
  exact List.filter_cons_of_neg (by decide)

theorem head?_guardDigit (cs : List Char) : ∀ c ∈ (guardDigit cs).head?, c.isDigit = false := by
  cases cs with
  | nil => decide
  | cons c rest =>
      rw [guardDigit]
      split
      · simp
      · rename_i hdigit
        simpa using hdigit

theorem isSnake_snakeCase {name : String} (h : ∀ c ∈ name.toList, isAscii c = true) :
    IsSnake (snakeCase name) where
  nonempty := snakeCase_ne_empty name
  alphabet := by
    intro d hd
    obtain rfl | ⟨c, hc, halnum, hfrom⟩ := mem_snakeCase hd
    · exact .inr (.inr rfl)
    · rw [isAlphanumeric_ascii (h c hc)] at halnum
      rw [lowered_ascii (h c hc) halnum, List.mem_singleton] at hfrom
      exact hfrom ▸ (isLower_or_isDigit_toLower (h c hc) halnum).imp_right .inl
  start := by
    rw [snakeCase, String.toList_ofList]
    exact head?_guardDigit _
  apart := by
    rcases snakeCase_cases name with heq | hjoins
    · rw [heq]
      decide
    · exact hjoins.not_doubled
  trailing := fun hlast => (snakeCase_cases name).resolve_right fun hjoins => hjoins.getLast?_ne hlast
  leading := by
    intro rest hrest
    have hhead := head?_snakeChars name.toList
    rw [snakeCase, String.toList_ofList] at hrest
    rw [snakeCase]
    cases hchars : snakeChars .start name.toList with
    | nil => exact .inl rfl
    | cons c more =>
        rw [hchars] at hrest hhead
        rw [guardDigit] at hrest
        split at hrest
        · rename_i hdigit
          obtain ⟨-, rfl⟩ := List.cons.inj hrest
          exact .inr ⟨c, rfl, hdigit⟩
        · exact absurd (congrArg some (List.cons.inj hrest).1) hhead

theorem snakeCase_normalizes {name : String} (h : ∀ c ∈ name.toList, isAscii c = true) :
    IsSnake (snakeCase name) ∧
      (snakeCase name).toList.filter Char.isAlphanum =
        (name.toList.filter Char.isAlphanum).map Char.toLower ∧
      snakeCase (snakeCase name) = snakeCase name :=
  ⟨isSnake_snakeCase h, filter_snakeCase h, snakeCase_of_isSnake (isSnake_snakeCase h)⟩

theorem snakeCase_normalizes_mesh :
    (∀ c ∈ "-3dMesh__kmsKeyId.".toList, isAscii c = true) ∧
      snakeCase "-3dMesh__kmsKeyId." = "_3d_mesh_kms_key_id" ∧ IsSnake "_3d_mesh_kms_key_id" ∧
      "_3d_mesh_kms_key_id".toList.filter Char.isAlphanum = "3dmeshkmskeyid".toList ∧
      snakeCase "_3d_mesh_kms_key_id" = "_3d_mesh_kms_key_id" := by
  have h : ∀ c ∈ "-3dMesh__kmsKeyId.".toList, isAscii c = true := by decide +kernel
  have heq : snakeCase "-3dMesh__kmsKeyId." = "_3d_mesh_kms_key_id" := by decide +kernel
  obtain ⟨hsnake, hfilter, hfixed⟩ := snakeCase_normalizes h
  rw [heq] at hsnake hfilter hfixed
  exact ⟨h, heq, hsnake, hfilter.trans (by decide +kernel), hfixed⟩

end ProviderBindings.Naming
