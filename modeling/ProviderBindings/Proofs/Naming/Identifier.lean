import ProviderBindings.Code.Identifier
import ProviderBindings.Naming.Growth
import ProviderBindings.Proofs.Naming.Alphabet

/-!
Identifiers from names. A name of ASCII characters with a letter or digit among them gives identifiers that
are no keywords: as a member or module by escaping, as a record because it starts with no lower-case letter.
-/

namespace ProviderBindings.Naming

open Code (isNameChar isPlainIdentifier isIdentifier)
open Text

structure IsWordy (name : String) : Prop where
  ascii : ∀ c ∈ name.toList, isAscii c = true
  word : ∃ c ∈ name.toList, isAlphanumeric c = true

instance (name : String) : Decidable (IsWordy name) :=
  decidable_of_iff (_ ∧ _) ⟨fun h => ⟨h.1, h.2⟩, fun h => ⟨h.ascii, h.word⟩⟩

theorem IsWordy.append {name : String} (h : IsWordy name) {more : String}
    (hm : ∀ c ∈ more.toList, isAscii c = true) : IsWordy (name ++ more) := by
  obtain ⟨c, hc, hword⟩ := h.word
  refine ⟨?_, c, ?_, hword⟩
  · rw [String.toList_append]
    exact List.forall_mem_append.mpr ⟨h.ascii, hm⟩
  · rw [String.toList_append]
    exact List.mem_append_left _ hc

/-! ### Characters -/

theorem isNameChar_of_isAlphanum {c : Char} (h : c.isAlphanum = true) : isNameChar c = true := by
  simp [isNameChar, h]

theorem isAscii_of_isNameChar {c : Char} (h : isNameChar c = true) : isAscii c = true := by
  delta isNameChar Char.isAlphanum Char.isAlpha Char.isUpper Char.isLower Char.isDigit at h
  simp only [Bool.or_eq_true, Bool.and_eq_true, decide_eq_true_eq, beq_iff_eq, ge_iff_le,
    UInt32.le_iff_toNat_le] at h
  rcases h with h | rfl
  · have hupper : 'Z'.val.toNat = 90 := rfl
    have hlower : 'z'.val.toNat = 122 := rfl
    have hdigit : '9'.val.toNat = 57 := rfl
    have hcode : c.toNat = c.val.toNat := rfl
    have hlow : c.toNat < 128 := by omega
    simpa [isAscii] using hlow
  · decide

theorem isAlphanum_toLower {c : Char} (hc : isAscii c = true) (h : c.isAlphanum = true) :
    c.toLower.isAlphanum = true := by
  have hall : ∀ n < 128, (Char.ofNat n).isAlphanum = true → (Char.ofNat n).toLower.isAlphanum = true := by
    decide +kernel
  exact @forall_ascii (fun c => c.isAlphanum = true → c.toLower.isAlphanum = true) hall c hc h

theorem isAlphanum_toUpper {c : Char} (hc : isAscii c = true) (h : c.isAlphanum = true) :
    c.toUpper.isAlphanum = true ∧ c.toUpper.isLower = false := by
  have hall : ∀ n < 128, (Char.ofNat n).isAlphanum = true →
      (Char.ofNat n).toUpper.isAlphanum = true ∧ (Char.ofNat n).toUpper.isLower = false := by
    decide +kernel
  exact @forall_ascii
    (fun c => c.isAlphanum = true → c.toUpper.isAlphanum = true ∧ c.toUpper.isLower = false) hall c hc h

variable {cs : List Char}

theorem mem_snakeChars_of_mem {c d : Char} (hc : c ∈ cs) (halnum : isAlphanumeric c = true)
    (hd : d ∈ lowered c) : ∀ j : Junction, d ∈ snakeChars j cs := by
  induction cs with
  | nil => cases hc
  | cons c' rest ih =>
      intro j
      rw [snakeChars]
      rcases List.mem_cons.mp hc with rfl | hc
      · have hseparator : ¬ isSeparator c = true := by
          intro hs
          rw [not_alphanumeric_of_isSeparator hs] at halnum
          cases halnum
        rw [if_neg hseparator, if_neg (by simp [halnum])]
        rw [lowered] at hd
        split
        · rename_i hupper
          rw [if_pos hupper] at hd
          exact List.mem_append_left _ (List.mem_append_right _ hd)
        · rename_i hupper
          rw [if_neg hupper, List.mem_singleton] at hd
          exact hd ▸ List.mem_append_right _ List.mem_cons_self
      · split
        · exact ih hc _
        · split
          · exact ih hc _
          · split
            · exact List.mem_append_right _ (ih hc .other)
            · exact List.mem_append_right _ (List.mem_cons_of_mem _ (ih hc _))

/-- Whether a letter or digit is in ASCII or comes there in lower case. The Kelvin sign alone comes from
beyond it. -/
def FoldsToAscii (c : Char) : Prop := isAscii c = true ∨ c = '\u212a'

instance (c : Char) : Decidable (FoldsToAscii c) := inferInstanceAs (Decidable (_ ∨ _))

theorem foldsToAscii_of_toLowercase {c : Char} (h : ∀ d ∈ toLowercase c, isAscii d = true) :
    FoldsToAscii c := by
  have hsequences : ∀ s ∈ CaseTable.lowerSequences, ∃ n ∈ s.2, isAscii (Char.ofNat n) = false := by
    decide
  have hruns : ∀ run ∈ CaseTable.lowerRuns, run.target < 128 → run.first = 0x212a ∧ run.last = 0x212a := by
    decide +kernel
  have hvalid : ∀ run ∈ CaseTable.lowerRuns, run.target + (run.last - run.first) < 0xd800 ∨
      0xdfff < run.target ∧ run.target + (run.last - run.first) < 0x110000 := by decide +kernel
  refine (Decidable.em (isAscii c = true)).imp_right fun hc => ?_
  rw [toLowercase, if_neg hc] at h
  rcases caseImage_cases CaseTable.lowerSequences CaseTable.lowerRuns c with
    ⟨codes, hmem, heq⟩ | ⟨run, hmem, hcovers, heq⟩ | heq <;> rw [heq] at h
  · obtain ⟨n, hn, hascii⟩ := hsequences (c.toNat, codes) hmem
    rw [h _ (List.mem_map_of_mem hn)] at hascii
    cases hascii
  · simp only [CaseRun.covers, Bool.and_eq_true, decide_eq_true_eq] at hcovers
    have hcode : (Char.ofNat (run.image c.toNat)).toNat = run.image c.toNat := by
      have himage : (run.image c.toNat).isValidChar := by
        have := hvalid run hmem
        rw [CaseRun.image, Nat.isValidChar]
        omega
      rw [Char.ofNat, dif_pos himage]
      rfl
    have hlow : run.target < 128 := by
      have hascii := h _ List.mem_cons_self
      rw [isAscii, decide_eq_true_eq, hcode, CaseRun.image] at hascii
      omega
    have hkelvin := hruns run hmem hlow
    have hcode : c.toNat = 0x212a := by omega
    rw [← Char.ofNat_toNat c, hcode]
  · exact absurd (h c List.mem_cons_self) hc

theorem isNameChar_lowered {c : Char} (halnum : isAlphanumeric c = true) (h : FoldsToAscii c) :
    ∀ d ∈ lowered c, isNameChar d = true := by
  rcases h with hascii | rfl
  · rw [isAlphanumeric_ascii hascii] at halnum
    intro d hd
    refine isNameChar_of_isAlphanum ?_
    rcases mem_lowered_cases hd with rfl | hlower
    · exact halnum
    · rw [toLowercase_ascii hascii, List.mem_singleton] at hlower
      exact hlower ▸ isAlphanum_toLower hascii halnum
  · decide +kernel

theorem foldsToAscii_of_lowered {c : Char} (h : ∀ d ∈ lowered c, isNameChar d = true) :
    FoldsToAscii c := by
  rw [lowered] at h
  split at h
  · exact foldsToAscii_of_toLowercase fun d hd => isAscii_of_isNameChar (h d hd)
  · exact .inl (isAscii_of_isNameChar (h c List.mem_cons_self))

theorem isNameChar_snakeChars_iff (j : Junction) :
    (∀ d ∈ snakeChars j cs, isNameChar d = true) ↔
      ∀ c ∈ cs, isAlphanumeric c = true → FoldsToAscii c := by
  constructor
  · intro h c hc halnum
    exact foldsToAscii_of_lowered fun d hd => h d (mem_snakeChars_of_mem hc halnum hd j)
  · intro h d hd
    obtain rfl | ⟨c, hc, halnum, hfrom⟩ := mem_snakeChars hd
    · decide
    · exact isNameChar_lowered halnum (h c hc halnum) d hfrom

theorem exists_alphanum_snakeChars (h : ∀ c ∈ cs, isAscii c = true)
    (hword : ∃ c ∈ cs, isAlphanumeric c = true) (j : Junction) :
    ∃ d ∈ snakeChars j cs, d.isAlphanum = true := by
  obtain ⟨c, hc, halnum⟩ := hword
  have hascii := h c hc
  have hown : c.isAlphanum = true := by rwa [← isAlphanumeric_ascii hascii]
  by_cases hupper : isUppercase c = true
  · have hmem : c.toLower ∈ lowered c := by simp [lowered, hupper, toLowercase_ascii hascii]
    exact ⟨c.toLower, mem_snakeChars_of_mem hc halnum hmem j, isAlphanum_toLower hascii hown⟩
  · have hmem : c ∈ lowered c := by simp [lowered, hupper]
    exact ⟨c, mem_snakeChars_of_mem hc halnum hmem j, hown⟩

theorem isAlphanum_pascalChars (h : ∀ c ∈ cs, isAscii c = true) (wordStart : Bool) :
    ∀ d ∈ pascalChars wordStart cs, d.isAlphanum = true := by
  induction cs generalizing wordStart with
  | nil => simp [pascalChars]
  | cons c rest ih =>
      obtain ⟨hascii, hrest⟩ := List.forall_mem_cons.mp h
      intro d hd
      rw [pascalChars, isAlphanumeric_ascii hascii, toUppercase_ascii hascii] at hd
      split at hd
      · exact ih hrest _ d hd
      · split at hd
        · exact ih hrest _ d hd
        · rename_i halnum
          have hown : c.isAlphanum = true := by simpa using halnum
          split at hd
          · rcases List.mem_cons.mp hd with rfl | hd
            · exact (isAlphanum_toUpper hascii hown).1
            · exact ih hrest _ d hd
          · rcases List.mem_cons.mp hd with rfl | hd
            · exact hown
            · exact ih hrest _ d hd

theorem exists_pascalChars (h : ∀ c ∈ cs, isAscii c = true) (hword : ∃ c ∈ cs, isAlphanumeric c = true) :
    ∃ first rest, pascalChars true cs = first :: rest ∧ first.isLower = false := by
  induction cs with
  | nil => simp at hword
  | cons c rest ih =>
      obtain ⟨hascii, hrest⟩ := List.forall_mem_cons.mp h
      by_cases halnum : isAlphanumeric c = true
      · have hseparator : ¬ isSeparator c = true := by
          intro hs
          rw [not_alphanumeric_of_isSeparator hs] at halnum
          cases halnum
        rw [pascalChars, if_neg hseparator, if_neg (by simp [halnum]), if_pos rfl, toUppercase_ascii hascii]
        rw [isAlphanumeric_ascii hascii] at halnum
        exact ⟨c.toUpper, pascalChars false rest, rfl, (isAlphanum_toUpper hascii halnum).2⟩
      · have hlater : ∃ c' ∈ rest, isAlphanumeric c' = true := by simpa [halnum] using hword
        have hskip : pascalChars true (c :: rest) = pascalChars true rest := by simp [pascalChars, halnum]
        rw [hskip]
        exact ih hrest hlater

/-! ### Identifiers -/

theorem isPlainIdentifier_of_tail {c c' : Char} {rest : List Char} (hc : c.isAlpha = true ∨ c = '_')
    (h : ∀ d ∈ c' :: rest, isNameChar d = true) : isPlainIdentifier (c :: c' :: rest) = true := by
  have hfirst : (c.isAlpha || c == '_') = true := by simpa using hc
  rw [isPlainIdentifier, hfirst, Bool.true_and, List.all_eq_true]
  · exact h
  · simp

theorem isPlainIdentifier_guardDigit (h : ∀ c ∈ cs, isNameChar c = true)
    (hword : ∃ c ∈ cs, c.isAlphanum = true) : isPlainIdentifier (guardDigit cs) = true := by
  cases cs with
  | nil => simp at hword
  | cons c rest =>
      rw [guardDigit]
      split
      · exact isPlainIdentifier_of_tail (.inr rfl) h
      · rename_i hdigit
        obtain ⟨hc, hrest⟩ := List.forall_mem_cons.mp h
        have hfirst : c.isAlpha = true ∨ c = '_' := by
          simpa [isNameChar, Char.isAlphanum, hdigit] using hc
        cases rest with
        | cons c' rest => exact isPlainIdentifier_of_tail hfirst hrest
        | nil =>
            -- An underscore alone is no letter or digit.
            have hne : c ≠ '_' := by
              rintro rfl
              revert hword
              decide
            have halpha : c.isAlpha = true := hfirst.resolve_right hne
            rw [isPlainIdentifier]
            · simp [halpha]
            · simpa using hne

theorem isPlainIdentifier_append {more : List Char} (h : isPlainIdentifier cs = true)
    (hm : ∀ c ∈ more, isNameChar c = true) : isPlainIdentifier (cs ++ more) = true := by
  cases more with
  | nil => rwa [List.append_nil]
  | cons d more =>
      unfold isPlainIdentifier at h
      split at h
      · cases h
      · cases h
      · rename_i c rest _
        rw [Bool.and_eq_true, List.all_eq_true] at h
        have hall : ∀ c ∈ rest ++ d :: more, isNameChar c = true := List.forall_mem_append.mpr ⟨h.2, hm⟩
        have hfirst : c.isAlpha = true ∨ c = '_' := by simpa using h.1
        cases rest with
        | nil => exact isPlainIdentifier_of_tail hfirst hall
        | cons c' rest => exact isPlainIdentifier_of_tail hfirst hall

theorem not_raw_of_isPlainIdentifier (h : isPlainIdentifier cs = true) : ¬ ['r', '#'] <+: cs := by
  rintro ⟨rest, rfl⟩
  have hmark : isNameChar '#' = false := by decide
  simp [isPlainIdentifier, hmark] at h

theorem isIdentifier_of_isPlainIdentifier {name : String} (h : isPlainIdentifier name.toList = true) :
    isIdentifier name = true := by
  rw [isIdentifier]
  split
  · rename_i body hbody
    exact absurd ⟨body, hbody.symm⟩ (not_raw_of_isPlainIdentifier h)
  · exact h

theorem isIdentifier_raw {name : String} (h : isPlainIdentifier name.toList = true)
    (hraw : name ∉ nonRawKeywords) : isIdentifier ("r#" ++ name) = true := by
  have hlist : ("r#" ++ name).toList = 'r' :: '#' :: name.toList := by simp
  simp [isIdentifier, hlist, h, hraw]

/-! ### Keywords -/

structure IsLegal (name : String) : Prop where
  accepted : isIdentifier name = true
  free : ¬ ['r', '#'] <+: name.toList → name ∉ keywords ∧ name ∉ nonRawKeywords

instance (name : String) : Decidable (IsLegal name) :=
  decidable_of_iff (_ ∧ _) ⟨fun h => ⟨h.1, h.2⟩, fun h => ⟨h.accepted, h.free⟩⟩

theorem not_mem_of_lead {words : List String} {lead : String}
    (h : ∀ word ∈ words, ¬ lead.toList <+: word.toList) (s : String) : lead ++ s ∉ words := by
  intro hmem
  refine h _ hmem ⟨s.toList, ?_⟩
  rw [String.toList_append]

theorem not_keyword_of_underscore {name : String} (h : name ≠ "") :
    name ++ "_" ∉ keywords ∧ name ++ "_" ∉ nonRawKeywords := by
  have hall : ∀ word ∈ keywords ++ nonRawKeywords, ['_'] <:+ word.toList → word = "_" := by decide
  have hnot : name ++ "_" ∉ keywords ++ nonRawKeywords := by
    intro hmem
    have heq := hall _ hmem ⟨name.toList, by simp⟩
    have hlength := congrArg String.length heq
    rw [String.length_append, Nat.add_eq_right, String.length_eq_zero_iff] at hlength
    exact h hlength
  simpa using hnot

theorem not_keyword_of_head {name : String} (h : ∀ c ∈ name.toList.head?, c.isLower = false)
    (hself : name ≠ "Self") (hunderscore : name ≠ "_") : name ∉ keywords ∧ name ∉ nonRawKeywords := by
  have hall : ∀ word ∈ keywords ++ nonRawKeywords,
      word = "Self" ∨ word = "_" ∨ ∃ c ∈ word.toList.head?, c.isLower = true := by decide
  have hnot : name ∉ keywords ++ nonRawKeywords := by
    intro hmem
    rcases hall name hmem with heq | heq | ⟨c, hc, hlower⟩
    · exact hself heq
    · exact hunderscore heq
    · rw [h c hc] at hlower
      cases hlower
  simpa using hnot

theorem free_escape {name : String} (h : name ≠ "") (hraw : ¬ ['r', '#'] <+: (escape name).toList) :
    escape name ∉ keywords ∧ escape name ∉ nonRawKeywords := by
  by_cases hnonRaw : nonRawKeywords.contains name = true
  · rw [escape, if_pos hnonRaw]
    exact not_keyword_of_underscore h
  · rw [escape, if_neg hnonRaw] at hraw ⊢
    by_cases hkeyword : isKeyword name = true
    · rw [if_pos hkeyword] at hraw
      exact absurd ⟨name.toList, by simp⟩ hraw
    · rw [if_neg hkeyword]
      exact ⟨by simpa [isKeyword] using hkeyword, by simpa using hnonRaw⟩

/-! ### Members and modules -/

theorem isPlainIdentifier_underscore {name : String} (h : isPlainIdentifier name.toList = true) :
    isPlainIdentifier (name ++ "_").toList = true := by
  rw [String.toList_append]
  exact isPlainIdentifier_append h (by decide)

theorem isIdentifier_escape {name : String} (h : isPlainIdentifier name.toList = true) :
    isIdentifier (escape name) = true := by
  rw [escape]
  split
  · exact isIdentifier_of_isPlainIdentifier (isPlainIdentifier_underscore h)
  · rename_i hnonRaw
    split
    · exact isIdentifier_raw h (by simpa using hnonRaw)
    · exact isIdentifier_of_isPlainIdentifier h

theorem snakeCase_ne_empty (name : String) : snakeCase name ≠ "" := by
  intro h
  exact snakeCase_ne_nil name (congrArg String.toList h)

theorem isPlainIdentifier_snakeCase {name : String} (h : IsWordy name) :
    isPlainIdentifier (snakeCase name).toList = true := by
  rw [snakeCase, String.toList_ofList]
  exact isPlainIdentifier_guardDigit
    ((isNameChar_snakeChars_iff .start).mpr fun c hc _ => .inl (h.ascii c hc))
    (exists_alphanum_snakeChars h.ascii h.word .start)

theorem isLegal_memberName {name : String} (h : IsWordy name) : IsLegal (memberName name) where
  accepted := isIdentifier_escape (isPlainIdentifier_snakeCase h)
  free := free_escape (snakeCase_ne_empty name)

theorem free_moduleName (name : String) (hraw : ¬ ['r', '#'] <+: (moduleName name).toList) :
    moduleName name ∉ keywords ∧ moduleName name ∉ nonRawKeywords := by
  have hne := snakeCase_ne_empty name
  simp only [moduleName] at hraw ⊢
  split
  · exact not_keyword_of_underscore hne
  · rename_i hreserved
    rw [if_neg hreserved] at hraw
    exact free_escape hne hraw

theorem isLegal_moduleName {name : String} (h : IsWordy name) : IsLegal (moduleName name) where
  accepted := by
    have hplain := isPlainIdentifier_snakeCase h
    simp only [moduleName]
    split
    · exact isIdentifier_of_isPlainIdentifier (isPlainIdentifier_underscore hplain)
    · exact isIdentifier_escape hplain
  free := free_moduleName name

theorem moduleName_not_mem_reserved (name : String) : moduleName name ∉ reservedModuleNames := by
  have hunderscore : snakeCase name ++ "_" ∉ reservedModuleNames := not_mem_of_suffix (by decide) _
  have hraw : "r#" ++ snakeCase name ∉ reservedModuleNames := not_mem_of_lead (by decide) _
  simp only [moduleName, escape]
  grind

/-! ### Records -/

structure IsCapital (name : String) : Prop where
  plain : isPlainIdentifier name.toList = true
  head : ∀ c ∈ name.toList.head?, c.isLower = false

instance (name : String) : Decidable (IsCapital name) :=
  decidable_of_iff (_ ∧ _) ⟨fun h => ⟨h.1, h.2⟩, fun h => ⟨h.plain, h.head⟩⟩

/-- What a record may be called: no name of the prelude is shadowed by it. -/
structure IsRecordName (name : String) : Prop where
  legal : IsLegal name
  unreserved : name ∉ reservedTypeNames

theorem isNameChar_of_isPlainIdentifier (h : isPlainIdentifier cs = true) :
    ∀ c ∈ cs, isNameChar c = true := by
  unfold isPlainIdentifier at h
  split at h
  · cases h
  · cases h
  · rename_i c rest _
    rw [Bool.and_eq_true, List.all_eq_true] at h
    refine List.forall_mem_cons.mpr ⟨?_, h.2⟩
    have hfirst : c.isAlpha = true ∨ c = '_' := by simpa using h.1
    rcases hfirst with halpha | rfl
    · simp [isNameChar, Char.isAlphanum, halpha]
    · decide

namespace IsCapital

variable {name : String}

theorem append (h : IsCapital name) {more : String} (hm : ∀ c ∈ more.toList, isNameChar c = true) :
    IsCapital (name ++ more) := by
  obtain ⟨hplain, hhead⟩ := h
  refine ⟨?_, ?_⟩
  · rw [String.toList_append]
    exact isPlainIdentifier_append hplain hm
  · rw [String.toList_append]
    cases hchars : name.toList with
    | nil =>
        rw [hchars] at hplain
        cases hplain
    | cons c rest =>
        rw [hchars] at hhead
        exact hhead

theorem isRecordName (h : IsCapital name) (hr : name ∉ reservedTypeNames) : IsRecordName name := by
  refine ⟨⟨isIdentifier_of_isPlainIdentifier h.plain, fun _ => not_keyword_of_head h.head ?_ ?_⟩, hr⟩
  · rintro rfl
    exact hr (by decide)
  · rintro rfl
    exact absurd h.plain (by decide)

theorem suffixed (h : IsCapital name) {suffix : String}
    (hs : suffix ∈ ["Block", "Args", "Attributes", "State"]) : IsRecordName (name ++ suffix) := by
  have hchars : ∀ s ∈ ["Block", "Args", "Attributes", "State"], ∀ c ∈ s.toList, isNameChar c = true := by
    decide
  have hfree : ∀ s ∈ ["Block", "Args", "Attributes", "State"], ∀ word ∈ reservedTypeNames,
      ¬ s.toList <:+ word.toList := by decide
  exact (h.append (hchars suffix hs)).isRecordName (not_mem_of_suffix (hfree suffix hs) name)

end IsCapital

variable {name : String}

theorem isCapital_pascalCase (h : IsWordy name) : IsCapital (pascalCase name) := by
  have halnum := isAlphanum_pascalChars h.ascii true
  obtain ⟨first, rest, hchars, hlower⟩ := exists_pascalChars h.ascii h.word
  have hfirst : first.isAlphanum = true := halnum first (hchars ▸ List.mem_cons_self)
  refine ⟨?_, ?_⟩
  · rw [pascalCase, String.toList_ofList]
    refine isPlainIdentifier_guardDigit (fun c hc => isNameChar_of_isAlphanum (halnum c hc)) ?_
    exact ⟨first, hchars ▸ List.mem_cons_self, hfirst⟩
  · rw [pascalCase, String.toList_ofList, hchars, guardDigit]
    split
    · simp
    · simpa using hlower

theorem isCapital_recordName (h : IsWordy name) : IsCapital (recordName name) := by
  have hpascal := isCapital_pascalCase h
  simp only [recordName]
  split
  · exact hpascal.append (by decide)
  · exact hpascal

theorem recordName_not_mem_reserved (name : String) : recordName name ∉ reservedTypeNames := by
  by_cases h : pascalCase name ∈ reservedTypeNames
  · rw [recordName_of_reserved h]
    exact not_reserved_block _
  · rwa [recordName_of_not_reserved h]

theorem isRecordName_recordTriad (h : IsWordy name) :
    ∀ record ∈ (recordTriad name).toList, IsRecordName record := by
  have hcapital := isCapital_recordName h
  intro record hrecord
  simp only [recordTriad, RecordTriad.toList, List.mem_cons, List.not_mem_nil, or_false] at hrecord
  rcases hrecord with rfl | rfl | rfl
  · exact hcapital.isRecordName (recordName_not_mem_reserved name)
  · exact hcapital.suffixed (by decide)
  · exact hcapital.suffixed (by decide)

end ProviderBindings.Naming
