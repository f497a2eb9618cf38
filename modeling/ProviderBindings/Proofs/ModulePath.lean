import ProviderBindings.ModulePath
import ProviderBindings.Proofs.Naming.Identifier
import ProviderBindings.Proofs.Success

/-!
Which texts are module paths, and that a module path is shown as the text it is read from. The words `self`
and `Self` pass for segments: they are missing from the list of keywords that segments are compared with.
-/

namespace ProviderBindings.ModulePath

open Code (isPlainIdentifier isIdentifier isUsePath isFree reservedWords)
open Naming (keywords nonRawKeywords isKeyword)

/-! ### Splitting -/

theorem pushHead_of_ne_nil {c : Char} {ss : List (List Char)} (h : ss ≠ []) :
    pushHead c ss = ss.modifyHead (c :: ·) := by
  cases ss with
  | nil => exact absurd rfl h
  | cons s rest => rfl

theorem splitColons_ne_nil (cs : List Char) : splitColons cs ≠ [] := by
  fun_induction splitColons cs with
  | case1 => simp
  | case2 rest ih => simp
  | case3 c rest _ ih => simp [pushHead_of_ne_nil ih, ih]

theorem intercalate_pushHead (sep : List Char) (c : Char) (ss : List (List Char)) :
    sep.intercalate (pushHead c ss) = c :: sep.intercalate ss := by
  rcases ss with _ | ⟨s, _ | ⟨s', rest⟩⟩ <;> simp [pushHead]

theorem intercalate_splitColons (cs : List Char) : [':', ':'].intercalate (splitColons cs) = cs := by
  fun_induction splitColons cs with
  | case1 => rfl
  | case2 rest ih =>
      obtain ⟨s, ss, h⟩ := List.exists_cons_of_ne_nil (splitColons_ne_nil rest)
      rw [h] at ih ⊢
      simpa using ih
  | case3 c rest _ ih => rw [intercalate_pushHead, ih]

theorem splitColons_append {s : List Char} (h : ':' ∉ s) (rest : List Char) :
    splitColons (s ++ rest) = (splitColons rest).modifyHead (s ++ ·) := by
  induction s with
  | nil => cases h : splitColons rest <;> simp [h]
  | cons c s ih =>
      obtain ⟨hc, hs⟩ : ':' ≠ c ∧ ':' ∉ s := by simpa using h
      rw [List.cons_append, splitColons, ih hs, pushHead_of_ne_nil (by simp [splitColons_ne_nil])]
      · simp [List.modifyHead_modifyHead, Function.comp_def]
      · rintro _ rfl
        exact absurd rfl hc

theorem splitColons_intercalate {ss : List (List Char)} (hne : ss ≠ []) (h : ∀ s ∈ ss, ':' ∉ s) :
    splitColons ([':', ':'].intercalate ss) = ss := by
  induction ss with
  | nil => exact absurd rfl hne
  | cons s rest ih =>
      obtain ⟨hs, hrest⟩ := List.forall_mem_cons.mp h
      cases rest with
      | nil =>
          have hsplit := splitColons_append hs []
          simpa [splitColons] using hsplit
      | cons s' rest =>
          rw [List.intercalate_cons_cons, List.append_assoc, splitColons_append hs, List.cons_append,
            List.cons_append, List.nil_append, splitColons, ih (by simp) hrest]
          simp

/-! ### Segments -/

structure Spells (barred : List String) (path : String) (p : ModulePath) : Prop where
  text : path = "::".intercalate p.segments
  names : ∃ names, p.segments = "crate" :: names ∧
    ∀ s ∈ names, isPlainIdentifier s.toList = true ∧ s ∉ barred

theorem Spells.mono {barred barred' : List String} {path : String} {p : ModulePath} (h : Spells barred path p)
    (hb : ∀ w ∈ barred', w ∈ barred) : Spells barred' path p := by
  obtain ⟨htext, names, heq, hnames⟩ := h
  exact ⟨htext, names, heq, fun s hs => ⟨(hnames s hs).1, fun hw => (hnames s hs).2 (hb s hw)⟩⟩

theorem isPlainIdentifier_iff {cs : List Char} :
    isPlainIdentifier cs = true ↔ isNameLike cs = true ∧ cs ≠ ['_'] := by
  unfold isPlainIdentifier
  split
  · simp [isNameLike]
  · simp
  · rename_i c rest hne
    have hlone : c :: rest ≠ ['_'] := by simpa using hne
    exact ⟨fun h => ⟨h, hlone⟩, And.left⟩

theorem not_mem_colon {s : String} (h : isPlainIdentifier s.toList = true) : ':' ∉ s.toList := fun hmem =>
  absurd (Naming.isNameChar_of_isPlainIdentifier h ':' hmem) (by decide)

theorem checkSegments_eq_ok_iff {ss : List String} : checkSegments ss = .ok () ↔
    ∀ s ∈ ss, isPlainIdentifier s.toList = true ∧ s ∉ keywords := by
  induction ss with
  | nil => simp [checkSegments]
  | cons s rest ih =>
      have hlone : s.toList = ['_'] ↔ s = "_" :=
        ⟨fun h => String.toList_injective (h.trans (by decide)), fun h => h ▸ by decide⟩
      rw [checkSegments, List.forall_mem_cons, isPlainIdentifier_iff, ne_eq, not_congr hlone, ← ih]
      by_cases hlike : isNameLike s.toList = true
      · by_cases hword : (isKeyword s || s == "_") = true
        · have hbarred : s ∈ keywords ∨ s = "_" := by simpa [isKeyword] using hword
          rw [if_neg (by simp [hlike]), if_pos hword]
          exact iff_of_false (by simp) fun h => hbarred.elim h.1.2 h.1.1.2
        · have hfree : s ∉ keywords ∧ s ≠ "_" := by simpa [isKeyword] using hword
          simp [hlike, hfree, isKeyword]
      · simp [hlike]

theorem ofSegments?_eq_ok_iff {ss : List String} {p : ModulePath} : ofSegments? ss = .ok p ↔
    p.segments = ss ∧ ∃ names, ss = "crate" :: names ∧
      ∀ s ∈ names, isPlainIdentifier s.toList = true ∧ s ∉ keywords := by
  cases ss with
  | nil => simp [ofSegments?]
  | cons first rest =>
      by_cases hfirst : first = "crate"
      · subst hfirst
        obtain ⟨segments⟩ := p
        simp only [ofSegments?, ne_eq, not_true_eq_false, ↓reduceIte, map_eq_ok_iff]
        constructor
        · rintro ⟨⟨⟩, hcheck, ⟨⟩⟩
          exact ⟨rfl, rest, rfl, checkSegments_eq_ok_iff.mp hcheck⟩
        · rintro ⟨rfl, names, ⟨⟩, hnames⟩
          exact ⟨(), checkSegments_eq_ok_iff.mpr hnames, rfl⟩
      · simp [ofSegments?, hfirst]

/-! ### Texts -/

theorem intercalate_segments (path : String) :
    "::".intercalate ((splitColons path.toList).map String.ofList) = path := by
  refine String.toList_injective ?_
  rw [String.toList_intercalate, List.map_map]
  simpa using intercalate_splitColons path.toList

theorem segments_intercalate {ss : List String} (hne : ss ≠ []) (h : ∀ s ∈ ss, ':' ∉ s.toList) :
    (splitColons ("::".intercalate ss).toList).map String.ofList = ss := by
  have hsplit : splitColons ([':', ':'].intercalate (ss.map String.toList)) = ss.map String.toList :=
    splitColons_intercalate (by simpa using hne) (by simpa using h)
  rw [String.toList_intercalate]
  exact (congrArg _ hsplit).trans (by simp)

theorem ofString?_eq_ok_iff {path : String} {p : ModulePath} :
    ofString? path = .ok p ↔ Spells keywords path p := by
  have hread : ofString? path = .ok p ↔
      ofSegments? ((splitColons path.toList).map String.ofList) = .ok p := by
    rw [ofString?]
    split <;> simp [*]
  rw [hread, ofSegments?_eq_ok_iff]
  constructor
  · rintro ⟨hsegments, hnames⟩
    exact ⟨hsegments ▸ (intercalate_segments path).symm, hsegments ▸ hnames⟩
  · rintro ⟨rfl, hnames⟩
    have hsegments : (splitColons ("::".intercalate p.segments).toList).map String.ofList = p.segments := by
      obtain ⟨names, heq, hplain⟩ := hnames
      rw [heq]
      exact segments_intercalate (by simp)
        (List.forall_mem_cons.mpr ⟨by decide, fun s hs => not_mem_colon (hplain s hs).1⟩)
    rw [hsegments]
    exact ⟨rfl, hnames⟩

theorem display_of_ofString? {path : String} {p : ModulePath} (h : ofString? path = .ok p) :
    p.display = path := (ofString?_eq_ok_iff.mp h).text.symm

theorem isUsePath_of_spells {path : String} {p : ModulePath}
    (h : Spells (keywords ++ nonRawKeywords) path p) :
    isUsePath p.segments = true ∧ ∀ s ∈ p.segments, isIdentifier s = true := by
  obtain ⟨names, heq, hnames⟩ := h.names
  have hfree : ∀ s ∈ names, isFree s = true := fun s hs => by
    have hwords : ∀ w ∈ reservedWords, w ∈ keywords ++ nonRawKeywords := by decide
    have hreserved : s ∉ reservedWords := fun hmem => (hnames s hs).2 (hwords s hmem)
    simpa [isFree] using hreserved
  rw [heq]
  constructor
  · simp only [isUsePath, List.isEmpty_cons, Bool.not_false, List.all_cons, Bool.true_and,
      Bool.and_eq_true, List.all_eq_true]
    exact ⟨by decide, fun s hs => by simp [hfree s hs]⟩
  · exact List.forall_mem_cons.mpr
      ⟨by decide, fun s hs => Naming.isIdentifier_of_isPlainIdentifier (hnames s hs).1⟩

structure ReadsExactly (path : String) : Prop where
  accepts : ∀ p, ofString? path = .ok p ↔ Spells (keywords ++ nonRawKeywords) path p
  roundTrip : ∀ p, ofString? path = .ok p → p.display = path ∧ ofString? p.display = .ok p
  usable : ∀ p, ofString? path = .ok p →
    isUsePath p.segments = true ∧ ∀ s ∈ p.segments, isIdentifier s = true

theorem Spells.not_mem_of_strict {path : String} {p : ModulePath}
    (h : Spells (keywords ++ nonRawKeywords) path p) {w : String} (hw : w ∈ nonRawKeywords)
    (hne : w ≠ "crate") : w ∉ p.segments := by
  obtain ⟨names, heq, hnames⟩ := h.names
  rw [heq]
  intro hmem
  have hname : w ∈ names := (List.mem_cons.mp hmem).resolve_left hne
  exact (hnames w hname).2 (List.mem_append_right _ hw)

theorem Spells.strict {path : String} {p : ModulePath} (h : Spells keywords path p)
    (hself : "self" ∉ p.segments) (hSelf : "Self" ∉ p.segments) :
    Spells (keywords ++ nonRawKeywords) path p := by
  obtain ⟨htext, names, heq, hnames⟩ := h
  refine ⟨htext, names, heq, fun s hs => ⟨(hnames s hs).1, fun hmem => ?_⟩⟩
  have hsegment : s ∈ p.segments := heq ▸ List.mem_cons_of_mem _ hs
  -- The other words that cannot be escaped are among those that can.
  have hother : ∀ w ∈ nonRawKeywords, w = "self" ∨ w = "Self" ∨ w = "_" ∨ w ∈ keywords := by decide
  rcases List.mem_append.mp hmem with hkeyword | hword
  · exact (hnames s hs).2 hkeyword
  · rcases hother s hword with rfl | rfl | rfl | hkeyword
    · exact hself hsegment
    · exact hSelf hsegment
    · exact absurd (hnames "_" hs).1 (by decide)
    · exact (hnames s hs).2 hkeyword

theorem readsExactly_iff (path : String) :
    (∀ p, ofString? path = .ok p ↔ Spells keywords path p) ∧
    (∀ p, ofString? path = .ok p → p.display = path ∧ ofString? p.display = .ok p) ∧
    (ReadsExactly path ↔ ∀ p, Spells keywords path p → "self" ∉ p.segments ∧ "Self" ∉ p.segments) := by
  have hround : ∀ p, ofString? path = .ok p → p.display = path ∧ ofString? p.display = .ok p := fun p h =>
    ⟨display_of_ofString? h, (display_of_ofString? h).symm ▸ h⟩
  refine ⟨fun p => ofString?_eq_ok_iff, hround, fun h p hp => ?_, fun h => ?_⟩
  · have hstrict := (h.accepts p).mp (ofString?_eq_ok_iff.mpr hp)
    exact ⟨hstrict.not_mem_of_strict (by decide) (by decide),
      hstrict.not_mem_of_strict (by decide) (by decide)⟩
  · have hexact : ∀ p, ofString? path = .ok p ↔ Spells (keywords ++ nonRawKeywords) path p := fun p =>
      ofString?_eq_ok_iff.trans ⟨fun hp => hp.strict (h p hp).1 (h p hp).2,
        fun hp => hp.mono fun _ => List.mem_append_left _⟩
    exact ⟨hexact, hround, fun p hp => isUsePath_of_spells ((hexact p).mp hp)⟩

theorem not_readsExactly_self : ¬ ReadsExactly "crate::self" := by
  intro h
  have hread : ofString? "crate::self" = .ok ⟨["crate", "self"]⟩ := by decide +kernel
  obtain ⟨names, heq, hnames⟩ := ((h.accepts _).mp hread).names
  have hmem : "self" ∈ names := by
    rw [← (List.cons.inj heq).2]
    exact List.mem_singleton_self _
  exact (hnames "self" hmem).2 (by decide)

end ProviderBindings.ModulePath
