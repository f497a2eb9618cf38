import ProviderBindings.ProviderSpec
import ProviderBindings.Proofs.Success

/-!
Which texts are provider specs. A source may hold both separators, but since a local name has no `=` and a
version no `:`, a text is the spelling of one spec at most; this is the spec that it is read as, and the text
is what is shown of the spec.
-/

namespace ProviderBindings.ProviderSpec

def IsLocalName (name : String) : Prop :=
  ∃ c rest, name.toList = c :: rest ∧ c.isAlpha = true ∧
    ∀ d ∈ rest, d.isAlphanum = true ∨ d = '_' ∨ d = '-'

structure Spells (spec : String) (p : ProviderSpec) : Prop where
  text : spec = p.localName ++ "=" ++ p.source ++ ":" ++ p.version
  localName : IsLocalName p.localName
  source : p.source ≠ ""
  version : p.version ≠ "" ∧ ':' ∉ p.version.toList

theorem isLocalNameChar_iff {c : Char} :
    isLocalNameChar c = true ↔ c.isAlphanum = true ∨ c = '_' ∨ c = '-' := by
  simp [isLocalNameChar, or_assoc]

theorem isLocalName_iff {name : String} : isLocalName name.toList = true ↔ IsLocalName name := by
  rw [IsLocalName]
  cases name.toList with
  | nil => simp [isLocalName]
  | cons c rest =>
      have hchars : isLocalName (c :: rest) = true ↔
          c.isAlpha = true ∧ ∀ d ∈ rest, d.isAlphanum = true ∨ d = '_' ∨ d = '-' := by
        simp [isLocalName, isLocalNameChar_iff]
      rw [hchars]
      constructor
      · intro h
        exact ⟨c, rest, rfl, h⟩
      · rintro ⟨_, _, ⟨⟩, h⟩
        exact h

theorem IsLocalName.ne_nil {name : String} (h : IsLocalName name) : name.toList ≠ [] := by
  obtain ⟨c, rest, heq, -⟩ := h
  simp [heq]

theorem IsLocalName.not_mem_equals {name : String} (h : IsLocalName name) : '=' ∉ name.toList := by
  obtain ⟨c, rest, heq, hc, hrest⟩ := h
  rw [heq, List.mem_cons, not_or]
  constructor
  · rintro rfl
    cases hc
  · intro hmem
    exact absurd (hrest _ hmem) (by decide)

/-- The separators that count are the first `=` and the last `:` behind it. -/
theorem ofChars?_eq_ok_iff {cs : List Char} {p : ProviderSpec} : ofChars? cs = .ok p ↔
    cs = p.localName.toList ++ '=' :: (p.source.toList ++ ':' :: p.version.toList) ∧
      IsLocalName p.localName ∧ p.source ≠ "" ∧ p.version ≠ "" ∧ ':' ∉ p.version.toList := by
  constructor
  · intro h
    rw [ofChars?] at h
    split at h
    · cases h
    · rename_i localName rest hfirst
      obtain ⟨rfl, -⟩ := Text.splitAtFirst_eq_some_iff.mp hfirst
      split at h
      · cases h
      · rename_i source version hlast
        obtain ⟨rfl, hcolon⟩ := Text.splitAtLast_eq_some_iff.mp hlast
        split at h
        · cases h
        split at h
        · cases h
        split at h
        · cases h
        split at h
        · cases h
        rename_i hsource hversion hname
        cases h
        refine ⟨by simp, isLocalName_iff.mp ?_, ?_, ?_, ?_⟩
        · simpa using hname
        · simpa using hsource
        · simpa using hversion
        · simpa using hcolon
  · obtain ⟨localName, source, version⟩ := p
    rintro ⟨rfl, hname, hsource, hversion, hcolon⟩
    have hfirst : Text.splitAtFirst '=' (localName.toList ++ '=' :: (source.toList ++ ':' :: version.toList)) =
        some (localName.toList, source.toList ++ ':' :: version.toList) :=
      Text.splitAtFirst_eq_some_iff.mpr ⟨rfl, hname.not_mem_equals⟩
    have hlast := Text.splitAtLast_append source.toList hcolon
    have hvalid : isLocalName localName.toList = true := isLocalName_iff.mpr hname
    have hempty : localName ≠ "" := by simpa using hname.ne_nil
    simp only at hsource hversion
    simp [ofChars?, hfirst, hlast, hempty, hsource, hversion, hvalid]

theorem ofString?_eq_ok_iff {spec : String} {p : ProviderSpec} : ofString? spec = .ok p ↔ Spells spec p := by
  have hread : ofString? spec = .ok p ↔ ofChars? spec.toList = .ok p := by
    rw [ofString?]
    split <;> simp [*]
  have htext : spec = p.localName ++ "=" ++ p.source ++ ":" ++ p.version ↔
      spec.toList = p.localName.toList ++ '=' :: (p.source.toList ++ ':' :: p.version.toList) := by
    rw [← String.toList_inj]
    simp
  rw [hread, ofChars?_eq_ok_iff, ← htext]
  constructor
  · rintro ⟨htext, hname, hsource, hversion, hcolon⟩
    exact ⟨htext, hname, hsource, hversion, hcolon⟩
  · rintro ⟨htext, hname, hsource, hversion, hcolon⟩
    exact ⟨htext, hname, hsource, hversion, hcolon⟩

theorem Spells.unique {spec : String} {p q : ProviderSpec} (hp : Spells spec p) (hq : Spells spec q) :
    p = q :=
  Except.ok.inj ((ofString?_eq_ok_iff.mpr hp).symm.trans (ofString?_eq_ok_iff.mpr hq))

theorem ofString?_spells_uniquely (spec : String) :
    (∀ p, ofString? spec = .ok p ↔ Spells spec p) ∧
    (∀ p q, Spells spec p → Spells spec q → p = q) ∧
    ∀ p, ofString? spec = .ok p → p.display = spec ∧ ofString? p.display = .ok p := by
  refine ⟨fun p => ofString?_eq_ok_iff, fun p q => Spells.unique, fun p h => ?_⟩
  have hshown : p.display = spec := (ofString?_eq_ok_iff.mp h).text.symm
  exact ⟨hshown, hshown ▸ h⟩

-- The first `=` and the last `:` count.
example : ofString? "k=registry.example.com:8443/acme=k:~> 1.2" =
    .ok ⟨"k", "registry.example.com:8443/acme=k", "~> 1.2"⟩ := by decide +kernel

end ProviderBindings.ProviderSpec
