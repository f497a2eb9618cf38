import Mathlib.Data.List.Nodup
import ProviderBindings.Proofs.FileTree.Growth

/-!
What a directory holds in the end: its files, and the directories inside it that hold nothing. Whatever stands
inside a directory stands on the way to one of these, or is one of them.
-/

namespace ProviderBindings.FileTree

variable {t : FileTree} {p a : Place} {e : Entry} {content : Option String}

theorem isBelow_iff : isBelow p a = true ↔ p <+: a ∧ p ≠ a := by
  simp [isBelow]

theorem ne_nil_of_isBelow (h : isBelow p a = true) : a ≠ [] := by
  rintro rfl
  obtain ⟨hstarts, hne⟩ := isBelow_iff.mp h
  exact hne (List.prefix_nil.mp hstarts)

theorem Regular.mem_inside (h : t.Regular) :
    (a, e) ∈ t.inside p ↔ isBelow p a = true ∧ t.get? a = some e := by
  rw [inside, List.mem_filter, h.mem_iff]
  constructor
  · rintro ⟨⟨-, hget⟩, hbelow⟩
    exact ⟨hbelow, hget⟩
  · rintro ⟨hbelow, hget⟩
    exact ⟨⟨ne_nil_of_isBelow hbelow, hget⟩, hbelow⟩

theorem Regular.inside_eq_nil_iff (h : t.Regular) :
    t.inside p = [] ↔ ∀ a, isBelow p a = true → t.get? a = none := by
  rw [List.eq_nil_iff_forall_not_mem]
  constructor
  · intro hall a ha
    cases hget : t.get? a with
    | none => rfl
    | some e => exact absurd (h.mem_inside.mpr ⟨ha, hget⟩) (hall (a, e))
  · rintro hall ⟨a, e⟩ hmem
    obtain ⟨ha, hget⟩ := h.mem_inside.mp hmem
    rw [hall a ha] at hget
    cases hget

theorem Regular.mem_leaves (h : t.Regular) : (a, content) ∈ t.leaves p ↔
    p <+: a ∧ ((∃ s x, content = some s ∧ t.get? a = some (.file s x)) ∨
      content = none ∧ a ≠ [] ∧ t.get? a = some .directory ∧ t.inside a = []) := by
  simp only [leaves, List.mem_filterMap, List.mem_filter, List.isPrefixOf_iff_prefix]
  constructor
  · rintro ⟨⟨b, e⟩, ⟨hmem, hstarts⟩, hleaf⟩
    obtain ⟨hroot, hget⟩ := h.mem_iff.mp hmem
    cases e with
    | file s x =>
        cases hleaf
        exact ⟨hstarts, .inl ⟨s, x, rfl, hget⟩⟩
    | directory =>
        dsimp only at hleaf
        split at hleaf
        · rename_i hempty
          cases hleaf
          exact ⟨hstarts, .inr ⟨rfl, hroot, hget, List.isEmpty_iff.mp hempty⟩⟩
        · cases hleaf
  · rintro ⟨hstarts, ⟨s, x, rfl, hget⟩ | ⟨rfl, hroot, hget, hempty⟩⟩
    · have hroot : a ≠ [] := by
        rintro rfl
        cases hget
      exact ⟨(a, .file s x), ⟨h.mem_iff.mpr ⟨hroot, hget⟩, hstarts⟩, rfl⟩
    · exact ⟨(a, .directory), ⟨h.mem_iff.mpr ⟨hroot, hget⟩, hstarts⟩, by simp [hempty]⟩

theorem Regular.nodup_leaves (h : t.Regular) : (t.leaves p).Nodup := by
  have hkeys : ((t.entries.filter fun e => p.isPrefixOf e.1).map Prod.fst).Nodup :=
    (Table.nodup_keys_of_ordered h.ordered).sublist (List.filter_sublist.map _)
  refine List.Nodup.of_map Prod.fst (Table.nodup_map_filterMap ?_ hkeys)
  rintro ⟨place, _ | _⟩ leaf hleaf
  · dsimp only at hleaf
    split at hleaf
    · cases hleaf
      rfl
    · cases hleaf
  · cases hleaf
    rfl

theorem exists_length_le (entries : List (Place × Entry)) : ∃ n, ∀ e ∈ entries, e.1.length ≤ n := by
  induction entries with
  | nil => exact ⟨0, by simp⟩
  | cons first rest ih =>
      obtain ⟨n, hn⟩ := ih
      refine ⟨max first.1.length n, fun e he => ?_⟩
      rcases List.mem_cons.mp he with rfl | he
      · exact Nat.le_max_left _ _
      · exact Nat.le_trans (hn e he) (Nat.le_max_right _ _)

theorem Regular.exists_leaf (h : t.Regular) (hp : p <+: a) (hroot : a ≠ []) (ha : t.get? a = some e) :
    ∃ leaf ∈ t.leaves p, a <+: leaf.1 := by
  obtain ⟨n, hn⟩ := exists_length_le t.entries
  -- Going down from an entry ends, since no place is longer than the longest.
  generalize hgap : n - a.length = gap
  induction gap using Nat.strongRecOn generalizing a e with
  | ind gap ih =>
      cases e with
      | file s x => exact ⟨(a, some s), h.mem_leaves.mpr ⟨hp, .inl ⟨s, x, rfl, ha⟩⟩, List.prefix_refl a⟩
      | directory =>
          by_cases hempty : t.inside a = []
          · exact ⟨(a, none), h.mem_leaves.mpr ⟨hp, .inr ⟨rfl, hroot, ha, hempty⟩⟩, List.prefix_refl a⟩
          · obtain ⟨⟨b, e⟩, hb⟩ := List.exists_mem_of_ne_nil _ hempty
            obtain ⟨hbelow, hget⟩ := h.mem_inside.mp hb
            obtain ⟨hstarts, hne⟩ := isBelow_iff.mp hbelow
            have hlonger : a.length < b.length :=
              Nat.lt_of_le_of_ne hstarts.length_le fun heq => hne (hstarts.eq_of_length heq)
            have hbound := hn _ (h.mem_iff.mpr ⟨ne_nil_of_isBelow hbelow, hget⟩)
            dsimp only at hbound
            obtain ⟨leaf, hleaf, hway⟩ := ih (n - b.length) (by omega) (hp.trans hstarts)
              (ne_nil_of_isBelow hbelow) hget rfl
            exact ⟨leaf, hleaf, hstarts.trans hway⟩

end ProviderBindings.FileTree
