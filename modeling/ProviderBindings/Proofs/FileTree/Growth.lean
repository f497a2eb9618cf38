import ProviderBindings.FileTree.Route
import ProviderBindings.Proofs.Success
import ProviderBindings.Proofs.Table

/-!
File trees that only grow: what stands somewhere stays there, directories as directories, so that a path
leads to the same place later on.
-/

namespace ProviderBindings.FileTree

variable {t t' t'' : FileTree} {here p q : Place} {e : Entry} {name : String}

theorem get?_insert_self (hp : p ≠ []) : (t.insert p e).get? p = some e := by
  rw [get?, if_neg hp, insert]
  exact Table.get?_insert_self p e t.entries

theorem get?_insert_of_ne (h : q ≠ p) : (t.insert p e).get? q = t.get? q := by
  simp only [get?, insert, Table.get?_insert_of_ne h]

theorem get?_of_ne_root (hq : q ≠ []) : t.get? q = Table.get? q t.entries := if_neg hq

theorem isDirectory_iff : t.isDirectory p = true ↔ t.get? p = some .directory := by
  simp [isDirectory]

theorem isSome_of_isDirectory (h : t.isDirectory p = true) : (t.get? p).isSome = true := by
  rw [isDirectory_iff.mp h]
  rfl

structure Regular (t : FileTree) : Prop where
  ordered : Table.Ordered t.entries
  rootless : [] ∉ Table.keys t.entries

theorem Regular.insert (h : t.Regular) (hp : p ≠ []) : (t.insert p e).Regular where
  ordered := Table.ordered_insert p e h.ordered
  rootless := by
    intro hroot
    rcases (Table.mem_keys_insert p e t.entries []).mp hroot with heq | hmem
    · exact hp heq.symm
    · exact h.rootless hmem

theorem Regular.mem_iff (h : t.Regular) : (p, e) ∈ t.entries ↔ p ≠ [] ∧ t.get? p = some e := by
  rw [Table.mem_iff_get? h.ordered]
  constructor
  · intro hget
    have hp : p ≠ [] := by
      rintro rfl
      exact h.rootless (List.mem_map_of_mem (Table.mem_of_get? hget))
    exact ⟨hp, (get?_of_ne_root hp).trans hget⟩
  · rintro ⟨hp, hget⟩
    exact (get?_of_ne_root hp).symm.trans hget

theorem Regular.ext (h : t.Regular) (h' : t'.Regular) (hw : t.workingDirectory = t'.workingDirectory)
    (heq : ∀ q, t.get? q = t'.get? q) : t = t' := by
  have hentries : t.entries = t'.entries := by
    refine Table.ext_of_get? h.ordered h'.ordered fun q => ?_
    by_cases hq : q = []
    · rw [hq, Table.get?_eq_none_iff.mpr h.rootless, Table.get?_eq_none_iff.mpr h'.rootless]
    · rw [← get?_of_ne_root hq, ← get?_of_ne_root hq, heq]
  cases t
  cases t'
  cases hentries
  cases hw
  rfl

structure Grows (t t' : FileTree) : Prop where
  start : t'.workingDirectory = t.workingDirectory
  directories : ∀ p, t.isDirectory p = true → t'.isDirectory p = true
  entries : ∀ p, (t.get? p).isSome = true → (t'.get? p).isSome = true

namespace Grows

theorem refl (t : FileTree) : Grows t t := ⟨rfl, fun _ h => h, fun _ h => h⟩

theorem trans (h : Grows t t') (h' : Grows t' t'') : Grows t t'' where
  start := h'.start.trans h.start
  directories p hp := h'.directories p (h.directories p hp)
  entries p hp := h'.entries p (h.entries p hp)

theorem insert (hp : p ≠ []) (he : t.isDirectory p = true → e = .directory) : Grows t (t.insert p e) where
  start := rfl
  directories q hq := by
    by_cases heq : q = p
    · subst heq
      rw [isDirectory_iff, get?_insert_self hp, he hq]
    · rw [isDirectory_iff, get?_insert_of_ne heq]
      exact isDirectory_iff.mp hq
  entries q hq := by
    by_cases heq : q = p
    · subst heq
      rw [get?_insert_self hp]
      rfl
    · rw [get?_insert_of_ne heq]
      exact hq

end Grows

theorem enter_eq_ok_iff : t.enter here name = .ok p ↔ t.isDirectory here = true ∧
    (name = "." ∧ p = here ∨ name = ".." ∧ p = here.dropLast ∨
      name ≠ "." ∧ name ≠ ".." ∧ name.utf8ByteSize ≤ Route.nameLimit ∧ p = here ++ [name] ∧
        (t.get? p).isSome = true) := by
  rw [enter]
  grind

theorem walk_append (a b : List String) :
    t.walk here (a ++ b) = (t.walk here a >>= fun p => t.walk p b) := by
  induction a generalizing here with
  | nil => rfl
  | cons name rest ih =>
      rw [List.cons_append, walk, walk]
      cases t.enter here name with
      | error e => rfl
      | ok next => exact ih

theorem walk_append_eq_ok_iff {a b : List String} :
    t.walk here (a ++ b) = .ok p ↔ ∃ q, t.walk here a = .ok q ∧ t.walk q b = .ok p := by
  rw [walk_append, bind_eq_ok_iff]

theorem walk_singleton : t.walk here [name] = t.enter here name := by
  rw [walk]
  cases t.enter here name <;> rfl

namespace Grows

theorem enter (h : Grows t t') (he : t.enter here name = .ok p) : t'.enter here name = .ok p := by
  obtain ⟨hhere, hcases⟩ := enter_eq_ok_iff.mp he
  refine enter_eq_ok_iff.mpr ⟨h.directories here hhere, ?_⟩
  rcases hcases with hdot | hdots | ⟨hne, hne', hsize, hp, hsome⟩
  · exact .inl hdot
  · exact .inr (.inl hdots)
  · exact .inr (.inr ⟨hne, hne', hsize, hp, h.entries p hsome⟩)

theorem walk (h : Grows t t') {names : List String} (hw : t.walk here names = .ok p) :
    t'.walk here names = .ok p := by
  induction names generalizing here with
  | nil => exact hw
  | cons name rest ih =>
      obtain ⟨next, henter, hrest⟩ := bind_eq_ok_iff.mp hw
      exact bind_eq_ok_iff.mpr ⟨next, h.enter henter, ih hrest⟩

end Grows

structure Leads (t : FileTree) (r : Route) (p : Place) : Prop where
  sound : r.fault? = none
  walk : t.walk (t.start r) r.steps = .ok p
  directory : t.isDirectory p = true

theorem Grows.start_eq (h : Grows t t') (r : Route) : t'.start r = t.start r := by
  rw [FileTree.start, FileTree.start, h.start]

theorem Leads.mono {r : Route} (hl : t.Leads r p) (h : Grows t t') : t'.Leads r p where
  sound := hl.sound
  walk := by
    rw [h.start_eq]
    exact h.walk hl.walk
  directory := h.directories p hl.directory

theorem Leads.unique {r : Route} (h : t.Leads r p) (h' : t.Leads r q) : p = q :=
  Except.ok.inj (h.walk.symm.trans h'.walk)

end ProviderBindings.FileTree
