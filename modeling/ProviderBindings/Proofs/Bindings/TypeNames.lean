import ProviderBindings.Proofs.Bindings.Closed
import ProviderBindings.Proofs.Naming.Casing

/-!
The types and modules that the file of an entity knows by name: its own records and the module of the nested
ones. They have different names unless the entity is a resource whose name is without case, whose record is
called as the module is.
-/

namespace ProviderBindings

open Code (Item File declared)
open Naming (IsUncased fileStem moduleName recordName pascalCase)

namespace Code

def Item.typeName? : Item → Option String
  | .module_ name => some name
  | .struct d => some d.name
  | .impl _ => none

/-- The names of types and modules that a file imports or declares; a raw identifier names what it would
name without its mark. -/
def File.typeNames (f : File) : List String :=
  (f.uses.filterMap List.getLast? ++ f.items.filterMap Item.typeName?).map fileStem

theorem filterMap_typeName? {items : List Item} (h : ∀ item ∈ items, item.owner? ≠ none) :
    items.filterMap Item.typeName? = declared items := by
  induction items with
  | nil => rfl
  | cons item rest ih =>
      obtain ⟨hitem, hrest⟩ := List.forall_mem_cons.mp h
      cases item with
      | module_ name => exact absurd rfl hitem
      | struct d => exact congrArg (d.name :: ·) (ih hrest)
      | impl d => exact ih hrest

end Code

theorem Naming.mark_not_mem_pascalCase (name : String) : '#' ∉ (pascalCase name).toList := by
  have hchars : '#' ∉ pascalChars true name.toList := not_mem_pascalChars (by decide) (by decide) true
  rw [pascalCase, String.toList_ofList]
  rcases guardDigit_cases (pascalChars true name.toList) with h | h <;> rw [h]
  · exact hchars
  · simpa using hchars

namespace Entity

variable {e : Entity} {g : Graph} {mount : ModulePath} {b : Bindings}

theorem mark_not_mem_record (e : Entity) : '#' ∉ e.names.record.toList := by
  have hpascal := Naming.mark_not_mem_pascalCase e.shortName
  change '#' ∉ e.record.toList
  rw [record]
  split
  · decide
  · rw [recordName]
    split
    · simpa using hpascal
    · exact hpascal
  · simpa using hpascal

theorem fileStem_of_mem_rootNames {name : String} (h : name ∈ e.names.record :: e.roles.map e.triad.get) :
    fileStem name = name := by
  have hrecord := e.mark_not_mem_record
  refine Naming.fileStem_eq_self ?_
  rcases List.mem_cons.mp h with rfl | h
  · exact hrecord
  · obtain ⟨role, -, rfl⟩ := List.mem_map.mp h
    cases role <;> simpa [triad, Naming.RecordTriad.get, names] using hrecord

theorem typeNames_entityFile {file : File} (h : e.entityFile mount g = .ok file) (hg : g.nodes ≠ []) :
    file.typeNames = fileStem e.names.nested :: e.names.record :: e.roles.map e.triad.get := by
  obtain ⟨_, _, _, records, hr, hitems, huses⟩ := entityFile_spec h
  have howned : ∀ item ∈ file.items, item.owner? ≠ none := by
    intro item hi hnone
    obtain ⟨name, -, howner⟩ := owner_entityFile h item hi
    rw [howner] at hnone
    cases hnone
  have hdeclared : declared file.items = e.names.record :: e.roles.map e.triad.get := by
    rw [hitems, declared_entityFile (holds_recordItems hr).2]
  have hplain : (declared file.items).map fileStem = declared file.items := by
    rw [hdeclared]
    exact (List.map_congr_left fun name hname => fileStem_of_mem_rootNames hname).trans (List.map_id _)
  rw [File.typeNames, Code.filterMap_typeName? howned, List.map_append, hplain, hdeclared, huses, if_neg hg]
  simp

theorem nested_mem_rootNames_iff :
    fileStem e.names.nested ∈ e.names.record :: e.roles.map e.triad.get ↔
      e.kind = .resource ∧ IsUncased e.shortName := by
  have hmodule : ∃ name, e.names.nested = moduleName name := by
    change ∃ name, e.nestedUnit = moduleName name
    rw [nestedUnit]
    split <;> exact ⟨_, rfl⟩
  obtain ⟨name, hname⟩ := hmodule
  have hroles : ∀ role, fileStem e.names.nested ≠ e.triad.get role := by
    intro role
    rw [hname]
    refine Naming.fileStem_moduleName_ne ?_ name
    cases role with
    | args => exact ⟨'A', by simp [triad, Naming.RecordTriad.get, names], by decide⟩
    | attributes => exact ⟨'A', by simp [triad, Naming.RecordTriad.get, names], by decide⟩
    | state => exact ⟨'S', by simp [triad, Naming.RecordTriad.get, names], by decide⟩
  have hmem : fileStem e.names.nested ∈ e.names.record :: e.roles.map e.triad.get ↔
      fileStem e.names.nested = e.names.record := by
    simp only [List.mem_cons, List.mem_map, or_iff_left_iff_imp]
    rintro ⟨role, -, heq⟩
    exact absurd heq.symm (hroles role)
  rw [hmem]
  cases hk : e.kind with
  | provider =>
      have hrecord : e.names.record = "Provider" := by simp [names, record, hk]
      rw [hname, hrecord]
      exact iff_of_false (Naming.fileStem_moduleName_ne ⟨'P', by decide, by decide⟩ name) (by simp)
  | resource =>
      have hrecord : e.names.record = recordName e.shortName := by simp [names, record, hk]
      have hnested : e.names.nested = moduleName e.shortName := by simp [names, nestedUnit, hk]
      rw [hrecord, hnested, eq_comm, Naming.recordName_eq_fileStem_iff]
      simp
  | dataSource =>
      have hrecord : e.names.record = "Data" ++ pascalCase e.shortName := by simp [names, record, hk]
      rw [hname, hrecord]
      exact iff_of_false (Naming.fileStem_moduleName_ne ⟨'D', by simp, by decide⟩ name) (by simp)

theorem typeNames_nodup_iff (h : e.bindings mount g = .ok b) (hg : g.nodes ≠ []) :
    b.file.typeNames.Nodup ↔ ¬ (e.kind = .resource ∧ IsUncased e.shortName) := by
  obtain ⟨-, -, hfile⟩ := bindings_spec h
  rw [typeNames_entityFile hfile hg, List.nodup_cons, and_iff_left e.rootNames_nodup,
    nested_mem_rootNames_iff]

def meshed (typeName : String) : Entity :=
  .ofResource ⟨"aws", "hashicorp/aws", "5.0.0"⟩ typeName
    ⟨[], [("mesh", ⟨"single", .empty, 0, 0⟩)], none, false⟩

def meshGraph : Graph := ⟨[], [0], [⟨"mesh", [], "mesh", 0, [], [], ⟨true, false, [], 0, 0, .none⟩⟩]⟩

theorem typeNames_nodup_scanner : ∃ b, (meshed "aws_3d_scanner").bindings .standard meshGraph = .ok b ∧
    meshGraph.nodes ≠ [] ∧ b.file.typeNames.Nodup := by
  obtain ⟨b, hb⟩ : ∃ b, (meshed "aws_3d_scanner").bindings .standard meshGraph = .ok b :=
    exists_of_toBool (by decide +kernel)
  have hnodes : meshGraph.nodes ≠ [] := by simp [meshGraph]
  refine ⟨b, hb, hnodes, (typeNames_nodup_iff hb hnodes).mpr ?_⟩
  rintro ⟨-, -, -, -, -, -, hword⟩
  exact hword (by decide +kernel)

/-- The record of `aws_3d` and the module of its nested records are both `_3d`. -/
theorem not_typeNames_nodup_3d : ∃ g₀ g b, Graph.ofBlock (meshed "aws_3d").block = .ok g₀ ∧
    g₀.disambiguated = .ok g ∧ g.nodes ≠ [] ∧ (meshed "aws_3d").bindings .standard g = .ok b ∧
      ¬ b.file.typeNames.Nodup := by
  have hblock : Graph.ofBlock (meshed "aws_3d").block = .ok meshGraph := rfl
  have hgraph : meshGraph.disambiguated = .ok meshGraph :=
    Graph.disambiguated_of_settled rfl (by decide +kernel)
  obtain ⟨b, hb⟩ : ∃ b, (meshed "aws_3d").bindings .standard meshGraph = .ok b :=
    exists_of_toBool (by decide +kernel)
  have hnodes : meshGraph.nodes ≠ [] := by simp [meshGraph]
  refine ⟨_, _, b, hblock, hgraph, hnodes, hb, ?_⟩
  rw [typeNames_entityFile (bindings_spec hb).2.2 hnodes]
  decide +kernel

end Entity

end ProviderBindings
