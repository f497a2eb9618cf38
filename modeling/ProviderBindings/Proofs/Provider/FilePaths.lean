import ProviderBindings.Proofs.Entity.OutputPaths
import ProviderBindings.Proofs.FileTree.Descent
import ProviderBindings.Proofs.Naming.Alphabet
import ProviderBindings.Proofs.Provider.KeptFiles

/-!
Where the files of a provider are. Every path has two steps, the provider's own directory and a stem with the
extension of a source file, whatever names the schema has.
-/

namespace ProviderBindings

open Naming (IsStem fileStem isStem_moduleName)
open Route (IsName)

theorem isName_of_isStem {s : String} (h : IsStem s) : IsName s where
  nonempty := h.nonempty
  slashless hs := (h.plain '/' hs).1 rfl
  ne_dot := by
    rintro rfl
    exact (h.plain '.' (by decide)).2.2 rfl
  ne_dots := by
    rintro rfl
    exact (h.plain '.' (by decide)).2.2 rfl

theorem isName_source {s : String} (h : IsStem s) : IsName (s ++ ".rs") := by
  have hlength : 3 < (s ++ ".rs").length := by
    have hpos : 0 < s.length := by
      rw [← String.length_toList]
      exact List.length_pos_iff.mpr h.nonempty
    rw [String.length_append]
    have hrs : ".rs".length = 3 := by decide
    omega
  refine ⟨by simp, fun hs => ?_, ?_, ?_⟩
  · rw [String.toList_append] at hs
    rcases List.mem_append.mp hs with hs | hs
    · exact (h.plain '/' hs).1 rfl
    · revert hs
      decide
  · intro heq
    rw [heq] at hlength
    revert hlength
    decide
  · intro heq
    rw [heq] at hlength
    revert hlength
    decide

theorem isName_indexName : IsName indexName := ⟨by decide, by decide, by decide, by decide⟩

def LiesIn (directory path : String) : Prop := ∃ name, IsName name ∧ path = directory ++ "/" ++ name

theorem parts_pair {directory name : String} (hd : IsName directory) (hn : IsName name) :
    (Route.parts (directory ++ "/" ++ name).toList).map String.ofList = [directory, name] := by
  rw [Route.parts_extended directory hn, Route.parts_of_slashless hd.slashless]
  simp

def IsSourceIn (directory path : String) : Prop :=
  ∃ stem, IsStem stem ∧ path = directory ++ "/" ++ stem ++ ".rs"

theorem IsSourceIn.liesIn {directory path : String} (h : IsSourceIn directory path) :
    LiesIn directory path := by
  obtain ⟨stem, hstem, rfl⟩ := h
  exact ⟨stem ++ ".rs", isName_source hstem, String.append_assoc⟩

namespace Entity

theorem isStem_names (e : Entity) : IsStem (fileStem e.names.unit) ∧ IsStem (fileStem e.names.nested) := by
  have hprovider : IsStem (fileStem "provider") := by
    have hname : Naming.moduleName "provider" = "provider" := by decide +kernel
    rw [← hname]
    exact isStem_moduleName "provider"
  cases hk : e.kind with
  | provider => exact ⟨by simpa [names, unit, hk] using hprovider,
      by simpa [names, nestedUnit, hk] using isStem_moduleName _⟩
  | resource => exact ⟨by simpa [names, unit, hk] using isStem_moduleName _,
      by simpa [names, nestedUnit, hk] using isStem_moduleName _⟩
  | dataSource => exact ⟨by simpa [names, unit, hk] using isStem_moduleName _,
      by simpa [names, nestedUnit, hk] using isStem_moduleName _⟩

theorem isSourceIn_outputPaths {e : Entity} {mount : ModulePath} {version : String} :
    ∀ path ∈ e.outputPaths mount version, IsSourceIn e.spec.stem path := by
  intro path hp
  obtain ⟨hunit, hnested⟩ := e.isStem_names
  have hdirectory : e.names.directory = e.spec.directory := by simp only [names]
  rw [ProviderSpec.stem, ← hdirectory]
  rcases List.mem_cons.mp (e.outputPaths_subset mount version path hp) with rfl | hp
  · exact ⟨fileStem e.names.unit, hunit, rfl⟩
  · rw [List.mem_singleton.mp hp]
    exact ⟨fileStem e.names.nested, hnested, rfl⟩

end Entity

namespace ProviderTree

variable {mount : ModulePath} {version owner path : String} {t t' : ProviderTree} {e : Entity}
  {entities : List Entity} {failures : List EntityFailure}

structure GrowsTo (mount : ModulePath) (version : String) (t : ProviderTree) (entities : List Entity)
    (t' : ProviderTree) : Prop where
  ordered : Table.Ordered t.files → Table.Ordered t'.files
  mem_keys : ∀ path ∈ Table.keys t'.files,
    path ∈ Table.keys t.files ∨ ∃ e ∈ entities, path ∈ e.outputPaths mount version
  indexPath : t'.indexPath = t.indexPath

theorem growsTo_addEntity (h : t.addEntity mount version e = .ok t') :
    t.GrowsTo mount version [e] t' := by
  obtain ⟨source, hs, hi⟩ := addEntity_eq_ok_iff.mp h
  obtain ⟨_, rfl⟩ := insert_eq_ok_iff.mp hi
  have hpaths : e.outputPaths mount version = source.files.map SourceFile.path := by
    rw [Entity.outputPaths, Entity.outputFiles, hs]
  refine ⟨fun h => foldl_put ▸ Table.ordered_foldl_insert _ h, fun path hp => ?_, rfl⟩
  refine (mem_keys_foldl_put.mp hp).imp_right fun hp => ⟨e, List.mem_singleton_self e, ?_⟩
  rwa [hpaths]

theorem growsTo_addEntities (h : t.addEntities mount version entities = (t', failures)) :
    t.GrowsTo mount version entities t' := by
  induction entities generalizing t failures with
  | nil =>
      cases h
      exact ⟨id, fun _ => .inl, rfl⟩
  | cons e rest ih =>
      have hlater {t₁ : ProviderTree} (hg : t₁.GrowsTo mount version rest t') : ∀ path ∈ Table.keys t'.files,
          path ∈ Table.keys t₁.files ∨ ∃ a ∈ e :: rest, path ∈ a.outputPaths mount version := by
        intro path hp
        refine (hg.mem_keys path hp).imp_right ?_
        rintro ⟨a, ha, hp⟩
        exact ⟨a, List.mem_cons_of_mem _ ha, hp⟩
      rw [ProviderTree.addEntities] at h
      split at h
      · rename_i t₁ ht
        have hfirst := growsTo_addEntity ht
        have hrest := ih h
        refine ⟨hrest.ordered ∘ hfirst.ordered, fun path hp => ?_, hrest.indexPath.trans hfirst.indexPath⟩
        rcases hlater hrest path hp with hp | hp
        · refine (hfirst.mem_keys path hp).imp_right ?_
          rintro ⟨a, ha, hp⟩
          exact ⟨a, List.mem_singleton.mp ha ▸ List.mem_cons_self, hp⟩
        · exact .inr hp
      · rcases hadd : t.addEntities mount version rest with ⟨t₁, others⟩
        rw [hadd] at h
        cases h
        have hrest := ih hadd
        exact ⟨hrest.ordered, hlater hrest, hrest.indexPath⟩

structure FiledIn (directory : String) (t : ProviderTree) : Prop where
  ordered : Table.Ordered t.files
  placed : ∀ path ∈ Table.keys t.files, LiesIn directory path

end ProviderTree

namespace ProviderSpec

variable {spec : ProviderSpec} {schema : Schema.Provider} {mount : ModulePath} {version : String}
  {r : ProviderSource}

theorem isStem_stem (spec : ProviderSpec) : IsStem spec.stem := isStem_moduleName spec.localName

theorem directory_source? (h : spec.source? schema mount version = .ok r) : r.directory = spec.directory := by
  obtain ⟨_, _, _, _, _, rfl⟩ := source?_eq_ok_iff.mp h
  rfl

theorem ordered_source? (h : spec.source? schema mount version = .ok r) : Table.Ordered r.tree.files := by
  obtain ⟨tree, failures, text, hadd, _, rfl⟩ := source?_eq_ok_iff.mp h
  exact Table.ordered_insert _ _ ((ProviderTree.growsTo_addEntities hadd).ordered List.Pairwise.nil)

theorem mem_keys_source? (h : spec.source? schema mount version = .ok r) :
    ∀ path ∈ Table.keys r.tree.files,
      path = spec.indexPath ∨ ∃ e ∈ spec.entities schema, path ∈ e.outputPaths mount version := by
  obtain ⟨tree, failures, text, hadd, _, rfl⟩ := source?_eq_ok_iff.mp h
  have hgrows := ProviderTree.growsTo_addEntities hadd
  intro path hp
  rcases (Table.mem_keys_insert _ _ _ path).mp hp with rfl | hp
  · exact .inl hgrows.indexPath
  · exact .inr ((hgrows.mem_keys path hp).resolve_left (by simp [ProviderTree.empty, Table.keys]))

theorem isSourceIn_source? (h : spec.source? schema mount version = .ok r) :
    ∀ path ∈ Table.keys r.tree.files, IsSourceIn spec.stem path := by
  intro path hp
  rcases mem_keys_source? h path hp with rfl | ⟨e, he, hp⟩
  · exact ⟨"mod", ⟨by decide, by decide⟩, by rw [String.append_assoc, indexPath]; rfl⟩
  · rw [← spec_of_mem_entities he]
    exact Entity.isSourceIn_outputPaths path hp

theorem filedIn_source? (h : spec.source? schema mount version = .ok r) :
    r.tree.FiledIn spec.stem ∧ r.directory = spec.directory :=
  ⟨⟨ordered_source? h, fun path hp => (isSourceIn_source? h path hp).liesIn⟩, directory_source? h⟩

theorem source?_confined (h : spec.source? schema mount version = .ok r) :
    IsStem (fileStem r.directory) ∧ ∀ f ∈ r.tree.toList, ∃ stem, IsStem stem ∧
      f.path = fileStem r.directory ++ "/" ++ stem ++ ".rs" ∧
      (Route.parts f.path.toList).map String.ofList = [fileStem r.directory, stem ++ ".rs"] := by
  rw [directory_source? h]
  have hdirectory : IsStem spec.stem := isStem_stem spec
  refine ⟨hdirectory, fun f hf => ?_⟩
  obtain ⟨entry, hentry, rfl⟩ := List.mem_map.mp hf
  obtain ⟨stem, hstem, hpath⟩ := isSourceIn_source? h entry.1 (List.mem_map_of_mem hentry)
  refine ⟨stem, hstem, hpath, ?_⟩
  rw [hpath, String.append_assoc]
  exact parts_pair (isName_of_isStem hdirectory) (isName_source hstem)

def climber : ProviderSpec := ⟨"../..", "evil/..\\http", "3.4.5"⟩

def climberSchema : Schema.Provider :=
  ⟨.empty, [("..\\http_../../mod", .empty), ("/etc/passwd", .empty)], [("..", .empty)]⟩

theorem source?_climber : ∃ r, climber.source? climberSchema .standard "0.1.0" = .ok r ∧
    IsStem (fileStem r.directory) ∧ ∀ f ∈ r.tree.toList, ∃ stem, IsStem stem ∧
      f.path = fileStem r.directory ++ "/" ++ stem ++ ".rs" ∧
      (Route.parts f.path.toList).map String.ofList = [fileStem r.directory, stem ++ ".rs"] := by
  have hnames : ∀ e ∈ climber.entities climberSchema,
      Code.IsModuleName e.names.unit ∧ Code.IsModuleName e.names.nested := by decide +kernel
  have hresources : Table.Ordered climberSchema.resources := by
    rw [Table.Ordered]
    decide
  have hdataSources : Table.Ordered climberSchema.dataSources := List.pairwise_singleton _ _
  obtain ⟨r, hok⟩ : ∃ r, climber.source? climberSchema .standard "0.1.0" = .ok r :=
    exists_source? hresources hdataSources hnames
  exact ⟨r, hok, source?_confined hok⟩

end ProviderSpec

end ProviderBindings
