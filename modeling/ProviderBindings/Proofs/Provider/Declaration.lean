import ProviderBindings.Proofs.Naming.Identifier
import ProviderBindings.Proofs.Provider.Omission

/-!
The modules that the index of a provider declares. The module of the nodes of an entity is used by a file of
the entity, so that an entity with a bad one fails by itself; the module of its own file is in the index
alone, and a bad one costs the whole provider.
-/

namespace ProviderBindings

open Code (IsModuleName isIdentifier isPlainIdentifier)
open Naming (FoldsToAscii moduleName snakeCase snakeChars)
open ProviderTree (unlisted)
open Text (isAlphanumeric)

/-! ### Names of modules -/

namespace Naming

theorem isIdentifier_of_lead {name : String} {lead rest : List Char} (h : name.toList = lead ++ rest)
    (hlead : isPlainIdentifier lead = true) (hlength : 2 ≤ lead.length) :
    isIdentifier name = true ↔ ∀ c ∈ rest, Code.isNameChar c = true := by
  constructor
  · intro hname
    rw [isIdentifier] at hname
    split at hname
    · rename_i body hbody
      have hraw : ['r', '#'] <+: lead ++ rest := ⟨body, by rw [← h, hbody]; rfl⟩
      have hraw := List.prefix_of_prefix_length_le hraw (List.prefix_append lead rest) hlength
      exact absurd hraw (not_raw_of_isPlainIdentifier hlead)
    · rw [h] at hname
      exact fun c hc => isNameChar_of_isPlainIdentifier hname c (List.mem_append_right _ hc)
  · intro hrest
    refine isIdentifier_of_isPlainIdentifier ?_
    rw [h]
    exact isPlainIdentifier_append hlead hrest

theorem isIdentifier_resource_iff (typeName : String) :
    isIdentifier (moduleName ("resource_" ++ typeName)) = true ↔
      ∀ c ∈ typeName.toList, isAlphanumeric c = true → FoldsToAscii c := by
  have hlist := Entity.toList_snakeCase_resource typeName
  rw [moduleName_of_lead hlist (by decide), isIdentifier_of_lead hlist (by decide) (by decide)]
  exact isNameChar_snakeChars_iff .gap

theorem isIdentifier_data_iff (name : String) :
    isIdentifier (moduleName ("data_" ++ name)) = true ↔
      ∀ c ∈ name.toList, isAlphanumeric c = true → FoldsToAscii c := by
  have hlist := Entity.toList_snakeCase_data name
  rw [moduleName_of_lead hlist (by decide), isIdentifier_of_lead hlist (by decide) (by decide)]
  exact isNameChar_snakeChars_iff .gap

theorem isModuleName_moduleName {name : String} (h : isIdentifier (moduleName name) = true) :
    IsModuleName (moduleName name) := by
  -- Keywords are escaped, so that being an identifier is all that an index asks for.
  refine ⟨h, ?_⟩
  have hwords : ∀ word ∈ Code.reservedWords, word ∈ keywords ∨ word ∈ nonRawKeywords := by decide
  have hplain : ∀ word ∈ Code.reservedWords, ¬ ['r', '#'] <+: word.toList := by decide
  have hfree : moduleName name ∉ Code.reservedWords := by
    intro hmem
    obtain ⟨hkeyword, hnonRaw⟩ := free_moduleName name (hplain _ hmem)
    exact (hwords _ hmem).elim hkeyword hnonRaw
  simp [Code.Item.isParsable, Code.isFree, hfree]

end Naming

theorem Code.isIdentifier_of_render {f : Code.File} {version text : String}
    (h : f.render version = .ok text) : ∀ name ∈ f.names, isIdentifier name = true := by
  intro name hname
  rw [Code.File.render] at h
  split at h
  · cases h
  · rename_i hfind
    simpa using List.find?_eq_none.mp hfind name hname

namespace Entity

def IsSpelled (e : Entity) : Prop :=
  e.kind ≠ .provider → ∀ c ∈ e.typeName.toList, isAlphanumeric c = true → FoldsToAscii c

variable {e : Entity} {mount : ModulePath} {version : String}

theorem isIdentifier_unit_iff (e : Entity) : isIdentifier e.names.unit = true ↔ e.IsSpelled := by
  rw [IsSpelled]
  cases hk : e.kind with
  | provider =>
      have hprovider : isIdentifier "provider" = true := by decide
      simp [names, unit, hk, hprovider]
  | resource => simp [names, unit, hk, Naming.isIdentifier_resource_iff]
  | dataSource => simp [names, unit, hk, Naming.isIdentifier_data_iff]

theorem isModuleName_unit (h : isIdentifier e.names.unit = true) : IsModuleName e.names.unit := by
  cases hk : e.kind with
  | provider =>
      have hprovider : IsModuleName "provider" := by decide
      simpa [names, unit, hk] using hprovider
  | resource | dataSource =>
      simp only [names, unit, hk] at h ⊢
      exact Naming.isModuleName_moduleName h

theorem isModuleName_nested (h : isIdentifier e.names.nested = true) : IsModuleName e.names.nested := by
  cases hk : e.kind <;>
  · simp only [names, nestedUnit, hk] at h ⊢
    exact Naming.isModuleName_moduleName h

theorem unit_mem_outputModules {source : EntitySource} (h : e.source? mount version = .ok source) :
    e.names.unit ∈ e.outputModules mount version := by
  rw [outputModules, h]
  obtain ⟨_, _, _, _, _, _, _, _, ⟨_, rfl⟩ | ⟨_, _, _, _, _, rfl⟩⟩ := source?_cases h
  · exact List.mem_cons_self
  · exact List.mem_cons_self

theorem isModuleName_of_outputModules (e : Entity) (mount : ModulePath) (version : String) :
    ∀ m ∈ e.outputModules mount version, m = e.names.unit ∨ IsModuleName m := by
  rw [outputModules]
  cases h : e.source? mount version with
  | error x => simp
  | ok source =>
      obtain ⟨_, g, b, text, _, _, hb, hfile, ⟨_, rfl⟩ | ⟨hnodes, _, _, _, _, rfl⟩⟩ := source?_cases h
      · simp
      · obtain ⟨_, _, _, _, _, _, huses⟩ := entityFile_spec (bindings_spec hb).2.2
        -- The module of the nodes has been rendered already, in the file that uses it.
        have hused : e.names.nested ∈ b.file.names := by
          simp [Code.File.names, huses, hnodes]
        have hnested := isModuleName_nested (Code.isIdentifier_of_render hfile _ hused)
        simp [hnested]

theorem exists_error_of_graph {g₀ g : Graph} (hb : Graph.ofBlock e.block = .ok g₀)
    (hd : g₀.disambiguated = .ok g)
    (h : ((e.bindings mount g).toOption.all fun b => !(b.file.render version).toBool) = true) :
    ∃ x, e.source? mount version = .error x := by
  cases hs : e.source? mount version with
  | error x => exact ⟨x, rfl⟩
  | ok source =>
      obtain ⟨g₀', g', b, text, hb', hd', hm, hfile, _⟩ := source?_cases hs
      rw [hb] at hb'
      cases hb'
      rw [hd] at hd'
      cases hd'
      simp [hm, hfile, Except.toOption, Except.toBool] at h

end Entity

/-! ### The index -/

theorem render_moduleIndex_cases (doc version : String) {modules : List String}
    (h : ∀ m ∈ modules, isIdentifier m = true → IsModuleName m) :
    ((∃ text, (moduleIndex doc modules).render version = .ok text) ∧ ∀ m ∈ modules, IsModuleName m) ∨
      ∃ m ∈ modules, isIdentifier m = false ∧
        (moduleIndex doc modules).render version = .error (.invalidIdentifier m) := by
  cases hfind : modules.find? (!isIdentifier ·) with
  | some m =>
      have hm : isIdentifier m = false := by simpa using List.find?_some hfind
      refine .inr ⟨m, List.mem_of_find?_eq_some hfind, hm, ?_⟩
      rw [Code.File.render, names_moduleIndex, hfind]
  | none =>
      have hmodules : ∀ m ∈ modules, IsModuleName m := by
        intro m hm
        have hname := List.find?_eq_none.mp hfind m hm
        exact h m hm (by simpa using hname)
      exact .inl ⟨render_moduleIndex hmodules, hmodules⟩

namespace ProviderSpec

variable {spec : ProviderSpec} {schema : Schema.Provider} {mount : ModulePath} {version : String}

def kept (spec : ProviderSpec) (schema : Schema.Provider) (mount : ModulePath) (version : String) :
    List Entity :=
  unlisted ((ProviderTree.empty spec.indexPath).addEntities mount version (spec.entities schema)).2
    (spec.entities schema)

theorem source?_cases (spec : ProviderSpec) (mount : ModulePath) (version : String)
    (hr : Table.Ordered schema.resources) (hd : Table.Ordered schema.dataSources) :
    ((∃ r, spec.source? schema mount version = .ok r) ∧
        ∀ e ∈ spec.kept schema mount version, e.IsSpelled) ∨
      ∃ e ∈ spec.kept schema mount version, ¬ e.IsSpelled ∧
        spec.source? schema mount version = .error (.invalidIdentifier e.names.unit) := by
  rcases hadd : (ProviderTree.empty spec.indexPath).addEntities mount version (spec.entities schema) with
    ⟨tree, failures⟩
  have hkept : spec.kept schema mount version = unlisted failures (spec.entities schema) := by
    rw [kept, hadd]
  obtain ⟨hholds, _⟩ := holds_addEntities hr hd hadd
  rw [← hkept] at hholds
  have hmem : ∀ m, m ∈ tree.modules ↔
      ∃ e ∈ spec.kept schema mount version, m ∈ e.outputModules mount version := by
    intro m
    rw [ProviderTree.mem_modules, hholds.declared, List.mem_flatMap]
  have hfrom : ∀ m ∈ tree.modules,
      IsModuleName m ∨ ∃ e ∈ spec.kept schema mount version, m = e.names.unit := by
    intro m hm
    obtain ⟨e, he, hm⟩ := (hmem m).mp hm
    exact (e.isModuleName_of_outputModules mount version m hm).symm.imp_right fun hunit => ⟨e, he, hunit⟩
  have hnames : ∀ m ∈ tree.modules, isIdentifier m = true → IsModuleName m := by
    intro m hm hname
    rcases hfrom m hm with h | ⟨e, _, rfl⟩
    · exact h
    · exact Entity.isModuleName_unit hname
  rcases render_moduleIndex_cases spec.indexDoc version hnames with
    ⟨⟨text, htext⟩, hmodules⟩ | ⟨m, hm, hbad, herror⟩
  · refine .inl ⟨⟨_, source?_eq_ok_iff.mpr ⟨tree, failures, text, hadd, htext, rfl⟩⟩, fun e he => ?_⟩
    obtain ⟨source, hs⟩ := hholds.sourced e he
    exact e.isIdentifier_unit_iff.mp (hmodules _ ((hmem _).mpr ⟨e, he, Entity.unit_mem_outputModules hs⟩)).1
  · rcases hfrom m hm with hname | ⟨e, he, rfl⟩
    · rw [hname.1] at hbad
      cases hbad
    · refine .inr ⟨e, he, fun hspelled => ?_, ?_⟩
      · rw [e.isIdentifier_unit_iff.mpr hspelled] at hbad
        cases hbad
      · rw [source?, hadd]
        simp only [herror, bind, Except.bind]

theorem exists_source?_iff (hr : Table.Ordered schema.resources) (hd : Table.Ordered schema.dataSources) :
    ((∃ r, spec.source? schema mount version = .ok r) ↔
        ∀ e ∈ spec.kept schema mount version, e.IsSpelled) ∧
      (∀ x, spec.source? schema mount version = .error x →
        ∃ e ∈ spec.kept schema mount version, ¬ e.IsSpelled ∧ x = .invalidIdentifier e.names.unit) ∧
      ∀ e ∈ spec.kept schema mount version, ∀ m ∈ e.outputModules mount version,
        m = e.names.unit ∨ IsModuleName m := by
  refine ⟨?_, ?_, fun e _ => e.isModuleName_of_outputModules mount version⟩
  · rcases source?_cases spec mount version hr hd with ⟨hok, hspelled⟩ | ⟨e, he, hbad, herror⟩
    · exact iff_of_true hok hspelled
    · refine iff_of_false ?_ fun hspelled => hbad (hspelled e he)
      rintro ⟨r, hr⟩
      rw [herror] at hr
      cases hr
  · intro x hx
    rcases source?_cases spec mount version hr hd with ⟨⟨r, hok⟩, _⟩ | ⟨e, he, hbad, herror⟩
    · rw [hok] at hx
      cases hx
    · rw [herror] at hx
      cases hx
      exact ⟨e, he, hbad, rfl⟩

theorem kept_eq_entities (hs : ∀ e ∈ spec.entities schema, ∃ source, e.source? mount version = .ok source)
    (hd : (spec.entities schema).Pairwise fun a b => ∀ path ∈ a.possiblePaths, path ∉ b.possiblePaths)
    (hi : ∀ e ∈ spec.entities schema, spec.indexPath ∉ e.possiblePaths) :
    spec.kept schema mount version = spec.entities schema := by
  rw [kept, addEntities_failures_eq_nil mount version hs hd hi]
  simp [unlisted]

theorem mem_kept {e : Entity} {tree : ProviderTree} {failures : List EntityFailure}
    (hadd : (ProviderTree.empty spec.indexPath).addEntities mount version (spec.entities schema) =
      (tree, failures)) :
    e ∈ spec.kept schema mount version ↔
      e ∈ spec.entities schema ∧ e.display ∉ failures.map EntityFailure.entity := by
  rw [kept, hadd, unlisted, List.mem_filter, decide_eq_true_eq]

def resourceSchema (typeName : String) : Schema.Provider := ⟨.empty, [(typeName, .empty)], []⟩

theorem ordered_resourceSchema (typeName : String) :
    Table.Ordered (resourceSchema typeName).resources ∧ Table.Ordered (resourceSchema typeName).dataSources :=
  ⟨List.pairwise_singleton _ _, .nil⟩

theorem mem_entities_resourceSchema {typeName : String} {e : Entity}
    (he : e ∈ http.entities (resourceSchema typeName)) :
    e = .ofProvider http .empty ∨ e = .ofResource http typeName .empty := by
  simpa [entities, resourceSchema, Schema.Entry.empty] using he

theorem exists_source?_accent :
    (∃ x, (Entity.ofResource http "http_é" .empty).source? .standard "0.1.0" = .error x) ∧
      ∃ r, http.source? (resourceSchema "http_é") .standard "0.1.0" = .ok r := by
  obtain ⟨x, hx⟩ : ∃ x, (Entity.ofResource http "http_é" .empty).source? .standard "0.1.0" = .error x :=
    Entity.exists_error_of_graph rfl Graph.disambiguated_empty (by decide +kernel)
  obtain ⟨hr, hd⟩ := ordered_resourceSchema "http_é"
  refine ⟨⟨x, hx⟩, (exists_source?_iff hr hd).1.mpr fun e he => ?_⟩
  rcases hadd : (ProviderTree.empty http.indexPath).addEntities .standard "0.1.0"
    (http.entities (resourceSchema "http_é")) with ⟨tree, failures⟩
  obtain ⟨he, hlisted⟩ := (mem_kept hadd).mp he
  rcases mem_entities_resourceSchema he with rfl | rfl
  · exact fun hprovider => absurd rfl hprovider
  · exact absurd (List.mem_map_of_mem (ProviderTree.mem_failures_of_error hx he hadd)) hlisted

/-- The type name of one resource has a dotless `ı`, whose upper case in the record's name is in ASCII. -/
theorem not_exists_source?_dotless :
    ProviderSpec.ofString? "http=hashicorp/http:3.4.5" = .ok http ∧
      (∀ e ∈ http.entities (resourceSchema "http_ı"), ∃ source, e.source? .standard "0.1.0" = .ok source) ∧
      http.source? (resourceSchema "http_ı") .standard "0.1.0" =
        .error (.invalidIdentifier "resource_http_ı") := by
  have hs : ∀ e ∈ http.entities (resourceSchema "http_ı"),
      ∃ source, e.source? .standard "0.1.0" = .ok source := by
    intro e he
    rcases mem_entities_resourceSchema he with rfl | rfl
    · exact Entity.exists_source?_of_graph rfl Graph.disambiguated_empty (by decide +kernel)
    · exact Entity.exists_source?_of_graph rfl Graph.disambiguated_empty (by decide +kernel)
  refine ⟨by decide +kernel, hs, ?_⟩
  have hkept := kept_eq_entities hs (by decide +kernel) (by decide +kernel)
  obtain ⟨hr, hd⟩ := ordered_resourceSchema "http_ı"
  have hbad : ¬ (Entity.ofResource http "http_ı" .empty).IsSpelled := by
    rw [← Entity.isIdentifier_unit_iff]
    decide +kernel
  rcases source?_cases http .standard "0.1.0" hr hd with
    ⟨_, hspelled⟩ | ⟨e, he, hbad, herror⟩
  · rw [hkept] at hspelled
    exact absurd (hspelled _ (List.mem_cons_of_mem _ List.mem_cons_self)) hbad
  · rw [hkept] at he
    rcases mem_entities_resourceSchema he with rfl | rfl
    · exact absurd (fun hprovider => absurd rfl hprovider) hbad
    · exact herror

end ProviderSpec

end ProviderBindings
