import ProviderBindings.Proofs.Provider.Ownership

/-!
The files of the entities that do not fail. Paths are compared between entities but not inside one, so what
decides whether the files of a provider are intact are the two paths of each entity.
-/

namespace ProviderBindings

open Naming (Wordless providerType fileStem)
open ProviderTree (unlisted)

/-! ### The entities of a provider -/

theorem Entity.display_inj {a b : Entity} (h : a.display = b.display) :
    a.kind = b.kind ∧ a.typeName = b.typeName := by
  have hkind : a.kind = b.kind := by
    have hhead := congrArg (fun s => s.toList.head?) h
    cases ha : a.kind <;> cases hb : b.kind <;> simp [display, ha, hb, EntityKind.display] at hhead ⊢
  refine ⟨hkind, ?_⟩
  rw [display, display, hkind, String.append_left_inj, String.append_right_inj] at h
  exact h

namespace ProviderSpec

variable {spec : ProviderSpec} {schema : Schema.Provider}

theorem spec_of_mem_entities {e : Entity} (h : e ∈ spec.entities schema) : e.spec = spec := by
  simp only [entities, List.cons_append, List.mem_cons, List.mem_append, List.mem_map] at h
  rcases h with rfl | ⟨_, _, rfl⟩ | ⟨_, _, rfl⟩
  · rfl
  · rfl
  · rfl

theorem nodup_display (hr : Table.Ordered schema.resources) (hd : Table.Ordered schema.dataSources) :
    ((spec.entities schema).map Entity.display).Nodup := by
  have hresources := List.pairwise_map.mp (Table.nodup_keys_of_ordered hr)
  have hdataSources := List.pairwise_map.mp (Table.nodup_keys_of_ordered hd)
  refine List.pairwise_map.mpr ?_
  have hne {a b : Entity} (h : a.kind ≠ b.kind ∨ a.typeName ≠ b.typeName) : a.display ≠ b.display := by
    intro heq
    obtain ⟨hkind, hname⟩ := Entity.display_inj heq
    exact h.elim (· hkind) (· hname)
  rw [entities, List.cons_append, List.pairwise_cons, List.pairwise_append, List.pairwise_map,
    List.pairwise_map]
  refine ⟨fun e he => ?_, ?_, ?_, fun a ha b hb => ?_⟩
  · simp only [List.mem_append, List.mem_map] at he
    rcases he with ⟨_, _, rfl⟩ | ⟨_, _, rfl⟩
    · exact hne (.inl (by simp [Entity.ofProvider, Entity.ofResource]))
    · exact hne (.inl (by simp [Entity.ofProvider, Entity.ofDataSource]))
  · exact hresources.imp fun h => hne (.inr h)
  · exact hdataSources.imp fun h => hne (.inr h)
  · obtain ⟨_, _, rfl⟩ := List.mem_map.mp ha
    obtain ⟨_, _, rfl⟩ := List.mem_map.mp hb
    exact hne (.inl (by simp [Entity.ofResource, Entity.ofDataSource]))

variable {mount : ModulePath} {version : String} {r : ProviderSource}

theorem source?_eq_ok_iff :
    spec.source? schema mount version = .ok r ↔
      ∃ tree failures text,
        (ProviderTree.empty spec.indexPath).addEntities mount version (spec.entities schema) =
          (tree, failures) ∧
        (moduleIndex spec.indexDoc tree.modules).render version = .ok text ∧
        r = ⟨spec.directory, tree.setIndex text, (spec.entities schema).length, failures⟩ := by
  rw [source?]
  rcases (ProviderTree.empty spec.indexPath).addEntities mount version (spec.entities schema) with
    ⟨tree, failures⟩
  simp only [bind_eq_ok_iff, Except.ok.injEq, Prod.mk.injEq]
  constructor
  · rintro ⟨text, ht, hr⟩
    exact ⟨tree, failures, text, ⟨rfl, rfl⟩, ht, hr.symm⟩
  · rintro ⟨_, _, text, ⟨rfl, rfl⟩, ht, hr⟩
    exact ⟨text, ht, hr.symm⟩

end ProviderSpec

/-! ### The index -/

def Code.IsModuleName (name : String) : Prop :=
  Code.isIdentifier name = true ∧ (Code.Item.module_ name).isParsable = true

instance (name : String) : Decidable (Code.IsModuleName name) := inferInstanceAs (Decidable (_ ∧ _))

theorem names_moduleIndex (doc : String) (modules : List String) :
    (moduleIndex doc modules).names = modules := by
  simp [moduleIndex, Code.File.names, List.flatMap_map, Code.Item.names]

theorem render_moduleIndex {doc version : String} {modules : List String}
    (h : ∀ m ∈ modules, Code.IsModuleName m) :
    ∃ text, (moduleIndex doc modules).render version = .ok text := by
  have hfind : modules.find? (!Code.isIdentifier ·) = none := by
    refine List.find?_eq_none.mpr fun m hm => ?_
    simp [(h m hm).1]
  have hparsable : (moduleIndex doc modules).isParsable = true := by
    simp only [Code.File.isParsable, moduleIndex, List.all_nil, Bool.true_and, List.all_eq_true,
      List.mem_map]
    rintro item ⟨m, hm, rfl⟩
    exact (h m hm).2
  rw [Code.File.render, names_moduleIndex, hfind, if_pos hparsable]
  exact ⟨_, rfl⟩

/-! ### Intact files -/

structure ProviderSource.Intact (r : ProviderSource) (spec : ProviderSpec) (schema : Schema.Provider)
    (mount : ModulePath) (version : String) : Prop where
  stored : ∀ e ∈ unlisted r.failures (spec.entities schema), e.Stored mount version r.tree.files
  paths_nodup : (spec.indexPath :: (unlisted r.failures (spec.entities schema)).flatMap
    (·.outputPaths mount version)).Nodup
  index : ∃ text, (moduleIndex spec.indexDoc r.tree.modules).render version = .ok text ∧
    Table.get? spec.indexPath r.tree.files = some ⟨ProviderTree.indexOwner, text⟩
  modules_nodup : (r.tree.modules.map fileStem).Nodup
  modules_exact : ∀ path, path ∈ Table.keys r.tree.files ∧ path ≠ spec.indexPath ↔
    ∃ m ∈ r.tree.modules, path = sourcePath r.directory m

namespace ProviderTree

variable {mount : ModulePath} {version : String} {t : ProviderTree} {kept : List Entity}

theorem modules_setIndex (contents : String) : (t.setIndex contents).modules = t.modules := rfl

theorem mem_modules {m : String} : m ∈ t.modules ↔ m ∈ t.declared :=
  (List.mergeSort_perm t.declared _).mem_iff

theorem Holds.map_declared (h : t.Holds mount version kept) {directory : String}
    (hdir : ∀ e ∈ kept, e.spec.directory = directory) :
    t.declared.map (sourcePath directory) = kept.flatMap (·.outputPaths mount version) := by
  rw [h.declared, List.map_flatMap, List.flatMap_def, List.flatMap_def]
  refine congrArg List.flatten (List.map_congr_left fun e he => ?_)
  rw [Entity.outputPaths_eq, hdir e he]

theorem Holds.nodup_paths (h : t.Holds mount version kept)
    (hn : ∀ e ∈ kept, (e.outputPaths mount version).Nodup) :
    (t.indexPath :: kept.flatMap (·.outputPaths mount version)).Nodup := by
  refine List.nodup_cons.mpr ⟨fun hmem => ?_, ?_⟩
  · obtain ⟨e, he, hp⟩ := List.mem_flatMap.mp hmem
    exact h.index_free ((h.mem_keys _).mpr ⟨e, he, hp⟩)
  · refine List.pairwise_flatMap.mpr ⟨hn, h.disjoint.imp ?_⟩
    rintro a b hab path ha _ hb rfl
    exact hab path ha hb

theorem Holds.nodup_modules (h : t.Holds mount version kept) {directory : String}
    (hdir : ∀ e ∈ kept, e.spec.directory = directory)
    (hn : ∀ e ∈ kept, (e.outputPaths mount version).Nodup) : (t.modules.map fileStem).Nodup := by
  have hpaths : (t.declared.map (sourcePath directory)).Nodup := by
    rw [h.map_declared hdir]
    exact (List.nodup_cons.mp (h.nodup_paths hn)).2
  have hstems : (t.declared.map fileStem).Nodup := by
    refine List.pairwise_map.mpr ((List.pairwise_map.mp hpaths).imp ?_)
    intro a b hab heq
    exact hab (sourcePath_inj.mpr heq)
  exact ((List.mergeSort_perm t.declared _).map fileStem).nodup_iff.mpr hstems

end ProviderTree

namespace ProviderSpec

variable {spec : ProviderSpec} {schema : Schema.Provider} {mount : ModulePath} {version : String}
  {r : ProviderSource}

theorem holds_addEntities (hr : Table.Ordered schema.resources) (hd : Table.Ordered schema.dataSources)
    {tree : ProviderTree} {failures : List EntityFailure}
    (h : (ProviderTree.empty spec.indexPath).addEntities mount version (spec.entities schema) =
      (tree, failures)) :
    tree.Holds mount version (unlisted failures (spec.entities schema)) ∧
      tree.indexPath = spec.indexPath := by
  obtain ⟨hholds, hindex, _⟩ :=
    (ProviderTree.holds_empty spec.indexPath).addEntities (nodup_display hr hd) h
  rw [List.nil_append] at hholds
  exact ⟨hholds, hindex⟩

theorem intact_of_nodup (hr : Table.Ordered schema.resources) (hd : Table.Ordered schema.dataSources)
    (h : spec.source? schema mount version = .ok r)
    (hn : ∀ e ∈ unlisted r.failures (spec.entities schema), (e.outputPaths mount version).Nodup) :
    r.Intact spec schema mount version := by
  obtain ⟨tree, failures, text, hadd, htext, rfl⟩ := source?_eq_ok_iff.mp h
  obtain ⟨hholds, hindex⟩ := holds_addEntities hr hd hadd
  have hdir : ∀ e ∈ unlisted failures (spec.entities schema), e.spec.directory = spec.directory := by
    intro e he
    rw [spec_of_mem_entities (List.mem_filter.mp he).1]
  have hfree := hholds.index_free
  rw [hindex] at hfree
  refine ⟨fun e he => ?_, ?_, ⟨text, ?_, ?_⟩, ?_, fun path => ?_⟩
  · obtain ⟨source, hs⟩ := hholds.sourced e he
    refine Entity.stored_of_outputFiles hs fun f hf => ?_
    have hkey : f.path ∈ Table.keys tree.files :=
      (hholds.mem_keys f.path).mpr ⟨e, he, List.mem_map_of_mem hf⟩
    have hne : f.path ≠ tree.indexPath := fun heq => hholds.index_free (heq ▸ hkey)
    rw [ProviderTree.setIndex, ProviderTree.put, Table.get?_insert_of_ne hne]
    exact hholds.stored e he (hn e he) f hf
  · rw [← hindex]
    exact hholds.nodup_paths hn
  · rw [ProviderTree.modules_setIndex]
    exact htext
  · rw [← hindex]
    exact Table.get?_insert_self _ _ _
  · rw [ProviderTree.modules_setIndex]
    exact hholds.nodup_modules hdir hn
  · have hmodules : (∃ m ∈ tree.modules, path = sourcePath spec.directory m) ↔
        path ∈ Table.keys tree.files := by
      rw [hholds.mem_keys, ← List.mem_flatMap, ← hholds.map_declared hdir, List.mem_map]
      simp only [ProviderTree.mem_modules, eq_comm]
    rw [ProviderTree.modules_setIndex, hmodules, ProviderTree.setIndex, ProviderTree.put,
      Table.mem_keys_insert, hindex]
    constructor
    · intro hpath
      exact hpath.1.resolve_left hpath.2
    · intro hmem
      refine ⟨.inr hmem, ?_⟩
      rintro rfl
      exact hfree hmem

theorem exists_source? (hr : Table.Ordered schema.resources) (hd : Table.Ordered schema.dataSources)
    (h : ∀ e ∈ spec.entities schema,
      Code.IsModuleName e.names.unit ∧ Code.IsModuleName e.names.nested) :
    ∃ r, spec.source? schema mount version = .ok r := by
  rcases hadd : (ProviderTree.empty spec.indexPath).addEntities mount version (spec.entities schema) with
    ⟨tree, failures⟩
  obtain ⟨hholds, _⟩ := holds_addEntities hr hd hadd
  have hmodules : ∀ m ∈ tree.modules, Code.IsModuleName m := by
    intro m hm
    rw [ProviderTree.mem_modules, hholds.declared] at hm
    obtain ⟨e, he, hm⟩ := List.mem_flatMap.mp hm
    have hnames := h e (List.mem_filter.mp he).1
    rcases e.outputModules_subset mount version m hm with rfl | rfl
    · exact hnames.1
    · exact hnames.2
  obtain ⟨text, htext⟩ := render_moduleIndex hmodules
  exact ⟨_, source?_eq_ok_iff.mpr ⟨tree, failures, text, hadd, htext, rfl⟩⟩

theorem addEntities_failures_eq_nil (mount : ModulePath) (version : String)
    (hs : ∀ e ∈ spec.entities schema, ∃ source, e.source? mount version = .ok source)
    (hd : (spec.entities schema).Pairwise fun a b =>
      ∀ path ∈ a.possiblePaths, path ∉ b.possiblePaths)
    (hi : ∀ e ∈ spec.entities schema, spec.indexPath ∉ e.possiblePaths) :
    ((ProviderTree.empty spec.indexPath).addEntities mount version (spec.entities schema)).2 = [] :=
  (ProviderTree.holds_empty spec.indexPath).failures_eq_nil hs
    (hd.imp fun hab path ha hb => hab path (Entity.outputPaths_subset _ _ _ path ha)
      (Entity.outputPaths_subset _ _ _ path hb))
    fun e he hp => hi e he (Entity.outputPaths_subset _ _ _ _ hp)

theorem failures_eq_nil (h : spec.source? schema mount version = .ok r)
    (hs : ∀ e ∈ spec.entities schema, ∃ source, e.source? mount version = .ok source)
    (hd : (spec.entities schema).Pairwise fun a b =>
      ∀ path ∈ a.possiblePaths, path ∉ b.possiblePaths)
    (hi : ∀ e ∈ spec.entities schema, spec.indexPath ∉ e.possiblePaths) : r.failures = [] := by
  obtain ⟨tree, failures, text, hadd, _, rfl⟩ := source?_eq_ok_iff.mp h
  have hnil := addEntities_failures_eq_nil mount version hs hd hi
  rwa [hadd] at hnil

theorem sourced_of_unlisted (hr : Table.Ordered schema.resources) (hd : Table.Ordered schema.dataSources)
    (h : spec.source? schema mount version = .ok r) :
    ∀ e ∈ unlisted r.failures (spec.entities schema), ∃ source, e.source? mount version = .ok source := by
  obtain ⟨tree, failures, text, hadd, _, rfl⟩ := source?_eq_ok_iff.mp h
  exact (holds_addEntities hr hd hadd).1.sourced

theorem nodup_outputPaths_iff {e : Entity} (he : e ∈ spec.entities schema) {source : EntitySource}
    (hs : e.source? mount version = .ok source) :
    (e.outputPaths mount version).Nodup ↔ (e.kind = .dataSource → e.HasNodes →
      e.shortName ≠ e.typeName ∧ ¬ Wordless (providerType spec.source)) := by
  rw [Entity.nodup_outputPaths_iff hs, ne_eq, e.filePath_eq_nestedPath_iff, spec_of_mem_entities he]
  grind

def http : ProviderSpec := ⟨"http", "hashicorp/http", "3.4.5"⟩

def httpSchema (typeName : String) : Schema.Provider :=
  ⟨.empty, [], [(typeName, ⟨0, ⟨[], [("retry", ⟨"single", .empty, 0, 0⟩)], none, false⟩⟩)]⟩

def httpGraph : Graph := ⟨[], [0], [⟨"retry", [], "retry", 0, [], [], ⟨true, false, [], 0, 0, .none⟩⟩]⟩

theorem source?_http {typeName : String} (h : typeName = "http" ∨ typeName = "http_page") :
    Table.Ordered (httpSchema typeName).resources ∧ Table.Ordered (httpSchema typeName).dataSources ∧
      ∃ r, http.source? (httpSchema typeName) .standard "0.1.0" = .ok r ∧ r.failures = [] := by
  have hr : Table.Ordered (httpSchema typeName).resources := List.Pairwise.nil
  have hd : Table.Ordered (httpSchema typeName).dataSources := List.pairwise_singleton _ _
  have hnames : ∀ e ∈ http.entities (httpSchema typeName),
      Code.IsModuleName e.names.unit ∧ Code.IsModuleName e.names.nested := by
    rcases h with rfl | rfl
    · decide +kernel
    · decide +kernel
  obtain ⟨r, hok⟩ : ∃ r, http.source? (httpSchema typeName) .standard "0.1.0" = .ok r :=
    exists_source? hr hd hnames
  refine ⟨hr, hd, r, hok, failures_eq_nil hok ?_ ?_ ?_⟩
  · intro e he
    have he : e = .ofProvider http .empty ∨
        e = .ofDataSource http typeName ⟨[], [("retry", ⟨"single", .empty, 0, 0⟩)], none, false⟩ := by
      simpa [entities, httpSchema, Schema.Entry.empty] using he
    rcases he with rfl | rfl
    · exact Entity.exists_source?_of_graph rfl Graph.disambiguated_empty (by decide +kernel)
    · have hretry : httpGraph.disambiguated = .ok httpGraph :=
        Graph.disambiguated_of_settled rfl (by decide +kernel)
      refine Entity.exists_source?_of_graph rfl hretry ?_
      rcases h with rfl | rfl
      · decide +kernel
      · decide +kernel
  · rcases h with rfl | rfl
    · decide +kernel
    · decide +kernel
  · rcases h with rfl | rfl
    · decide +kernel
    · decide +kernel

/-- The files of a provider are intact exactly when no data source with nodes that is not listed as a failure
has a type name that is its own short name, or a provider type without letters and digits. -/
theorem intact_iff (hr : Table.Ordered schema.resources) (hd : Table.Ordered schema.dataSources)
    (h : spec.source? schema mount version = .ok r) :
    r.Intact spec schema mount version ↔
      ∀ e ∈ unlisted r.failures (spec.entities schema), e.kind = .dataSource → e.HasNodes →
        e.shortName ≠ e.typeName ∧ ¬ Wordless (providerType spec.source) := by
  have hsourced := sourced_of_unlisted hr hd h
  have heach : ∀ e ∈ unlisted r.failures (spec.entities schema),
      ((e.outputPaths mount version).Nodup ↔ (e.kind = .dataSource → e.HasNodes →
        e.shortName ≠ e.typeName ∧ ¬ Wordless (providerType spec.source))) := by
    intro e he
    obtain ⟨source, hs⟩ := hsourced e he
    exact nodup_outputPaths_iff (List.mem_filter.mp he).1 hs
  refine ⟨fun hintact e he => (heach e he).mp ?_, fun hall => ?_⟩
  · have hpaths := (List.nodup_cons.mp hintact.paths_nodup).2
    exact (List.pairwise_flatMap.mp hpaths).1 e he
  · exact intact_of_nodup hr hd h fun e he => (heach e he).mpr (hall e he)

theorem intact_http_page :
    ∃ r, http.source? (httpSchema "http_page") .standard "0.1.0" = .ok r ∧ r.failures = [] ∧
      r.Intact http (httpSchema "http_page") .standard "0.1.0" := by
  obtain ⟨hr, hd, r, hok, hnil⟩ := source?_http (.inr rfl)
  refine ⟨r, hok, hnil, (intact_iff hr hd hok).mpr fun e he hk _ => ⟨?_, ?_⟩⟩
  · have hall : ∀ e ∈ http.entities (httpSchema "http_page"),
        e.kind = .dataSource → e.shortName ≠ e.typeName := by decide +kernel
    exact hall e (List.mem_filter.mp he).1 hk
  · intro hwordless
    exact absurd (hwordless 'h' (by decide)) (by decide)

/-- Both files of the data source `http` have the path `http/data_http.rs`. -/
theorem not_intact_http :
    ∃ r, http.source? (httpSchema "http") .standard "0.1.0" = .ok r ∧ r.failures = [] ∧
      ¬ r.Intact http (httpSchema "http") .standard "0.1.0" := by
  obtain ⟨hr, hd, r, hok, hnil⟩ := source?_http (.inl rfl)
  refine ⟨r, hok, hnil, fun hintact => ?_⟩
  obtain ⟨e, he, hnodes, hpath⟩ : ∃ e ∈ http.entities (httpSchema "http"),
      e.HasNodes ∧ e.names.filePath = e.names.nestedPath :=
    ⟨_, List.mem_cons_of_mem _ List.mem_cons_self, ⟨httpGraph, rfl, by simp [httpGraph]⟩,
      by decide +kernel⟩
  have hmem : e ∈ unlisted r.failures (http.entities (httpSchema "http")) := by
    rw [hnil]
    exact List.mem_filter.mpr ⟨he, by simp⟩
  obtain ⟨source, hs⟩ := sourced_of_unlisted hr hd hok e hmem
  have hpaths := (List.nodup_cons.mp hintact.paths_nodup).2
  have hnodup := (List.pairwise_flatMap.mp hpaths).1 e hmem
  exact (Entity.nodup_outputPaths_iff hs).mp hnodup hnodes hpath

end ProviderSpec

end ProviderBindings
