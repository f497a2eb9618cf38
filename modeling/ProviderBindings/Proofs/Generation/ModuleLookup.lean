import ProviderBindings.Proofs.Generation.Contents

/-!
The modules that the index of a run declares, looked up beside it: a module is the file with its stem, or the
index in the directory with its stem. The index of the run is itself a file with a stem.
-/

namespace ProviderBindings

open Naming (fileStem moduleName snakeCase)

/-! ### Stems -/

theorem Naming.fileStem_moduleName_eq_mod_iff (name : String) :
    fileStem (moduleName name) = "mod" ↔ snakeCase name = "mod" := by
  constructor
  · intro h
    rcases fileStem_moduleName_cases name with hstem | hstem
    · rw [← hstem, h]
    · have hlast := congrArg (fun s => s.toList.getLast?) (h.symm.trans hstem)
      simp at hlast
  · intro h
    rw [moduleName, h]
    decide

theorem source_eq_indexName_iff (stem : String) : stem ++ ".rs" = indexName ↔ stem = "mod" := by
  have hindex : indexName = "mod" ++ ".rs" := by decide
  rw [hindex, String.append_left_inj]

theorem ProviderSpec.stem_ne_source (spec : ProviderSpec) (stem : String) : spec.stem ≠ stem ++ ".rs" := by
  intro heq
  have hdot : '.' ∈ spec.stem.toList := by simp [heq]
  exact (spec.isStem_stem.plain '.' hdot).2.2 rfl

namespace Generation

def lookups (p : Place) (m : String) : List Place :=
  [p ++ [fileStem m ++ ".rs"], p ++ [fileStem m, indexName]]

def HoldsFile (t : FileTree) (a : Place) : Prop := ∃ contents x, t.get? a = some (.file contents x)

structure Resolves (t : FileTree) (p : Place) (m : String) (a : Place) : Prop where
  possible : a ∈ lookups p m
  present : HoldsFile t a
  only : ∀ b ∈ lookups p m, HoldsFile t b → b = a

def ResolvesToOwn (t : FileTree) (p : Place) (sources : Sources) (m : String) : Prop :=
  ∃ c ∈ sources, c.1.directory = m ∧ Resolves t p m (p ++ [c.1.stem, indexName]) ∧
    ∃ text x, (moduleIndex c.1.indexDoc c.2.tree.modules).render Code.toolVersion = .ok text ∧
      t.get? (p ++ [c.1.stem, indexName]) = some (.file text x)

variable {r : Request} {fetch : ProviderSpec → Fetch} {p : Place} {prepared t t' : FileTree}

theorem exists_index {spec : ProviderSpec} {fetched : Fetch} {source : ProviderSource}
    (h : sourceOf r spec fetched = .ok source) :
    ∃ text, (moduleIndex spec.indexDoc source.tree.modules).render Code.toolVersion = .ok text ∧
      source.Has spec.stem indexName text := by
  obtain ⟨schema, hsource⟩ := exists_source?_of_sourceOf h
  obtain ⟨tree, failures, text, hadd, htext, rfl⟩ := ProviderSpec.source?_eq_ok_iff.mp hsource
  have hindex : tree.indexPath = spec.indexPath := (ProviderTree.growsTo_addEntities hadd).indexPath
  refine ⟨text, htext, isName_indexName, ProviderTree.indexOwner, ?_⟩
  have hpath : spec.stem ++ "/" ++ indexName = tree.indexPath := hindex.symm
  rw [hpath]
  exact Table.mem_of_get? (Table.get?_insert_self _ _ _)

variable {sources : Sources} {text stem : String}

theorem Sources.mem_keys_source_iff (h : sources.Separate) :
    p ++ [stem ++ ".rs"] ∈ Table.keys (sources.additions p text) ↔ stem = "mod" := by
  rw [← source_eq_indexName_iff]
  constructor
  · intro hkey
    obtain ⟨⟨a, e⟩, hmem, ha⟩ := List.mem_map.mp hkey
    rcases (Sources.mem_additions h).mp hmem with ⟨c, _, name, _, _, ⟨heq, -⟩ | ⟨heq, -⟩⟩ | ⟨heq, -⟩
    · rw [heq, List.append_cancel_left_eq, List.singleton_inj] at ha
      exact absurd ha (c.1.stem_ne_source stem)
    · simp [heq] at ha
    · rw [heq, List.append_cancel_left_eq, List.singleton_inj] at ha
      exact ha.symm
  · intro heq
    rw [heq]
    exact List.mem_map_of_mem ((Sources.mem_additions h).mpr (.inr ⟨rfl, rfl⟩))

theorem holdsFile_source_iff (h : sources.Separate) (hadds : prepared.Adds (sources.additions p text) t) :
    HoldsFile t (p ++ [stem ++ ".rs"]) ↔ stem = "mod" ∨ HoldsFile prepared (p ++ [stem ++ ".rs"]) := by
  by_cases hstem : stem = "mod"
  · have hindex : (p ++ [stem ++ ".rs"], .file text false) ∈ sources.additions p text :=
      (Sources.mem_additions h).mpr (.inr ⟨by rw [(source_eq_indexName_iff stem).mpr hstem], rfl⟩)
    exact iff_of_true ⟨text, false, hadds.added _ _ hindex⟩ (.inl hstem)
  · have hkept := hadds.kept _ fun hkey => hstem ((Sources.mem_keys_source_iff h).mp hkey)
    rw [HoldsFile, HoldsFile, hkept, or_iff_right hstem]

namespace Delivers

variable {report : Report} {declared : List String}

theorem mem_declared (h : Delivers r fetch prepared p report declared text t) {m : String} :
    m ∈ declared ↔ ∃ c ∈ compiled r fetch r.providers, c.1.directory = m := by
  rw [h.declares.perm.mem_iff, h.reports, List.map_map, List.mem_map]
  rfl

theorem get?_index (h : Delivers r fetch prepared p report declared text t) :
    t.get? (p ++ [indexName]) = some (.file text false) :=
  h.adds.added _ _ ((Sources.mem_additions h.separate).mpr (.inr ⟨rfl, rfl⟩))

theorem get?_own (h : Delivers r fetch prepared p report declared text t)
    {c : ProviderSpec × ProviderSource} (hc : c ∈ compiled r fetch r.providers) :
    ∃ own, (moduleIndex c.1.indexDoc c.2.tree.modules).render Code.toolVersion = .ok own ∧
      t.get? (p ++ [c.1.stem, indexName]) = some (.file own false) := by
  obtain ⟨own, hown, hhas⟩ := exists_index (mem_compiled.mp hc).2
  refine ⟨own, hown, h.adds.added _ _ ?_⟩
  exact (Sources.mem_additions h.separate).mpr (.inl ⟨c, hc, indexName, own, hhas, .inr ⟨by simp, rfl⟩⟩)

theorem resolvesToOwn_iff (h : Delivers r fetch prepared p report declared text t)
    {c : ProviderSpec × ProviderSource} (hc : c ∈ compiled r fetch r.providers) :
    ResolvesToOwn t p (compiled r fetch r.providers) c.1.directory ↔
      c.1.stem ≠ "mod" ∧ ¬ HoldsFile prepared (p ++ [c.1.stem ++ ".rs"]) := by
  have hfile : ¬ HoldsFile t (p ++ [c.1.stem ++ ".rs"]) ↔
      c.1.stem ≠ "mod" ∧ ¬ HoldsFile prepared (p ++ [c.1.stem ++ ".rs"]) := by
    rw [holdsFile_source_iff h.separate h.adds, not_or]
  obtain ⟨own, hown, hget⟩ := h.get?_own hc
  rw [← hfile]
  constructor
  · rintro ⟨c', hc', hdirectory, hresolves, -⟩ hbeside
    have hplace := hresolves.only _ List.mem_cons_self hbeside
    simp at hplace
  · intro hbeside
    refine ⟨c, hc, rfl, ⟨by simp [lookups, ProviderSpec.stem], ⟨own, false, hget⟩, fun b hb hfile => ?_⟩,
      own, false, hown, hget⟩
    rcases List.mem_cons.mp hb with rfl | hb
    · exact absurd hfile hbeside
    · exact List.mem_singleton.mp hb

theorem not_resolves (h : Delivers r fetch prepared p report declared text t)
    {c : ProviderSpec × ProviderSource} (hc : c ∈ compiled r fetch r.providers) (hstem : c.1.stem = "mod")
    (a : Place) : ¬ Resolves t p c.1.directory a := by
  intro hresolves
  obtain ⟨own, -, hget⟩ := h.get?_own hc
  have hbeside := hresolves.only _ List.mem_cons_self
    ((holdsFile_source_iff h.separate h.adds).mpr (.inl hstem))
  have hinside := hresolves.only (p ++ [c.1.stem, indexName]) (by simp [lookups, ProviderSpec.stem])
    ⟨own, false, hget⟩
  have hsame := hbeside.trans hinside.symm
  simp at hsame

end Delivers

/-- After a run in which no write failed every module of its index is the index of its own provider and no
other file, as long as no module has the stem of the index itself and the preparation has left no file with
the stem of a module beside it; such a file cannot be left when the path is not empty and never leads up. -/
theorem resolvesToOwn_iff_stems {fetch : FileTree → ProviderSpec → Fetch} {report : Report}
    (ht : t.WellFormed) (h : generate r fetch t = (t', .ok report)) (hw : ∀ e, .output e ∉ report.failures) :
    ∃ prepared p declared text, Output.prepare r.outDirectory r.force t = (prepared, .ok ()) ∧
      t'.Leads (.ofText r.outDirectory) p ∧
      t'.get? (p ++ [indexName]) = some (.file text false) ∧
      Declares (report.providers.map fun q => moduleName q.localName) declared text ∧
      ((∀ m ∈ declared, ResolvesToOwn t' p (compiled r (fetch prepared) r.providers) m) ↔
        ∀ q ∈ report.providers, snakeCase q.localName ≠ "mod" ∧
          ¬ HoldsFile prepared (p ++ [fileStem (moduleName q.localName) ++ ".rs"])) ∧
      (r.outDirectory ≠ "" → ".." ∉ (Route.ofText r.outDirectory).steps →
        ((∀ m ∈ declared, ResolvesToOwn t' p (compiled r (fetch prepared) r.providers) m) ↔
          ∀ q ∈ report.providers, snakeCase q.localName ≠ "mod")) := by
  obtain ⟨prepared, p, declared, text, hp, hdelivers⟩ := delivers_generate ht h hw
  have hiff : (∀ m ∈ declared, ResolvesToOwn t' p (compiled r (fetch prepared) r.providers) m) ↔
      ∀ q ∈ report.providers, snakeCase q.localName ≠ "mod" ∧
        ¬ HoldsFile prepared (p ++ [fileStem (moduleName q.localName) ++ ".rs"]) := by
    rw [hdelivers.reports, List.forall_mem_map]
    constructor
    · intro hall c hc
      have hown := hall c.1.directory (hdelivers.mem_declared.mpr ⟨c, hc, rfl⟩)
      rw [ne_eq, ← Naming.fileStem_moduleName_eq_mod_iff]
      exact (hdelivers.resolvesToOwn_iff hc).mp hown
    · intro hall m hm
      obtain ⟨c, hc, rfl⟩ := hdelivers.mem_declared.mp hm
      have hstem := hall c hc
      rw [ne_eq, ← Naming.fileStem_moduleName_eq_mod_iff] at hstem
      exact (hdelivers.resolvesToOwn_iff hc).mpr hstem
  refine ⟨prepared, p, declared, text, hp, hdelivers.leads.mono hdelivers.adds.grows, hdelivers.get?_index,
    hdelivers.declares, hiff, fun hne hup => hiff.trans (forall₂_congr fun q _ => and_iff_left ?_)⟩
  rintro ⟨contents, x, hget⟩
  have hbelow : FileTree.isBelow p (p ++ [fileStem (moduleName q.localName) ++ ".rs"]) = true :=
    FileTree.isBelow_iff.mpr ⟨List.prefix_append _ _, by simp⟩
  have hleft := hdelivers.regular.mem_inside.mpr ⟨hbelow, hget⟩
  rw [Output.inside_of_prepare ht hp hdelivers.leads hne hup] at hleft
  cases hleft

/-! ### Runs with one provider -/

def bareSource (e : Entity) (mount : ModulePath) (version : String) : Except EntityError EntitySource :=
  match e.bindings mount ⟨[], [], []⟩ with
  | .error x => .error (.bindings x)
  | .ok b => (rendered version e.names.filePath b.file).map fun file => ⟨[file], [e.names.unit]⟩

theorem source?_bare (spec : ProviderSpec) (mount : ModulePath) (version : String) :
    (Entity.ofProvider spec Schema.Entry.empty.block).source? mount version =
      bareSource (Entity.ofProvider spec Schema.Entry.empty.block) mount version := by
  have hg : Graph.ofBlock (Entity.ofProvider spec Schema.Entry.empty.block).block = .ok ⟨[], [], []⟩ := rfl
  rw [bareSource]
  cases hb : (Entity.ofProvider spec Schema.Entry.empty.block).bindings mount ⟨[], [], []⟩ with
  | error x => simp [Entity.source?, Entity.bindings?, hg, Graph.disambiguated_empty, hb, bind, Except.bind]
  | ok b =>
      have hnone : b.nested = none := by
        have hsome := (Entity.bindings_spec hb).1
        simpa using hsome
      simp [Entity.source?, Entity.bindings?, hg, Graph.disambiguated_empty, hb, hnone, bind, Except.bind,
        Except.map]

theorem sourceOf_document {spec : ProviderSpec} {document rest : Schema.Document} {schema : Schema.Provider}
    (h : document.resolve spec = .ok (schema, rest)) :
    sourceOf r spec (.document document) =
      (spec.source? schema r.mount Code.toolVersion).mapError .render := by
  rw [sourceOf, h]
  cases hs : spec.source? schema r.mount Code.toolVersion with
  | error e => simp only [bind, Except.bind, hs, Except.mapError]
  | ok source => simp only [bind, Except.bind, hs, Except.mapError]

def sole (localName : String) : Request := Request.ofProviders "gen" [⟨localName, "acme/void", "1"⟩]

def answered (_ : FileTree) (_ : ProviderSpec) : Fetch := .document ⟨"1.0", [("acme/void", ⟨.empty, [], []⟩)]⟩

theorem generate_sole {localName : String} (h : localName = "void" ∨ localName = "mod") :
    ∃ t, generate (sole localName) answered (FileTree.empty []) = (t, .ok ⟨[⟨localName, 1, 2⟩], []⟩) := by
  refine ⟨(generate (sole localName) answered (FileTree.empty [])).1, Prod.ext rfl ?_⟩
  have hresolve : Schema.Document.resolve ⟨"1.0", [("acme/void", ⟨.empty, [], []⟩)]⟩
      ⟨localName, "acme/void", "1"⟩ = .ok (⟨.empty, [], []⟩, ⟨"1.0", []⟩) := by
    simp [Schema.Document.resolve, Schema.Document.take?, Table.get?, Table.erase]
  have hsource : sourceOf (sole localName) ⟨localName, "acme/void", "1"⟩
      (.document ⟨"1.0", [("acme/void", ⟨.empty, [], []⟩)]⟩) =
        ((ProviderSpec.mk localName "acme/void" "1").source? ⟨.empty, [], []⟩ .standard
          Code.toolVersion).mapError .render :=
    sourceOf_document hresolve
  simp only [sole, Request.ofProviders, ProviderSpec.source?, ProviderSpec.entities, List.map_nil,
    List.append_nil, ProviderTree.addEntities, ProviderTree.addEntity, source?_bare] at hsource
  simp only [generate, sole, Request.ofProviders, runProviders, runProvider, answered]
  rw [hsource]
  rcases h with rfl | rfl
  · decide +kernel
  · decide +kernel

theorem wellFormed_empty : (FileTree.empty []).WellFormed where
  ordered := List.Pairwise.nil
  rootless := by decide
  above := nofun
  working := rfl

theorem resolvesToOwn_void : ∃ t report,
    generate (sole "void") answered (FileTree.empty []) = (t, .ok report) ∧ report.failures = [] ∧
      ∃ prepared p declared text, t.Leads (.ofText "gen") p ∧
        t.get? (p ++ [indexName]) = some (.file text false) ∧ Declares ["void"] declared text ∧
        ∀ m ∈ declared,
          ResolvesToOwn t p (compiled (sole "void") (answered prepared) (sole "void").providers) m := by
  obtain ⟨t, hok⟩ := generate_sole (.inl rfl)
  obtain ⟨prepared, p, declared, text, -, hl, hindex, hdeclares, -, hiff⟩ :=
    resolvesToOwn_iff_stems wellFormed_empty hok (by simp)
  have hown := (hiff (by decide) (by decide +kernel)).mpr (by decide +kernel)
  exact ⟨t, _, hok, rfl, prepared, p, declared, text, hl, hindex, hdeclares, hown⟩

/-- The index of a provider called `mod` is one of the two files that its declaration may stand for, and the
index with the declaration is the other one. -/
theorem not_resolves_mod : parseProviderSpecs ["mod=acme/void:1"] = .ok (sole "mod").providers ∧
    ∃ t report, generate (sole "mod") answered (FileTree.empty []) = (t, .ok report) ∧
      report.failures = [] ∧ ∃ p declared text, t.Leads (.ofText "gen") p ∧
        t.get? (p ++ [indexName]) = some (.file text false) ∧ Declares ["r#mod"] declared text ∧
        "r#mod" ∈ declared ∧ ∀ a, ¬ Resolves t p "r#mod" a := by
  obtain ⟨t, hok⟩ := generate_sole (.inr rfl)
  obtain ⟨prepared, p, declared, text, -, hdelivers⟩ := delivers_generate wellFormed_empty hok (by simp)
  have hmodule : moduleName "mod" = "r#mod" := by decide +kernel
  have hdeclares : Declares ["r#mod"] declared text := by
    rw [← hmodule]
    exact hdelivers.declares
  have hmem : "r#mod" ∈ declared := hdeclares.perm.mem_iff.mpr List.mem_cons_self
  refine ⟨by decide +kernel, t, _, hok, rfl, p, declared, text, hdelivers.leads.mono hdelivers.adds.grows,
    hdelivers.get?_index, hdeclares, hmem, fun a hresolves => ?_⟩
  obtain ⟨c, hc, hdirectory⟩ := hdelivers.mem_declared.mp hmem
  have hstem : c.1.stem = "mod" := by
    rw [ProviderSpec.stem, hdirectory]
    decide
  rw [← hdirectory] at hresolves
  exact hdelivers.not_resolves hc hstem a hresolves

end Generation

end ProviderBindings
