import ProviderBindings.Proofs.Generation.Sources
import ProviderBindings.Proofs.Output.Preparation

/-!
What the output directory holds after a run in which every file was written: the index and the files of the
providers that did not fail. Nothing else is there exactly when the preparation left nothing behind but what
is on the way to these files.
-/

namespace ProviderBindings

open FileTree (Adds Leads)
open Naming (fileStem)
open Route (IsName)

namespace Generation

variable {r : Request} {fetch : ProviderSpec → Fetch} {p : Place} {t t' : FileTree}

theorem adds_writeAll {directory s : String} {files : List (String × OwnedFile)}
    (hl : t.Leads (.ofText directory) p) (hs : IsName s) (hf : ∀ path ∈ Table.keys files, LiesIn s path)
    (hc : Additions.Consistent (files.flatMap fun f => Output.additions p f.1 f.2.contents))
    (hw : ∀ e, .output e ∉ (writeAll directory files t).2.2) :
    t.Adds (files.flatMap fun f => Output.additions p f.1 f.2.contents) (writeAll directory files t).1 ∧
      (writeAll directory files t).2 = (files.length, []) := by
  induction files generalizing t with
  | nil => exact ⟨Adds.refl _, rfl⟩
  | cons file rest ih =>
      obtain ⟨path, f⟩ := file
      rw [writeAll_cons] at hw ⊢
      rcases hwrite : Output.write directory f.owner ⟨path, f.contents⟩ t with ⟨t₁, e | place⟩
      · rw [hwrite] at hw
        exact absurd List.mem_cons_self (hw e)
      · rw [hwrite] at hw
        have hadds := Output.adds_write hl hs (hf path List.mem_cons_self) hwrite
        obtain ⟨hothers, heq⟩ := ih (hl.mono hadds.grows)
          (fun path hp => hf path (List.mem_cons_of_mem _ hp))
          (hc.mono (List.subset_append_right _ _)) hw
        refine ⟨hadds.trans hothers hc, ?_⟩
        dsimp only
        rw [heq]
        rfl

theorem adds_runProvider {spec : ProviderSpec} {fetched : Fetch} {source : ProviderSource}
    (hl : t.Leads (.ofText r.outDirectory) p) (hsource : sourceOf r spec fetched = .ok source)
    (hc : Additions.Consistent (source.additions p))
    (hw : ∀ e, .output e ∉ (runProvider r spec fetched t).2.failures) :
    t.Adds (source.additions p) (runProvider r spec fetched t).1 ∧
      (runProvider r spec fetched t).2.written =
        some (⟨spec.localName, source.entities, source.tree.files.length⟩, spec.directory) := by
  obtain ⟨hfiled, hdirectory⟩ := filedIn_sourceOf hsource
  have hwrites := adds_writeAll hl spec.isName_stem hfiled.placed hc
  rw [runProvider, hsource] at hw ⊢
  dsimp only at hw ⊢
  generalize writeAll r.outDirectory source.tree.files t = written at hwrites hw ⊢
  obtain ⟨t₁, written⟩ := written
  obtain ⟨hadds, rfl⟩ := hwrites fun e hmem => hw e (List.mem_append_right _ hmem)
  exact ⟨hadds, by rw [hdirectory]⟩

theorem adds_runProviders {providers : List ProviderSpec} (hl : t.Leads (.ofText r.outDirectory) p)
    (hc : Additions.Consistent ((compiled r fetch providers).flatMap fun c => c.2.additions p))
    (hw : ∀ e, .output e ∉ (runProviders r fetch providers t).2.flatMap ProviderRun.failures) :
    t.Adds ((compiled r fetch providers).flatMap fun c => c.2.additions p)
        (runProviders r fetch providers t).1 ∧
      (runProviders r fetch providers t).2.filterMap ProviderRun.written =
        (compiled r fetch providers).map fun c =>
          (⟨c.1.localName, c.2.entities, c.2.tree.files.length⟩, c.1.directory) := by
  induction providers generalizing t with
  | nil => exact ⟨Adds.refl _, rfl⟩
  | cons spec rest ih =>
      rw [runProviders_cons] at hw ⊢
      dsimp only at hw ⊢
      simp only [List.flatMap_cons, List.mem_append, not_or, forall_and] at hw
      cases hsource : sourceOf r spec (fetch spec) with
      | error e =>
          -- A provider that fails writes nothing and reports nothing.
          have hskip : compiled r fetch (spec :: rest) = compiled r fetch rest := by
            simp [compiled, hsource, Except.toOption]
          have hrun : runProvider r spec (fetch spec) t = (t, ⟨none, [e]⟩) := by rw [runProvider, hsource]
          rw [hskip] at hc ⊢
          rw [hrun] at hw ⊢
          exact ih hl hc hw.2
      | ok source =>
          have htake : compiled r fetch (spec :: rest) = (spec, source) :: compiled r fetch rest := by
            simp [compiled, hsource, Except.toOption]
          rw [htake] at hc ⊢
          simp only [List.flatMap_cons] at hc ⊢
          obtain ⟨hadds, hwritten⟩ := adds_runProvider hl hsource
            (hc.mono (List.subset_append_left _ _)) hw.1
          obtain ⟨hothers, hreports⟩ := ih (hl.mono hadds.grows)
            (hc.mono (List.subset_append_right _ _)) hw.2
          refine ⟨hadds.trans hothers hc, ?_⟩
          rw [List.filterMap_cons, hwritten, hreports, List.map_cons]

structure Declares (modules declared : List String) (text : String) : Prop where
  perm : declared.Perm modules
  ordered : (declared.map fileStem).Pairwise (· < ·)
  rendered : (moduleIndex "Generated provider bindings." declared).render Code.toolVersion = .ok text

theorem declares_rootIndex {modules : List String} {index : SourceFile}
    (hd : (modules.map fileStem).Nodup) (h : rootIndex Code.toolVersion modules = .ok index) :
    ∃ text, Declares modules (sortModules modules) text ∧ index = ⟨indexName, text⟩ := by
  obtain ⟨text, htext, rfl⟩ := map_eq_ok_iff.mp h
  have hperm : (sortModules modules).Perm modules := List.mergeSort_perm modules _
  have hle : (sortModules modules).Pairwise fun a b => fileStem a ≤ fileStem b := by
    refine (List.pairwise_mergeSort ?_ ?_ modules).imp of_decide_eq_true
    · simp only [decide_eq_true_eq]
      exact fun a b c => Std.le_trans
    · simp only [Bool.or_eq_true, decide_eq_true_eq]
      exact fun a b => Std.le_total
  have hne := List.pairwise_map.mp ((hperm.map fileStem).nodup_iff.mpr hd)
  exact ⟨text, ⟨hperm, List.pairwise_map.mpr ((hle.and hne).imp fun h => Std.lt_of_le_of_ne h.1 h.2), htext⟩,
    rfl⟩

structure Exact (r : Request) (fetch : ProviderSpec → Fetch) (p : Place) (report : Report) (t : FileTree) :
    Prop where
  providers : report.providers = (compiled r fetch r.providers).map fun c =>
    ⟨c.1.localName, c.2.entities, c.2.tree.files.length⟩
  leaves : ∃ declared text,
    Declares (report.providers.map fun q => Naming.moduleName q.localName) declared text ∧
      (t.leaves p).Perm (Sources.leaves p text (compiled r fetch r.providers))
  counted : report.filesWritten = (t.leaves p).length

theorem length_leaves (p : Place) (text : String) (sources : Sources) :
    (Sources.leaves p text sources).length =
      (sources.map fun c => c.2.tree.files.length).foldr (fun m n => m + n) 1 := by
  rw [Sources.leaves, List.length_cons]
  induction sources with
  | nil => rfl
  | cons c rest ih =>
      rw [List.flatMap_cons, List.length_append, List.map_cons, List.foldr_cons, ← ih, ProviderSource.leaves,
        List.length_map]
      omega

theorem generate_eq_ok {fetch : FileTree → ProviderSpec → Fetch} {report : Report}
    (h : generate r fetch t = (t', .ok report)) :
    checkProviderModules r.providers = .ok () ∧
      ∃ prepared t₁ runs, Output.prepare r.outDirectory r.force t = (prepared, .ok ()) ∧
        runProviders r (fetch prepared) r.providers prepared = (t₁, runs) ∧
        writeIndex r (modulesOf runs) t₁ = (t', .ok ()) ∧ report = reportOf runs := by
  rw [generate] at h
  split at h
  · cases h
  · rename_i hc
    refine ⟨hc, ?_⟩
    split at h
    · cases h
    · rename_i prepared hp
      rcases hruns : runProviders r (fetch prepared) r.providers prepared with ⟨t₁, runs⟩
      rw [hruns] at h
      dsimp only at h
      split at h
      · cases h
      · rename_i hindex
        cases h
        exact ⟨prepared, t₁, runs, hp, hruns, hindex, rfl⟩

theorem writeIndex_eq_ok {modules : List String} (h : writeIndex r modules t = (t', .ok ())) :
    ∃ index path, rootIndex Code.toolVersion modules = .ok index ∧
      Output.write r.outDirectory ProviderTree.indexOwner index t = (t', .ok path) := by
  rw [writeIndex] at h
  split at h
  · cases h
  · rename_i index hindex
    split at h
    · rename_i path hwrite
      cases h
      exact ⟨index, path, hindex, hwrite⟩
    · cases h

theorem reports_of_written {runs : List ProviderRun} {sources : Sources}
    (h : runs.filterMap ProviderRun.written = sources.map fun c =>
      (⟨c.1.localName, c.2.entities, c.2.tree.files.length⟩, c.1.directory)) :
    ((reportOf runs).providers = sources.map fun c =>
        ⟨c.1.localName, c.2.entities, c.2.tree.files.length⟩) ∧
      modulesOf runs = (reportOf runs).providers.map fun q => Naming.moduleName q.localName := by
  have hreports : (reportOf runs).providers = sources.map fun c =>
      ⟨c.1.localName, c.2.entities, c.2.tree.files.length⟩ := by
    rw [reportOf, ← List.map_filterMap, h, List.map_map, Function.comp_def]
  refine ⟨hreports, ?_⟩
  rw [hreports, modulesOf, ← List.map_filterMap, h, List.map_map, List.map_map]
  simp only [Function.comp_def, ProviderSpec.directory]

structure Delivers (r : Request) (fetch : ProviderSpec → Fetch) (prepared : FileTree) (p : Place)
    (report : Report) (declared : List String) (text : String) (t : FileTree) : Prop where
  regular : prepared.Regular
  leads : prepared.Leads (.ofText r.outDirectory) p
  separate : (compiled r fetch r.providers).Separate
  adds : prepared.Adds (Sources.additions p text (compiled r fetch r.providers)) t
  reports : report.providers = (compiled r fetch r.providers).map fun c =>
    ⟨c.1.localName, c.2.entities, c.2.tree.files.length⟩
  declares : Declares (report.providers.map fun q => Naming.moduleName q.localName) declared text

theorem delivers_generate {fetch : FileTree → ProviderSpec → Fetch} {report : Report} (ht : t.WellFormed)
    (h : generate r fetch t = (t', .ok report)) (hw : ∀ e, .output e ∉ report.failures) :
    ∃ prepared p declared text, Output.prepare r.outDirectory r.force t = (prepared, .ok ()) ∧
      Delivers r (fetch prepared) prepared p report declared text t' := by
  obtain ⟨hc, prepared, t₁, runs, hp, hruns, hindex, rfl⟩ := generate_eq_ok h
  obtain ⟨hregular, p, hl⟩ := Output.leads_of_prepare ht hp
  have hseparate : (compiled r (fetch prepared) r.providers).Separate :=
    separate_compiled (checkProviderModules_eq_ok_iff.mp hc)
  have hconsistent : ∀ text, (Sources.additions p text
      (compiled r (fetch prepared) r.providers)).Consistent := fun _ => Sources.consistent_additions hseparate
  obtain ⟨hadds, hwritten⟩ := adds_runProviders hl
    ((hconsistent "").mono (List.subset_append_left _ _)) (by rw [hruns]; exact hw)
  rw [hruns] at hadds hwritten
  obtain ⟨hreports, hmodules⟩ := reports_of_written hwritten
  have hstems : ((modulesOf runs).map fileStem).Nodup := by
    have hdistinct := hseparate.distinct
    simp only [ProviderSpec.stem, ProviderSpec.directory] at hdistinct
    rw [hmodules, hreports, List.map_map, List.map_map]
    simpa only [Function.comp_def] using hdistinct
  obtain ⟨index, path, hroot, hwrite⟩ := writeIndex_eq_ok hindex
  obtain ⟨text, hdeclares, rfl⟩ := declares_rootIndex hstems hroot
  rw [hmodules] at hdeclares
  have hadded := Output.adds_write_index (hl.mono hadds.grows) hwrite
  exact ⟨prepared, p, _, text, hp, hregular, hl, hseparate, hadds.trans hadded (hconsistent text), hreports,
    hdeclares⟩

theorem Delivers.exact_iff_onWay {report : Report} {prepared : FileTree} {declared : List String}
    {text : String} (h : Delivers r fetch prepared p report declared text t) :
    Exact r fetch p report t ↔ ∀ e ∈ prepared.inside p,
      ∃ place ∈ Sources.places p (compiled r fetch r.providers), e.1 <+: place := by
  constructor
  · intro hexact
    obtain ⟨_, _, -, hperm⟩ := hexact.leaves
    exact onWay_of_perm_leaves h.regular (h.adds.regular h.regular) h.adds.grows hperm
  · intro hway
    have hperm := perm_leaves h.separate h.regular h.leads.directory h.adds hway
    refine ⟨h.reports, ⟨declared, text, h.declares, hperm⟩, ?_⟩
    rw [hperm.length_eq, length_leaves, Report.filesWritten, h.reports, List.foldr_map, List.foldr_map]

/-- After a run in which no write failed the output directory holds the index and the files of the reported
providers and nothing else, as long as the preparation left nothing in it but what is on the way to these
files; that is so for every path that is not empty and never leads up. -/
theorem exact_iff {fetch : FileTree → ProviderSpec → Fetch} {report : Report} (ht : t.WellFormed)
    (h : generate r fetch t = (t', .ok report)) (hw : ∀ e, .output e ∉ report.failures) :
    ∃ prepared p, Output.prepare r.outDirectory r.force t = (prepared, .ok ()) ∧
      prepared.Leads (.ofText r.outDirectory) p ∧
      (Exact r (fetch prepared) p report t' ↔ ∀ e ∈ prepared.inside p,
        ∃ place ∈ Sources.places p (compiled r (fetch prepared) r.providers), e.1 <+: place) ∧
      (r.outDirectory ≠ "" → ".." ∉ (Route.ofText r.outDirectory).steps →
        Exact r (fetch prepared) p report t') := by
  obtain ⟨prepared, p, declared, text, hp, hdelivers⟩ := delivers_generate ht h hw
  have hiff := hdelivers.exact_iff_onWay
  refine ⟨prepared, p, hp, hdelivers.leads, hiff, fun hne hup => hiff.mpr ?_⟩
  rw [Output.inside_of_prepare ht hp hdelivers.leads hne hup]
  nofun

def populated : FileTree :=
  ⟨[(["gen"], .directory), (["gen", "stale.rs"], .file "// stale\n" false)], []⟩

theorem wellFormed_populated : populated.WellFormed where
  ordered := List.pairwise_pair.mpr (by decide)
  rootless := by decide
  above := by
    intro p e he
    rcases List.mem_cons.mp he with heq | he
    · cases heq
      rfl
    · cases List.mem_singleton.mp he
      rfl
  working := rfl

def replacing (directory : String) : Request :=
  { Request.ofProviders directory [⟨"random", "hashicorp/random", "3.4.0"⟩] with force := true }

def noAnswer (_ : FileTree) (_ : ProviderSpec) : Fetch := .timedOut

theorem exact_replacing : ∃ t report, generate (replacing "gen") noAnswer populated = (t, .ok report) ∧
    ∃ prepared p, prepared.Leads (.ofText "gen") p ∧
      Exact (replacing "gen") (noAnswer prepared) p report t ∧
      (p ++ ["stale.rs"], some "// stale\n") ∉ t.leaves p := by
  have hok : generate (replacing "gen") noAnswer populated =
      ((generate (replacing "gen") noAnswer populated).1, .ok ⟨[], [.timeout "random" 300000]⟩) :=
    Prod.ext rfl (by decide +kernel)
  obtain ⟨prepared, p, -, hl, -, hexact⟩ := exact_iff wellFormed_populated hok (by simp)
  have hexact := hexact (by decide) (by decide +kernel)
  refine ⟨_, _, hok, prepared, p, hl, hexact, fun hstale => ?_⟩
  obtain ⟨_, text, -, hperm⟩ := hexact.leaves
  have hindex : (p ++ ["stale.rs"], some "// stale\n") = (p ++ [indexName], some text) :=
    List.mem_singleton.mp (hperm.mem_iff.mp hstale)
  have hname : "stale.rs" = indexName := by simpa using (Prod.mk.inj hindex).1
  revert hname
  decide

/-- A path that leads up from a directory which is missing is not found, and making the directories on its way
succeeds in the directory that is there already, whose files stay. -/
theorem not_exact_replacing : ∃ t report,
    generate (replacing "missing/../gen") noAnswer populated = (t, .ok report) ∧
      (∀ e, .output e ∉ report.failures) ∧ t.Leads (.ofText "missing/../gen") ["gen"] ∧
      (["gen", "stale.rs"], some "// stale\n") ∈ t.leaves ["gen"] ∧
      ∀ prepared, ¬ Exact (replacing "missing/../gen") (noAnswer prepared) ["gen"] report t := by
  refine ⟨_, ⟨[], [.timeout "random" 300000]⟩, Prod.ext rfl (by decide +kernel), by simp,
    ⟨by decide +kernel, by decide +kernel, by decide +kernel⟩, by decide +kernel, fun prepared hexact => ?_⟩
  have hcount := hexact.counted
  revert hcount
  decide +kernel

end Generation

end ProviderBindings
