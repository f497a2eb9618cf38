import ProviderBindings.Bindings.Source
import ProviderBindings.Proofs.Bindings.Closed
import ProviderBindings.Proofs.Entity.OutputPaths

/-!
The source files of an entity: which paths they have, and when two of them have one.
-/

namespace ProviderBindings

namespace Entity

variable (mount : ModulePath) (version : String)

def outputFiles (e : Entity) : List SourceFile :=
  match e.source? mount version with
  | .ok source => source.files
  | .error _ => []

def outputPaths (e : Entity) : List String := (e.outputFiles mount version).map SourceFile.path

def outputModules (e : Entity) : List String :=
  match e.source? mount version with
  | .ok source => source.modules
  | .error _ => []

end Entity

namespace Entity

variable {e : Entity} {mount : ModulePath} {version : String} {source : EntitySource}

def HasNodes (e : Entity) : Prop := ∃ g, Graph.ofBlock e.block = .ok g ∧ g.nodes ≠ []

theorem rendered_eq_ok_iff {path : String} {f : Code.File} {file : SourceFile} :
    rendered version path f = .ok file ↔ ∃ text, f.render version = .ok text ∧ file = ⟨path, text⟩ := by
  rw [rendered]
  split
  · rename_i h
    simp [h, eq_comm]
  · rename_i h
    simp [h]

theorem bindings?_eq_ok_iff {b : Bindings} :
    e.bindings? mount = .ok b ↔
      ∃ g₀ g, Graph.ofBlock e.block = .ok g₀ ∧ g₀.disambiguated = .ok g ∧ e.bindings mount g = .ok b := by
  rw [bindings?]
  cases hb : Graph.ofBlock e.block with
  | error x => simp
  | ok g₀ =>
      cases hd : g₀.disambiguated with
      | error c => simp [hd]
      | ok g => cases hm : e.bindings mount g <;> simp [hd, hm]

theorem nodes_eq_nil_iff {g₀ g : Graph} (hd : g₀.disambiguated = .ok g) :
    g.nodes = [] ↔ g₀.nodes = [] := by
  have hnodes := congrArg (fun g => g.nodes.length) (Graph.unqualified_of_disambiguated hd)
  simp only [Graph.unqualified, List.length_map] at hnodes
  rw [← List.length_eq_zero_iff, ← List.length_eq_zero_iff, hnodes]

def Stored (e : Entity) (mount : ModulePath) (version : String) (files : Table OwnedFile) : Prop :=
  ∃ g₀ g b, Graph.ofBlock e.block = .ok g₀ ∧ g₀.disambiguated = .ok g ∧ e.bindings mount g = .ok b ∧
    (∃ text, b.file.render version = .ok text ∧
      Table.get? e.names.filePath files = some ⟨e.display, text⟩) ∧
    (g.nodes ≠ [] → ∃ nested text, b.nested = some nested ∧ nested.render version = .ok text ∧
      Table.get? e.names.nestedPath files = some ⟨e.display, text⟩)

theorem source?_cases (h : e.source? mount version = .ok source) :
    ∃ g₀ g b file, Graph.ofBlock e.block = .ok g₀ ∧ g₀.disambiguated = .ok g ∧
      e.bindings mount g = .ok b ∧ b.file.render version = .ok file ∧
      (g.nodes = [] ∧ source = ⟨[⟨e.names.filePath, file⟩], [e.names.unit]⟩ ∨
        g.nodes ≠ [] ∧ ∃ f nested, b.nested = some f ∧ f.render version = .ok nested ∧
          source = ⟨[⟨e.names.filePath, file⟩, ⟨e.names.nestedPath, nested⟩],
            [e.names.unit, e.names.nested]⟩) := by
  obtain ⟨b, hb, h⟩ := bind_eq_ok_iff.mp h
  obtain ⟨first, hf, h⟩ := bind_eq_ok_iff.mp h
  obtain ⟨g₀, g, hg, hd, hb⟩ := bindings?_eq_ok_iff.mp hb
  obtain ⟨file, hfile, rfl⟩ := rendered_eq_ok_iff.mp hf
  have hsome := (bindings_spec hb).1
  refine ⟨g₀, g, b, file, hg, hd, hb, hfile, ?_⟩
  cases hn : b.nested with
  | none =>
      rw [hn] at h hsome
      cases h
      refine .inl ⟨?_, rfl⟩
      simpa using hsome
  | some f =>
      rw [hn] at h hsome
      obtain ⟨second, hs, h⟩ := bind_eq_ok_iff.mp h
      obtain ⟨nested, hnested, rfl⟩ := rendered_eq_ok_iff.mp hs
      cases h
      exact .inr ⟨hsome.mp rfl, f, nested, rfl, hnested, rfl⟩

theorem outputPaths_eq (e : Entity) (mount : ModulePath) (version : String) :
    e.outputPaths mount version = (e.outputModules mount version).map (sourcePath e.spec.directory) := by
  rw [outputPaths, outputFiles, outputModules]
  cases h : e.source? mount version with
  | error x => rfl
  | ok source =>
      obtain ⟨_, _, _, _, _, _, _, _, ⟨_, rfl⟩ | ⟨_, _, _, _, _, rfl⟩⟩ := source?_cases h
      · rfl
      · rfl

theorem nodup_outputPaths_iff (h : e.source? mount version = .ok source) :
    (e.outputPaths mount version).Nodup ↔ (e.HasNodes → e.names.filePath ≠ e.names.nestedPath) := by
  rw [outputPaths, outputFiles, h]
  obtain ⟨g₀, g, _, _, hg, hd, _, _, ⟨hn, rfl⟩ | ⟨hn, _, _, _, _, rfl⟩⟩ := source?_cases h
  · have hnot : ¬ e.HasNodes := by
      rintro ⟨g', hg', hne⟩
      rw [hg] at hg'
      cases hg'
      exact hne ((nodes_eq_nil_iff hd).mp hn)
    simp [hnot]
  · have hnodes : e.HasNodes := ⟨g₀, hg, fun h => hn ((nodes_eq_nil_iff hd).mpr h)⟩
    simp [hnodes]

theorem outputModules_subset (e : Entity) (mount : ModulePath) (version : String) :
    ∀ m ∈ e.outputModules mount version, m = e.names.unit ∨ m = e.names.nested := by
  rw [outputModules]
  cases h : e.source? mount version with
  | error x => simp
  | ok source =>
      obtain ⟨_, _, _, _, _, _, _, _, ⟨_, rfl⟩ | ⟨_, _, _, _, _, rfl⟩⟩ := source?_cases h
      · simp
      · simp

def possiblePaths (e : Entity) : List String := [e.names.filePath, e.names.nestedPath]

theorem outputPaths_subset (e : Entity) (mount : ModulePath) (version : String) :
    ∀ path ∈ e.outputPaths mount version, path ∈ e.possiblePaths := by
  intro path hp
  rw [outputPaths_eq] at hp
  obtain ⟨m, hm, rfl⟩ := List.mem_map.mp hp
  rcases e.outputModules_subset mount version m hm with rfl | rfl
  · exact List.mem_cons_self
  · exact List.mem_cons_of_mem _ List.mem_cons_self

theorem stored_of_outputFiles {files : Table OwnedFile} (h : e.source? mount version = .ok source)
    (hf : ∀ f ∈ e.outputFiles mount version,
      Table.get? f.path files = some ⟨e.display, f.contents⟩) :
    e.Stored mount version files := by
  have hfiles : e.outputFiles mount version = source.files := by rw [outputFiles, h]
  rw [hfiles] at hf
  obtain ⟨g₀, g, b, file, hg, hd, hb, hr, ⟨hn, rfl⟩ | ⟨_, f, nested, hs, hr', rfl⟩⟩ := source?_cases h
  · have hfile := hf ⟨e.names.filePath, file⟩ (by simp)
    exact ⟨g₀, g, b, hg, hd, hb, ⟨file, hr, hfile⟩, fun hne => absurd hn hne⟩
  · have hfile := hf ⟨e.names.filePath, file⟩ (by simp)
    have hnested := hf ⟨e.names.nestedPath, nested⟩ (by simp)
    exact ⟨g₀, g, b, hg, hd, hb, ⟨file, hr, hfile⟩, fun _ => ⟨f, nested, hs, hr', hnested⟩⟩

theorem exists_source? {b : Bindings}
    (hb : e.bindings? mount = .ok b) (hf : ∀ f ∈ b.files, ∃ text, f.render version = .ok text) :
    ∃ source, e.source? mount version = .ok source := by
  obtain ⟨file, hfile⟩ := hf b.file (by simp [Bindings.files])
  have hrendered : rendered version e.names.filePath b.file = .ok ⟨e.names.filePath, file⟩ :=
    rendered_eq_ok_iff.mpr ⟨file, hfile, rfl⟩
  cases hn : b.nested with
  | none =>
      refine ⟨⟨[⟨e.names.filePath, file⟩], [e.names.unit]⟩, ?_⟩
      refine bind_eq_ok_iff.mpr ⟨b, hb, bind_eq_ok_iff.mpr ⟨_, hrendered, ?_⟩⟩
      rw [hn]
  | some f =>
      obtain ⟨nested, hnested⟩ := hf f (by simp [Bindings.files, hn])
      have hrendered' : rendered version e.names.nestedPath f = .ok ⟨e.names.nestedPath, nested⟩ :=
        rendered_eq_ok_iff.mpr ⟨nested, hnested, rfl⟩
      refine ⟨⟨[⟨e.names.filePath, file⟩, ⟨e.names.nestedPath, nested⟩],
        [e.names.unit, e.names.nested]⟩, ?_⟩
      refine bind_eq_ok_iff.mpr ⟨b, hb, bind_eq_ok_iff.mpr ⟨_, hrendered, ?_⟩⟩
      rw [hn]
      exact bind_eq_ok_iff.mpr ⟨_, hrendered', rfl⟩

theorem exists_source?_of_graph {g₀ g : Graph}
    (hb : Graph.ofBlock e.block = .ok g₀) (hd : g₀.disambiguated = .ok g)
    (h : ((e.bindings mount g).toOption.any fun b =>
      b.files.all fun f => (f.render version).toBool) = true) :
    ∃ source, e.source? mount version = .ok source := by
  cases hm : e.bindings mount g with
  | error x => simp [hm, Except.toOption] at h
  | ok b =>
      simp only [hm, Except.toOption, Option.any_some, List.all_eq_true] at h
      exact exists_source? (bindings?_eq_ok_iff.mpr ⟨g₀, g, hb, hd, hm⟩) fun f hf =>
        exists_of_toBool (h f hf)

end Entity

end ProviderBindings
