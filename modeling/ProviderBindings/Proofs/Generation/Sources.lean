import ProviderBindings.Proofs.FileTree.Leaves
import ProviderBindings.Proofs.Generation.Providers
import ProviderBindings.Proofs.Output.Additions

/-!
The files of a run: the index and the sources of the providers that do not fail, where they lie, and the
directory that holds them and nothing else.
-/

namespace ProviderBindings

open Route (IsName)

namespace ProviderSource

variable {source : ProviderSource} {p a : Place} {e : Entry} {s : String}

def leaves (p : Place) (source : ProviderSource) : List (Place × Option String) :=
  source.tree.files.map fun f => (p ++ (Route.parts f.1.toList).map String.ofList, some f.2.contents)

def additions (p : Place) (source : ProviderSource) : Additions :=
  source.tree.files.flatMap fun f => Output.additions p f.1 f.2.contents

structure Has (source : ProviderSource) (s name contents : String) : Prop where
  isName : IsName name
  stored : ∃ owner, (s ++ "/" ++ name, ⟨owner, contents⟩) ∈ source.tree.files

theorem mem_leaves (h : source.tree.FiledIn s) (hs : IsName s) {content : Option String} :
    (a, content) ∈ source.leaves p ↔
      ∃ name contents, source.Has s name contents ∧ a = p ++ [s] ++ [name] ∧ content = some contents := by
  constructor
  · intro hmem
    obtain ⟨⟨path, f⟩, hf, heq⟩ := List.mem_map.mp hmem
    obtain ⟨name, hn, rfl⟩ := h.placed path (List.mem_map_of_mem hf)
    rw [parts_pair hs hn] at heq
    cases heq
    exact ⟨name, f.contents, ⟨hn, f.owner, hf⟩, by simp, rfl⟩
  · rintro ⟨name, contents, ⟨hn, owner, hf⟩, rfl, rfl⟩
    refine List.mem_map.mpr ⟨_, hf, ?_⟩
    rw [parts_pair hs hn]
    simp

theorem mem_additions (h : source.tree.FiledIn s) (hs : IsName s) :
    (a, e) ∈ source.additions p ↔ ∃ name contents, source.Has s name contents ∧
      (a = p ++ [s] ∧ e = .directory ∨ a = p ++ [s] ++ [name] ∧ e = .file contents false) := by
  constructor
  · intro hmem
    obtain ⟨⟨path, f⟩, hf, hadd⟩ := List.mem_flatMap.mp hmem
    obtain ⟨name, hn, rfl⟩ := h.placed path (List.mem_map_of_mem hf)
    rw [Output.additions_pair hs hn] at hadd
    exact ⟨name, f.contents, ⟨hn, f.owner, hf⟩, by simpa using hadd⟩
  · rintro ⟨name, contents, ⟨hn, owner, hf⟩, hcases⟩
    refine List.mem_flatMap.mpr ⟨_, hf, ?_⟩
    rw [Output.additions_pair hs hn]
    simpa using hcases

theorem nodup_leaves (h : source.tree.FiledIn s) (hs : IsName s) : (source.leaves p).Nodup := by
  refine List.Nodup.map_on (fun f hf g hg heq => ?_) (List.Nodup.of_map Prod.fst
    (Table.nodup_keys_of_ordered h.ordered))
  obtain ⟨path, file⟩ := f
  obtain ⟨path', file'⟩ := g
  obtain ⟨name, hn, rfl⟩ := h.placed path (List.mem_map_of_mem hf)
  obtain ⟨name', hn', rfl⟩ := h.placed path' (List.mem_map_of_mem hg)
  rw [parts_pair hs hn, parts_pair hs hn'] at heq
  have hname : name = name' := by simpa using (Prod.mk.inj heq).1
  subst hname
  have hsame := ((Table.mem_iff_get? h.ordered).mp hf).symm.trans ((Table.mem_iff_get? h.ordered).mp hg)
  rw [Option.some.inj hsame]

theorem Has.unique (h : source.tree.FiledIn s) {name contents contents' : String}
    (hh : source.Has s name contents) (hh' : source.Has s name contents') : contents = contents' := by
  obtain ⟨owner, hf⟩ := hh.stored
  obtain ⟨owner', hf'⟩ := hh'.stored
  have heq := ((Table.mem_iff_get? h.ordered).mp hf).symm.trans ((Table.mem_iff_get? h.ordered).mp hf')
  cases heq
  rfl

end ProviderSource

namespace Generation

variable {r : Request} {fetch : ProviderSpec → Fetch} {p : Place} {t t' : FileTree}

abbrev Sources := List (ProviderSpec × ProviderSource)

def compiled (r : Request) (fetch : ProviderSpec → Fetch) (providers : List ProviderSpec) : Sources :=
  providers.filterMap fun spec => (sourceOf r spec (fetch spec)).toOption.map fun source => (spec, source)

structure Sources.Separate (sources : Sources) : Prop where
  filed : ∀ c ∈ sources, c.2.tree.FiledIn c.1.stem
  distinct : (sources.map fun c => c.1.stem).Nodup

theorem mem_compiled {providers : List ProviderSpec} {c : ProviderSpec × ProviderSource} :
    c ∈ compiled r fetch providers ↔ c.1 ∈ providers ∧ sourceOf r c.1 (fetch c.1) = .ok c.2 := by
  obtain ⟨spec, source⟩ := c
  simp only [compiled, List.mem_filterMap, Option.map_eq_some_iff, Prod.mk.injEq]
  constructor
  · rintro ⟨spec, hspec, source, hsource, rfl, rfl⟩
    refine ⟨hspec, ?_⟩
    cases h : sourceOf r spec (fetch spec) with
    | error e => simp [h, Except.toOption] at hsource
    | ok other =>
        rw [h] at hsource
        cases hsource
        rfl
  · rintro ⟨hspec, hsource⟩
    exact ⟨spec, hspec, source, by rw [hsource]; rfl, rfl, rfl⟩

theorem separate_compiled {providers : List ProviderSpec} (hd : (providers.map ProviderSpec.stem).Nodup) :
    (compiled r fetch providers).Separate where
  filed _ hc := (filedIn_sourceOf (mem_compiled.mp hc).2).1
  distinct := by
    refine Table.nodup_map_filterMap (fun spec c hc => ?_) hd
    obtain ⟨source, -, rfl⟩ := Option.map_eq_some_iff.mp hc
    rfl

namespace Sources

variable {sources : Sources}

def additions (p : Place) (text : String) (sources : Sources) : Additions :=
  sources.flatMap (fun c => c.2.additions p) ++ [(p ++ [indexName], .file text false)]

def leaves (p : Place) (text : String) (sources : Sources) : List (Place × Option String) :=
  (p ++ [indexName], some text) :: sources.flatMap fun c => c.2.leaves p

variable {a : Place} {e : Entry} {text : String} {content : Option String}

theorem Separate.eq_of_stem (h : sources.Separate) {c c' : ProviderSpec × ProviderSource} (hc : c ∈ sources)
    (hc' : c' ∈ sources) (heq : c.1.stem = c'.1.stem) : c = c' :=
  List.inj_on_of_nodup_map h.distinct hc hc' heq

theorem stem_ne_indexName (spec : ProviderSpec) : spec.stem ≠ indexName := by
  intro heq
  have hdot : '.' ∈ spec.stem.toList := by
    rw [heq]
    decide
  exact (spec.isStem_stem.plain '.' hdot).2.2 rfl

theorem mem_additions (h : sources.Separate) : (a, e) ∈ sources.additions p text ↔
    (∃ c ∈ sources, ∃ name contents, c.2.Has c.1.stem name contents ∧
      (a = p ++ [c.1.stem] ∧ e = .directory ∨
        a = p ++ [c.1.stem] ++ [name] ∧ e = .file contents false)) ∨
      a = p ++ [indexName] ∧ e = .file text false := by
  simp only [additions, List.mem_append, List.mem_flatMap, List.mem_singleton, Prod.mk.injEq]
  refine or_congr (exists_congr fun c => and_congr_right fun hc => ?_) Iff.rfl
  exact ProviderSource.mem_additions (h.filed c hc) c.1.isName_stem

theorem mem_leaves (h : sources.Separate) : (a, content) ∈ sources.leaves p text ↔
    a = p ++ [indexName] ∧ content = some text ∨ ∃ c ∈ sources, ∃ name contents,
      c.2.Has c.1.stem name contents ∧ a = p ++ [c.1.stem] ++ [name] ∧ content = some contents := by
  simp only [leaves, List.mem_cons, Prod.mk.injEq, List.mem_flatMap]
  refine or_congr Iff.rfl (exists_congr fun c => and_congr_right fun hc => ?_)
  exact ProviderSource.mem_leaves (h.filed c hc) c.1.isName_stem

theorem consistent_additions (h : sources.Separate) : (sources.additions p text).Consistent := by
  intro a e e' he he'
  -- The directory of a provider, one of its files, or the index: no two of them have one place.
  rcases (mem_additions h).mp he with ⟨c, hc, name, contents, hhas, ⟨rfl, rfl⟩ | ⟨rfl, rfl⟩⟩ | ⟨rfl, rfl⟩
  · rcases (mem_additions h).mp he' with ⟨c', hc', name', contents', -, ⟨-, rfl⟩ | ⟨ha, -⟩⟩ | ⟨ha, -⟩
    · rfl
    · simp at ha
    · exact absurd (by simpa using ha) (stem_ne_indexName c.1)
  · rcases (mem_additions h).mp he' with ⟨c', hc', name', contents', hhas', ⟨ha, -⟩ | ⟨ha, rfl⟩⟩ | ⟨ha, -⟩
    · simp at ha
    · obtain ⟨hstem, rfl⟩ : c.1.stem = c'.1.stem ∧ name = name' := by simpa using ha
      cases h.eq_of_stem hc hc' hstem
      rw [hhas.unique (h.filed c hc) hhas']
    · simp at ha
  · rcases (mem_additions h).mp he' with ⟨c', hc', name', contents', -, ⟨ha, -⟩ | ⟨ha, -⟩⟩ | ⟨-, rfl⟩
    · exact absurd (by simpa using ha.symm) (stem_ne_indexName c'.1)
    · simp at ha
    · rfl

theorem nodup_leaves (h : sources.Separate) : (sources.leaves p text).Nodup := by
  refine List.nodup_cons.mpr ⟨fun hmem => ?_, List.pairwise_flatMap.mpr ⟨fun c hc => ?_, ?_⟩⟩
  · obtain ⟨c, hc, hleaf⟩ := List.mem_flatMap.mp hmem
    obtain ⟨name, contents, -, ha, -⟩ :=
      (ProviderSource.mem_leaves (h.filed c hc) c.1.isName_stem).mp hleaf
    simp at ha
  · exact ProviderSource.nodup_leaves (h.filed c hc) c.1.isName_stem
  · refine (List.pairwise_map.mp h.distinct).imp_of_mem fun {c c'} hc hc' hne x hx y hy heq => ?_
    obtain ⟨a, content⟩ := x
    subst heq
    obtain ⟨name, _, -, ha, -⟩ := (ProviderSource.mem_leaves (h.filed c hc) c.1.isName_stem).mp hx
    obtain ⟨name', _, -, ha', -⟩ := (ProviderSource.mem_leaves (h.filed c' hc') c'.1.isName_stem).mp hy
    have hsame : c.1.stem = c'.1.stem ∧ name = name' := by simpa [ha] using ha'
    exact hne hsame.1

theorem mem_additions_of_mem_leaves (h : sources.Separate) (hleaf : (a, content) ∈ sources.leaves p text) :
    ∃ s, content = some s ∧ (a, .file s false) ∈ sources.additions p text := by
  rcases (mem_leaves h).mp hleaf with ⟨rfl, rfl⟩ | ⟨c, hc, name, contents, hhas, rfl, rfl⟩
  · exact ⟨text, rfl, (mem_additions h).mpr (.inr ⟨rfl, rfl⟩)⟩
  · exact ⟨contents, rfl, (mem_additions h).mpr (.inl ⟨c, hc, name, contents, hhas, .inr ⟨rfl, rfl⟩⟩)⟩

theorem mem_leaves_of_mem_additions {s : String} {x : Bool} (h : sources.Separate)
    (hmem : (a, .file s x) ∈ sources.additions p text) : (a, some s) ∈ sources.leaves p text := by
  rcases (mem_additions h).mp hmem with ⟨c, hc, name, contents, hhas, ⟨-, heq⟩ | ⟨rfl, heq⟩⟩ | ⟨rfl, heq⟩
  · cases heq
  · cases heq
    exact (mem_leaves h).mpr (.inr ⟨c, hc, name, _, hhas, rfl, rfl⟩)
  · cases heq
    exact (mem_leaves h).mpr (.inl ⟨rfl, rfl⟩)

theorem exists_inside (h : sources.Separate) (hmem : (a, .directory) ∈ sources.additions p text) :
    ∃ b e, (b, e) ∈ sources.additions p text ∧ FileTree.isBelow a b = true := by
  rcases (mem_additions h).mp hmem with ⟨c, hc, name, contents, hhas, ⟨rfl, -⟩ | ⟨-, heq⟩⟩ | ⟨-, heq⟩
  · exact ⟨_, _, (mem_additions h).mpr (.inl ⟨c, hc, name, contents, hhas, .inr ⟨rfl, rfl⟩⟩),
      FileTree.isBelow_iff.mpr ⟨List.prefix_append _ _, by simp⟩⟩
  · cases heq
  · cases heq

def places (p : Place) (sources : Sources) : List Place :=
  (p ++ [indexName]) :: sources.flatMap fun c => (c.2.leaves p).map Prod.fst

theorem map_fst_leaves (p : Place) (text : String) (sources : Sources) :
    (sources.leaves p text).map Prod.fst = sources.places p := by
  rw [leaves, List.map_cons, List.map_flatMap, places]

theorem mem_keys_additions_iff (h : sources.Separate) : a ∈ Table.keys (sources.additions p text) ↔
    FileTree.isBelow p a = true ∧ ∃ place ∈ sources.places p, a <+: place := by
  simp only [FileTree.isBelow_iff, ← map_fst_leaves p text, List.mem_map, exists_exists_and_eq_and]
  constructor
  · intro ha
    obtain ⟨⟨_, e⟩, hmem, rfl⟩ := List.mem_map.mp ha
    rcases (mem_additions h).mp hmem with ⟨c, hc, name, contents, hhas, hcase⟩ | ⟨rfl, -⟩
    · have hleaf : (p ++ [c.1.stem] ++ [name], some contents) ∈ sources.leaves p text :=
        (mem_leaves h).mpr (.inr ⟨c, hc, name, contents, hhas, rfl, rfl⟩)
      rcases hcase with ⟨rfl, -⟩ | ⟨rfl, -⟩
      · exact ⟨⟨List.prefix_append _ _, by simp⟩, _, hleaf, List.prefix_append _ _⟩
      · exact ⟨⟨by simp, by simp⟩, _, hleaf, List.prefix_refl _⟩
    · exact ⟨⟨List.prefix_append _ _, by simp⟩, _, List.mem_cons_self, List.prefix_refl _⟩
  · rintro ⟨⟨⟨rest, rfl⟩, hne⟩, ⟨place, content⟩, hleaf, hway⟩
    have hrest : rest ≠ [] := by
      rintro rfl
      exact hne (List.append_nil p).symm
    obtain ⟨first, others, rfl⟩ := List.exists_cons_of_ne_nil hrest
    rcases (mem_leaves h).mp hleaf with ⟨rfl, -⟩ | ⟨c, hc, name, contents, hhas, rfl, -⟩
    · rw [List.prefix_append_right_inj, List.cons_prefix_cons, List.prefix_nil] at hway
      obtain ⟨rfl, rfl⟩ := hway
      exact List.mem_map_of_mem ((mem_additions h).mpr (.inr ⟨rfl, rfl⟩))
    · rw [List.append_assoc, List.prefix_append_right_inj, List.singleton_append,
        List.cons_prefix_cons] at hway
      obtain ⟨rfl, hothers⟩ := hway
      rcases List.prefix_cons_iff.mp hothers with rfl | ⟨_, rfl, hnil⟩
      · exact List.mem_map_of_mem ((mem_additions h).mpr (.inl ⟨c, hc, name, contents, hhas,
          .inl ⟨rfl, rfl⟩⟩))
      · rw [List.prefix_nil.mp hnil]
        refine List.mem_map.mpr ⟨_, (mem_additions h).mpr (.inl ⟨c, hc, name, contents, hhas,
          .inr ⟨rfl, rfl⟩⟩), ?_⟩
        simp

end Sources

theorem onWay_of_perm_leaves {sources : Sources} {text : String} {t₀ : FileTree} (hr : t₀.Regular)
    (hr' : t.Regular) (hgrows : FileTree.Grows t₀ t) (hperm : (t.leaves p).Perm (sources.leaves p text)) :
    ∀ e ∈ t₀.inside p, ∃ place ∈ sources.places p, e.1 <+: place := by
  rintro ⟨a, e⟩ he
  obtain ⟨hbelow, hget⟩ := hr.mem_inside.mp he
  obtain ⟨e', hget'⟩ := Option.isSome_iff_exists.mp (hgrows.entries a (by rw [hget]; rfl))
  obtain ⟨leaf, hleaf, hway⟩ := hr'.exists_leaf (FileTree.isBelow_iff.mp hbelow).1
    (FileTree.ne_nil_of_isBelow hbelow) hget'
  rw [← Sources.map_fst_leaves p text]
  exact ⟨leaf.1, List.mem_map_of_mem (hperm.mem_iff.mp hleaf), hway⟩

theorem get?_eq_some_iff_of_adds {sources : Sources} {text : String} {t₀ : FileTree} {a : Place} {e : Entry}
    (h : sources.Separate) (hr : t₀.Regular) (hadds : t₀.Adds (sources.additions p text) t)
    (hway : ∀ e ∈ t₀.inside p, ∃ place ∈ sources.places p, e.1 <+: place)
    (hbelow : FileTree.isBelow p a = true) : t.get? a = some e ↔ (a, e) ∈ sources.additions p text := by
  refine ⟨fun hget => ?_, hadds.added a e⟩
  have hkey : a ∈ Table.keys (sources.additions p text) := by
    by_cases hkey : a ∈ Table.keys (sources.additions p text)
    · exact hkey
    · have hold := (hadds.kept a hkey).symm.trans hget
      exact (Sources.mem_keys_additions_iff h).mpr
        ⟨hbelow, hway (a, e) (hr.mem_inside.mpr ⟨hbelow, hold⟩)⟩
  obtain ⟨⟨_, e'⟩, hmem, rfl⟩ := List.mem_map.mp hkey
  rwa [Option.some.inj (hget.symm.trans (hadds.added _ _ hmem))]

theorem perm_leaves {sources : Sources} {text : String} {t₀ : FileTree} (h : sources.Separate)
    (hr : t₀.Regular) (hd : t₀.isDirectory p = true) (hadds : t₀.Adds (sources.additions p text) t)
    (hway : ∀ e ∈ t₀.inside p, ∃ place ∈ sources.places p, e.1 <+: place) :
    (t.leaves p).Perm (sources.leaves p text) := by
  have hr' := hadds.regular hr
  have hfilled : ∀ {a q e}, (a, e) ∈ sources.additions p text → FileTree.isBelow q a = true →
      t.inside q ≠ [] := by
    intro a q e hmem hbelow hempty
    have hin := hr'.mem_inside.mpr ⟨hbelow, hadds.added a e hmem⟩
    rw [hempty] at hin
    cases hin
  refine (List.perm_ext_iff_of_nodup hr'.nodup_leaves (Sources.nodup_leaves h)).mpr
    fun ⟨a, content⟩ => ?_
  rw [hr'.mem_leaves]
  constructor
  · rintro ⟨hstarts, hleaf⟩
    -- The directory itself is no leaf, since it is no file and holds the index.
    have hne : p ≠ a := by
      rintro rfl
      rcases hleaf with ⟨s, x, -, hget⟩ | ⟨-, -, -, hempty⟩
      · cases hget.symm.trans (FileTree.isDirectory_iff.mp (hadds.grows.directories p hd))
      · have hindex : (p ++ [indexName], .file text false) ∈ sources.additions p text :=
          (Sources.mem_additions h).mpr (.inr ⟨rfl, rfl⟩)
        exact hfilled hindex (FileTree.isBelow_iff.mpr ⟨List.prefix_append _ _, by simp⟩) hempty
    have hbelow := FileTree.isBelow_iff.mpr ⟨hstarts, hne⟩
    rcases hleaf with ⟨s, x, rfl, hget⟩ | ⟨rfl, -, hget, hempty⟩
    · exact Sources.mem_leaves_of_mem_additions h
        ((get?_eq_some_iff_of_adds h hr hadds hway hbelow).mp hget)
    · obtain ⟨b, e, hmem, hinside⟩ := Sources.exists_inside h
        ((get?_eq_some_iff_of_adds h hr hadds hway hbelow).mp hget)
      exact absurd hempty (hfilled hmem hinside)
  · intro hleaf
    obtain ⟨s, rfl, hmem⟩ := Sources.mem_additions_of_mem_leaves h hleaf
    have hkey := (Sources.mem_keys_additions_iff h).mp (List.mem_map_of_mem hmem)
    exact ⟨(FileTree.isBelow_iff.mp hkey.1).1, .inl ⟨s, false, rfl, hadds.added a _ hmem⟩⟩

end Generation

end ProviderBindings
