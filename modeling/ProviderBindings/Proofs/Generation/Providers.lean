import ProviderBindings.Generation
import ProviderBindings.Proofs.Output.Confinement
import ProviderBindings.Proofs.Provider.Requests

/-!
The providers of a run, each confined to a directory of its own: one after another they come to what each of
them does alone in the tree that the run starts from.
-/

namespace ProviderBindings

open FileTree (Grows Leads)
open Route (IsName)

theorem ProviderSpec.isName_stem (spec : ProviderSpec) : IsName spec.stem := isName_of_isStem spec.isStem_stem

namespace Generation

variable {r : Request} {p : Place} {t t₀ : FileTree}

theorem writeAll_cons (directory path : String) (f : OwnedFile) (rest : List (String × OwnedFile))
    (t : FileTree) : writeAll directory ((path, f) :: rest) t =
      let written := Output.write directory f.owner ⟨path, f.contents⟩ t
      ((writeAll directory rest written.1).1, tally written.2 (writeAll directory rest written.1).2) := by
  rw [writeAll]

theorem runProviders_cons (r : Request) (fetch : ProviderSpec → Fetch) (spec : ProviderSpec)
    (rest : List ProviderSpec) (t : FileTree) : runProviders r fetch (spec :: rest) t =
      let first := runProvider r spec (fetch spec) t
      ((runProviders r fetch rest first.1).1, first.2 :: (runProviders r fetch rest first.1).2) := by
  rw [runProviders]

theorem confined_writeAll {directory s : String} {files : List (String × OwnedFile)} (hs : IsName s)
    (hf : ∀ path ∈ Table.keys files, LiesIn s path) :
    Confined (Route.ofText directory) p (p ++ [s]) (writeAll directory files) := by
  induction files with
  | nil => exact Confined.result _
  | cons file rest ih =>
      obtain ⟨path, f⟩ := file
      have hwrite : Confined (.ofText directory) p (p ++ [s])
          (Output.write directory f.owner ⟨path, f.contents⟩) :=
        Output.confined_write hs (hf path List.mem_cons_self)
      have hrest := ih fun path hp => hf path (List.mem_cons_of_mem _ hp)
      exact (hwrite.bind fun outcome => hrest.map (tally outcome)).congr fun t _ => by rw [writeAll]

theorem exists_source?_of_sourceOf {spec : ProviderSpec} {fetched : Fetch} {source : ProviderSource}
    (h : sourceOf r spec fetched = .ok source) :
    ∃ schema, spec.source? schema r.mount Code.toolVersion = .ok source := by
  cases fetched with
  | timedOut => cases h
  | failed e => cases h
  | document d =>
      obtain ⟨⟨schema, _⟩, _, hsource⟩ := bind_eq_ok_iff.mp h
      dsimp only at hsource
      split at hsource
      · cases hsource
        exact ⟨schema, ‹_›⟩
      · cases hsource

theorem filedIn_sourceOf {spec : ProviderSpec} {fetched : Fetch} {source : ProviderSource}
    (h : sourceOf r spec fetched = .ok source) :
    source.tree.FiledIn spec.stem ∧ source.directory = spec.directory := by
  obtain ⟨schema, hsource⟩ := exists_source?_of_sourceOf h
  exact ProviderSpec.filedIn_source? hsource

theorem confined_runProvider (r : Request) (spec : ProviderSpec) (fetched : Fetch) :
    Confined (Route.ofText r.outDirectory) p (p ++ [spec.stem]) (runProvider r spec fetched) := by
  unfold runProvider
  cases h : sourceOf r spec fetched with
  | error e => exact Confined.result _
  | ok source =>
      have hwrite : Confined (.ofText r.outDirectory) p (p ++ [spec.stem])
          (writeAll r.outDirectory source.tree.files) :=
        confined_writeAll spec.isName_stem (filedIn_sourceOf h).1.placed
      exact hwrite.map fun written : Nat × List RunError =>
        (⟨some (⟨spec.localName, source.entities, written.1⟩, source.directory),
          entityFailures spec source ++ written.2⟩ : ProviderRun)

structure Settled (r : Request) (fetch : ProviderSpec → Fetch) (p : Place) (t₀ : FileTree)
    (providers : List ProviderSpec) (t : FileTree) : Prop where
  grows : Grows t₀ t
  regular : t.Regular
  outside : ∀ a, (∀ spec ∈ providers, ¬ p ++ [spec.stem] <+: a) → t.get? a = t₀.get? a
  inside : ∀ spec ∈ providers, t.AgreeBelow (p ++ [spec.stem]) (runProvider r spec (fetch spec) t₀).1

theorem Settled.unique {fetch : ProviderSpec → Fetch} {providers : List ProviderSpec} {t t' : FileTree}
    (h : Settled r fetch p t₀ providers t) (h' : Settled r fetch p t₀ providers t') : t = t' := by
  refine h.regular.ext h'.regular (h.grows.start.trans h'.grows.start.symm) fun a => ?_
  by_cases ha : ∃ spec ∈ providers, p ++ [spec.stem] <+: a
  · obtain ⟨spec, hmem, hbelow⟩ := ha
    rw [h.inside spec hmem a hbelow, h'.inside spec hmem a hbelow]
  · have hnone : ∀ spec ∈ providers, ¬ p ++ [spec.stem] <+: a := fun spec hmem hbelow =>
      ha ⟨spec, hmem, hbelow⟩
    rw [h.outside a hnone, h'.outside a hnone]

theorem not_prefix_of_ne {s s' : String} {a : Place} (hne : s ≠ s') (h : p ++ [s'] <+: a) :
    ¬ p ++ [s] <+: a := by
  intro hs
  have heq : p ++ [s] = p ++ [s'] :=
    (List.prefix_of_prefix_length_le hs h (by simp)).eq_of_length (by simp)
  exact hne (by simpa using heq)

theorem agreeBelow_of_confined {α : Type} {s s' : String} {route : Route} {op : FileTree → FileTree × α}
    (h : Confined route p (p ++ [s]) op) (hl : t.Leads route p) (hne : s ≠ s') :
    (op t).1.AgreeBelow (p ++ [s']) t := fun _ ha => h.outside hl (not_prefix_of_ne hne ha)

theorem settled_runProviders {fetch : ProviderSpec → Fetch} {providers : List ProviderSpec}
    (hl : t.Leads (.ofText r.outDirectory) p) (hr : t.Regular)
    (hd : (providers.map ProviderSpec.stem).Nodup) :
    Settled r fetch p t providers (runProviders r fetch providers t).1 ∧
      (runProviders r fetch providers t).2 =
        providers.map fun spec => (runProvider r spec (fetch spec) t).2 := by
  induction providers generalizing t with
  | nil => exact ⟨⟨Grows.refl t, hr, fun _ _ => rfl, by simp⟩, rfl⟩
  | cons spec rest ih =>
      obtain ⟨hnew, hrest⟩ := List.nodup_cons.mp hd
      have hrun := confined_runProvider (p := p) r spec (fetch spec)
      have hgrows := hrun.grows hl
      obtain ⟨hsettled, hruns⟩ := ih (hl.mono hgrows) (hrun.regular hl hr) hrest
      have hne : ∀ other ∈ rest, spec.stem ≠ other.stem := fun other hmem heq =>
        hnew (List.mem_map.mpr ⟨other, hmem, heq.symm⟩)
      -- A later provider finds its own directory as it was at the start.
      have hother : ∀ other ∈ rest,
          (runProvider r other (fetch other) (runProvider r spec (fetch spec) t).1).2 =
            (runProvider r other (fetch other) t).2 ∧
          (runProvider r other (fetch other) (runProvider r spec (fetch spec) t).1).1.AgreeBelow
            (p ++ [other.stem]) (runProvider r other (fetch other) t).1 := fun other hmem =>
        (confined_runProvider r other (fetch other)).inside (hl.mono hgrows) hl
          (agreeBelow_of_confined hrun hl (hne other hmem))
      refine ⟨⟨hgrows.trans hsettled.grows, hsettled.regular, fun a ha => ?_, fun other hmem a ha => ?_⟩, ?_⟩
      · have hfirst := ha spec List.mem_cons_self
        exact (hsettled.outside a fun other hmem => ha other (List.mem_cons_of_mem _ hmem)).trans
          (hrun.outside hl hfirst)
      · rcases List.mem_cons.mp hmem with rfl | hmem
        · exact hsettled.outside a fun other hmem => not_prefix_of_ne (hne other hmem).symm ha
        · exact (hsettled.inside other hmem a ha).trans ((hother other hmem).2 a ha)
      · rw [List.map_cons, runProviders]
        exact congrArg _ (hruns.trans (List.map_congr_left fun other hmem => (hother other hmem).1))

end Generation

end ProviderBindings
