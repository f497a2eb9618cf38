import ProviderBindings.Proofs.Generation.Providers

/-!
Generation with schemas that are fetched by an action, and the journal of a run: the providers whose schemas
were asked for. A run asks for nothing before the output directory is prepared, and then for every schema.
-/

namespace ProviderBindings.Generation

open FileTree (Outcome)

section Action

variable {m : Type → Type} [Monad m]

def runProvidersM (r : Request) (fetch : ProviderSpec → m Fetch) :
    List ProviderSpec → FileTree → m (FileTree × List ProviderRun)
  | [], t => pure (t, [])
  | spec :: rest, t => do
      let fetched ← fetch spec
      let (t, run) := runProvider r spec fetched t
      let (t, runs) ← runProvidersM r fetch rest t
      pure (t, run :: runs)

def generateM (r : Request) (fetch : FileTree → ProviderSpec → m Fetch) (t : FileTree) :
    m (Outcome RunError Report) :=
  match checkProviderModules r.providers with
  | .error e => pure (t, .error (.config e))
  | .ok () =>
      match Output.prepare r.outDirectory r.force t with
      | (t, .error e) => pure (t, .error (.output e))
      | (prepared, .ok ()) => do
          let (t, runs) ← runProvidersM r (fetch prepared) r.providers prepared
          match writeIndex r (modulesOf runs) t with
          | (t, .error e) => pure (t, .error e)
          | (t, .ok ()) => pure (t, .ok (reportOf runs))

end Action

abbrev Asking := StateM (List ProviderSpec)

def noted (fetch : FileTree → ProviderSpec → Fetch) (t : FileTree) (spec : ProviderSpec) : Asking Fetch := do
  modify (· ++ [spec])
  return fetch t spec

def journal (r : Request) (fetch : FileTree → ProviderSpec → Fetch) (t : FileTree) :
    Outcome RunError Report × List ProviderSpec :=
  (generateM r (noted fetch) t).run []

variable {r : Request} {fetch : FileTree → ProviderSpec → Fetch} {t prepared : FileTree}

theorem run_runProvidersM (providers : List ProviderSpec) (t : FileTree) (asked : List ProviderSpec) :
    (runProvidersM r (noted fetch prepared) providers t).run asked =
      (pure (runProviders r (fetch prepared) providers t, asked ++ providers) : Id _) := by
  induction providers generalizing t asked with
  | nil => rw [List.append_nil]; rfl
  | cons spec rest ih =>
      have hnoted : (noted fetch prepared spec).run asked =
          (pure (fetch prepared spec, asked ++ [spec]) : Id (Fetch × List ProviderSpec)) := rfl
      rw [runProvidersM, runProviders, StateT.run_bind, hnoted, pure_bind]
      rcases runProvider r spec (fetch prepared spec) t with ⟨t₁, run⟩
      rw [StateT.run_bind, ih, List.append_assoc, List.singleton_append]
      rfl

theorem journal_eq (r : Request) (fetch : FileTree → ProviderSpec → Fetch) (t : FileTree) :
    journal r fetch t = (generate r fetch t,
      if (checkProviderModules r.providers).toBool && (Output.prepare r.outDirectory r.force t).2.toBool then
        r.providers
      else []) := by
  rw [journal, generateM, generate]
  cases checkProviderModules r.providers with
  | error e => rfl
  | ok done =>
      dsimp only
      rcases Output.prepare r.outDirectory r.force t with ⟨prepared, e | ⟨⟩⟩
      · rfl
      · dsimp only
        rw [StateT.run_bind, run_runProvidersM, pure_bind]
        rcases runProviders r (fetch prepared) r.providers prepared with ⟨t₁, runs⟩
        dsimp only
        rcases writeIndex r (modulesOf runs) t₁ with ⟨t₂, e | ⟨⟩⟩ <;> rfl

end ProviderBindings.Generation
