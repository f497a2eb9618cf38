import ProviderBindings.CommandLine.Run
import ProviderBindings.Proofs.FileTree.Leaves
import ProviderBindings.Proofs.Generation.Journal
import ProviderBindings.Proofs.Provider.Requests

/-!
Runs that are rejected: because their configuration is invalid, or because the output directory holds
something and is not to be replaced. They leave the files as they are, and no schema has been asked for.
-/

namespace ProviderBindings

open FileTree (Outcome)

/-! ### Valid configurations -/

namespace GenerateArgs

structure IsValid (a : GenerateArgs) : Prop where
  specs : ∃ providers, a.providers.mapM ProviderSpec.ofString? = .ok providers ∧
    (providers.map ProviderSpec.localName).Nodup ∧ (providers.map ProviderSpec.stem).Nodup
  mount : ∃ mount, ModulePath.ofString? a.modulePath = .ok mount
  time : a.timeout ≠ 0

theorem request_eq_ok_iff {a : GenerateArgs} {r : Request} : a.request = .ok r ↔
    ∃ providers mount, parseProviderSpecs a.providers = .ok providers ∧
      ModulePath.ofString? a.modulePath = .ok mount ∧ a.timeout ≠ 0 ∧
      r = ⟨a.outDirectory, mount, a.force, providers, a.timeout * 1000⟩ := by
  rw [request]
  cases hproviders : parseProviderSpecs a.providers with
  | error e => simp
  | ok providers =>
      cases hmount : ModulePath.ofString? a.modulePath with
      | error e => simp
      | ok mount =>
          by_cases htime : a.timeout = 0
          · simp [htime]
          · simp [htime, eq_comm]

theorem isValid_iff {a : GenerateArgs} : a.IsValid ↔ ∃ r, a.request = .ok r := by
  constructor
  · rintro ⟨⟨providers, hproviders⟩, ⟨mount, hmount⟩, htime⟩
    exact ⟨_, request_eq_ok_iff.mpr ⟨providers, mount, parseProviderSpecs_eq_ok_iff.mpr hproviders, hmount,
      htime, rfl⟩⟩
  · rintro ⟨r, hr⟩
    obtain ⟨providers, mount, hproviders, hmount, htime, -⟩ := request_eq_ok_iff.mp hr
    exact ⟨⟨providers, parseProviderSpecs_eq_ok_iff.mp hproviders⟩, ⟨mount, hmount⟩, htime⟩

end GenerateArgs

/-! ### Output directories that hold something -/

def FileTree.Occupied (t : FileTree) (path : String) : Prop :=
  ∃ p, t.find (.ofText path) = .ok p ∧ t.isDirectory p = true ∧ t.inside p ≠ []

namespace Output

variable {directory owner path : String} {force : Bool} {f : SourceFile} {t t' : FileTree}

theorem ne_directoryNotEmpty_of_failed {α : Type} {o : Outcome IoError α} {e : OutputError}
    (h : failed owner path o = (t', .error e)) : e ≠ .directoryNotEmpty directory := by
  obtain ⟨t, e | a⟩ := o
  · cases h
    nofun
  · cases h

theorem prepare_of_occupied (h : t.Occupied directory) :
    prepare directory false t = (t, .error (.directoryNotEmpty directory)) := by
  obtain ⟨p, hfind, hd, hinside⟩ := h
  simp [prepare, hfind, hd, hinside]

theorem prepare_eq_directoryNotEmpty
    (h : prepare directory force t = (t', .error (.directoryNotEmpty path))) :
    t' = t ∧ t.Occupied directory ∧ force = false := by
  rw [prepare] at h
  split at h
  · exact absurd rfl (ne_directoryNotEmpty_of_failed h)
  · exact absurd rfl (ne_directoryNotEmpty_of_failed h)
  · rename_i p hfind
    split at h
    · exact absurd rfl (ne_directoryNotEmpty_of_failed h)
    · rename_i hd
      split at h
      · cases h
      · rename_i hinside
        split at h
        · rename_i hforce
          cases h
          exact ⟨rfl, ⟨p, hfind, by simpa using hd, by simpa using hinside⟩, by simpa using hforce⟩
        · split at h
          · exact absurd rfl (ne_directoryNotEmpty_of_failed h)
          · exact absurd rfl (ne_directoryNotEmpty_of_failed h)

end Output

/-! ### Rejections -/

def RunError.IsRejection : RunError → Prop
  | .config _ => True
  | .output (.directoryNotEmpty _) => True
  | _ => False

namespace Generation

variable {r : Request} {fetch : FileTree → ProviderSpec → Fetch} {t t' : FileTree} {e : RunError}

theorem not_isRejection_of_writeIndex {modules : List String}
    (h : writeIndex r modules t = (t', .error e)) : ¬ e.IsRejection := by
  rw [writeIndex] at h
  split at h
  · cases h
    exact id
  · split at h
    · cases h
    · rename_i e hwrite
      cases h
      rw [Output.write] at hwrite
      cases e with
      | directoryNotEmpty path => exact absurd rfl (Output.ne_directoryNotEmpty_of_failed hwrite)
      | io owner path source => exact id

theorem generate_eq_rejection (h : generate r fetch t = (t', .error e)) (he : e.IsRejection) :
    (∃ fault, checkProviderModules r.providers = .error fault ∧ e = .config fault ∧ t' = t) ∨
      ∃ path, checkProviderModules r.providers = .ok () ∧
        Output.prepare r.outDirectory r.force t = (t', .error (.directoryNotEmpty path)) ∧
        e = .output (.directoryNotEmpty path) := by
  rw [generate] at h
  split at h
  · rename_i fault hc
    cases h
    exact .inl ⟨fault, hc, rfl, rfl⟩
  · rename_i hc
    split at h
    · rename_i fault hp
      cases h
      cases fault with
      | directoryNotEmpty path => exact .inr ⟨path, hc, hp, rfl⟩
      | io owner path source => exact absurd he id
    · rename_i prepared hp
      rcases runProviders r (fetch prepared) r.providers prepared with ⟨t₁, runs⟩
      dsimp only at h
      split at h
      · rename_i hindex
        cases h
        exact absurd he (not_isRejection_of_writeIndex hindex)
      · cases h

structure RejectsCleanly (r : Request) (fetch : FileTree → ProviderSpec → Fetch) (t : FileTree) : Prop where
  journal : (journal r fetch t).1 = generate r fetch t
  untouched : ∀ e, (generate r fetch t).2 = .error e → e.IsRejection →
    (generate r fetch t).1 = t ∧ (Generation.journal r fetch t).2 = []
  config : (∃ e, (generate r fetch t).2 = .error (.config e)) ↔ ¬ (r.providers.map ProviderSpec.stem).Nodup
  notEmpty : (∃ path, (generate r fetch t).2 = .error (.output (.directoryNotEmpty path))) ↔
    (r.providers.map ProviderSpec.stem).Nodup ∧ t.Occupied r.outDirectory ∧ r.force = false

theorem rejectsCleanly (r : Request) (fetch : FileTree → ProviderSpec → Fetch) (t : FileTree) :
    RejectsCleanly r fetch t where
  journal := by rw [journal_eq]
  untouched e h he := by
    rcases generate_eq_rejection (Prod.ext rfl h) he with ⟨fault, hc, -, ht⟩ | ⟨path, hc, hp, -⟩
    · exact ⟨ht, by simp [journal_eq, hc, Except.toBool]⟩
    · exact ⟨(Output.prepare_eq_directoryNotEmpty hp).1, by simp [journal_eq, hp, Except.toBool]⟩
  config := by
    rw [← checkProviderModules_eq_ok_iff]
    constructor
    · rintro ⟨e, h⟩ hok
      rcases generate_eq_rejection (Prod.ext rfl h) trivial with ⟨fault, hc, -, -⟩ | ⟨path, -, -, heq⟩
      · rw [hok] at hc
        cases hc
      · cases heq
    · intro hno
      cases hc : checkProviderModules r.providers with
      | error e => exact ⟨e, by rw [generate, hc]⟩
      | ok done => exact absurd hc hno
  notEmpty := by
    rw [← checkProviderModules_eq_ok_iff]
    constructor
    · rintro ⟨path, h⟩
      rcases generate_eq_rejection (Prod.ext rfl h) trivial with ⟨fault, -, heq, -⟩ | ⟨path, hc, hp, -⟩
      · cases heq
      · obtain ⟨-, hoccupied, hforce⟩ := Output.prepare_eq_directoryNotEmpty hp
        exact ⟨hc, hoccupied, hforce⟩
    · rintro ⟨hc, hoccupied, hforce⟩
      refine ⟨r.outDirectory, ?_⟩
      rw [generate, hc, hforce, Output.prepare_of_occupied hoccupied]

end Generation

namespace CommandLine

variable {m : Type → Type} [Monad m]

def runM (fetch : SchemaSource → Nat → FileTree → ProviderSpec → m Fetch) (args : List String)
    (t : FileTree) : m (FileTree × Ending) :=
  match parse args with
  | .error e => pure (t, .refused e)
  | .ok a =>
      match a.request with
      | .error fault => pure (t, .misconfigured fault)
      | .ok r => do
          match ← Generation.generateM r (fetch a.source r.timeout) t with
          | (t, .error e) => pure (t, .failed e)
          | (t, .ok report) => pure (t, .completed report)

def journal (runner : Runner) (args : List String) (t : FileTree) :
    (FileTree × Ending) × List ProviderSpec :=
  (runM (fun source limit => Generation.noted (source.fetch runner limit)) args t).run []

def Ending.IsRejection : Ending → Prop
  | .refused _ => True
  | .misconfigured _ => True
  | .failed e => e.IsRejection
  | .completed _ => False

def Ending.ofResult : Except RunError Report → Ending
  | .error e => .failed e
  | .ok report => .completed report

theorem Ending.ofResult_eq_failed_iff {x : Except RunError Report} {e : RunError} :
    Ending.ofResult x = .failed e ↔ x = .error e := by
  cases x <;> simp [ofResult]

section

variable (runner : Runner) {args : List String} (t : FileTree) {a : GenerateArgs} {r : Request}

theorem run_of_request (ha : parse args = .ok a) (hr : a.request = .ok r) :
    run runner args t = ((generate r (a.source.fetch runner r.timeout) t).1,
      .ofResult (generate r (a.source.fetch runner r.timeout) t).2) := by
  rw [run, ha]
  dsimp only
  rw [hr]
  dsimp only
  rcases generate r (a.source.fetch runner r.timeout) t with ⟨t', e | report⟩ <;> rfl

theorem journal_of_request (ha : parse args = .ok a) (hr : a.request = .ok r) :
    journal runner args t =
      (run runner args t, (Generation.journal r (a.source.fetch runner r.timeout) t).2) := by
  have hjournal := (Generation.rejectsCleanly r (a.source.fetch runner r.timeout) t).journal
  rw [run_of_request runner t ha hr, ← hjournal, journal, runM, ha]
  dsimp only
  rw [hr]
  dsimp only
  rw [StateT.run_bind, ← Generation.journal]
  rcases Generation.journal r (a.source.fetch runner r.timeout) t with ⟨⟨t', e | report⟩, asked⟩ <;> rfl

end

structure RejectsCleanly (runner : Runner) (args : List String) (t : FileTree) : Prop where
  journal : (journal runner args t).1 = run runner args t
  untouched : (run runner args t).2.IsRejection →
    (run runner args t).1 = t ∧ (CommandLine.journal runner args t).2 = []
  misconfigured : ∀ a, parse args = .ok a → ((run runner args t).2.exitCode = 2 ↔ ¬ a.IsValid)
  notEmpty : ∀ a, parse args = .ok a →
    ((∃ path, (run runner args t).2 = .failed (.output (.directoryNotEmpty path))) ↔
      a.IsValid ∧ t.Occupied a.outDirectory ∧ a.force = false)
  succeeds : ∀ a, parse args = .ok a → ((run runner args t).2.exitCode = 0 ↔
    ∃ report, (run runner args t).2 = .completed report ∧ report.failures = [])

section

variable (runner : Runner) {args : List String} (t : FileTree) {a : GenerateArgs} {r : Request}

theorem rejectsCleanly_of_refused {e : UsageError} (ha : parse args = .error e) :
    RejectsCleanly runner args t := by
  have hrun : run runner args t = (t, .refused e) := by rw [run, ha]
  have hjournal : journal runner args t = ((t, .refused e), []) := by
    rw [journal, runM, ha]
    rfl
  constructor <;> simp [hrun, hjournal, ha]

theorem rejectsCleanly_of_misconfigured {fault : GenerateArgs.Fault} (ha : parse args = .ok a)
    (hr : a.request = .error fault) : RejectsCleanly runner args t := by
  have hrun : run runner args t = (t, .misconfigured fault) := by
    rw [run, ha]
    dsimp only
    rw [hr]
  have hjournal : journal runner args t = ((t, .misconfigured fault), []) := by
    rw [journal, runM, ha]
    dsimp only
    rw [hr]
    rfl
  have hinvalid : ¬ a.IsValid := fun h => by
    obtain ⟨r, hok⟩ := GenerateArgs.isValid_iff.mp h
    cases hr.symm.trans hok
  constructor <;> simp [hrun, hjournal, ha, hinvalid, Ending.exitCode]

theorem rejectsCleanly_of_request (ha : parse args = .ok a) (hr : a.request = .ok r) :
    RejectsCleanly runner args t := by
  have hvalid : a.IsValid := GenerateArgs.isValid_iff.mpr ⟨r, hr⟩
  obtain ⟨providers, mount, hproviders, -, -, hrequest⟩ := GenerateArgs.request_eq_ok_iff.mp hr
  have hstems : (r.providers.map ProviderSpec.stem).Nodup := by
    rw [hrequest]
    exact (parseProviderSpecs_eq_ok_iff.mp hproviders).2.2
  have hout : r.outDirectory = a.outDirectory ∧ r.force = a.force := by simp [hrequest]
  obtain ⟨-, huntouched, -, hnotEmpty⟩ :=
    Generation.rejectsCleanly r (a.source.fetch runner r.timeout) t
  have hrun := run_of_request runner t ha hr
  have hjournal := journal_of_request runner t ha hr
  have hsame : ∀ a', parse args = .ok a' → a' = a := fun a' ha' => by
    cases ha.symm.trans ha'
    rfl
  generalize generate r (a.source.fetch runner r.timeout) t = o at huntouched hnotEmpty hrun
  exact {
    journal := by rw [hjournal]
    untouched := by
      intro hrejected
      cases hresult : o.2 with
      | error e =>
          rw [hrun, hresult] at hrejected
          rw [hjournal, hrun]
          exact huntouched e hresult hrejected
      | ok report =>
          rw [hrun, hresult] at hrejected
          exact absurd hrejected id
    misconfigured := by
      intro a' ha'
      rw [hsame a' ha', hrun]
      cases o.2 with
      | error e => simp [Ending.ofResult, Ending.exitCode, hvalid]
      | ok report =>
          simp only [Ending.ofResult, Ending.exitCode, hvalid]
          split <;> simp
    notEmpty := by
      intro a' ha'
      rw [hsame a' ha', hrun]
      simp only [Ending.ofResult_eq_failed_iff, hnotEmpty, hout, hstems, hvalid, true_and]
    succeeds := by
      intro a' ha'
      rw [hrun]
      cases o.2 with
      | error e => simp [Ending.ofResult, Ending.exitCode]
      | ok report => simp [Ending.ofResult, Ending.exitCode, Report.isSuccess] }

end

theorem rejectsCleanly (runner : Runner) (args : List String) (t : FileTree) :
    RejectsCleanly runner args t := by
  cases ha : parse args with
  | error e => exact rejectsCleanly_of_refused runner t ha
  | ok a =>
      cases hr : a.request with
      | error fault => exact rejectsCleanly_of_misconfigured runner t ha hr
      | ok r => exact rejectsCleanly_of_request runner t ha hr

theorem requests_and_command_lines_reject_cleanly :
    (∀ r fetch t, Generation.RejectsCleanly r fetch t) ∧ ∀ runner args t, RejectsCleanly runner args t :=
  ⟨Generation.rejectsCleanly, rejectsCleanly⟩

end CommandLine

end ProviderBindings
