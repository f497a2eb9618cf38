import ProviderBindings.Proofs.Generation.Providers

/-!
A provider as a task that waits for its schema document, writes its files with two calls for each, and ends.
Its steps stay in the provider's own directory, and come to what the provider does in one go.
-/

namespace ProviderBindings.Generation

open Route (IsName)

variable {r : Request} {p : Place}

structure Job where
  spec : ProviderSpec
  source : ProviderSource
  count : Nat
  failures : List RunError

namespace Job

def fresh (spec : ProviderSpec) (source : ProviderSource) : Job :=
  ⟨spec, source, 0, entityFailures spec source⟩

def noted (j : Job) : Except OutputError Unit → Job
  | .ok () => { j with count := j.count + 1 }
  | .error e => { j with failures := j.failures ++ [.output e] }

def run (j : Job) : ProviderRun :=
  ⟨some (⟨j.spec.localName, j.source.entities, j.count⟩, j.source.directory), j.failures⟩

def runWith (j : Job) (written : Nat × List RunError) : ProviderRun :=
  run { j with count := j.count + written.1, failures := j.failures ++ written.2 }

def finish (directory : String) (j : Job) (files : List (String × OwnedFile)) (t : FileTree) :
    FileTree × ProviderRun :=
  let (t, written) := writeAll directory files t
  (t, j.runWith written)

theorem runWith_tally {α : Type} (j : Job) (outcome : Except OutputError α) (written : Nat × List RunError) :
    j.runWith (tally outcome written) = (j.noted (outcome.map fun _ => ())).runWith written := by
  obtain ⟨count, failures⟩ := written
  cases outcome with
  | ok a => simp [runWith, tally, noted, Except.map, Nat.add_comm, Nat.add_left_comm]
  | error e => simp [runWith, tally, noted, Except.map]

theorem finish_nil (directory : String) (j : Job) (t : FileTree) : j.finish directory [] t = (t, j.run) := by
  simp [finish, writeAll, runWith, run]

theorem finish_cons (directory : String) (j : Job) (path : String) (f : OwnedFile)
    (rest : List (String × OwnedFile)) (t : FileTree) :
    j.finish directory ((path, f) :: rest) t =
      let (t, outcome) := Output.write directory f.owner ⟨path, f.contents⟩ t
      (j.noted (outcome.map fun _ => ())).finish directory rest t := by
  rw [finish, writeAll]
  rcases Output.write directory f.owner ⟨path, f.contents⟩ t with ⟨t', outcome⟩
  dsimp only
  rw [finish]
  rcases writeAll directory rest t' with ⟨t'', written⟩
  dsimp only
  rw [runWith_tally]

end Job

inductive Task where
  | waiting (spec : ProviderSpec) (fetched : Fetch)
  | writing (j : Job) (files : List (String × OwnedFile))
  /-- There is room for a file, which comes next. -/
  | opened (j : Job) (path : String) (f : OwnedFile) (rest : List (String × OwnedFile))
  | ended (run : ProviderRun)

namespace Task

/-- What a task does next: every call to the file system is a step of its own. -/
def advance (r : Request) : Task → FileTree → FileTree × Task
  | .waiting spec fetched, t =>
      match sourceOf r spec fetched with
      | .error e => (t, .ended ⟨none, [e]⟩)
      | .ok source => (t, .writing (.fresh spec source) source.tree.files)
  | .writing j [], t => (t, .ended j.run)
  | .writing j ((path, f) :: rest), t =>
      let (t, room) := Output.makeRoom r.outDirectory f.owner ⟨path, f.contents⟩ t
      (t, match room with
        | .ok () => .opened j path f rest
        | .error e => .writing (j.noted (.error e)) rest)
  | .opened j path f rest, t =>
      let (t, outcome) := Output.deliver r.outDirectory f.owner ⟨path, f.contents⟩ t
      (t, .writing (j.noted outcome) rest)
  | .ended run, t => (t, .ended run)

def finish (r : Request) : Task → FileTree → FileTree × ProviderRun
  | .waiting spec fetched, t => runProvider r spec fetched t
  | .writing j files, t => j.finish r.outDirectory files t
  | .opened j path f rest, t =>
      let (t, outcome) := Output.deliver r.outDirectory f.owner ⟨path, f.contents⟩ t
      (j.noted outcome).finish r.outDirectory rest t
  | .ended run, t => (t, run)

theorem finish_advance (r : Request) (task : Task) (t : FileTree) :
    (task.advance r t).2.finish r (task.advance r t).1 = task.finish r t := by
  cases task with
  | waiting spec fetched =>
      rw [advance, finish, runProvider]
      cases sourceOf r spec fetched with
      | error e => rfl
      | ok source =>
          dsimp only
          rw [finish, Job.finish]
          rcases writeAll r.outDirectory source.tree.files t with ⟨t', count, failures⟩
          simp [Job.runWith, Job.run, Job.fresh]
  | writing j files =>
      cases files with
      | nil =>
          rw [advance, finish, finish, Job.finish_nil]
      | cons file rest =>
          obtain ⟨path, f⟩ := file
          rw [advance, finish, Job.finish_cons, Output.write_eq]
          rcases Output.makeRoom r.outDirectory f.owner ⟨path, f.contents⟩ t with ⟨t', e | ⟨⟩⟩
          · rfl
          · dsimp only
            rw [finish]
            rcases Output.deliver r.outDirectory f.owner ⟨path, f.contents⟩ t' with ⟨t'', e | ⟨⟩⟩ <;> rfl
  | opened j path f rest =>
      rw [advance]
      simp only [finish]
  | ended run => rfl

def LiesIn (s : String) : Task → Prop
  | .waiting spec _ => spec.stem = s
  | .writing _ files => ∀ path ∈ Table.keys files, ProviderBindings.LiesIn s path
  | .opened _ path _ rest =>
      ProviderBindings.LiesIn s path ∧ ∀ path ∈ Table.keys rest, ProviderBindings.LiesIn s path
  | .ended _ => True

variable {s : String} {task : Task}

theorem LiesIn.advance (h : task.LiesIn s) (t : FileTree) : (task.advance r t).2.LiesIn s := by
  cases task with
  | waiting spec fetched =>
      rw [Task.advance]
      cases hsource : sourceOf r spec fetched with
      | error e => trivial
      | ok source => exact h ▸ (filedIn_sourceOf hsource).1.placed
  | writing j files =>
      cases files with
      | nil => trivial
      | cons file rest =>
          obtain ⟨path, f⟩ := file
          have hrest : ∀ path ∈ Table.keys rest, ProviderBindings.LiesIn s path := fun path hp =>
            h path (List.mem_cons_of_mem _ hp)
          rw [Task.advance]
          rcases Output.makeRoom r.outDirectory f.owner ⟨path, f.contents⟩ t with ⟨t', e | ⟨⟩⟩
          · exact hrest
          · exact ⟨h path List.mem_cons_self, hrest⟩
  | opened j path f rest =>
      rw [Task.advance]
      rcases Output.deliver r.outDirectory f.owner ⟨path, f.contents⟩ t with ⟨t', outcome⟩
      exact h.2
  | ended run => trivial

theorem confined_advance (hs : IsName s) (h : task.LiesIn s) :
    Confined (.ofText r.outDirectory) p (p ++ [s]) (task.advance r) := by
  cases task with
  | waiting spec fetched =>
      let next : Task :=
        match sourceOf r spec fetched with
        | .error e => .ended ⟨none, [e]⟩
        | .ok source => .writing (.fresh spec source) source.tree.files
      refine (Confined.result next).congr fun t _ => ?_
      rw [advance]
      cases hsource : sourceOf r spec fetched <;> simp only [next, hsource]
  | writing j files =>
      cases files with
      | nil => exact Confined.result _
      | cons file rest =>
          obtain ⟨path, f⟩ := file
          have hroom : Confined (.ofText r.outDirectory) p (p ++ [s])
              (Output.makeRoom r.outDirectory f.owner ⟨path, f.contents⟩) :=
            Output.confined_makeRoom hs (h path List.mem_cons_self)
          exact (hroom.map fun room : Except OutputError Unit =>
            match room with
            | .ok () => Task.opened j path f rest
            | .error e => Task.writing (j.noted (.error e)) rest).congr fun t _ => by rw [advance]
  | opened j path f rest =>
      have hdeliver : Confined (.ofText r.outDirectory) p (p ++ [s])
          (Output.deliver r.outDirectory f.owner ⟨path, f.contents⟩) :=
        Output.confined_deliver hs h.1
      exact (hdeliver.map fun outcome => Task.writing (j.noted outcome) rest).congr
        fun t _ => by rw [advance]
  | ended run => exact Confined.result _

theorem confined_finish (hs : IsName s) (h : task.LiesIn s) :
    Confined (.ofText r.outDirectory) p (p ++ [s]) (task.finish r) := by
  have hjob : ∀ (j : Job) {files : List (String × OwnedFile)},
      (∀ path ∈ Table.keys files, ProviderBindings.LiesIn s path) →
        Confined (.ofText r.outDirectory) p (p ++ [s]) (j.finish r.outDirectory files) :=
    fun j _ hf => (confined_writeAll hs hf).map j.runWith
  cases task with
  | waiting spec fetched => exact h ▸ confined_runProvider r spec fetched
  | writing j files => exact hjob j h
  | opened j path f rest =>
      have hdeliver : Confined (.ofText r.outDirectory) p (p ++ [s])
          (Output.deliver r.outDirectory f.owner ⟨path, f.contents⟩) :=
        Output.confined_deliver hs h.1
      exact (hdeliver.bind fun outcome => hjob (j.noted outcome) h.2).congr fun t _ => by rw [finish]
  | ended run => exact Confined.result _

def work (r : Request) : Task → Nat
  | .waiting spec fetched =>
      match sourceOf r spec fetched with
      | .error _ => 1
      | .ok source => 2 * source.tree.files.length + 2
  | .writing _ files => 2 * files.length + 1
  | .opened _ _ _ rest => 2 * rest.length + 2
  | .ended _ => 0

theorem work_advance (hopen : ∀ run, task ≠ .ended run) (t : FileTree) :
    (task.advance r t).2.work r < task.work r := by
  cases task with
  | waiting spec fetched =>
      rw [advance, work]
      cases sourceOf r spec fetched with
      | error e => simp [work]
      | ok source => simp [work]
  | writing j files =>
      cases files with
      | nil => simp [advance, work]
      | cons file rest =>
          obtain ⟨path, f⟩ := file
          rw [advance]
          rcases Output.makeRoom r.outDirectory f.owner ⟨path, f.contents⟩ t with ⟨t', e | ⟨⟩⟩
          · simp only [work, List.length_cons]
            omega
          · simp only [work, List.length_cons]
            omega
  | opened j path f rest =>
      rw [advance]
      simp [work]
  | ended run => exact absurd rfl (hopen run)

end Task

end ProviderBindings.Generation
