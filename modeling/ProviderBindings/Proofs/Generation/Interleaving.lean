import ProviderBindings.Proofs.Generation.Task
import ProviderBindings.Proofs.Output.Preparation

/-!
Providers that run side by side, each as a task that joins when it has ended. In whatever order the tasks take
their steps and join, a run ends as the run does that takes the providers one after another.
-/

namespace ProviderBindings.Generation

open FileTree (Grows Leads Outcome)

variable {r : Request} {p : Place} {t t₀ : FileTree}

/-- The tasks that run, with their positions in the request, and those that have joined, in that order. -/
structure Pool where
  tree : FileTree
  tasks : List (Nat × Task)
  joined : List (Nat × ProviderRun)

namespace Pool

def start (r : Request) (fetch : ProviderSpec → Fetch) (t : FileTree) : Pool :=
  ⟨t, r.providers.zipIdx.map fun e => (e.2, .waiting e.1 (fetch e.1)), []⟩

inductive Step (r : Request) : Pool → Pool → Prop
  | advance (t before i task after joined) (hopen : ∀ run, task ≠ .ended run) :
      Step r ⟨t, before ++ (i, task) :: after, joined⟩
        ⟨(task.advance r t).1, before ++ (i, (task.advance r t).2) :: after, joined⟩
  | join (t before i run after joined) :
      Step r ⟨t, before ++ (i, .ended run) :: after, joined⟩ ⟨t, before ++ after, joined ++ [(i, run)]⟩

/-- Whatever steps are taken, they come to an end, and then all tasks have joined and the property holds. -/
inductive Ends (r : Request) (P : Pool → Prop) : Pool → Prop
  | done (pool : Pool) (hnone : pool.tasks = []) (hP : P pool) : Ends r P pool
  | go (pool next : Pool) (hnext : Step r pool next) (hall : ∀ next, Step r pool next → Ends r P next) :
      Ends r P pool

def precedes (a b : Nat × ProviderRun) : Bool := decide (a.1 ≤ b.1)

def runs (pool : Pool) : List ProviderRun := (pool.joined.mergeSort precedes).map Prod.snd

def workOf (r : Request) : List (Nat × Task) → Nat
  | [] => 0
  | m :: rest => m.2.work r + 1 + workOf r rest

theorem workOf_append (l l' : List (Nat × Task)) : workOf r (l ++ l') = workOf r l + workOf r l' := by
  induction l with
  | nil => simp [workOf]
  | cons m rest ih =>
      rw [List.cons_append, workOf, workOf, ih]
      omega

def work (r : Request) (pool : Pool) : Nat := workOf r pool.tasks

theorem exists_step (r : Request) {pool : Pool} (h : pool.tasks ≠ []) : ∃ next, Step r pool next := by
  obtain ⟨t, tasks, joined⟩ := pool
  obtain ⟨⟨i, task⟩, rest, rfl⟩ := List.exists_cons_of_ne_nil h
  cases task with
  | ended run => exact ⟨_, Step.join t [] i run rest joined⟩
  | waiting spec fetched => exact ⟨_, Step.advance t [] i _ rest joined nofun⟩
  | writing j files => exact ⟨_, Step.advance t [] i _ rest joined nofun⟩
  | opened j path f others => exact ⟨_, Step.advance t [] i _ rest joined nofun⟩

theorem Step.work_lt {pool next : Pool} (h : Step r pool next) : next.work r < pool.work r := by
  cases h with
  | advance t before i task after joined hopen =>
      have hwork := Task.work_advance (r := r) hopen t
      simp only [work, workOf_append, workOf]
      omega
  | join t before i run after joined =>
      simp only [work, workOf_append, workOf]
      omega

theorem ends_of_invariant {Inv P : Pool → Prop} (hstep : ∀ pool next, Inv pool → Step r pool next → Inv next)
    (hend : ∀ pool, Inv pool → pool.tasks = [] → P pool) {pool : Pool} (h : Inv pool) : Ends r P pool := by
  -- Every step leaves less work, whichever task takes it.
  generalize hn : pool.work r = n
  induction n using Nat.strongRecOn generalizing pool with
  | ind n ih =>
      by_cases htasks : pool.tasks = []
      · exact .done pool htasks (hend pool h htasks)
      · obtain ⟨next, hnext⟩ := exists_step r htasks
        exact .go pool next hnext fun other hother =>
          ih (other.work r) (hn ▸ hother.work_lt) (hstep pool other h hother) rfl

end Pool

variable {fetch : ProviderSpec → Fetch}

structure Bound (r : Request) (fetch : ProviderSpec → Fetch) (p : Place) (t₀ t : FileTree)
    (spec : ProviderSpec) (task : Task) : Prop where
  place : task.LiesIn spec.stem
  result : (task.finish r t).2 = (runProvider r spec (fetch spec) t₀).2
  agree : (task.finish r t).1.AgreeBelow (p ++ [spec.stem]) (runProvider r spec (fetch spec) t₀).1

namespace Bound

variable {spec other : ProviderSpec} {task : Task}

theorem advance (h : Bound r fetch p t₀ t spec task) :
    Bound r fetch p t₀ (task.advance r t).1 spec (task.advance r t).2 where
  place := h.place.advance t
  result := by
    rw [Task.finish_advance]
    exact h.result
  agree := by
    rw [Task.finish_advance]
    exact h.agree

theorem frame {α : Type} {s : String} {op : FileTree → FileTree × α}
    (hop : Confined (.ofText r.outDirectory) p (p ++ [s]) op) (hl : t.Leads (.ofText r.outDirectory) p)
    (hne : s ≠ spec.stem) (h : Bound r fetch p t₀ t spec task) :
    Bound r fetch p t₀ (op t).1 spec task := by
  have hfinish : Confined (.ofText r.outDirectory) p (p ++ [spec.stem]) (task.finish r) :=
    Task.confined_finish spec.isName_stem h.place
  obtain ⟨hresult, hagree⟩ := hfinish.inside (hl.mono (hop.grows hl)) hl (agreeBelow_of_confined hop hl hne)
  exact ⟨h.place, hresult.trans h.result, fun a ha => (hagree a ha).trans (h.agree a ha)⟩

end Bound

namespace Pool

def members (pool : Pool) : List (Nat × Task) :=
  pool.tasks ++ pool.joined.map fun e => (e.1, .ended e.2)

theorem perm_members (t : FileTree) (before : List (Nat × Task)) (i : Nat) (task : Task)
    (after : List (Nat × Task)) (joined : List (Nat × ProviderRun)) :
    (⟨t, before ++ (i, task) :: after, joined⟩ : Pool).members.Perm
      ((i, task) :: (⟨t, before ++ after, joined⟩ : Pool).members) := by
  simp only [members, List.append_assoc, List.cons_append]
  exact List.perm_middle

theorem perm_members_join (t : FileTree) (tasks : List (Nat × Task)) (i : Nat) (run : ProviderRun)
    (joined : List (Nat × ProviderRun)) :
    (⟨t, tasks, joined ++ [(i, run)]⟩ : Pool).members.Perm
      ((i, .ended run) :: (⟨t, tasks, joined⟩ : Pool).members) := by
  simp only [members, List.map_append, List.map_cons, List.map_nil, ← List.append_assoc]
  exact List.perm_append_singleton _ _

theorem positions_sorted {joined : List (Nat × ProviderRun)} {n : Nat}
    (h : (joined.map Prod.fst).Perm (List.range n)) :
    (joined.mergeSort precedes).map Prod.fst = List.range n := by
  have htrans : ∀ a b c, precedes a b = true → precedes b c = true → precedes a c = true := by
    simp only [precedes, decide_eq_true_eq]
    exact fun a b c => Nat.le_trans
  have htotal : ∀ a b, (precedes a b || precedes b a) = true := by
    simp only [precedes, Bool.or_eq_true, decide_eq_true_eq]
    exact fun a b => Nat.le_total a.1 b.1
  have hperm := ((List.mergeSort_perm joined precedes).map Prod.fst).trans h
  refine hperm.eq_of_pairwise (fun a b _ _ => Nat.le_antisymm) ?_ List.pairwise_le_range
  exact List.pairwise_map.mpr ((List.pairwise_mergeSort htrans htotal joined).imp of_decide_eq_true)

theorem map_snd_of_positions {α β : Type} {l : List (Nat × β)} {items : List α} {f : α → β}
    (hl : l.map Prod.fst = List.range items.length)
    (h : ∀ e ∈ l, ∃ a, items[e.1]? = some a ∧ e.2 = f a) : l.map Prod.snd = items.map f := by
  refine List.ext_getElem? fun k => ?_
  have hk := congrArg (·[k]?) hl
  simp only [List.getElem?_map] at hk ⊢
  cases he : l[k]? with
  | none =>
      rw [he] at hk
      have hlong : items.length ≤ k := by simpa using hk.symm
      simp [List.getElem?_eq_none hlong]
  | some e =>
      rw [he] at hk
      obtain ⟨-, rfl⟩ : k < items.length ∧ k = e.1 := by
        simpa [List.getElem?_range', List.getElem?_eq_some_iff] using hk.symm
      obtain ⟨a, ha, heq⟩ := h e (List.mem_of_getElem? he)
      rw [ha]
      exact congrArg some heq

end Pool

structure Tracks (r : Request) (fetch : ProviderSpec → Fetch) (p : Place) (t₀ : FileTree) (pool : Pool) :
    Prop where
  grows : Grows t₀ pool.tree
  regular : pool.tree.Regular
  outside : ∀ a, (∀ spec ∈ r.providers, ¬ p ++ [spec.stem] <+: a) → pool.tree.get? a = t₀.get? a
  positions : (pool.members.map Prod.fst).Perm (List.range r.providers.length)
  bound : ∀ m ∈ pool.members, ∃ spec, r.providers[m.1]? = some spec ∧
    Bound r fetch p t₀ pool.tree spec m.2

namespace Tracks

theorem start (r : Request) (fetch : ProviderSpec → Fetch) (p : Place) (hr : t.Regular) :
    Tracks r fetch p t (Pool.start r fetch t) where
  grows := Grows.refl t
  regular := hr
  outside _ _ := rfl
  positions := by
    simp only [Pool.members, Pool.start, List.map_nil, List.append_nil, List.map_map]
    have hfst : (Prod.fst ∘ fun e : ProviderSpec × Nat => (e.2, Task.waiting e.1 (fetch e.1))) = Prod.snd :=
      rfl
    rw [hfst, List.zipIdx_map_snd, List.range_eq_range']
  bound m hm := by
    simp only [Pool.members, Pool.start, List.map_nil, List.append_nil] at hm
    obtain ⟨⟨spec, i⟩, hmem, rfl⟩ := List.mem_map.mp hm
    exact ⟨spec, List.mem_zipIdx_iff_getElem?.mp hmem, rfl, rfl, fun _ _ => rfl⟩

theorem stem_ne {i j : Nat} {a b : ProviderSpec} (hd : (r.providers.map ProviderSpec.stem).Nodup)
    (ha : r.providers[i]? = some a) (hb : r.providers[j]? = some b) (hne : i ≠ j) : a.stem ≠ b.stem := by
  intro heq
  have hmap : (r.providers.map ProviderSpec.stem)[i]? = (r.providers.map ProviderSpec.stem)[j]? := by
    rw [List.getElem?_map, List.getElem?_map, ha, hb]
    exact congrArg some heq
  obtain ⟨hi, -⟩ := List.getElem?_eq_some_iff.mp ha
  exact hne ((List.getElem?_inj (by simpa using hi) hd).mp hmap)

theorem step {pool next : Pool} (hl : t₀.Leads (.ofText r.outDirectory) p)
    (hd : (r.providers.map ProviderSpec.stem).Nodup) (h : Tracks r fetch p t₀ pool)
    (hstep : Pool.Step r pool next) : Tracks r fetch p t₀ next := by
  cases hstep with
  | join t before i run after joined =>
      have hperm := (Pool.perm_members_join t (before ++ after) i run joined).trans
        (Pool.perm_members t before i (.ended run) after joined).symm
      exact ⟨h.grows, h.regular, h.outside, (hperm.map Prod.fst).trans h.positions,
        fun m hm => h.bound m (hperm.mem_iff.mp hm)⟩
  | advance t before i task after joined hopen =>
      have hleads := hl.mono h.grows
      have hold := Pool.perm_members t before i task after joined
      have hnow := Pool.perm_members (task.advance r t).1 before i (task.advance r t).2 after joined
      obtain ⟨spec, hspec, hbound⟩ := h.bound (i, task) (hold.mem_iff.mpr List.mem_cons_self)
      have hconfined : Confined (.ofText r.outDirectory) p (p ++ [spec.stem]) (task.advance r) :=
        Task.confined_advance spec.isName_stem hbound.place
      have hpositions := (hold.map Prod.fst).symm.trans h.positions
      refine ⟨h.grows.trans (hconfined.grows hleads), hconfined.regular hleads h.regular, fun a ha => ?_,
        (hnow.map Prod.fst).trans hpositions, fun m hm => ?_⟩
      · have hmem : spec ∈ r.providers := List.mem_of_getElem? hspec
        exact (hconfined.outside hleads (ha spec hmem)).trans (h.outside a ha)
      · rcases List.mem_cons.mp (hnow.mem_iff.mp hm) with rfl | hmem
        · exact ⟨spec, hspec, hbound.advance⟩
        · obtain ⟨other, hother, hboundOther⟩ :=
            h.bound m (hold.mem_iff.mpr (List.mem_cons_of_mem _ hmem))
          -- No other task has the position of the one that takes the step, and none its directory.
          have hnew := (List.nodup_cons.mp (hpositions.nodup_iff.mpr List.nodup_range)).1
          have hne : i ≠ m.1 := by
            rintro rfl
            exact hnew (List.mem_map.mpr ⟨m, hmem, rfl⟩)
          exact ⟨other, hother, hboundOther.frame hconfined hleads (stem_ne hd hspec hother hne)⟩

theorem settled {pool : Pool} (h : Tracks r fetch p t₀ pool) (hnone : pool.tasks = []) :
    Settled r fetch p t₀ r.providers pool.tree where
  grows := h.grows
  regular := h.regular
  outside := h.outside
  inside spec hspec := by
    obtain ⟨i, hi⟩ := List.getElem?_of_mem hspec
    obtain ⟨hlt, -⟩ := List.getElem?_eq_some_iff.mp hi
    obtain ⟨m, hm, rfl⟩ := List.mem_map.mp (h.positions.mem_iff.mpr (List.mem_range.mpr hlt))
    obtain ⟨other, hother, hbound⟩ := h.bound m hm
    cases hi.symm.trans hother
    simp only [Pool.members, hnone, List.nil_append] at hm
    obtain ⟨e, -, rfl⟩ := List.mem_map.mp hm
    exact hbound.agree

theorem runs_eq {pool : Pool} (h : Tracks r fetch p t₀ pool) (hnone : pool.tasks = []) :
    pool.runs = r.providers.map fun spec => (runProvider r spec (fetch spec) t₀).2 := by
  have hpositions := h.positions
  simp only [Pool.members, hnone, List.nil_append, List.map_map] at hpositions
  refine Pool.map_snd_of_positions (Pool.positions_sorted hpositions) fun e he => ?_
  have hjoined := (List.mergeSort_perm pool.joined Pool.precedes).mem_iff.mp he
  have hm : (e.1, Task.ended e.2) ∈ pool.members :=
    List.mem_append_right _ (List.mem_map.mpr ⟨e, hjoined, rfl⟩)
  obtain ⟨spec, hspec, hbound⟩ := h.bound _ hm
  exact ⟨spec, hspec, hbound.result⟩

end Tracks

def concluded (r : Request) (runs : List ProviderRun) (t : FileTree) : Outcome RunError Report :=
  match writeIndex r (modulesOf runs) t with
  | (t, .error e) => (t, .error e)
  | (t, .ok ()) => (t, .ok (reportOf runs))

theorem generate_eq {fetch : FileTree → ProviderSpec → Fetch} {prepared : FileTree}
    (hc : checkProviderModules r.providers = .ok ())
    (hp : Output.prepare r.outDirectory r.force t = (prepared, .ok ())) :
    generate r fetch t = concluded r (runProviders r (fetch prepared) r.providers prepared).2
      (runProviders r (fetch prepared) r.providers prepared).1 := by
  rw [generate, hc, hp]
  rfl

/-- A run of providers side by side always ends, and in whatever order the tasks write and join, with the
tree and the report of the run that takes them one after another. -/
theorem ends_as_generate {fetch : FileTree → ProviderSpec → Fetch} {prepared : FileTree} (ht : t.WellFormed)
    (hc : checkProviderModules r.providers = .ok ())
    (hp : Output.prepare r.outDirectory r.force t = (prepared, .ok ())) :
    (Pool.start r (fetch prepared) prepared).Ends r fun pool =>
      concluded r pool.runs pool.tree = generate r fetch t := by
  obtain ⟨hregular, p, hl⟩ := Output.leads_of_prepare ht hp
  have hd := checkProviderModules_eq_ok_iff.mp hc
  refine Pool.ends_of_invariant (fun pool next h => Tracks.step hl hd h) (fun pool h hnone => ?_)
    (Tracks.start r (fetch prepared) p hregular)
  obtain ⟨hsettled, hruns⟩ := settled_runProviders hl hregular hd
  rw [generate_eq hc hp, h.runs_eq hnone, hruns, (h.settled hnone).unique hsettled]

def twoProviders : Request :=
  .ofProviders "out" [⟨"aws", "hashicorp/aws", "4.49.0"⟩, ⟨"http", "hashicorp/http", "3.4.5"⟩]

def oneAnswer (_ : FileTree) (spec : ProviderSpec) : Fetch :=
  if spec.localName = "http" then .document ⟨"1.0", [("hashicorp/http", ⟨.empty, [], []⟩)]⟩ else .timedOut

theorem ends_as_generate_twoProviders :
    ∃ prepared, prepared.Leads (.ofText "out") ["out"] ∧
      (Pool.start twoProviders (oneAnswer prepared) prepared).Ends twoProviders fun pool =>
        concluded twoProviders pool.runs pool.tree = generate twoProviders oneAnswer (.empty []) := by
  have ht : (FileTree.empty []).WellFormed :=
    { ordered := List.Pairwise.nil
      rootless := by simp [FileTree.empty, Table.keys]
      above := by simp [FileTree.empty]
      working := rfl }
  have hp : Output.prepare twoProviders.outDirectory twoProviders.force (.empty []) =
      (⟨[(["out"], .directory)], []⟩, .ok ()) := by
    decide +kernel
  have hl : (⟨[(["out"], .directory)], []⟩ : FileTree).Leads (.ofText "out") ["out"] :=
    ⟨by decide +kernel, by decide +kernel, by decide +kernel⟩
  exact ⟨_, hl, ends_as_generate ht (by decide +kernel) hp⟩

end ProviderBindings.Generation
