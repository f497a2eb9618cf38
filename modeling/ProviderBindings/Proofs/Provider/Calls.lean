import Mathlib.Data.List.Induction
import ProviderBindings.Proofs.Provider.Ownership

/-!
Trees that are filled by calls, some of which fail. A call fails at its first file whose path is taken, and
then it has changed nothing; a path stays with the first call that succeeds with it; the modules are those of
the calls that succeed, and what is written for the index takes no path from an entity.
-/

namespace ProviderBindings.ProviderTree

structure Call where
  owner : String
  files : List SourceFile
  modules : List String
  deriving DecidableEq, Repr

section

variable {ε σ α β : Type}

theorem run_bind (x : ExceptT ε (StateM σ) α) (k : α → ExceptT ε (StateM σ) β) (s : σ) :
    (x >>= k).run.run s =
      match x.run.run s with
      | (.ok a, s') => (k a).run.run s'
      | (.error e, s') => (.error e, s') := by
  change (match x.run.run s with
    | (r, s') => (ExceptT.bindCont k r).run s') = _
  rcases x.run.run s with ⟨e | a, s'⟩ <;> rfl

end

namespace Call

def check (c : Call) (f : SourceFile) : ExceptT PathClash (StateM ProviderTree) Unit := do
  match (← get).owner? f.path with
  | some first => throw ⟨f.path, first, c.owner⟩
  | none => pure ()

/-- The call as it changes a tree in place, where what was changed before a failure would stay. -/
def perform (c : Call) : ExceptT PathClash (StateM ProviderTree) Unit := do
  forM c.files c.check
  forM c.files fun f => modify fun t => { t with files := put c.owner t.files f }
  modify fun t => { t with declared := t.declared ++ c.modules }

def performOn (t : ProviderTree) (c : Call) : Except PathClash Unit × ProviderTree := c.perform.run.run t

theorem run_check (c : Call) (f : SourceFile) (t : ProviderTree) :
    (c.check f).run.run t =
      match t.owner? f.path with
      | some first => (.error ⟨f.path, first, c.owner⟩, t)
      | none => (.ok (), t) := by
  change (match t.owner? f.path with
    | some first => throw ⟨f.path, first, c.owner⟩
    | none => pure () : ExceptT PathClash (StateM ProviderTree) Unit).run.run t = _
  cases t.owner? f.path <;> rfl

theorem run_checks (c : Call) (files : List SourceFile) (t : ProviderTree) :
    (forM files c.check).run.run t =
      match t.clash? c.owner files with
      | some clash => (.error clash, t)
      | none => (.ok (), t) := by
  induction files with
  | nil => rfl
  | cons f rest ih =>
      rw [List.forM_cons, run_bind, run_check, clash?]
      cases t.owner? f.path with
      | some first => rfl
      | none => exact ih

theorem run_puts (owner : String) (files : List SourceFile) (t : ProviderTree) :
    (forM files fun f => (modify fun t => { t with files := put owner t.files f } :
      ExceptT PathClash (StateM ProviderTree) Unit)).run.run t =
        (.ok (), { t with files := files.foldl (put owner) t.files }) := by
  induction files generalizing t with
  | nil => rfl
  | cons f rest ih =>
      rw [List.forM_cons, run_bind]
      exact ih { t with files := put owner t.files f }

theorem performOn_eq (t : ProviderTree) (c : Call) :
    c.performOn t =
      match t.insert c.owner c.files c.modules with
      | .ok t' => (.ok (), t')
      | .error clash => (.error clash, t) := by
  rw [performOn, perform, run_bind, run_checks, insert]
  cases t.clash? c.owner c.files with
  | some clash => rfl
  | none =>
      dsimp only
      rw [run_bind, run_puts]
      rfl

theorem performOn_cases (t : ProviderTree) (c : Call) :
    (∃ clash, t.insert c.owner c.files c.modules = .error clash ∧ c.performOn t = (.error clash, t)) ∨
      ∃ t', t.insert c.owner c.files c.modules = .ok t' ∧ c.performOn t = (.ok (), t') := by
  rw [performOn_eq]
  cases t.insert c.owner c.files c.modules with
  | error clash => exact .inl ⟨clash, rfl, rfl⟩
  | ok t' => exact .inr ⟨t', rfl, rfl⟩

end Call

/-! ### Failures -/

/-- Whose a path is: the index has its path before anything is put. -/
def Owns (t : ProviderTree) (owner path : String) : Prop :=
  (path = t.indexPath ∧ owner = indexOwner) ∨
    (path ≠ t.indexPath ∧ ∃ contents, Table.get? path t.files = some ⟨owner, contents⟩)

def Taken (t : ProviderTree) (path : String) : Prop := path = t.indexPath ∨ path ∈ Table.keys t.files

section

variable {t : ProviderTree} {owner path : String} {files : List SourceFile}

theorem owner?_eq_some_iff : t.owner? path = some owner ↔ t.Owns owner path := by
  rw [owner?, Owns]
  split
  · rename_i h
    simp [h, eq_comm]
  · rename_i h
    simp only [h, false_and, false_or, ne_eq, not_false_eq_true, true_and, Option.map_eq_some_iff]
    constructor
    · rintro ⟨⟨owner, contents⟩, hget, rfl⟩
      exact ⟨contents, hget⟩
    · rintro ⟨contents, hget⟩
      exact ⟨_, hget, rfl⟩

theorem owner?_eq_none_iff_not_taken : t.owner? path = none ↔ ¬ t.Taken path := by
  rw [owner?_eq_none_iff, Taken, not_or]

inductive Clashes (t : ProviderTree) (owner : String) (files : List SourceFile) : PathClash → Prop
  | intro {before after : List SourceFile} {f : SourceFile} {first : String}
      (hsplit : files = before ++ f :: after) (hfree : ∀ g ∈ before, ¬ t.Taken g.path)
      (h : t.Owns first f.path) : Clashes t owner files ⟨f.path, first, owner⟩

theorem clash?_eq_some_iff {clash : PathClash} :
    t.clash? owner files = some clash ↔ t.Clashes owner files clash := by
  constructor
  · intro h
    induction files with
    | nil => cases h
    | cons f rest ih =>
        rw [clash?] at h
        split at h
        · rename_i first howner
          cases h
          have hsplit : f :: rest = [] ++ f :: rest := rfl
          exact .intro hsplit (by simp) (owner?_eq_some_iff.mp howner)
        · rename_i howner
          obtain ⟨rfl, hfree, hown⟩ := ih h
          refine .intro (List.cons_append ..).symm (List.forall_mem_cons.mpr ⟨?_, hfree⟩) hown
          exact owner?_eq_none_iff_not_taken.mp howner
  · rintro ⟨rfl, hfree, hown⟩
    rename_i before after f first
    induction before with
    | nil => rw [List.nil_append, clash?, owner?_eq_some_iff.mpr hown]
    | cons g before ih =>
        obtain ⟨hg, hbefore⟩ := List.forall_mem_cons.mp hfree
        rw [List.cons_append, clash?, owner?_eq_none_iff_not_taken.mpr hg]
        exact ih hbefore

theorem clash?_ne_none_iff : (∃ clash, t.clash? owner files = some clash) ↔ ∃ f ∈ files, t.Taken f.path := by
  rw [← Option.isSome_iff_exists, Option.isSome_iff_ne_none, ne_eq, clash?_eq_none_iff]
  simp [owner?_eq_none_iff_not_taken]

end

structure Answers (t : ProviderTree) (c : Call) : Prop where
  fails : (∃ clash, (c.performOn t).1 = .error clash) ↔ ∃ f ∈ c.files, t.Taken f.path
  reports : ∀ clash, (c.performOn t).1 = .error clash ↔ t.Clashes c.owner c.files clash
  unchanged : ∀ clash, (c.performOn t).1 = .error clash → (c.performOn t).2 = t
  inserts : ∀ t', c.performOn t = (.ok (), t') ↔ t.insert c.owner c.files c.modules = .ok t'

theorem Call.error_iff {t : ProviderTree} {c : Call} {clash : PathClash} :
    (c.performOn t).1 = .error clash ↔ t.clash? c.owner c.files = some clash := by
  rw [performOn_eq, insert]
  cases t.clash? c.owner c.files <;> simp

theorem answers (t : ProviderTree) (c : Call) : Answers t c where
  fails := by simp only [Call.error_iff, clash?_ne_none_iff]
  reports clash := Call.error_iff.trans clash?_eq_some_iff
  unchanged clash h := by
    rcases Call.performOn_cases t c with ⟨_, _, heq⟩ | ⟨_, _, heq⟩
    · rw [heq]
    · rw [heq] at h
      cases h
  inserts t' := by
    rcases Call.performOn_cases t c with ⟨_, hinsert, heq⟩ | ⟨_, hinsert, heq⟩ <;> simp [hinsert, heq]

-- The path of a second file is taken, and the first one is not put either.
example : (⟨"b", [⟨"x/b.rs", ""⟩, ⟨"x/a.rs", ""⟩], ["b"]⟩ : Call).performOn
      ⟨"x/mod.rs", [("x/a.rs", ⟨"a", ""⟩)], ["a"]⟩ =
    (.error ⟨"x/a.rs", "a", "b"⟩, ⟨"x/mod.rs", [("x/a.rs", ⟨"a", ""⟩)], ["a"]⟩) := rfl

/-! ### Runs -/

def Call.file? (c : Call) (path : String) : Option OwnedFile :=
  (c.files.filter (·.path = path)).getLast?.map fun f => ⟨c.owner, f.contents⟩

def fill (t : ProviderTree) (calls : List Call) : ProviderTree :=
  calls.foldl (fun t c => (c.performOn t).2) t

def accepted (t : ProviderTree) : List Call → List Call
  | [] => []
  | c :: rest =>
      match c.performOn t with
      | (.ok _, t') => c :: accepted t' rest
      | (.error _, t') => accepted t' rest

section

variable {t t' : ProviderTree} {c : Call} {calls : List Call} {path : String}

theorem Call.file?_eq_none_iff : c.file? path = none ↔ ∀ f ∈ c.files, f.path ≠ path := by
  simp [file?]

theorem get?_insert_file? (h : t.insert c.owner c.files c.modules = .ok t') (path : String) :
    Table.get? path t'.files = (Table.get? path t.files).or (c.file? path) := by
  obtain ⟨hfree, rfl⟩ := insert_eq_ok_iff.mp h
  have hput : ∀ files : List SourceFile, Table.get? path (files.foldl (put c.owner) t.files) =
      (((files.filter (·.path = path)).getLast?).map fun f => OwnedFile.mk c.owner f.contents).or
        (Table.get? path t.files) := by
    intro files
    induction files using List.reverseRecOn with
    | nil => rfl
    | append_singleton files f ih =>
        rw [List.foldl_append, List.foldl_cons, List.foldl_nil, put, Table.get?_insert, ih,
          List.filter_append]
        by_cases hf : f.path = path
        · simp [hf]
        · simp [hf, Ne.symm hf]
  rw [hput, ← Call.file?]
  cases hfile : c.file? path with
  | none => simp
  | some o =>
      -- A path of the call was free before.
      have hnone : Table.get? path t.files = none := by
        refine Table.get?_eq_none_iff.mpr fun hmem => ?_
        have hany : ∃ f ∈ c.files, f.path = path := by
          simpa using mt Call.file?_eq_none_iff.mpr (by simp [hfile])
        obtain ⟨f, hf, rfl⟩ := hany
        exact (hfree f hf).2 hmem
      simp [hnone]

theorem fill_cons : fill t (c :: calls) = fill (c.performOn t).2 calls := rfl

theorem fill_append (t : ProviderTree) (before after : List Call) :
    fill t (before ++ after) = fill (fill t before) after := List.foldl_append

theorem accepted_of_error {clash : PathClash} (h : c.performOn t = (.error clash, t')) :
    accepted t (c :: calls) = accepted t' calls := by
  rw [accepted, h]

theorem accepted_of_ok (h : c.performOn t = (.ok (), t')) :
    accepted t (c :: calls) = c :: accepted t' calls := by
  rw [accepted, h]

theorem get?_fill (t : ProviderTree) (calls : List Call) (path : String) :
    Table.get? path (fill t calls).files =
      (Table.get? path t.files).or ((accepted t calls).findSome? (·.file? path)) := by
  induction calls generalizing t with
  | nil => simp [fill, accepted]
  | cons c rest ih =>
      rw [fill_cons, ih]
      rcases Call.performOn_cases t c with ⟨clash, _, heq⟩ | ⟨t', hinsert, heq⟩
      · rw [accepted_of_error heq, heq]
      · rw [accepted_of_ok heq, heq, get?_insert_file? hinsert, Option.or_assoc, List.findSome?_cons]
        cases c.file? path <;> rfl

theorem indexPath_fill (t : ProviderTree) (calls : List Call) : (fill t calls).indexPath = t.indexPath := by
  induction calls generalizing t with
  | nil => rfl
  | cons c rest ih =>
      rw [fill_cons, ih]
      rcases Call.performOn_cases t c with ⟨clash, _, heq⟩ | ⟨t', hinsert, heq⟩
      · rw [heq]
      · rw [heq, (insert_eq_ok_iff.mp hinsert).2]

theorem file?_indexPath (t : ProviderTree) (calls : List Call) :
    ∀ c ∈ accepted t calls, c.file? t.indexPath = none := by
  induction calls generalizing t with
  | nil => simp [accepted]
  | cons c rest ih =>
      rcases Call.performOn_cases t c with ⟨clash, _, heq⟩ | ⟨t', hinsert, heq⟩
      · rw [accepted_of_error heq]
        exact ih t
      · obtain ⟨hfree, rfl⟩ := insert_eq_ok_iff.mp hinsert
        rw [accepted_of_ok heq]
        exact List.forall_mem_cons.mpr
          ⟨Call.file?_eq_none_iff.mpr fun f hf => (hfree f hf).1, ih _⟩

theorem declared_fill (t : ProviderTree) (calls : List Call) :
    (fill t calls).declared = t.declared ++ (accepted t calls).flatMap Call.modules := by
  induction calls generalizing t with
  | nil => simp [fill, accepted]
  | cons c rest ih =>
      rw [fill_cons, ih]
      rcases Call.performOn_cases t c with ⟨clash, _, heq⟩ | ⟨t', hinsert, heq⟩
      · rw [accepted_of_error heq, heq]
      · obtain ⟨-, rfl⟩ := insert_eq_ok_iff.mp hinsert
        rw [accepted_of_ok heq, heq, List.flatMap_cons, List.append_assoc]

end

/-! ### Modules -/

structure StablySorted (modules sorted : List String) : Prop where
  perm : sorted.Perm modules
  ordered : sorted.Pairwise fun a b => Naming.fileStem a ≤ Naming.fileStem b
  stable : ∀ stem, sorted.filter (Naming.fileStem · = stem) = modules.filter (Naming.fileStem · = stem)

theorem stablySorted_sortModules (modules : List String) : StablySorted modules (sortModules modules) := by
  have htrans : ∀ a b c : String, decide (Naming.fileStem a ≤ Naming.fileStem b) = true →
      decide (Naming.fileStem b ≤ Naming.fileStem c) = true →
        decide (Naming.fileStem a ≤ Naming.fileStem c) = true := by
    intro a b c hab hbc
    simp only [decide_eq_true_eq] at hab hbc ⊢
    exact Std.le_trans hab hbc
  have htotal : ∀ a b : String, (decide (Naming.fileStem a ≤ Naming.fileStem b) ||
      decide (Naming.fileStem b ≤ Naming.fileStem a)) = true := by
    intro a b
    simpa using Std.le_total
  have hperm : (sortModules modules).Perm modules := List.mergeSort_perm modules _
  refine ⟨hperm, (List.pairwise_mergeSort htrans htotal modules).imp of_decide_eq_true, fun stem => ?_⟩
  -- The modules of one name are in order already, so that sorting keeps them as a part of the list.
  have hsorted : (modules.filter (Naming.fileStem · = stem)).Pairwise fun a b =>
      decide (Naming.fileStem a ≤ Naming.fileStem b) = true := by
    refine List.pairwise_of_forall_mem_list fun a ha b hb => ?_
    have hstem : ∀ m ∈ modules.filter (Naming.fileStem · = stem), Naming.fileStem m = stem := fun m hm => by
      simpa using (List.mem_filter.mp hm).2
    rw [hstem a ha, hstem b hb]
    simp
  have hpart : (modules.filter (Naming.fileStem · = stem)).Sublist (sortModules modules) :=
    List.sublist_mergeSort htrans htotal hsorted List.filter_sublist
  have hboth := hpart.filter (Naming.fileStem · = stem)
  rw [List.filter_filter] at hboth
  simp only [Bool.and_self] at hboth
  exact (hboth.eq_of_length (hperm.filter _).length_eq.symm).symm

/-! ### Sequences of calls -/

structure Settles (indexPath : String) (calls : List Call) : Prop where
  answers : ∀ before c after, calls = before ++ c :: after → Answers (fill (empty indexPath) before) c
  owners : ∀ path, Table.get? path (fill (empty indexPath) calls).files =
    (accepted (empty indexPath) calls).findSome? (·.file? path)
  kept : ∀ before after, calls = before ++ after → ∀ path o,
    Table.get? path (fill (empty indexPath) before).files = some o →
      Table.get? path (fill (empty indexPath) calls).files = some o
  index_free : Table.get? indexPath (fill (empty indexPath) calls).files = none
  index : ∀ contents path, Table.get? path ((fill (empty indexPath) calls).setIndex contents).files =
    if path = indexPath then some ⟨indexOwner, contents⟩
    else Table.get? path (fill (empty indexPath) calls).files
  modules : ∀ contents, StablySorted ((accepted (empty indexPath) calls).flatMap Call.modules)
    ((fill (empty indexPath) calls).setIndex contents).modules

theorem calls_settle (indexPath : String) (calls : List Call) : Settles indexPath calls where
  answers before c _ _ := answers (fill (empty indexPath) before) c
  owners path := get?_fill (empty indexPath) calls path
  kept before after h path o hget := by rw [h, fill_append, get?_fill, hget, Option.some_or]
  index_free := by
    rw [get?_fill]
    exact List.findSome?_eq_none_iff.mpr (file?_indexPath (empty indexPath) calls)
  index contents path := by
    rw [setIndex, put, Table.get?_insert, indexPath_fill]
    rfl
  modules contents := by
    have hdeclared := declared_fill (empty indexPath) calls
    rw [empty, List.nil_append] at hdeclared
    rw [ProviderTree.modules, setIndex]
    rw [empty, hdeclared]
    exact stablySorted_sortModules _

end ProviderBindings.ProviderTree
