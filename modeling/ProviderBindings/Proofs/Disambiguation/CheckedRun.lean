import ProviderBindings.Graph.Disambiguation

/-!
Disambiguation with checked arithmetic: a run that counts its rounds, changes one node after another and
stops at a subtraction below zero or a position outside a list. `disambiguate_checked` says that no run of
the loop meets either and that every run ends.
-/

namespace ProviderBindings.Disambiguation.Checked

inductive Fault where
  | underflow
  | outOfRange
  deriving DecidableEq, Repr

def minus (a b : Nat) : Except Fault Nat := if b ≤ a then .ok (a - b) else .error .underflow

def lookup {α : Type} (xs : List α) (i : Nat) : Except Fault α :=
  match xs[i]? with
  | some x => .ok x
  | none => .error .outOfRange

def others : List Nat → Except Fault (List Nat)
  | [] => .error .outOfRange
  | _ :: rest => .ok rest

def nextAncestor (n : Node) : Except Fault Nat := do
  let left ← minus n.ancestors.length n.uniqueDepth
  minus left 1

def qualified (n : Node) : Except Fault Node := do
  let position ← nextAncestor n
  let ancestor ← lookup n.ancestors position
  .ok { n with uniqueName := ancestor ++ "." ++ n.uniqueName, uniqueDepth := n.uniqueDepth + 1 }

def changeEach (change : Node → Except Fault Node) : List Nat → List Node → Except Fault (List Node)
  | [], nodes => .ok nodes
  | i :: rest, nodes => do
      let n ← lookup nodes i
      let changed ← change n
      changeEach change rest (nodes.set i changed)

def moveGroups (moved : List Nat) (nodes : List Node) :
    List (List Nat) → Except Fault (List Node × Option NameCollision)
  | [] => .ok (nodes, none)
  | group :: rest =>
      if group.any moved.contains then moveGroups moved nodes rest
      else
        let qualifiable := group.filter (hasAncestorLeft nodes)
        if !qualifiable.isEmpty then do
          let nodes ← changeEach qualified qualifiable nodes
          moveGroups (qualifiable ++ moved) nodes rest
        else
          match sharedPath nodes group with
          | some collision => .ok (nodes, some collision)
          | none => do
              let suffixable ← others group
              let nodes ← changeEach (fun n => .ok n.suffixed) suffixable nodes
              moveGroups (suffixable ++ moved) nodes rest

/-- At most `fuel` rounds; there is no result if the last of them does not end the run. -/
def run : Nat → List Node → Except Fault (Option (List Node × Option NameCollision))
  | 0, _ => .ok none
  | fuel + 1, nodes =>
      match collisions nodes with
      | [] => .ok (some (nodes, none))
      | groups => do
          let (nodes, collision) ← moveGroups [] nodes groups
          match collision with
          | some collision => .ok (some (nodes, some collision))
          | none => run fuel nodes

theorem nextAncestor_eq_ok_iff {n : Node} {position : Nat} :
    nextAncestor n = .ok position ↔ n.uniqueDepth + position + 1 = n.ancestors.length := by
  simp only [nextAncestor, minus, bind, Except.bind]
  split
  · rename_i left hl
    split at hl
    · cases hl
    · simp at hl
      simp
      omega
  · rename_i left hl
    split at hl
    · rw [Except.ok.injEq] at hl
      split
      · rw [Except.ok.injEq]
        omega
      · simp
        omega
    · cases hl

theorem qualified_eq_ok {n : Node} (h : 0 < n.ancestorsLeft) : qualified n = .ok n.qualified := by
  unfold Node.ancestorsLeft at h
  have hlt : n.ancestors.length - n.uniqueDepth - 1 < n.ancestors.length := by omega
  have hp : nextAncestor n = .ok (n.ancestors.length - n.uniqueDepth - 1) :=
    nextAncestor_eq_ok_iff.mpr (by omega)
  simp only [qualified, hp, lookup, Node.qualified, List.getElem?_eq_getElem hlt, bind, Except.bind]

theorem changeAt_cons {change : Node → Node} {i : Nat} {positions : List Nat} {nodes : List Node}
    {n : Node} (hi : i ∉ positions) (hn : nodes[i]? = some n) :
    changeAt change (i :: positions) nodes = changeAt change positions (nodes.set i (change n)) := by
  refine List.ext_getElem? fun j => ?_
  rw [getElem?_changeAt, getElem?_changeAt]
  by_cases hji : j = i
  · subst hji
    obtain ⟨hlt, _⟩ := List.getElem?_eq_some_iff.mp hn
    simp [hi, hn, List.getElem?_set_self hlt]
  · have hset : (nodes.set i (change n))[j]? = nodes[j]? := List.getElem?_set_ne (Ne.symm hji)
    simp [hji, hset]

theorem changeEach_eq {change : Node → Except Fault Node} {f : Node → Node} {positions : List Nat} :
    ∀ {nodes : List Node}, positions.Nodup →
      (∀ i ∈ positions, ∃ n, nodes[i]? = some n ∧ change n = .ok (f n)) →
      changeEach change positions nodes = .ok (changeAt f positions nodes) := by
  induction positions with
  | nil =>
      intro nodes _ _
      have hsame : changeAt f [] nodes = nodes := by
        refine List.ext_getElem? fun j => ?_
        simp [getElem?_changeAt]
      rw [hsame]
      rfl
  | cons i rest ih =>
      intro nodes hd h
      obtain ⟨hi, hrest⟩ := List.nodup_cons.mp hd
      obtain ⟨n, hn, hc⟩ := h i (by simp)
      have hnext : ∀ j ∈ rest, ∃ m, (nodes.set i (f n))[j]? = some m ∧ change m = .ok (f m) := by
        intro j hj
        have hne : i ≠ j := fun e => hi (e ▸ hj)
        rw [List.getElem?_set_ne hne]
        exact h j (List.mem_cons_of_mem _ hj)
      rw [changeAt_cons hi hn, ← ih hrest hnext]
      simp [changeEach, lookup, hn, hc, bind, Except.bind]

theorem length_changeAt (change : Node → Node) (positions : List Nat) (nodes : List Node) :
    (changeAt change positions nodes).length = nodes.length := by
  simp [changeAt]

structure Movable (size : Nat) (group : List Nat) : Prop where
  ordered : group.Pairwise (· < ·)
  several : 1 < group.length
  inside : ∀ i ∈ group, i < size

theorem movable_of_mem_collisions {nodes : List Node} {group : List Nat}
    (h : group ∈ collisions nodes) : Movable nodes.length group :=
  have hc := collides_of_mem h
  ⟨hc.ordered, hc.several, hc.lt_length⟩

theorem changeEach_qualified {nodes : List Node} {group : List Nat} (h : Movable nodes.length group) :
    changeEach qualified (group.filter (hasAncestorLeft nodes)) nodes =
      .ok (changeAt Node.qualified (group.filter (hasAncestorLeft nodes)) nodes) := by
  refine changeEach_eq ((h.ordered.imp Nat.ne_of_lt).filter _) fun i hi => ?_
  obtain ⟨hi, hleft⟩ := List.mem_filter.mp hi
  have hn := List.getElem?_eq_getElem (h.inside i hi)
  rw [hasAncestorLeft_of_getElem? hn] at hleft
  exact ⟨_, hn, qualified_eq_ok (of_decide_eq_true hleft)⟩

theorem changeEach_suffixed {nodes : List Node} {group : List Nat} (h : Movable nodes.length group) :
    changeEach (fun n => .ok n.suffixed) (group.drop 1) nodes =
      .ok (changeAt Node.suffixed (group.drop 1) nodes) := by
  refine changeEach_eq ((h.ordered.imp Nat.ne_of_lt).sublist (List.drop_sublist _ _)) fun i hi => ?_
  exact ⟨_, List.getElem?_eq_getElem (h.inside i (List.mem_of_mem_drop hi)), rfl⟩

theorem others_eq_drop {group : List Nat} (h : 1 < group.length) : others group = .ok (group.drop 1) := by
  cases group with
  | nil => simp at h
  | cons i rest => rfl

theorem moveGroups_eq {groups : List (List Nat)} :
    ∀ {moved : List Nat} {nodes : List Node}, (∀ g ∈ groups, Movable nodes.length g) →
      moveGroups moved nodes groups = .ok (Disambiguation.moveGroups moved nodes groups) := by
  induction groups with
  | nil =>
      intro moved nodes _
      rfl
  | cons group rest ih =>
      intro moved nodes h
      have hgroup := h group (by simp)
      have hrest (change : Node → Node) (positions : List Nat) :
          ∀ g ∈ rest, Movable (changeAt change positions nodes).length g := by
        intro g hg
        rw [length_changeAt]
        exact h g (List.mem_cons_of_mem _ hg)
      rw [moveGroups, Disambiguation.moveGroups]
      split
      · exact ih fun g hg => h g (List.mem_cons_of_mem _ hg)
      · dsimp only
        split
        · rw [changeEach_qualified hgroup]
          exact ih (hrest _ _)
        · cases sharedPath nodes group with
          | some c => rfl
          | none =>
              rw [others_eq_drop hgroup.several]
              simp only [bind, Except.bind, changeEach_suffixed hgroup]
              exact ih (hrest _ _)

theorem run_succ (fuel : Nat) (nodes : List Node) :
    run (fuel + 1) nodes =
      match round nodes with
      | .settled => .ok (some (nodes, none))
      | .unresolved nodes' c => .ok (some (nodes', some c))
      | .moved nodes' => run fuel nodes' := by
  have hm : moveGroups [] nodes (collisions nodes) =
      .ok (Disambiguation.moveGroups [] nodes (collisions nodes)) :=
    moveGroups_eq fun g hg => movable_of_mem_collisions hg
  rw [run, round]
  cases hc : collisions nodes with
  | nil => rfl
  | cons group rest =>
      rw [hc] at hm
      simp only [hm, bind, Except.bind]
      rcases Disambiguation.moveGroups [] nodes (group :: rest) with ⟨nodes', _ | c⟩ <;> rfl

theorem run_eq_settle (nodes : List Node) :
    ∃ rounds, ∀ fuel, rounds ≤ fuel → run fuel nodes = .ok (some (settle nodes)) := by
  induction nodes using settle.induct with
  | case1 nodes hr =>
      refine ⟨1, fun fuel hle => ?_⟩
      obtain ⟨fuel, rfl⟩ := Nat.exists_eq_add_of_le' hle
      rw [run_succ, settle_of_settled hr, hr]
  | case2 nodes nodes' c hr =>
      refine ⟨1, fun fuel hle => ?_⟩
      obtain ⟨fuel, rfl⟩ := Nat.exists_eq_add_of_le' hle
      rw [run_succ, settle_of_unresolved hr, hr]
  | case3 nodes nodes' hr ih =>
      obtain ⟨rounds, ih⟩ := ih
      refine ⟨rounds + 1, fun fuel hle => ?_⟩
      obtain ⟨fuel, rfl⟩ := Nat.exists_eq_add_of_le' (Nat.le_trans (Nat.le_add_left 1 rounds) hle)
      rw [run_succ, settle_of_moved hr, hr]
      exact ih fuel (Nat.le_of_succ_le_succ hle)

end ProviderBindings.Disambiguation.Checked

namespace ProviderBindings

open Disambiguation

theorem Graph.disambiguate_checked (g : Graph) :
    ∃ rounds, ∀ fuel, rounds ≤ fuel →
      Checked.run fuel (g.nodes.map Node.unqualified) =
        .ok (some (g.disambiguate.1.nodes, g.disambiguate.2)) :=
  Checked.run_eq_settle _

end ProviderBindings
