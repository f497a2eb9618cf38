import ProviderBindings.Proofs.Disambiguation.SharedPath
import ProviderBindings.Proofs.Success

/-!
Graphs as forests. The nodes of a graph are met in the order of their positions on the walk that starts at
the roots and goes to every node before the nodes below it; where a node stands in a list of children, and
which ancestors it has, follow from that walk. Following the children from the roots gives back the forest
that was laid out.
-/

namespace ProviderBindings.Graph

inductive Reaches (nodes : List Node) : Nat → Nat → Prop
  | self {i : Nat} {n : Node} (hn : nodes[i]? = some n) : Reaches nodes i i
  | descend {i j k : Nat} {n : Node} (hn : nodes[i]? = some n) (hj : j ∈ n.children)
      (hk : Reaches nodes j k) : Reaches nodes i k

def Apart (nodes : List Node) (i j : Nat) : Prop :=
  ∀ k l, Reaches nodes i k → Reaches nodes j l → k < l

/-- The walk from positions that stand below the given ancestors, and the positions that it meets: each
node comes before the nodes below it, and these come before its siblings. -/
inductive Walks (nodes : List Node) : List String → List Nat → List Nat → Prop
  | nil {ancestors : List String} : Walks nodes ancestors [] []
  | cons {ancestors : List String} {i : Nat} {n : Node} {rest below others : List Nat}
      (hn : nodes[i]? = some n) (ha : n.ancestors = ancestors) (hb : Walks nodes n.path n.children below)
      (ho : Walks nodes ancestors rest others) : Walks nodes ancestors (i :: rest) (i :: below ++ others)

inductive Unfolds (nodes : List Node) : List Nat → List Branch → Prop
  | nil : Unfolds nodes [] []
  | cons {i : Nat} {n : Node} {rest : List Nat} {below others : List Branch} (hn : nodes[i]? = some n)
      (hb : Unfolds nodes n.children below) (ho : Unfolds nodes rest others) :
      Unfolds nodes (i :: rest) (.node n.name n.traits n.leaves below :: others)

section

variable {nodes : List Node}

theorem reaches_iff {i k : Nat} {n : Node} (hn : nodes[i]? = some n) :
    Reaches nodes i k ↔ k = i ∨ ∃ j ∈ n.children, Reaches nodes j k := by
  constructor
  · intro h
    cases h with
    | self _ => exact .inl rfl
    | descend hn' hj hk =>
        rw [hn, Option.some.injEq] at hn'
        subst hn'
        exact .inr ⟨_, hj, hk⟩
  · rintro (rfl | ⟨j, hj, hk⟩)
    · exact .self hn
    · exact .descend hn hj hk

namespace Walks

variable {ancestors : List String} {roots visited : List Nat}

theorem append {others visited' : List Nat} (h : Walks nodes ancestors roots visited)
    (h' : Walks nodes ancestors others visited') :
    Walks nodes ancestors (roots ++ others) (visited ++ visited') := by
  induction h with
  | nil => exact h'
  | cons hn ha hb _ _ ih =>
      have hrest := Walks.cons hn ha hb (ih h')
      simpa using hrest

theorem mem_iff (h : Walks nodes ancestors roots visited) {k : Nat} :
    k ∈ visited ↔ ∃ r ∈ roots, Reaches nodes r k := by
  induction h with
  | nil => simp
  | cons hn _ _ _ ihb iho => simp [reaches_iff hn, ihb, iho, or_assoc]

theorem ancestors_eq (h : Walks nodes ancestors roots visited) :
    ∀ r ∈ roots, ∃ n, nodes[r]? = some n ∧ n.ancestors = ancestors := by
  induction h with
  | nil => simp
  | cons hn ha _ _ _ iho =>
      intro r hr
      rcases List.mem_cons.mp hr with rfl | hr
      · exact ⟨_, hn, ha⟩
      · exact iho r hr

theorem below_of_mem (h : Walks nodes ancestors roots visited) :
    ∀ i ∈ visited, ∃ n below, nodes[i]? = some n ∧ Walks nodes n.path n.children below ∧
      (i :: below) <:+: visited := by
  induction h with
  | nil => simp
  | @cons ancestors i n rest below others hn ha hb ho ihb iho =>
      intro k hk
      rcases List.mem_append.mp hk with hk | hk
      · rcases List.mem_cons.mp hk with rfl | hk
        · exact ⟨n, below, hn, hb, (List.prefix_append _ _).isInfix⟩
        · obtain ⟨m, under, hm, hw, hinfix⟩ := ihb k hk
          refine ⟨m, under, hm, hw, hinfix.trans ?_⟩
          exact (List.suffix_cons i below).isInfix.trans (List.prefix_append _ _).isInfix
      · obtain ⟨m, under, hm, hw, hinfix⟩ := iho k hk
        exact ⟨m, under, hm, hw, hinfix.trans (List.suffix_append _ _).isInfix⟩

theorem roots_apart (h : Walks nodes ancestors roots visited) (hv : visited.Pairwise (· < ·)) :
    roots.Pairwise (Apart nodes) := by
  induction h with
  | nil => exact .nil
  | @cons ancestors i n rest below others hn ha hb ho ihb iho =>
      obtain ⟨_, hothers, hbefore⟩ := List.pairwise_append.mp hv
      refine .cons (fun r hr k l hk hl => ?_) (iho hothers)
      have hfirst : k ∈ i :: below := by
        rw [List.mem_cons, hb.mem_iff]
        exact (reaches_iff hn).mp hk
      exact hbefore k hfirst l (ho.mem_iff.mpr ⟨r, hr, hl⟩)

theorem perm_children (h : Walks nodes ancestors roots visited) :
    visited.Perm (roots ++ (visited.filterMap fun i => nodes[i]?).flatMap Node.children) := by
  induction h with
  | nil => simp
  | @cons ancestors i n rest below others hn ha hb ho ihb iho =>
      simp only [List.cons_append, List.filterMap_cons, hn, List.filterMap_append, List.flatMap_cons,
        List.flatMap_append]
      refine List.Perm.cons i ?_
      -- Both walks list children below their roots; the roots that are left have to come first.
      calc (below ++ others).Perm
            ((n.children ++ (below.filterMap fun i => nodes[i]?).flatMap Node.children) ++
              (rest ++ (others.filterMap fun i => nodes[i]?).flatMap Node.children)) := ihb.append iho
        _ |>.Perm (rest ++ ((n.children ++ (below.filterMap fun i => nodes[i]?).flatMap Node.children) ++
              (others.filterMap fun i => nodes[i]?).flatMap Node.children)) :=
            List.perm_append_comm_assoc _ _ _
        _ = _ := by rw [List.append_assoc]

end Walks

theorem eq_range'_of_infix {i size : Nat} {below : List Nat}
    (h : (i :: below) <:+: List.range size) : i :: below = List.range' i (below.length + 1) := by
  obtain ⟨before, after, he⟩ := h
  refine List.ext_getElem (by simp) fun j hj _ => ?_
  have hat (j : Nat) (hj : j < (i :: below).length) : (i :: below)[j] = before.length + j := by
    have hwhole : (before ++ (i :: below) ++ after)[before.length + j]? = some (i :: below)[j] := by
      rw [List.append_assoc, List.getElem?_append_right (by omega), List.getElem?_append_left (by omega)]
      simp
    rw [he] at hwhole
    obtain ⟨_, hvalue⟩ := List.getElem?_eq_some_iff.mp hwhole
    simpa using hvalue.symm
  have hfirst := hat 0 (by simp)
  rw [hat j hj, List.getElem_range']
  simp only [List.getElem_cons_zero] at hfirst
  omega

end

def childPositions (g : Graph) : List Nat := g.children ++ g.nodes.flatMap Node.children

structure PreOrderForest (g : Graph) : Prop where
  inRange : ∀ j ∈ g.childPositions, j < g.nodes.length
  placedOnce : ∀ k < g.nodes.length, g.childPositions.count k = 1
  stretch : ∀ i < g.nodes.length, ∃ size, 0 < size ∧
    ∀ k, Reaches g.nodes i k ↔ i ≤ k ∧ k < i + size
  siblings : ∀ n ∈ g.nodes, n.children.Pairwise (Apart g.nodes)
  roots : g.children.Pairwise (Apart g.nodes)
  covered : ∀ k < g.nodes.length, ∃ r ∈ g.children, Reaches g.nodes r k
  walk : Walks g.nodes [] g.children (List.range g.nodes.length)
  topAncestors : ∀ n ∈ g.topChildren, n.ancestors = []
  childAncestors : ∀ n ∈ g.nodes, ∀ c ∈ g.childrenOf n, c.ancestors = n.ancestors ++ [n.name]

theorem mem_of_mem_nodesAt {g : Graph} {positions : List Nat} {n : Node} (h : n ∈ g.nodesAt positions) :
    n ∈ g.nodes := by
  obtain ⟨_, _, hi⟩ := List.mem_filterMap.mp h
  exact List.mem_of_getElem? hi

theorem ancestors_of_mem_nodesAt {g : Graph} {ancestors : List String} {positions visited : List Nat}
    (h : Walks g.nodes ancestors positions visited) :
    ∀ n ∈ g.nodesAt positions, n.ancestors = ancestors := by
  intro n hn
  obtain ⟨i, hi, hni⟩ := List.mem_filterMap.mp hn
  obtain ⟨m, hm, ha⟩ := h.ancestors_eq i hi
  rw [hni, Option.some.injEq] at hm
  rw [hm, ha]

theorem preOrderForest_of_walks {g : Graph}
    (h : Walks g.nodes [] g.children (List.range g.nodes.length)) : g.PreOrderForest := by
  -- The walk from the roots meets every position once, so each clause is about a part of this walk.
  have hperm : (List.range g.nodes.length).Perm g.childPositions := by
    have hp := h.perm_children
    rwa [Disambiguation.filterMap_range_getElem?] at hp
  have hbelow (i : Nat) (hi : i < g.nodes.length) := h.below_of_mem i (List.mem_range.mpr hi)
  have hordered : (List.range g.nodes.length).Pairwise (· < ·) := List.pairwise_lt_range
  have hnode : ∀ n ∈ g.nodes, ∃ below, Walks g.nodes n.path n.children below ∧
      below.Pairwise (· < ·) := by
    intro n hn
    obtain ⟨i, hni⟩ := List.mem_iff_getElem?.mp hn
    obtain ⟨m, below, hm, hw, hinfix⟩ := hbelow i (List.getElem?_eq_some_iff.mp hni).1
    rw [hni, Option.some.injEq] at hm
    subst hm
    exact ⟨below, hw, (List.pairwise_cons.mp (hordered.sublist hinfix.sublist)).2⟩
  refine ⟨fun j hj => ?_, fun k hk => ?_, fun i hi => ?_, fun n hn => ?_, h.roots_apart hordered,
    fun k hk => h.mem_iff.mp (List.mem_range.mpr hk), h, ancestors_of_mem_nodesAt h, fun n hn => ?_⟩
  · exact List.mem_range.mp (hperm.mem_iff.mpr hj)
  · have hle := List.nodup_iff_count.mp (List.nodup_range : (List.range g.nodes.length).Nodup) k
    have hpos := List.count_pos_iff.mpr (List.mem_range.mpr hk)
    rw [← hperm.count_eq]
    omega
  · obtain ⟨n, below, hn, hw, hinfix⟩ := hbelow i hi
    refine ⟨below.length + 1, Nat.succ_pos _, fun k => ?_⟩
    rw [reaches_iff hn, ← hw.mem_iff, ← List.mem_cons, eq_range'_of_infix hinfix, List.mem_range'_1]
  · obtain ⟨below, hw, hlt⟩ := hnode n hn
    exact hw.roots_apart hlt
  · obtain ⟨below, hw, _⟩ := hnode n hn
    exact ancestors_of_mem_nodesAt hw

theorem Unfolds.append {nodes : List Node} {roots others : List Nat} {forest forest' : List Branch}
    (h : Unfolds nodes roots forest) (h' : Unfolds nodes others forest') :
    Unfolds nodes (roots ++ others) (forest ++ forest') := by
  induction h with
  | nil => exact h'
  | cons hn hb _ _ ih => exact .cons hn hb ih

theorem Unfolds.unique {nodes : List Node} {roots : List Nat} {forest forest' : List Branch}
    (h : Unfolds nodes roots forest) (h' : Unfolds nodes roots forest') : forest = forest' := by
  induction h generalizing forest' with
  | nil =>
      cases h'
      rfl
  | cons hn _ _ ihb iho =>
      cases h' with
      | cons hn' hb' ho' =>
          rw [hn, Option.some.injEq] at hn'
          subst hn'
          rw [ihb hb', iho ho']

/-! ### Layouts -/

mutual
theorem walks_layBranch (ancestors : List String) (start : Nat) :
    ∀ (b : Branch) {nodes before after : List Node}, before.length = start →
      nodes = before ++ layBranch ancestors start b ++ after →
      Walks nodes ancestors [start] (List.range' start (layBranch ancestors start b).length) ∧
        Unfolds nodes [start] [b]
  | .node name traits leaves children, nodes, before, after, hs, hn => by
      rw [layBranch] at hn ⊢
      obtain ⟨hbelow, hforest⟩ := @walks_layForest (ancestors ++ [name]) (start + 1) children nodes
        (before ++ [⟨name, ancestors, name, 0, leaves, _, traits⟩]) after
        (by simp [hs]) (by simpa using hn)
      have hat : nodes[start]? = some ⟨name, ancestors, name, 0, leaves,
          (layForest (ancestors ++ [name]) (start + 1) children).roots, traits⟩ := by
        simp [hn, ← hs]
      have hwalk := Walks.cons hat rfl hbelow .nil
      exact ⟨by simpa [List.range'_succ] using hwalk, .cons hat hforest .nil⟩

theorem walks_layForest (ancestors : List String) (start : Nat) :
    ∀ (bs : List Branch) {nodes before after : List Node}, before.length = start →
      nodes = before ++ (layForest ancestors start bs).nodes ++ after →
      Walks nodes ancestors (layForest ancestors start bs).roots
          (List.range' start (layForest ancestors start bs).nodes.length) ∧
        Unfolds nodes (layForest ancestors start bs).roots bs
  | [], nodes, before, after, _, _ => ⟨.nil, .nil⟩
  | b :: rest, nodes, before, after, hs, hn => by
      rw [layForest] at hn ⊢
      obtain ⟨hfirst, hbranch⟩ := @walks_layBranch ancestors start b nodes before
        ((layForest ancestors (start + (layBranch ancestors start b).length) rest).nodes ++ after)
        hs (by simpa using hn)
      obtain ⟨hothers, hforest⟩ :=
        @walks_layForest ancestors (start + (layBranch ancestors start b).length) rest nodes
          (before ++ layBranch ancestors start b) after
          (by simp [hs]) (by simpa using hn)
      have hwalk := hfirst.append hothers
      rw [List.range'_append_1, ← List.length_append] at hwalk
      exact ⟨hwalk, hbranch.append hforest⟩
end

theorem walks_ofMembers (m : Members) :
    Walks (ofMembers m).nodes [] (ofMembers m).children (List.range (ofMembers m).nodes.length) ∧
      Unfolds (ofMembers m).nodes (ofMembers m).children m.children := by
  rw [List.range_eq_range']
  exact @walks_layForest [] 0 m.children _ [] [] rfl (by simp [ofMembers])

end ProviderBindings.Graph
