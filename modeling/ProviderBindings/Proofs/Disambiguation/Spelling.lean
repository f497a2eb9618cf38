import ProviderBindings.Proofs.Disambiguation.Resolvability

/-!
How unique names are spelled in every round of a run: the name of the node with its nearest ancestors in
front of it and, once it has all of them, with suffixes behind it. Only nodes that share a record name are
renamed, and a second run goes the way of the first one.
-/

namespace ProviderBindings

namespace Node

def spelling (n : Node) (depth suffixes : Nat) : String :=
  ".".intercalate (n.ancestors.drop (n.ancestors.length - depth) ++ [n.name]) ++
    String.join (List.replicate suffixes "_block")

structure Spells (n : Node) (suffixes : Nat) : Prop where
  depth_le : n.uniqueDepth ≤ n.ancestors.length
  uniqueName_eq : n.uniqueName = n.spelling n.uniqueDepth suffixes
  exhausted : 0 < suffixes → n.uniqueDepth = n.ancestors.length

def IsSpelled (n : Node) : Prop := ∃ suffixes, n.Spells suffixes

theorem spelling_zero (n : Node) : n.spelling 0 0 = n.name := by
  simp [spelling]

theorem spelling_depth {n : Node} {depth : Nat} (h : depth < n.ancestors.length) {ancestor : String}
    (ha : n.ancestors[n.ancestors.length - depth - 1]? = some ancestor) :
    n.spelling (depth + 1) 0 = ancestor ++ "." ++ n.spelling depth 0 := by
  have hlt : n.ancestors.length - (depth + 1) < n.ancestors.length := by omega
  have hstep : n.ancestors.length - (depth + 1) + 1 = n.ancestors.length - depth := by omega
  have hfirst : n.ancestors[n.ancestors.length - (depth + 1)] = ancestor :=
    Option.some.inj ((List.getElem?_eq_getElem hlt).symm.trans ha)
  simp only [spelling, List.replicate_zero, String.join_nil, String.append_empty]
  rw [List.drop_eq_getElem_cons hlt, hfirst, hstep, List.cons_append,
    String.intercalate_cons_of_ne_nil (by simp)]

theorem spelling_suffixes (n : Node) (depth suffixes : Nat) :
    n.spelling depth (suffixes + 1) = n.spelling depth suffixes ++ "_block" := by
  simp only [spelling, List.replicate_succ', String.join_append, String.join_cons, String.join_nil,
    String.append_empty, String.append_assoc]

theorem spells_unqualified (n : Node) : n.unqualified.Spells 0 where
  depth_le := Nat.zero_le _
  uniqueName_eq := (spelling_zero n.unqualified).symm
  exhausted h := absurd h (Nat.lt_irrefl 0)

theorem Spells.qualified {n : Node} {suffixes : Nat} (h : n.Spells suffixes) (hl : 0 < n.ancestorsLeft) :
    n.qualified.Spells 0 := by
  have hlt : n.uniqueDepth < n.ancestors.length := by
    unfold ancestorsLeft at hl
    omega
  have hnone : suffixes = 0 := by
    rcases Nat.eq_zero_or_pos suffixes with hz | hp
    · exact hz
    · have := h.exhausted hp
      omega
  have hi : n.ancestors.length - n.uniqueDepth - 1 < n.ancestors.length := by omega
  have ha := List.getElem?_eq_getElem hi
  have hname := h.uniqueName_eq
  rw [hnone] at hname
  rw [Node.qualified, ha]
  refine ⟨hlt, ?_, fun hp => absurd hp (Nat.lt_irrefl 0)⟩
  have hspell := spelling_depth hlt ha
  rw [← hname] at hspell
  exact hspell.symm

theorem Spells.suffixed {n : Node} {suffixes : Nat} (h : n.Spells suffixes) (hl : n.ancestorsLeft = 0) :
    n.suffixed.Spells (suffixes + 1) := by
  have hdepth : n.uniqueDepth = n.ancestors.length := by
    have hle := h.depth_le
    unfold ancestorsLeft at hl
    omega
  refine ⟨h.depth_le, ?_, fun _ => hdepth⟩
  have hspell := spelling_suffixes n n.uniqueDepth suffixes
  rw [← h.uniqueName_eq] at hspell
  exact hspell.symm

end Node

namespace Disambiguation

variable {start nodes : List Node} {moved : List Nat}

/-! ### One round -/

def Round.outcome (before : List Node) : Round → List Node
  | .settled => before
  | .unresolved nodes _ => nodes
  | .moved nodes => nodes

theorem outcome_round (nodes : List Node) :
    (round nodes).outcome nodes = (moveGroups [] nodes (collisions nodes)).1 := by
  rw [round]
  split
  · rename_i h
    rw [h]
    rfl
  · split
    · rename_i h
      rw [h]
      rfl
    · rename_i h
      rw [h]
      rfl

theorem moved_of_collisions (nodes : List Node) :
    ∃ moved, Moved nodes moved ((round nodes).outcome nodes) ∧
      ∀ i ∈ moved, ∃ group ∈ collisions nodes, i ∈ group := by
  have hgroups : ∀ g ∈ collisions nodes, Collides nodes g := fun g hg => collides_of_mem hg
  have hinduction :=
    @moveGroups_induction
      (fun moved ns => Moved nodes moved ns ∧ ∀ i ∈ moved, ∃ group ∈ collisions nodes, i ∈ group)
      (collisions nodes)
  obtain ⟨moved, hinv, _⟩ := hinduction
    (fun moved ns g hg h hnew => ⟨h.1.qualify (hgroups g hg) hnew, fun i hi => by
      rcases List.mem_append.mp hi with hi | hi
      · exact ⟨g, hg, (List.mem_filter.mp hi).1⟩
      · exact h.2 i hi⟩)
    (fun moved ns g hg h hnew hleft _ => ⟨h.1.suffix (hgroups g hg) hnew hleft, fun i hi => by
      rcases List.mem_append.mp hi with hi | hi
      · exact ⟨g, hg, List.mem_of_mem_drop hi⟩
      · exact h.2 i hi⟩)
    ⟨.refl nodes, by simp⟩ (rfl : moveGroups [] nodes (collisions nodes) = (_, _))
  rw [outcome_round]
  exact ⟨moved, hinv⟩

theorem Moved.spelled (h : Moved start moved nodes) (hs : ∀ n ∈ start, n.IsSpelled) :
    ∀ n ∈ nodes, n.IsSpelled := by
  intro n' hn'
  obtain ⟨i, hi⟩ := List.mem_iff_getElem?.mp hn'
  have hlt : i < start.length := by
    rw [← h.length_eq]
    exact (List.getElem?_eq_some_iff.mp hi).1
  have hn := List.getElem?_eq_getElem hlt
  obtain ⟨suffixes, hspells⟩ := hs start[i] (List.getElem_mem hlt)
  by_cases hm : i ∈ moved
  · rcases h.moves i hm start[i] hn with ⟨hl, he⟩ | ⟨hl, he, _⟩
    · rw [hi, Option.some.injEq] at he
      exact he ▸ ⟨0, hspells.qualified hl⟩
    · rw [hi, Option.some.injEq] at he
      exact he ▸ ⟨suffixes + 1, hspells.suffixed hl⟩
  · have he := h.stays i hm
    rw [hi, hn, Option.some.injEq] at he
    exact he ▸ ⟨suffixes, hspells⟩

theorem exists_other {group : List Nat} (h : Collides nodes group) (i : Nat) : ∃ j ∈ group, j ≠ i := by
  obtain ⟨ho, hl, _⟩ := h
  match group, hl with
  | j :: k :: rest, _ =>
      have hlt : j < k := List.rel_of_pairwise_cons ho (by simp)
      by_cases hj : j = i
      · exact ⟨k, by simp, by omega⟩
      · exact ⟨j, by simp, hj⟩

theorem shares_of_renamed {i : Nat} {n n' : Node} (hn : nodes[i]? = some n)
    (hn' : ((round nodes).outcome nodes)[i]? = some n') (hne : n' ≠ n) :
    ∃ (j : Nat) (m : Node), j ≠ i ∧ nodes[j]? = some m ∧ ∃ record ∈ n.records, record ∈ m.records := by
  obtain ⟨moved, hm, hgroups⟩ := moved_of_collisions nodes
  have hi : i ∈ moved := by
    refine Decidable.byContradiction fun hnot => ?_
    have hstay := hm.stays i hnot
    rw [hn, hn', Option.some.injEq] at hstay
    exact hne hstay
  obtain ⟨group, hg, hig⟩ := hgroups i hi
  have hcollides := collides_of_mem hg
  obtain ⟨j, hj, hji⟩ := exists_other hcollides i
  obtain ⟨record, hs⟩ := hcollides.shared
  obtain ⟨m, hjm, hmr⟩ := hs j hj
  obtain ⟨n₁, hin, hnr⟩ := hs i hig
  rw [hn, Option.some.injEq] at hin
  subst hin
  exact ⟨j, m, hji, hjm, record, hnr, hmr⟩

/-! ### Runs -/

inductive Enters (start : List Node) : List Node → Prop
  | start : Enters start start
  | moved {a b : List Node} (h : Enters start a) (hr : round a = .moved b) : Enters start b

structure Renames (start nodes : List Node) : Prop where
  spelled : ∀ n ∈ nodes, n.IsSpelled
  unqualified_eq : nodes.map Node.unqualified = start.map Node.unqualified

theorem Renames.after_round (h : Renames start nodes) : Renames start ((round nodes).outcome nodes) := by
  obtain ⟨moved, hm, _⟩ := moved_of_collisions nodes
  exact ⟨hm.spelled h.spelled, hm.unqualified_eq.trans h.unqualified_eq⟩

theorem Enters.renames (h : Enters start nodes) (hs : ∀ n ∈ start, n.IsSpelled) : Renames start nodes := by
  induction h with
  | start => exact ⟨hs, rfl⟩
  | moved _ hr ih =>
      have hafter := ih.after_round
      rw [hr] at hafter
      exact hafter

theorem settle_enters (start : List Node) :
    ∃ last, Enters start last ∧ (∀ nodes, round last ≠ .moved nodes) ∧
      (settle start).1 = (round last).outcome last := by
  obtain ⟨last, hlast, ⟨hnone, hs⟩ | ⟨nodes, c, hr, hs⟩⟩ :=
    settle_induction (P := Enters start) (fun _ _ ha hr => ha.moved hr) .start
  · have hr := round_eq_settled_iff.mpr hnone
    refine ⟨last, hlast, fun nodes => ?_, ?_⟩
    · rw [hr]
      exact Round.noConfusion
    · rw [hs, hr]
      rfl
  · refine ⟨last, hlast, fun nodes => ?_, ?_⟩
    · rw [hr]
      exact Round.noConfusion
    · rw [hs, hr]
      rfl

end Disambiguation

namespace Graph

open Disambiguation

theorem disambiguate_idempotent (g : Graph) : g.disambiguate.1.disambiguate = g.disambiguate := by
  have hnodes : g.disambiguate.1.nodes.map Node.unqualified = g.nodes.map Node.unqualified := by
    have hsettle := settle_unqualified (g.nodes.map Node.unqualified)
    simpa [disambiguate, Function.comp_def] using hsettle
  have hagain : g.disambiguate.1.disambiguate =
      ({ g.disambiguate.1 with nodes := (settle (g.nodes.map Node.unqualified)).1 },
        (settle (g.nodes.map Node.unqualified)).2) := by
    rw [disambiguate, hnodes]
  rw [hagain]
  rfl

theorem isSpelled_unqualified (g : Graph) : ∀ n ∈ g.nodes.map Node.unqualified, n.IsSpelled := by
  intro n hn
  obtain ⟨m, _, rfl⟩ := List.mem_map.mp hn
  exact ⟨0, m.spells_unqualified⟩

theorem isSpelled_of_disambiguated {g g' : Graph} (h : g.disambiguated = .ok g') :
    ∀ n ∈ g'.nodes, n.IsSpelled := by
  obtain ⟨_, rfl⟩ := disambiguated_eq_ok_iff.mp h
  obtain ⟨last, hlast, _, hsettle⟩ := settle_enters (g.nodes.map Node.unqualified)
  dsimp only
  rw [hsettle]
  exact (hlast.renames g.isSpelled_unqualified).after_round.spelled

/-- In every round of a run and at its end, unique names are spelled from the paths of their nodes and all
else is as it was; a node that a round renames shares a record name with another one when the round starts;
and a second run, from the names that the first one left, is the first one again. -/
theorem disambiguate_renames (g : Graph) :
    (∃ last, Enters (g.nodes.map Node.unqualified) last ∧ (∀ nodes, round last ≠ .moved nodes) ∧
      g.disambiguate.1 = { g with nodes := (round last).outcome last }) ∧
    (∀ nodes, Enters (g.nodes.map Node.unqualified) nodes →
      Renames g.nodes nodes ∧ Renames g.nodes ((round nodes).outcome nodes) ∧
        ∀ (i : Nat) (n n' : Node), nodes[i]? = some n → ((round nodes).outcome nodes)[i]? = some n' →
          n' ≠ n →
          ∃ (j : Nat) (m : Node), j ≠ i ∧ nodes[j]? = some m ∧
            ∃ record ∈ n.records, record ∈ m.records) ∧
    g.disambiguate.1.disambiguate = g.disambiguate := by
  refine ⟨?_, fun nodes hn => ?_, g.disambiguate_idempotent⟩
  · obtain ⟨last, hlast, hends, hsettle⟩ := settle_enters (g.nodes.map Node.unqualified)
    refine ⟨last, hlast, hends, ?_⟩
    rw [← hsettle]
    rfl
  · obtain ⟨hspelled, heq⟩ := hn.renames g.isSpelled_unqualified
    have hrenames : Renames g.nodes nodes := ⟨hspelled, by simpa [Function.comp_def] using heq⟩
    exact ⟨hrenames, hrenames.after_round, fun i n n' hi hi' hne => shares_of_renamed hi hi' hne⟩

end Graph

end ProviderBindings
