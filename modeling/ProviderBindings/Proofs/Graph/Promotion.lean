import ProviderBindings.Proofs.Disambiguation.Resolvability
import ProviderBindings.Proofs.Graph.Unfolding

/-!
Objects are promoted to nodes: no leaf of the graph of a block holds one, and the nesting of a node consists
of collections. Both stay true, as does the order of the nodes, when the nodes get unique names.
-/

namespace ProviderBindings

structure Node.Promoted (n : Node) : Prop where
  leaves : ∀ l ∈ n.leaves, l.type.embedsObject = false
  nesting : .single ∉ n.traits.nesting

structure Graph.Promoted (g : Graph) : Prop where
  leaves : ∀ l ∈ g.leaves, l.type.embedsObject = false
  nodes : ∀ n ∈ g.nodes, n.Promoted

theorem ValueType.single_not_mem_wrappers (t : ValueType) : .single ∉ t.wrappers := by
  fun_induction wrappers t with
  | case1 element ih | case2 element ih | case3 element ih => simpa using ih
  | case4 => simp

theorem Schema.Declared.single_not_mem_nesting {d : Schema.Declared} {nesting : List Nesting}
    (h : d.nesting? = some nesting) : .single ∉ nesting := by
  cases d with
  | ofAttribute a =>
      simp only [nesting?] at h
      split at h
      · unfold attributeNesting? at h
        split at h <;> cases h <;> simp
      · obtain ⟨t, _, rfl⟩ := Option.map_eq_some_iff.mp h
        exact t.single_not_mem_wrappers
  | ofField t =>
      cases h
      exact t.single_not_mem_wrappers
  | ofBlock b =>
      have hmode : blockNesting? b.nestingMode = some nesting := h
      unfold blockNesting? at hmode
      split at hmode <;> cases hmode <;> simp

namespace Graph

mutual
theorem promoted_layBranch (ancestors : List String) (start : Nat) :
    ∀ (b : Branch) {d : String × Schema.Declared}, b.Shows d →
      ∀ n ∈ layBranch ancestors start b, n.Promoted
  | .node name traits leaves children, d, ⟨_, hnesting, hleaves, hchildren⟩ => by
      have hbelow := promoted_layForest (ancestors ++ [name]) (start + 1) children hchildren
      exact List.forall_mem_cons.mpr ⟨⟨hleaves.plain, d.2.single_not_mem_nesting hnesting⟩, hbelow⟩

theorem promoted_layForest (ancestors : List String) (start : Nat) :
    ∀ (bs : List Branch) {level : Schema.Level}, Branch.allShow bs level →
      ∀ n ∈ (layForest ancestors start bs).nodes, n.Promoted
  | [], [], _ => by simp [layForest]
  | b :: rest, d :: others, ⟨hb, hrest⟩ => by
      have hfirst := promoted_layBranch ancestors start b hb
      have hothers :=
        promoted_layForest ancestors (start + (layBranch ancestors start b).length) rest hrest
      exact List.forall_mem_append.mpr ⟨hfirst, hothers⟩
end

theorem promoted_ofBlock {block : Schema.Block} {g : Graph} (h : ofBlock block = .ok g) :
    g.Promoted := by
  obtain ⟨m, hm, rfl⟩ := map_eq_ok_iff.mp h
  have hshow := Members.show_ofBlock [] block hm
  exact ⟨hshow.leaves.plain, promoted_layForest [] 0 m.children hshow.children⟩

/-! ### Unique names -/

@[simp] theorem leaves_unqualified (g : Graph) : g.unqualified.leaves = g.leaves := rfl

@[simp] theorem children_unqualified (g : Graph) : g.unqualified.children = g.children := rfl

section

variable {g₀ g : Graph} (hu : g.unqualified = g₀.unqualified)

include hu

theorem exists_unqualified {i : Nat} {n : Node} (hn : g.nodes[i]? = some n) :
    ∃ n₀, g₀.nodes[i]? = some n₀ ∧ n.unqualified = n₀.unqualified := by
  have hnodes := congrArg (fun g : Graph => g.nodes[i]?) hu
  simp only [unqualified, List.getElem?_map, hn, Option.map_some] at hnodes
  obtain ⟨n₀, hn₀, he⟩ := Option.map_eq_some_iff.mp hnodes.symm
  exact ⟨n₀, hn₀, he.symm⟩

theorem promoted_of_unqualified (h : g₀.Promoted) : g.Promoted where
  leaves := by
    rw [← leaves_unqualified, hu, leaves_unqualified]
    exact h.leaves
  nodes := by
    intro n hn
    obtain ⟨i, hi⟩ := List.mem_iff_getElem?.mp hn
    obtain ⟨n₀, hn₀, he⟩ := exists_unqualified hu hi
    obtain ⟨hleaves, hnesting⟩ := h.nodes n₀ (List.mem_of_getElem? hn₀)
    exact ⟨congrArg Node.leaves he ▸ hleaves, congrArg (·.traits.nesting) he ▸ hnesting⟩

theorem walks_of_unqualified {ancestors : List String} {roots visited : List Nat}
    (h : Walks g₀.nodes ancestors roots visited) : Walks g.nodes ancestors roots visited := by
  induction h with
  | nil => exact .nil
  | @cons ancestors i n₀ rest below others hn₀ ha _ _ ihb iho =>
      obtain ⟨n, hn, he⟩ := exists_unqualified hu.symm hn₀
      have hancestors : n₀.ancestors = n.ancestors := (congrArg Node.ancestors he :)
      have hchildren : n₀.children = n.children := (congrArg Node.children he :)
      refine .cons hn (hancestors.symm.trans ha) ?_ iho
      rwa [← Node.path_eq_of_unqualified_eq he, ← hchildren]

theorem unfolds_of_unqualified {roots : List Nat} {forest : List Branch}
    (h : Unfolds g₀.nodes roots forest) : Unfolds g.nodes roots forest := by
  induction h with
  | nil => exact .nil
  | @cons i n₀ rest below others hn₀ _ _ ihb iho =>
      obtain ⟨n, hn, he⟩ := exists_unqualified hu.symm hn₀
      have hname : n₀.name = n.name := (congrArg Node.name he :)
      have htraits : n₀.traits = n.traits := (congrArg Node.traits he :)
      have hleaves : n₀.leaves = n.leaves := (congrArg Node.leaves he :)
      have hchildren : n₀.children = n.children := (congrArg Node.children he :)
      rw [hname, htraits, hleaves]
      exact .cons hn (hchildren ▸ ihb) iho

end

theorem promoted_of_disambiguated {block : Schema.Block} {g₀ g : Graph} (hb : ofBlock block = .ok g₀)
    (hd : g₀.disambiguated = .ok g) : g.Promoted ∧ g.PreOrderForest := by
  have hu := unqualified_of_disambiguated hd
  refine ⟨promoted_of_unqualified hu (promoted_ofBlock hb), preOrderForest_of_walks ?_⟩
  obtain ⟨m, _, rfl⟩ := map_eq_ok_iff.mp hb
  have hlength := congrArg (fun g : Graph => g.nodes.length) hu
  simp only [unqualified, List.length_map] at hlength
  rw [hlength, ← children_unqualified, hu, children_unqualified]
  exact walks_of_unqualified hu (walks_ofMembers m).1

end Graph

end ProviderBindings
