import ProviderBindings.Graph
import ProviderBindings.Proofs.Success

/-!
Where shapes refer to when they are laid out: the children of a node stand after it and inside the stretch
of its own branch.
-/

namespace ProviderBindings

def ChildrenLater (start : Nat) (nodes : List Node) : Prop :=
  ∀ k n, nodes[k]? = some n → ∀ j ∈ n.children, start + k < j ∧ j < start + nodes.length

theorem ChildrenLater.append {start : Nat} {a b : List Node} (ha : ChildrenLater start a)
    (hb : ChildrenLater (start + a.length) b) : ChildrenLater start (a ++ b) := by
  intro k n hk j hj
  rw [List.length_append]
  by_cases hlt : k < a.length
  · rw [List.getElem?_append_left hlt] at hk
    have hin := ha k n hk j hj
    omega
  · rw [List.getElem?_append_right (by omega)] at hk
    have hin := hb (k - a.length) n hk j hj
    omega

theorem ChildrenLater.cons {start : Nat} {n : Node} {nodes : List Node}
    (hn : ∀ j ∈ n.children, start < j ∧ j < start + 1 + nodes.length)
    (h : ChildrenLater (start + 1) nodes) : ChildrenLater start (n :: nodes) := by
  intro k m hk j hj
  rw [List.length_cons]
  cases k with
  | zero =>
      obtain rfl : n = m := by simpa using hk
      have hin := hn j hj
      omega
  | succ k =>
      have hin := h k m (by simpa using hk) j hj
      omega

theorem ChildrenLater.congr {start : Nat} {a b : List Node}
    (he : a.map Node.children = b.map Node.children) (h : ChildrenLater start a) :
    ChildrenLater start b := by
  have hlength : a.length = b.length := by simpa using congrArg List.length he
  intro k n hk j hj
  have hat : (a.map Node.children)[k]? = some n.children := by
    rw [he, List.getElem?_map, hk, Option.map_some]
  rw [List.getElem?_map, Option.map_eq_some_iff] at hat
  obtain ⟨m, hm, hchildren⟩ := hat
  rw [← hlength]
  exact h k m hm j (hchildren ▸ hj)

namespace Graph

mutual
theorem childrenLater_layBranch (ancestors : List String) (start : Nat) :
    ∀ b : Branch, ChildrenLater start (layBranch ancestors start b)
  | .node name traits leaves children => by
      obtain ⟨hroots, hbelow⟩ := childrenLater_layForest (ancestors ++ [name]) (start + 1) children
      refine .cons (fun j hj => ?_) hbelow
      have hin := hroots j hj
      omega

theorem childrenLater_layForest (ancestors : List String) (start : Nat) :
    ∀ bs : List Branch,
      (∀ r ∈ (layForest ancestors start bs).roots,
        start ≤ r ∧ r < start + (layForest ancestors start bs).nodes.length) ∧
      ChildrenLater start (layForest ancestors start bs).nodes
  | [] => by simp [layForest, ChildrenLater]
  | b :: rest => by
      have hfirst := childrenLater_layBranch ancestors start b
      obtain ⟨hroots, hothers⟩ :=
        childrenLater_layForest ancestors (start + (layBranch ancestors start b).length) rest
      refine ⟨fun r hr => ?_, hfirst.append hothers⟩
      have hpos : 0 < (layBranch ancestors start b).length := by
        cases b
        simp [layBranch]
      rw [layForest, List.length_append]
      rcases List.mem_cons.mp hr with rfl | hr
      · omega
      · have hin := hroots r hr
        omega
end

theorem childrenLater_ofBlock {block : Schema.Block} {g : Graph} (h : ofBlock block = .ok g) :
    ChildrenLater 0 g.nodes := by
  obtain ⟨m, _, rfl⟩ := map_eq_ok_iff.mp h
  exact (childrenLater_layForest [] 0 m.children).2

end Graph

end ProviderBindings
