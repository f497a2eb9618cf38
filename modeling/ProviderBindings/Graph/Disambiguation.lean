import ProviderBindings.Graph.Descent

/-!
Unique names for the nodes of a graph: rounds are repeated until no two nodes share a record name or a
collision cannot be resolved.
-/

namespace ProviderBindings

def Disambiguation.settle (nodes : List Node) : List Node × Option NameCollision :=
  match _h : round nodes with
  | .settled => (nodes, none)
  | .unresolved nodes collision => (nodes, some collision)
  | .moved nodes' => settle nodes'
termination_by (unused nodes, room 0 (statures nodes))
decreasing_by exact descends_of_round _h

namespace Disambiguation

variable {nodes nodes' : List Node} {c : NameCollision}

theorem settle_of_settled (h : round nodes = .settled) : settle nodes = (nodes, none) := by
  rw [settle]
  split <;> simp_all

theorem settle_of_unresolved (h : round nodes = .unresolved nodes' c) :
    settle nodes = (nodes', some c) := by
  rw [settle]
  split <;> simp_all

theorem settle_of_moved (h : round nodes = .moved nodes') : settle nodes = settle nodes' := by
  rw [settle]
  split <;> simp_all

theorem settle_induction {P : List Node → Prop}
    (step : ∀ a b, P a → round a = .moved b → P b) (h : P nodes) :
    ∃ last, P last ∧
      (collisions last = [] ∧ settle nodes = (last, none) ∨
        ∃ nodes' c, round last = .unresolved nodes' c ∧ settle nodes = (nodes', some c)) := by
  induction nodes using settle.induct with
  | case1 nodes hr => exact ⟨nodes, h, .inl ⟨round_eq_settled_iff.mp hr, settle_of_settled hr⟩⟩
  | case2 nodes nodes' c hr => exact ⟨nodes, h, .inr ⟨nodes', c, hr, settle_of_unresolved hr⟩⟩
  | case3 nodes nodes' hr ih =>
      rw [settle_of_moved hr]
      exact ih (step nodes nodes' h hr)

end Disambiguation

/-- Gives the nodes of a graph unique names, starting from their own. The collision, if there is one, is
of nodes with the same path. -/
def Graph.disambiguate (g : Graph) : Graph × Option NameCollision :=
  let (nodes, collision) := Disambiguation.settle (g.nodes.map Node.unqualified)
  ({ g with nodes := nodes }, collision)

end ProviderBindings
