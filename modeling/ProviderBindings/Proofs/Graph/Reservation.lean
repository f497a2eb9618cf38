import ProviderBindings.Proofs.Graph.PreOrder

/-!
Graphs that are built in one shared arena: a node gets its place before its subtree is visited, and its
members when the visit is over. `ofBlock_preOrderForest` says that this gives the same graphs, and the same
errors, as laying out a finished forest, and that all these graphs are forests in pre-order.
-/

namespace ProviderBindings.Graph.Reservation

structure Visit where
  arena : List Node
  leaves : List Leaf
  children : List Nat

namespace Visit

def addLeaf (v : Visit) (l : Leaf) : Visit := { v with leaves := v.leaves ++ [l] }

def reserve (v : Visit) (name : String) (ancestors : List String) : Visit :=
  ⟨v.arena ++ [⟨name, ancestors, name, 0, [], [], default⟩], [], []⟩

/-- Back at the level of `v`: the node that has got its place there takes the members gathered below it. -/
def fill (v : Visit) (traits : Traits) (inner : Visit) : Visit :=
  ⟨inner.arena.modify v.arena.length fun n =>
      { n with leaves := inner.leaves, children := inner.children, traits := traits },
    v.leaves, v.children ++ [v.arena.length]⟩

end Visit

open Members (countOfFlag objectTraits decodedType)

mutual
def visitType (v : Visit) (ancestors : List String) (name : String) (whole : ValueType)
    (isArgument isRequired : Bool) (docs : Docs) (crossed : List Nesting) : ValueType → Visit
  | .list element =>
      visitType v ancestors name whole isArgument isRequired docs (crossed ++ [.list]) element
  | .set element => visitType v ancestors name whole isArgument isRequired docs (crossed ++ [.set]) element
  | .map element => visitType v ancestors name whole isArgument isRequired docs (crossed ++ [.map]) element
  | .object fields optional =>
      let inner := visitFields (v.reserve name ancestors) (ancestors ++ [name]) isArgument optional fields
      v.fill (objectTraits isArgument isRequired crossed docs) inner
  | .bool => v.addLeaf ⟨name, whole, isArgument, isRequired, docs⟩
  | .string => v.addLeaf ⟨name, whole, isArgument, isRequired, docs⟩
  | .number => v.addLeaf ⟨name, whole, isArgument, isRequired, docs⟩

def visitFields (v : Visit) (ancestors : List String) (isArgument : Bool) (optional : List String) :
    List (String × ValueType) → Visit
  | [] => v
  | (name, type) :: rest =>
      let isRequired := isArgument && !optional.contains name
      visitFields (visitType v ancestors name type isArgument isRequired .none [] type) ancestors isArgument
        optional rest
end

mutual
def visitAttribute (v : Visit) (ancestors : List String) (name : String) :
    Schema.Attribute → Except GraphError Visit
  | a@⟨_, some nested, description, _, _, _, sensitive, deprecated⟩ =>
      visitNested v ancestors name a.isArgument a.required ⟨description, deprecated, sensitive⟩ nested
  | a@⟨type, none, description, _, _, _, sensitive, deprecated⟩ => do
      let type ← decodedType (dottedPath ancestors name) type
      .ok (visitType v ancestors name type a.isArgument a.required ⟨description, deprecated, sensitive⟩ []
        type)

def visitNested (v : Visit) (ancestors : List String) (name : String) (isArgument isRequired : Bool)
    (docs : Docs) : Schema.NestedType → Except GraphError Visit
  | ⟨attributes, mode, minItems, maxItems⟩ => do
      let nesting ← Schema.nestingOr (dottedPath ancestors name) mode (Schema.attributeNesting? mode)
      let inner ← visitAttributes (v.reserve name ancestors) (ancestors ++ [name]) attributes
      .ok (v.fill
        ⟨isArgument, isRequired, nesting, minItems.getD (countOfFlag isRequired),
          maxItems.getD (countOfFlag nesting.isEmpty), docs⟩
        inner)

def visitAttributes (v : Visit) (ancestors : List String) :
    List (String × Schema.Attribute) → Except GraphError Visit
  | [] => .ok v
  | (name, a) :: rest => do
      let v ← visitAttribute v ancestors name a
      visitAttributes v ancestors rest
end

mutual
def visitBlock (v : Visit) (ancestors : List String) : Schema.Block → Except GraphError Visit
  | ⟨attributes, blockTypes, _, _⟩ => do
      let v ← visitAttributes v ancestors attributes
      visitBlockTypes v ancestors blockTypes

def visitBlockType (v : Visit) (ancestors : List String) (name : String) :
    Schema.BlockType → Except GraphError Visit
  | ⟨mode, ⟨attributes, blockTypes, description, deprecated⟩, minItems, maxItems⟩ => do
      let nesting ← Schema.nestingOr (dottedPath ancestors name) mode (Schema.blockNesting? mode)
      let inner ← visitBlock (v.reserve name ancestors) (ancestors ++ [name])
        ⟨attributes, blockTypes, description, deprecated⟩
      .ok (v.fill
        ⟨true, minItems == 1 && maxItems == 1, nesting, minItems, maxItems,
          ⟨description, deprecated, false⟩⟩
        inner)

def visitBlockTypes (v : Visit) (ancestors : List String) :
    List (String × Schema.BlockType) → Except GraphError Visit
  | [] => .ok v
  | (name, b) :: rest => do
      let v ← visitBlockType v ancestors name b
      visitBlockTypes v ancestors rest
end

def build (block : Schema.Block) : Except GraphError Graph :=
  (visitBlock ⟨[], [], []⟩ [] block).map fun v => ⟨v.leaves, v.children, v.arena⟩

/-! ### The forest of a visit -/

theorem layForest_append (ancestors : List String) (start : Nat) (a b : List Branch) :
    layForest ancestors start (a ++ b) =
      ⟨(layForest ancestors start a).roots ++
          (layForest ancestors (start + (layForest ancestors start a).nodes.length) b).roots,
        (layForest ancestors start a).nodes ++
          (layForest ancestors (start + (layForest ancestors start a).nodes.length) b).nodes⟩ := by
  induction a generalizing start with
  | nil => simp [layForest]
  | cons branch rest ih => simp [layForest, ih, Nat.add_assoc]

namespace Visit

variable (v : Visit) (ancestors : List String)

def gather (m : Members) : Visit :=
  ⟨v.arena ++ (layForest ancestors v.arena.length m.children).nodes, v.leaves ++ m.leaves,
    v.children ++ (layForest ancestors v.arena.length m.children).roots⟩

@[simp] theorem gather_empty : v.gather ancestors .empty = v := by
  simp [gather, Members.empty, layForest]

@[simp] theorem gather_leaf (l : Leaf) : v.gather ancestors (.leaf l) = v.addLeaf l := by
  simp [gather, Members.leaf, addLeaf, layForest]

theorem gather_append (a b : Members) :
    v.gather ancestors (a.append b) = (v.gather ancestors a).gather ancestors b := by
  simp [gather, Members.append, layForest_append]

theorem fill_gather (name : String) (traits : Traits) (m : Members) :
    v.fill traits ((v.reserve name ancestors).gather (ancestors ++ [name]) m) =
      v.gather ancestors (.child (.node name traits m.leaves m.children)) := by
  have hat (f : Node → Node) (n : Node) (below : List Node) :
      (v.arena ++ n :: below).modify v.arena.length f = v.arena ++ f n :: below :=
    List.modifyTailIdx_add (List.modifyHead f) 0 v.arena (n :: below)
  simp [fill, reserve, gather, Members.child, layForest, layBranch, hat]

end Visit

mutual
theorem visitType_eq (ancestors : List String) (name : String) (whole : ValueType)
    (isArgument isRequired : Bool) (docs : Docs) :
    ∀ (t : ValueType) (v : Visit) (crossed : List Nesting),
      visitType v ancestors name whole isArgument isRequired docs crossed t =
        v.gather ancestors (Members.ofType name whole isArgument isRequired docs crossed t)
  | .list element, v, crossed =>
      visitType_eq ancestors name whole isArgument isRequired docs element v (crossed ++ [.list])
  | .set element, v, crossed =>
      visitType_eq ancestors name whole isArgument isRequired docs element v (crossed ++ [.set])
  | .map element, v, crossed =>
      visitType_eq ancestors name whole isArgument isRequired docs element v (crossed ++ [.map])
  | .object fields optional, v, crossed => by
      rw [visitType, visitFields_eq, Visit.fill_gather, Members.ofType]
  | .bool, v, _ => by rw [visitType, Members.ofType, Visit.gather_leaf]
  | .string, v, _ => by rw [visitType, Members.ofType, Visit.gather_leaf]
  | .number, v, _ => by rw [visitType, Members.ofType, Visit.gather_leaf]

theorem visitFields_eq (ancestors : List String) (isArgument : Bool) (optional : List String) :
    ∀ (fields : List (String × ValueType)) (v : Visit),
      visitFields v ancestors isArgument optional fields =
        v.gather ancestors (Members.ofFields isArgument optional fields)
  | [], v => by rw [visitFields, Members.ofFields, Visit.gather_empty]
  | (name, type) :: rest, v => by
      rw [visitFields, visitType_eq, visitFields_eq, Members.ofFields, Visit.gather_append]
end

mutual
theorem visitAttribute_eq (ancestors : List String) (name : String) :
    ∀ (a : Schema.Attribute) (v : Visit),
      visitAttribute v ancestors name a =
        (Members.ofAttribute ancestors name a).map (v.gather ancestors)
  | ⟨_, some nested, _, _, _, _, _, _⟩, v => by
      rw [visitAttribute, Members.ofAttribute, visitNested_eq]
  | ⟨type, none, _, _, _, _, _, _⟩, v => by
      rw [visitAttribute, Members.ofAttribute]
      cases decodedType (dottedPath ancestors name) type with
      | error e => rfl
      | ok t => exact congrArg Except.ok (visitType_eq ancestors name t _ _ _ t v [])

theorem visitNested_eq (ancestors : List String) (name : String) (isArgument isRequired : Bool)
    (docs : Docs) :
    ∀ (n : Schema.NestedType) (v : Visit),
      visitNested v ancestors name isArgument isRequired docs n =
        (Members.ofNested ancestors name isArgument isRequired docs n).map (v.gather ancestors)
  | ⟨attributes, mode, minItems, maxItems⟩, v => by
      rw [visitNested, Members.ofNested]
      cases Schema.nestingOr (dottedPath ancestors name) mode (Schema.attributeNesting? mode) with
      | error e => rfl
      | ok nesting =>
          simp only [bind, Except.bind, visitAttributes_eq]
          cases Members.ofAttributes (ancestors ++ [name]) attributes with
          | error e => rfl
          | ok m => exact congrArg Except.ok (v.fill_gather ancestors name _ m)

theorem visitAttributes_eq (ancestors : List String) :
    ∀ (attributes : List (String × Schema.Attribute)) (v : Visit),
      visitAttributes v ancestors attributes =
        (Members.ofAttributes ancestors attributes).map (v.gather ancestors)
  | [], v => by simp [visitAttributes, Members.ofAttributes, Except.map]
  | (name, a) :: rest, v => by
      rw [visitAttributes, Members.ofAttributes, visitAttribute_eq]
      cases Members.ofAttribute ancestors name a with
      | error e => rfl
      | ok m =>
          simp only [Except.map, bind, Except.bind, visitAttributes_eq]
          cases Members.ofAttributes ancestors rest with
          | error e => rfl
          | ok others => exact congrArg Except.ok (v.gather_append ancestors m others).symm
end

mutual
theorem visitBlock_eq (ancestors : List String) :
    ∀ (b : Schema.Block) (v : Visit),
      visitBlock v ancestors b = (Members.ofBlock ancestors b).map (v.gather ancestors)
  | ⟨attributes, blockTypes, _, _⟩, v => by
      rw [visitBlock, Members.ofBlock, visitAttributes_eq]
      cases Members.ofAttributes ancestors attributes with
      | error e => rfl
      | ok m =>
          simp only [Except.map, bind, Except.bind, visitBlockTypes_eq]
          cases Members.ofBlockTypes ancestors blockTypes with
          | error e => rfl
          | ok others => exact congrArg Except.ok (v.gather_append ancestors m others).symm

theorem visitBlockType_eq (ancestors : List String) (name : String) :
    ∀ (b : Schema.BlockType) (v : Visit),
      visitBlockType v ancestors name b =
        (Members.ofBlockType ancestors name b).map (v.gather ancestors)
  | ⟨mode, ⟨attributes, blockTypes, description, deprecated⟩, minItems, maxItems⟩, v => by
      rw [visitBlockType, Members.ofBlockType]
      cases Schema.nestingOr (dottedPath ancestors name) mode (Schema.blockNesting? mode) with
      | error e => rfl
      | ok nesting =>
          simp only [bind, Except.bind, visitBlock_eq]
          cases Members.ofBlock (ancestors ++ [name]) ⟨attributes, blockTypes, description, deprecated⟩ with
          | error e => rfl
          | ok m => exact congrArg Except.ok (v.fill_gather ancestors name _ m)

theorem visitBlockTypes_eq (ancestors : List String) :
    ∀ (blockTypes : List (String × Schema.BlockType)) (v : Visit),
      visitBlockTypes v ancestors blockTypes =
        (Members.ofBlockTypes ancestors blockTypes).map (v.gather ancestors)
  | [], v => by simp [visitBlockTypes, Members.ofBlockTypes, Except.map]
  | (name, b) :: rest, v => by
      rw [visitBlockTypes, Members.ofBlockTypes, visitBlockType_eq]
      cases Members.ofBlockType ancestors name b with
      | error e => rfl
      | ok m =>
          simp only [Except.map, bind, Except.bind, visitBlockTypes_eq]
          cases Members.ofBlockTypes ancestors rest with
          | error e => rfl
          | ok others => exact congrArg Except.ok (v.gather_append ancestors m others).symm
end

theorem build_eq (block : Schema.Block) : build block = ofBlock block := by
  rw [build, ofBlock, visitBlock_eq]
  cases Members.ofBlock [] block with
  | error e => rfl
  | ok m => simp [Except.map, Visit.gather, ofMembers]

end ProviderBindings.Graph.Reservation

namespace ProviderBindings.Graph

theorem ofBlock_preOrderForest (block : Schema.Block) :
    Reservation.build block = ofBlock block ∧ ∀ g, ofBlock block = .ok g → g.PreOrderForest := by
  refine ⟨Reservation.build_eq block, fun g h => ?_⟩
  obtain ⟨m, _, rfl⟩ := map_eq_ok_iff.mp h
  exact preOrderForest_of_walks (walks_ofMembers m).1

def cluster : Schema.Block :=
  ⟨[("ports",
      ⟨some (.list [.text "map", .list [.text "object", .object [("to", .text "number")]]]), none, none,
        true, false, false, false, false⟩)],
    [("pool",
      ⟨"list",
        ⟨[("limits",
            ⟨none, some ⟨[("cpu", ⟨some (.list [.text "object", .object []]), none, none, false, true, false,
                false, false⟩)], "single", none, none⟩, none, false, true, false, false, false⟩)],
          [("taint", ⟨"map", .empty, 0, 0⟩)], none, false⟩, 0, 0⟩)], none, false⟩

theorem preOrderForest_cluster :
    ∃ g, ofBlock cluster = .ok g ∧
      g.nodes.map Node.path = [["ports"], ["pool"], ["pool", "limits"], ["pool", "limits", "cpu"],
        ["pool", "taint"]] ∧
      g.children = [0, 1] ∧ g.nodes.map Node.children = [[], [2, 4], [3], [], []] ∧ g.PreOrderForest :=
  ⟨_, rfl, rfl, rfl, rfl, (ofBlock_preOrderForest cluster).2 _ rfl⟩

end ProviderBindings.Graph
