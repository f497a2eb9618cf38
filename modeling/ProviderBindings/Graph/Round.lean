import ProviderBindings.Graph
import ProviderBindings.Naming

/-!
One round of telling the nodes of a graph apart. Each node gives its name to three records of one namespace.
Nodes that share a record name are qualified with the names of their ancestors, nearest first, and, when
those are used up, told apart by suffixes. Nodes with one path cannot be told apart.

`mem_collisions` says which groups of nodes a round looks at.
-/

namespace ProviderBindings

structure NameCollision where
  path : String
  count : Nat
  deriving DecidableEq, Repr

def NameCollision.message (c : NameCollision) : String :=
  "unresolved name collision: " ++ toString c.count ++ " nodes have the path `" ++ c.path ++ "`"

namespace Node

def records (n : Node) : List String := (Naming.recordTriad n.uniqueName).toList

def ancestorsLeft (n : Node) : Nat := n.ancestors.length - n.uniqueDepth

def qualified (n : Node) : Node :=
  match n.ancestors[n.ancestors.length - n.uniqueDepth - 1]? with
  | some ancestor =>
      { n with uniqueName := ancestor ++ "." ++ n.uniqueName, uniqueDepth := n.uniqueDepth + 1 }
  | none => n

def suffixed (n : Node) : Node := { n with uniqueName := n.uniqueName ++ "_block" }

def unqualified (n : Node) : Node := { n with uniqueName := n.name, uniqueDepth := 0 }

def dotted (n : Node) : String := ".".intercalate n.path

end Node

namespace Disambiguation

def owners (triads : List (List String)) (record : String) : List Nat :=
  (triads.zipIdx.filter fun t => t.1.contains record).map Prod.snd

def insertGroup (group : List Nat) : List (List Nat) → List (List Nat)
  | [] => [group]
  | g :: rest =>
      if group < g then group :: g :: rest
      else if group = g then g :: rest
      else g :: insertGroup group rest

def collisions (nodes : List Node) : List (List Nat) :=
  let triads := nodes.map Node.records
  ((triads.flatten.map (owners triads)).filter (1 < ·.length)).foldr insertGroup []

def changeAt (change : Node → Node) (positions : List Nat) (nodes : List Node) : List Node :=
  nodes.mapIdx fun i n => if i ∈ positions then change n else n

def hasAncestorLeft (nodes : List Node) (i : Nat) : Bool :=
  match nodes[i]? with
  | some n => 0 < n.ancestorsLeft
  | none => false

theorem hasAncestorLeft_of_getElem? {nodes : List Node} {i : Nat} {n : Node} (h : nodes[i]? = some n) :
    hasAncestorLeft nodes i = decide (0 < n.ancestorsLeft) := by
  rw [hasAncestorLeft, h]

def sharedPath (nodes : List Node) (group : List Nat) : Option NameCollision :=
  let paths := (group.filterMap fun i => nodes[i]?).map Node.dotted
  (paths.find? fun p => 1 < paths.count p).map fun p => ⟨p, paths.count p⟩

/-- Moves the groups one after another, each node at most once: a group with a node that has moved waits
for the next round. The result is the collision that cannot be resolved, if one was met. -/
def moveGroups (moved : List Nat) (nodes : List Node) :
    List (List Nat) → List Node × Option NameCollision
  | [] => (nodes, none)
  | group :: rest =>
      if group.any moved.contains then moveGroups moved nodes rest
      else
        let qualifiable := group.filter (hasAncestorLeft nodes)
        if !qualifiable.isEmpty then
          moveGroups (qualifiable ++ moved) (changeAt Node.qualified qualifiable nodes) rest
        else
          match sharedPath nodes group with
          | some collision => (nodes, some collision)
          | none =>
              moveGroups (group.drop 1 ++ moved) (changeAt Node.suffixed (group.drop 1) nodes) rest

inductive Round where
  | settled
  | unresolved (nodes : List Node) (collision : NameCollision)
  | moved (nodes : List Node)

def round (nodes : List Node) : Round :=
  match collisions nodes with
  | [] => .settled
  | groups =>
      match moveGroups [] nodes groups with
      | (nodes, some collision) => .unresolved nodes collision
      | (nodes, none) => .moved nodes

structure Collides (nodes : List Node) (group : List Nat) : Prop where
  ordered : group.Pairwise (· < ·)
  several : 1 < group.length
  shared : ∃ record, ∀ i ∈ group, ∃ n, nodes[i]? = some n ∧ record ∈ n.records

theorem moveGroups_induction {Inv : List Nat → List Node → Prop} {groups : List (List Nat)}
    (qualify : ∀ moved nodes, ∀ g ∈ groups, Inv moved nodes → (∀ i ∈ g, i ∉ moved) →
      Inv (g.filter (hasAncestorLeft nodes) ++ moved)
        (changeAt Node.qualified (g.filter (hasAncestorLeft nodes)) nodes))
    (suffix : ∀ moved nodes, ∀ g ∈ groups, Inv moved nodes → (∀ i ∈ g, i ∉ moved) →
      g.filter (hasAncestorLeft nodes) = [] → sharedPath nodes g = none →
      Inv (g.drop 1 ++ moved) (changeAt Node.suffixed (g.drop 1) nodes)) :
    ∀ {moved : List Nat} {nodes nodes' : List Node} {result : Option NameCollision},
      Inv moved nodes → moveGroups moved nodes groups = (nodes', result) →
      ∃ moved', Inv moved' nodes' ∧ ∀ c, result = some c →
        ∃ g ∈ groups, (∀ i ∈ g, i ∉ moved') ∧ g.filter (hasAncestorLeft nodes') = [] ∧
          sharedPath nodes' g = some c := by
  induction groups with
  | nil =>
      intro moved nodes nodes' result h he
      simp only [moveGroups, Prod.mk.injEq] at he
      obtain ⟨rfl, rfl⟩ := he
      exact ⟨moved, h, by simp⟩
  | cons group rest ih =>
      replace ih := @ih (fun moved nodes g hg => qualify moved nodes g (List.mem_cons_of_mem _ hg))
        (fun moved nodes g hg => suffix moved nodes g (List.mem_cons_of_mem _ hg))
      have lift {moved' : List Nat} {nodes' : List Node} {c : NameCollision}
          (h : ∃ g ∈ rest, (∀ i ∈ g, i ∉ moved') ∧ g.filter (hasAncestorLeft nodes') = [] ∧
            sharedPath nodes' g = some c) :
          ∃ g ∈ group :: rest, (∀ i ∈ g, i ∉ moved') ∧ g.filter (hasAncestorLeft nodes') = [] ∧
            sharedPath nodes' g = some c := by
        obtain ⟨g, hg, hrest⟩ := h
        exact ⟨g, List.mem_cons_of_mem _ hg, hrest⟩
      intro moved nodes nodes' result h he
      rw [moveGroups] at he
      split at he
      · obtain ⟨moved', hi, hc⟩ := ih h he
        exact ⟨moved', hi, fun c hr => lift (hc c hr)⟩
      · rename_i hany
        have hnew : ∀ i ∈ group, i ∉ moved := by simpa using hany
        dsimp only at he
        split at he
        · obtain ⟨moved', hi, hc⟩ := ih (qualify moved nodes group (by simp) h hnew) he
          exact ⟨moved', hi, fun c hr => lift (hc c hr)⟩
        · rename_i hq
          have hleft : group.filter (hasAncestorLeft nodes) = [] := by simpa using hq
          split at he
          · rename_i c hs
            simp only [Prod.mk.injEq] at he
            obtain ⟨rfl, rfl⟩ := he
            refine ⟨moved, h, fun c' hr => ⟨group, by simp, hnew, hleft, ?_⟩⟩
            rw [hs, hr]
          · rename_i hs
            obtain ⟨moved', hi, hc⟩ := ih (suffix moved nodes group (by simp) h hnew hleft hs) he
            exact ⟨moved', hi, fun c hr => lift (hc c hr)⟩

theorem round_eq_settled_iff {nodes : List Node} : round nodes = .settled ↔ collisions nodes = [] := by
  rw [round]
  split
  · rename_i h
    simp [h]
  · rename_i hne
    have hne : collisions nodes ≠ [] := hne
    split <;> simp [hne]

theorem round_eq_unresolved_iff {nodes nodes' : List Node} {c : NameCollision} :
    round nodes = .unresolved nodes' c ↔ moveGroups [] nodes (collisions nodes) = (nodes', some c) := by
  rw [round]
  split
  · rename_i h
    simp [h, moveGroups]
  · split
    · rename_i h
      simp [h]
    · rename_i h
      simp [h]

theorem round_eq_moved_iff {nodes nodes' : List Node} :
    round nodes = .moved nodes' ↔
      collisions nodes ≠ [] ∧ moveGroups [] nodes (collisions nodes) = (nodes', none) := by
  rw [round]
  split
  · rename_i h
    simp [h]
  · rename_i hne
    have hne : collisions nodes ≠ [] := hne
    split
    · rename_i h
      simp [h]
    · rename_i h
      simp [h, hne]

theorem mem_owners {triads : List (List String)} {record : String} {i : Nat} :
    i ∈ owners triads record ↔ ∃ t, triads[i]? = some t ∧ record ∈ t := by
  simp [owners, List.mem_zipIdx_iff_getElem?]

theorem owners_ordered (triads : List (List String)) (record : String) :
    (owners triads record).Pairwise (· < ·) := by
  have h : (owners triads record).Sublist (triads.zipIdx.map Prod.snd) := List.filter_sublist.map _
  refine List.Pairwise.sublist h ?_
  rw [List.zipIdx_map_snd]
  exact List.pairwise_lt_range'

theorem mem_insertGroup {group g : List Nat} {groups : List (List Nat)} :
    g ∈ insertGroup group groups ↔ g = group ∨ g ∈ groups := by
  induction groups with
  | nil => simp [insertGroup]
  | cons h rest ih =>
      simp only [insertGroup]
      split
      · simp
      · split
        · rename_i hg
          subst hg
          simp
        · simp [ih, or_left_comm]

theorem mem_foldr_insertGroup {g : List Nat} {groups : List (List Nat)} :
    g ∈ groups.foldr insertGroup [] ↔ g ∈ groups := by
  induction groups with
  | nil => simp
  | cons h rest ih => simp [mem_insertGroup, ih]

theorem mem_collisions {nodes : List Node} {group : List Nat} :
    group ∈ collisions nodes ↔
      (∃ n ∈ nodes, ∃ record ∈ n.records, owners (nodes.map Node.records) record = group) ∧
        1 < group.length := by
  simp only [collisions, mem_foldr_insertGroup, List.mem_filter, List.mem_map, List.mem_flatten,
    decide_eq_true_eq]
  constructor
  · rintro ⟨⟨record, ⟨_, ⟨n, hn, rfl⟩, hr⟩, rfl⟩, hl⟩
    exact ⟨⟨n, hn, record, hr, rfl⟩, hl⟩
  · rintro ⟨⟨n, hn, record, hr, rfl⟩, hl⟩
    exact ⟨⟨record, ⟨_, ⟨n, hn, rfl⟩, hr⟩, rfl⟩, hl⟩

theorem collides_of_mem {nodes : List Node} {group : List Nat} (h : group ∈ collisions nodes) :
    Collides nodes group := by
  obtain ⟨⟨_, _, record, _, rfl⟩, hl⟩ := mem_collisions.mp h
  refine ⟨owners_ordered _ _, hl, record, fun i hi => ?_⟩
  obtain ⟨t, ht, hr⟩ := mem_owners.mp hi
  rw [List.getElem?_map, Option.map_eq_some_iff] at ht
  obtain ⟨n, hn, rfl⟩ := ht
  exact ⟨n, hn, hr⟩

end Disambiguation

end ProviderBindings
