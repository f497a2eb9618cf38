import ProviderBindings.Proofs.Graph.Promotion
import ProviderBindings.Proofs.Graph.Unfolding

/-!
The keys of a schema in its graph: every shape has a leaf or a child for each thing that is declared at its
place, in the same order and under the same name.
-/

namespace ProviderBindings

open Schema (Declared Level)

inductive Schema.Level.At (root : Level) : List String → Level → Prop
  | root : At root [] root
  | child {path : List String} {level : Level} {name : String} {d : Declared} (h : At root path level)
      (hd : (name, d) ∈ level.children) : At root (path ++ [name]) d.members

structure Keyed (level : Level) (leaves : List Leaf) (children : List Node) : Prop where
  leaves : leaves.map Leaf.name = level.leaves.map Prod.fst
  children : children.map Node.name = level.children.map Prod.fst

theorem LeavesShow.names_eq {leaves : List Leaf} {level : Level} (h : LeavesShow leaves level) :
    leaves.map Leaf.name = level.leaves.map Prod.fst := by
  have hfirst := congrArg (List.map Prod.fst) h.declared
  simpa [List.map_map, Function.comp_def] using hfirst

namespace Graph

variable {nodes : List Node} {root : Level}

theorem names_of_unfolds {roots : List Nat} {forest : List Branch} {declared : Level}
    (h : Unfolds nodes roots forest) (hs : Branch.allShow forest declared) :
    (roots.filterMap fun i => nodes[i]?).map Node.name = declared.map Prod.fst := by
  induction h generalizing declared with
  | nil =>
      cases declared with
      | nil => rfl
      | cons d others => cases hs
  | cons hn _ _ _ ih =>
      cases declared with
      | nil => cases hs
      | cons d others =>
          obtain ⟨⟨hname, -⟩, hrest⟩ := hs
          simp [hn, hname, ih hrest]

theorem keyed_of_walks {ancestors : List String} {roots visited : List Nat}
    (h : Walks nodes ancestors roots visited) {forest : List Branch} {declared : Level}
    (hu : Unfolds nodes roots forest) (hs : Branch.allShow forest declared)
    (hat : ∀ d ∈ declared, root.At (ancestors ++ [d.1]) d.2.members) :
    ∀ i ∈ visited, ∃ n level, nodes[i]? = some n ∧ root.At n.path level ∧
      Keyed level n.leaves (n.children.filterMap fun j => nodes[j]?) := by
  induction h generalizing forest declared with
  | nil => simp
  | @cons ancestors i n rest below others hn ha _ _ ihb iho =>
      cases hu with
      | @cons _ n' _ branches siblings hn' hb ho =>
          obtain rfl : n' = n := by simpa [hn] using hn'.symm
          cases declared with
          | nil => cases hs
          | cons d ds =>
              obtain ⟨⟨hname, -, hleaves, hchildren⟩, hrest⟩ := hs
              obtain ⟨hfirst, hlater⟩ := List.forall_mem_cons.mp hat
              have hplace : root.At n'.path d.2.members := by
                rw [Node.path, ha, hname]
                exact hfirst
              have hinner : ∀ d' ∈ d.2.members.children, root.At (n'.path ++ [d'.1]) d'.2.members :=
                fun d' hd' => hplace.child hd'
              intro k hk
              rcases List.mem_append.mp hk with hk | hk
              · rcases List.mem_cons.mp hk with rfl | hk
                · exact ⟨n', _, hn, hplace, hleaves.names_eq, names_of_unfolds hb hchildren⟩
                · exact ihb hb hchildren hinner k hk
              · exact iho ho hrest hlater k hk

theorem keyed_of_disambiguated {block : Schema.Block} {g₀ g : Graph} (hb : ofBlock block = .ok g₀)
    (hd : g₀.disambiguated = .ok g) :
    Keyed (Level.ofBlock block) g.leaves g.topChildren ∧
      ∀ n ∈ g.nodes, ∃ level, (Level.ofBlock block).At n.path level ∧
        Keyed level n.leaves (g.childrenOf n) := by
  have hu := unqualified_of_disambiguated hd
  obtain ⟨forest, hunfolds, -, hshow, -⟩ := ofBlock_unfolds hb
  have hforest := unfolds_of_unqualified hu hunfolds
  rw [← children_unqualified, ← hu, children_unqualified] at hforest
  have hleaves : g.leaves = g₀.leaves := by rw [← leaves_unqualified, hu, leaves_unqualified]
  refine ⟨⟨hleaves ▸ hshow.leaves.names_eq, names_of_unfolds hforest hshow.children⟩, fun n hn => ?_⟩
  have hwalk := (promoted_of_disambiguated hb hd).2.walk
  have htop : ∀ d ∈ (Level.ofBlock block).children, (Level.ofBlock block).At ([] ++ [d.1]) d.2.members :=
    fun d hd => Level.At.root.child hd
  obtain ⟨i, hi⟩ := List.mem_iff_getElem?.mp hn
  have hvisited := List.mem_range.mpr (List.getElem?_eq_some_iff.mp hi).1
  obtain ⟨n', level, hn', hplace, hkeyed⟩ := keyed_of_walks hwalk hforest hshow.children htop i hvisited
  obtain rfl : n = n' := by simpa [hi] using hn'
  exact ⟨level, hplace, hkeyed⟩

end Graph

end ProviderBindings
