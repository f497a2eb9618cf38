import ProviderBindings.Proofs.Disambiguation.Spelling
import ProviderBindings.Proofs.Graph.Promotion
import ProviderBindings.Proofs.Naming.Identifier

/-!
The names in the graph of a block are names that the block declares at some depth. Unique names are put
together from them, and have letters or digits when all of them have.
-/

namespace ProviderBindings

open Schema (Level)
open Naming (IsWordy)
open Text (isAscii)

def Schema.Level.Everywhere (P : String → Prop) (root : Level) : Prop :=
  ∀ level, root.Below level → ∀ d ∈ level, P d.1

namespace Schema.Level

variable {P : String → Prop} {root : Level}

theorem Below.trans {level below : Level} (h : root.Below level) (hb : level.Below below) :
    root.Below below := by
  induction hb with
  | root => exact h
  | member _ hd ih => exact .member ih hd

theorem Everywhere.mono {Q : String → Prop} (h : root.Everywhere P) (hpq : ∀ name, P name → Q name) :
    root.Everywhere Q :=
  fun level hl d hd => hpq d.1 (h level hl d hd)

theorem Everywhere.own (h : root.Everywhere P) : ∀ d ∈ root, P d.1 := h root .root

theorem Everywhere.members (h : root.Everywhere P) {d : String × Declared} (hd : d ∈ root) :
    d.2.members.Everywhere P :=
  fun level hl => h level (Below.trans (.member .root hd) hl)

theorem everywhere_of_closed {S : Level → Prop} (hroot : S root)
    (hclosed : ∀ level, S level → ∀ d ∈ level, P d.1 ∧ S d.2.members) : root.Everywhere P := by
  have hall {level : Level} (hl : root.Below level) : S level := by
    induction hl with
    | root => exact hroot
    | member _ hd ih => exact (hclosed _ ih _ hd).2
  exact fun level hl d hd => (hclosed level (hall hl) d hd).1

end Schema.Level

structure Node.NamedBy (P : String → Prop) (n : Node) : Prop where
  name : P n.name
  ancestors : ∀ a ∈ n.ancestors, P a
  leaves : ∀ l ∈ n.leaves, P l.name

structure Graph.NamedBy (P : String → Prop) (g : Graph) : Prop where
  leaves : ∀ l ∈ g.leaves, P l.name
  nodes : ∀ n ∈ g.nodes, n.NamedBy P

theorem LeavesShow.name_mem {leaves : List Leaf} {level : Level} (h : LeavesShow leaves level) :
    ∀ l ∈ leaves, ∃ d ∈ level, d.1 = l.name := by
  intro l hl
  have hmem : (l.name, some l.type) ∈ leaves.map fun l => (l.name, some l.type) :=
    List.mem_map_of_mem hl
  rw [h.declared] at hmem
  obtain ⟨d, hd, heq⟩ := List.mem_map.mp hmem
  exact ⟨d, (List.mem_filter.mp hd).1, congrArg Prod.fst heq⟩

namespace Graph

variable {P : String → Prop}

theorem leaves_named {leaves : List Leaf} {level : Level} (hs : LeavesShow leaves level)
    (h : level.Everywhere P) : ∀ l ∈ leaves, P l.name := by
  intro l hl
  obtain ⟨d, hd, heq⟩ := hs.name_mem l hl
  exact heq ▸ h.own d hd

mutual
theorem namedBy_layBranch {ancestors : List String} (ha : ∀ a ∈ ancestors, P a) (start : Nat) :
    ∀ (b : Branch) {d : String × Schema.Declared}, b.Shows d → P d.1 → d.2.members.Everywhere P →
      ∀ n ∈ layBranch ancestors start b, n.NamedBy P
  | .node name traits leaves children, d, ⟨hname, _, hleaves, hchildren⟩, hd, hm => by
      have hown : P name := hname ▸ hd
      have hinner : ∀ a ∈ ancestors ++ [name], P a :=
        List.forall_mem_append.mpr ⟨ha, List.forall_mem_singleton.mpr hown⟩
      have hdeclared : ∀ d' ∈ d.2.members.children, P d'.1 ∧ d'.2.members.Everywhere P := by
        intro d' hd'
        have hmem := (List.mem_filter.mp hd').1
        exact ⟨hm.own d' hmem, hm.members hmem⟩
      have hbelow := namedBy_layForest hinner (start + 1) children hchildren hdeclared
      exact List.forall_mem_cons.mpr ⟨⟨hown, ha, leaves_named hleaves hm⟩, hbelow⟩

theorem namedBy_layForest {ancestors : List String} (ha : ∀ a ∈ ancestors, P a) (start : Nat) :
    ∀ (bs : List Branch) {level : Level}, Branch.allShow bs level →
      (∀ d ∈ level, P d.1 ∧ d.2.members.Everywhere P) →
      ∀ n ∈ (layForest ancestors start bs).nodes, n.NamedBy P
  | [], [], _, _ => by simp [layForest]
  | b :: rest, d :: others, ⟨hb, hrest⟩, hd => by
      obtain ⟨⟨hname, hmembers⟩, hlater⟩ := List.forall_mem_cons.mp hd
      have hfirst := namedBy_layBranch ha start b hb hname hmembers
      have hothers :=
        namedBy_layForest ha (start + (layBranch ancestors start b).length) rest hrest hlater
      exact List.forall_mem_append.mpr ⟨hfirst, hothers⟩
end

theorem namedBy_ofBlock {block : Schema.Block} {g : Graph} (hb : ofBlock block = .ok g)
    (h : (Level.ofBlock block).Everywhere P) : g.NamedBy P := by
  obtain ⟨m, hm, rfl⟩ := map_eq_ok_iff.mp hb
  have hshow := Members.show_ofBlock [] block hm
  refine ⟨leaves_named hshow.leaves h, ?_⟩
  refine namedBy_layForest (by simp) 0 m.children hshow.children fun d hd => ?_
  have hmem := (List.mem_filter.mp hd).1
  exact ⟨h.own d hmem, h.members hmem⟩

theorem namedBy_of_unqualified {g₀ g : Graph} (hu : g.unqualified = g₀.unqualified) (h : g₀.NamedBy P) :
    g.NamedBy P where
  leaves := by
    rw [← leaves_unqualified, hu, leaves_unqualified]
    exact h.leaves
  nodes := by
    intro n hn
    obtain ⟨i, hi⟩ := List.mem_iff_getElem?.mp hn
    obtain ⟨n₀, hn₀, he⟩ := exists_unqualified hu hi
    obtain ⟨hname, hancestors, hleaves⟩ := h.nodes n₀ (List.mem_of_getElem? hn₀)
    exact ⟨congrArg Node.name he ▸ hname, congrArg Node.ancestors he ▸ hancestors,
      congrArg Node.leaves he ▸ hleaves⟩

end Graph

/-! ### Unique names -/

namespace Node

theorem isWordy_intercalate {name : String} (h : IsWordy name) {lead : List String}
    (hl : ∀ a ∈ lead, IsWordy a) : IsWordy (".".intercalate (lead ++ [name])) := by
  induction lead with
  | nil => simpa using h
  | cons a rest ih =>
      obtain ⟨ha, hrest⟩ := List.forall_mem_cons.mp hl
      rw [List.cons_append, String.intercalate_cons_of_ne_nil (by simp)]
      exact (ha.append (by decide)).append (ih hrest).ascii

theorem isWordy_spelling {n : Node} (h : n.NamedBy IsWordy) (depth suffixes : Nat) :
    IsWordy (n.spelling depth suffixes) := by
  induction suffixes with
  | zero =>
      have hlead : ∀ a ∈ n.ancestors.drop (n.ancestors.length - depth), IsWordy a :=
        fun a ha => h.ancestors a (List.mem_of_mem_drop ha)
      simpa [spelling] using isWordy_intercalate h.name hlead
  | succ suffixes ih =>
      rw [spelling_suffixes]
      exact ih.append (by decide)

theorem isWordy_uniqueName {n : Node} (h : n.NamedBy IsWordy) (hs : n.IsSpelled) : IsWordy n.uniqueName := by
  obtain ⟨suffixes, hspells⟩ := hs
  rw [hspells.uniqueName_eq]
  exact isWordy_spelling h _ _

end Node

end ProviderBindings
