import ProviderBindings.Bindings.Source
import ProviderBindings.Proofs.Disambiguation.SharedPath

/-!
Which graphs can be disambiguated. Nodes with one path share every record name at the start and move
together in every round, so that they are never told apart; all other nodes are.
-/

namespace ProviderBindings

namespace Disambiguation

/-! ### What rounds leave alone -/

theorem Moved.unqualified_eq {start nodes : List Node} {moved : List Nat} (h : Moved start moved nodes) :
    nodes.map Node.unqualified = start.map Node.unqualified := by
  refine List.ext_getElem? fun i => ?_
  rw [List.getElem?_map, List.getElem?_map]
  cases hn : start[i]? with
  | none =>
      have hi : nodes.length ≤ i := by
        rw [h.length_eq]
        exact List.getElem?_eq_none_iff.mp hn
      rw [List.getElem?_eq_none hi]
  | some n =>
      rcases h.getElem? hn with ⟨_, he⟩ | ⟨_, _, he⟩ | ⟨_, he, _⟩
      · rw [he]
      · rw [he, Option.map_some, Option.map_some, Node.unqualified_qualified]
      · rw [he, Option.map_some, Option.map_some, Node.unqualified_suffixed]

theorem unqualified_of_moveGroups {nodes nodes' : List Node} {result : Option NameCollision}
    (h : moveGroups [] nodes (collisions nodes) = (nodes', result)) :
    nodes'.map Node.unqualified = nodes.map Node.unqualified := by
  obtain ⟨_, hm, _⟩ := moved_of_moveGroups (fun g hg => collides_of_mem hg) (.refl nodes) h
  exact hm.unqualified_eq

theorem settle_unqualified (nodes : List Node) :
    (settle nodes).1.map Node.unqualified = nodes.map Node.unqualified := by
  obtain ⟨last, hlast, ⟨_, hs⟩ | ⟨nodes', c, hr, hs⟩⟩ :=
    settle_induction (P := fun ns => ns.map Node.unqualified = nodes.map Node.unqualified)
      (fun a b ha hr => (unqualified_of_moveGroups (round_eq_moved_iff.mp hr).2).trans ha) rfl
  · rw [hs]
    exact hlast
  · rw [hs]
    exact (unqualified_of_moveGroups (round_eq_unresolved_iff.mp hr)).trans hlast

theorem dotted_of_unqualified_eq {a b : List Node}
    (h : a.map Node.unqualified = b.map Node.unqualified) : a.map Node.dotted = b.map Node.dotted := by
  have hd := congrArg (List.map Node.dotted) h
  simpa [Function.comp_def] using hd

theorem dotFree_of_unqualified_eq {a b : List Node}
    (h : a.map Node.unqualified = b.map Node.unqualified) (hb : ∀ n ∈ b, n.DotFree) :
    ∀ n ∈ a, n.DotFree := by
  intro n hn
  have hmem : n.unqualified ∈ b.map Node.unqualified := h ▸ List.mem_map_of_mem hn
  obtain ⟨m, hm, he⟩ := List.mem_map.mp hmem
  have hp : n.path = m.path := Node.path_eq_of_unqualified_eq he.symm
  rw [Node.DotFree, hp]
  exact hb m hm

/-! ### Nodes with one path -/

def Lockstep (nodes : List Node) : Prop :=
  ∀ m ∈ nodes, ∀ n ∈ nodes, m.path = n.path →
    m.uniqueName = n.uniqueName ∧ m.uniqueDepth = n.uniqueDepth

def TwinClosed (nodes : List Node) (positions : List Nat) : Prop :=
  ∀ i j m n, nodes[i]? = some m → nodes[j]? = some n → m.path = n.path → i ∈ positions → j ∈ positions

theorem lockstep_unqualified (nodes : List Node) : Lockstep (nodes.map Node.unqualified) := by
  intro m hm n hn hp
  obtain ⟨a, _, rfl⟩ := List.mem_map.mp hm
  obtain ⟨b, _, rfl⟩ := List.mem_map.mp hn
  exact ⟨(Node.ancestors_eq_of_path_eq hp).2, rfl⟩

theorem twinClosed_of_mem_collisions {nodes : List Node} (hl : Lockstep nodes) {group : List Nat}
    (hg : group ∈ collisions nodes) : TwinClosed nodes group := by
  intro i j m n hm hn hp hi
  obtain ⟨⟨_, _, record, _, rfl⟩, _⟩ := mem_collisions.mp hg
  obtain ⟨t, ht, hr⟩ := mem_owners.mp hi
  have hname := (hl m (List.mem_of_getElem? hm) n (List.mem_of_getElem? hn) hp).1
  have ht : m.records = t := by simpa [hm] using ht
  refine mem_owners.mpr ⟨n.records, by simp [hn], ?_⟩
  rwa [Node.records, ← hname, ← Node.records, ht]

theorem TwinClosed.append {nodes : List Node} {a b : List Nat} (ha : TwinClosed nodes a)
    (hb : TwinClosed nodes b) : TwinClosed nodes (a ++ b) := by
  intro i j m n hm hn hp hi
  rcases List.mem_append.mp hi with hi | hi
  · exact List.mem_append_left _ (ha i j m n hm hn hp hi)
  · exact List.mem_append_right _ (hb i j m n hm hn hp hi)

theorem ancestorsLeft_eq {nodes : List Node} (hl : Lockstep nodes) {m n : Node} (hm : m ∈ nodes)
    (hn : n ∈ nodes) (hp : m.path = n.path) : m.ancestorsLeft = n.ancestorsLeft := by
  rw [Node.ancestorsLeft, Node.ancestorsLeft, (Node.ancestors_eq_of_path_eq hp).1,
    (hl m hm n hn hp).2]

theorem Moved.lockstep {start nodes : List Node} {moved : List Nat} (h : Moved start moved nodes)
    (hl : Lockstep start) (hc : TwinClosed start moved) : Lockstep nodes := by
  intro m' hm' n' hn' hp
  obtain ⟨i, hi⟩ := List.mem_iff_getElem?.mp hm'
  obtain ⟨j, hj⟩ := List.mem_iff_getElem?.mp hn'
  have back {k : Nat} {n' : Node} (hk : nodes[k]? = some n') :
      ∃ n, start[k]? = some n ∧ n.path = n'.path := by
    have he := congrArg (fun l : List Node => l[k]?) h.unqualified_eq
    simp only [List.getElem?_map, hk, Option.map_some] at he
    obtain ⟨n, hn, hu⟩ := Option.map_eq_some_iff.mp he.symm
    exact ⟨n, hn, Node.path_eq_of_unqualified_eq hu⟩
  obtain ⟨m, hm, hmp⟩ := back hi
  obtain ⟨n, hn, hnp⟩ := back hj
  have hpath : m.path = n.path := by rw [hmp, hp, hnp]
  have hms := List.mem_of_getElem? hm
  have hns := List.mem_of_getElem? hn
  obtain ⟨hname, hdepth⟩ := hl m hms n hns hpath
  have hanc := (Node.ancestors_eq_of_path_eq hpath).1
  have hleft := ancestorsLeft_eq hl hms hns hpath
  by_cases him : i ∈ moved
  · have hjm := hc i j m n hm hn hpath him
    rcases h.moves i him m hm with ⟨hlm, he⟩ | ⟨hlm, he, _⟩
    · rcases h.moves j hjm n hn with ⟨_, he'⟩ | ⟨hln, _, _⟩
      · rw [hi, Option.some.injEq] at he
        rw [hj, Option.some.injEq] at he'
        rw [he, he', Node.qualified, Node.qualified, hanc, hdepth]
        split <;> simp [hname, hdepth]
      · omega
    · rcases h.moves j hjm n hn with ⟨hln, _⟩ | ⟨_, he', _⟩
      · omega
      · rw [hi, Option.some.injEq] at he
        rw [hj, Option.some.injEq] at he'
        simp [he, he', Node.suffixed, hname, hdepth]
  · have hjm : j ∉ moved := fun hjm => him (hc j i n m hn hm hpath.symm hjm)
    have hmm : m' = m := by simpa [hi, hm] using h.stays i him
    have hnn : n' = n := by simpa [hj, hn] using h.stays j hjm
    rw [hmm, hnn]
    exact ⟨hname, hdepth⟩

section Step

variable {start nodes : List Node} {moved group : List Nat}

theorem twinClosed_qualifiable (hl : Lockstep start) (h : Moved start moved nodes)
    (hg : group ∈ collisions start) (hnew : ∀ i ∈ group, i ∉ moved) :
    TwinClosed start (group.filter (hasAncestorLeft nodes)) := by
  intro i j m n hm hn hp hi
  obtain ⟨hi, hleft⟩ := List.mem_filter.mp hi
  have hj := twinClosed_of_mem_collisions hl hg i j m n hm hn hp hi
  refine List.mem_filter.mpr ⟨hj, ?_⟩
  rw [hasAncestorLeft_of_getElem? ((h.stays i (hnew i hi)).trans hm)] at hleft
  rw [hasAncestorLeft_of_getElem? ((h.stays j (hnew j hj)).trans hn)]
  rwa [← ancestorsLeft_eq hl (List.mem_of_getElem? hm) (List.mem_of_getElem? hn) hp]

theorem twinClosed_drop_one (hl : Lockstep start) (h : Moved start moved nodes)
    (hg : group ∈ collisions start) (hnew : ∀ i ∈ group, i ∉ moved)
    (hshared : sharedPath nodes group = none) : TwinClosed start (group.drop 1) := by
  intro i j m n hm hn hp hi
  have hig := List.mem_of_mem_drop hi
  have hjg := twinClosed_of_mem_collisions hl hg i j m n hm hn hp hig
  have hdotted : m.dotted = n.dotted := congrArg (".".intercalate ·) hp
  have hij : i = j :=
    eq_of_dotted_eq (sharedPath_eq_none_iff.mp hshared) hig hjg
      ((h.stays i (hnew i hig)).trans hm) ((h.stays j (hnew j hjg)).trans hn) hdotted
  exact hij ▸ hi

end Step

theorem lockstep_of_moveGroups {nodes nodes' : List Node} {result : Option NameCollision}
    (hl : Lockstep nodes) (h : moveGroups [] nodes (collisions nodes) = (nodes', result)) :
    Lockstep nodes' ∧
      ∀ c, result = some c → ∃ g ∈ collisions nodes, sharedPath nodes' g = some c := by
  obtain ⟨moved, ⟨hm, hc⟩, hstop⟩ :=
    @moveGroups_induction (fun moved ns => Moved nodes moved ns ∧ TwinClosed nodes moved) _
      (fun moved ns g hg ⟨hm, hc⟩ hnew =>
        ⟨hm.qualify (collides_of_mem hg) hnew, (twinClosed_qualifiable hl hm hg hnew).append hc⟩)
      (fun moved ns g hg ⟨hm, hc⟩ hnew hleft hshared =>
        ⟨hm.suffix (collides_of_mem hg) hnew hleft, (twinClosed_drop_one hl hm hg hnew hshared).append hc⟩)
      _ _ _ _ ⟨.refl nodes, by simp [TwinClosed]⟩ h
  refine ⟨hm.lockstep hl hc, fun c hr => ?_⟩
  obtain ⟨g, hg, _, _, hs⟩ := hstop c hr
  exact ⟨g, hg, hs⟩

/-! ### How disambiguation ends -/

theorem one_lt_length {l : List Nat} {i j : Nat} (hi : i ∈ l) (hj : j ∈ l) (h : i ≠ j) :
    1 < l.length := by
  match l with
  | [] => simp at hi
  | [k] =>
      rw [List.mem_singleton] at hi hj
      exact absurd (hi.trans hj.symm) h
  | _ :: _ :: _ => simp

theorem records_disjoint {nodes : List Node} (h : collisions nodes = []) :
    nodes.Pairwise fun a b => ∀ record ∈ a.records, record ∉ b.records := by
  refine List.pairwise_iff_getElem.mpr fun i j hi hj hlt record ha hb => ?_
  have him : i ∈ owners (nodes.map Node.records) record :=
    mem_owners.mpr ⟨nodes[i].records, by simp [hi], ha⟩
  have hjm : j ∈ owners (nodes.map Node.records) record :=
    mem_owners.mpr ⟨nodes[j].records, by simp [hj], hb⟩
  have hmem : owners (nodes.map Node.records) record ∈ collisions nodes :=
    mem_collisions.mpr ⟨⟨nodes[i], by simp, record, ha, rfl⟩, one_lt_length him hjm (by omega)⟩
  simp [h] at hmem

theorem paths_nodup_of_disjoint {nodes : List Node} (hl : Lockstep nodes)
    (hd : ∀ n ∈ nodes, n.DotFree)
    (h : nodes.Pairwise fun a b => ∀ record ∈ a.records, record ∉ b.records) :
    (nodes.map Node.dotted).Nodup := by
  rw [List.Nodup, List.pairwise_map]
  refine h.imp_of_mem fun {a b} ha hb hdisjoint he => ?_
  have hname := (hl a ha b hb (Node.path_eq_of_dotted_eq (hd a ha) (hd b hb) he)).1
  have hrecord : Naming.recordName a.uniqueName ∈ a.records := by
    simp [Node.records, Naming.recordTriad, Naming.RecordTriad.toList]
  refine hdisjoint _ hrecord ?_
  rwa [Node.records, ← hname]

theorem collision_of_sharedPath {nodes nodes' : List Node} {g : List Nat} {c : NameCollision}
    (hl : Lockstep nodes) (hd : ∀ n ∈ nodes, n.DotFree)
    (hu : nodes'.map Node.unqualified = nodes.map Node.unqualified) (hg : g ∈ collisions nodes)
    (hs : sharedPath nodes' g = some c) :
    c.path ∈ nodes.map Node.dotted ∧ 2 ≤ c.count ∧
      c.count = (nodes.map Node.dotted).count c.path := by
  obtain ⟨hmem, hone, hcount⟩ := sharedPath_eq_some hs
  rw [pathsAt_congr (dotted_of_unqualified_eq hu)] at hmem hcount
  obtain ⟨i, hi, m, hm, hmp⟩ := mem_pathsAt.mp hmem
  refine ⟨List.mem_map.mpr ⟨m, List.mem_of_getElem? hm, hmp⟩, hone, ?_⟩
  rw [hcount]
  refine count_pathsAt_eq (collides_of_mem hg).ordered fun j n hn hnp => ?_
  have hp : m.path = n.path :=
    Node.path_eq_of_dotted_eq (hd m (List.mem_of_getElem? hm)) (hd n (List.mem_of_getElem? hn))
      (hmp.trans hnp.symm)
  exact twinClosed_of_mem_collisions hl hg i j m n hm hn hp hi

theorem settle_cases {start : List Node} (hl : Lockstep start) (hd : ∀ n ∈ start, n.DotFree) :
    ((settle start).2 = none ∧ Lockstep (settle start).1 ∧
      (settle start).1.Pairwise fun a b => ∀ record ∈ a.records, record ∉ b.records) ∨
    ∃ c, (settle start).2 = some c ∧ c.path ∈ start.map Node.dotted ∧ 2 ≤ c.count ∧
      c.count = (start.map Node.dotted).count c.path := by
  obtain ⟨last, ⟨hlast, hu⟩, ⟨hnone, hs⟩ | ⟨nodes', c, hr, hs⟩⟩ :=
    settle_induction
      (P := fun ns => Lockstep ns ∧ ns.map Node.unqualified = start.map Node.unqualified)
      (fun a b ⟨ha, hu⟩ hr =>
        have hmove := (round_eq_moved_iff.mp hr).2
        ⟨(lockstep_of_moveGroups ha hmove).1, (unqualified_of_moveGroups hmove).trans hu⟩)
      ⟨hl, rfl⟩
  · rw [hs]
    exact .inl ⟨rfl, hlast, records_disjoint hnone⟩
  · have hmove := round_eq_unresolved_iff.mp hr
    obtain ⟨g, hg, hshared⟩ := (lockstep_of_moveGroups hlast hmove).2 c rfl
    have hc := collision_of_sharedPath hlast (dotFree_of_unqualified_eq hu hd)
      (unqualified_of_moveGroups hmove) hg hshared
    rw [dotted_of_unqualified_eq hu] at hc
    rw [hs]
    exact .inr ⟨c, rfl, hc⟩

end Disambiguation

namespace Graph

open Disambiguation

def DotFree (g : Graph) : Prop := ∀ n ∈ g.nodes, n.DotFree

instance (g : Graph) : Decidable g.DotFree := inferInstanceAs (Decidable (∀ n ∈ g.nodes, _))

def unqualified (g : Graph) : Graph := { g with nodes := g.nodes.map Node.unqualified }

theorem disambiguated_eq_ok_iff {g g' : Graph} :
    g.disambiguated = .ok g' ↔
      (settle (g.nodes.map Node.unqualified)).2 = none ∧
        g' = { g with nodes := (settle (g.nodes.map Node.unqualified)).1 } := by
  rw [disambiguated, disambiguate]
  rcases settle (g.nodes.map Node.unqualified) with ⟨nodes, _ | c⟩ <;> simp [eq_comm]

theorem disambiguated_of_settled {g : Graph} (hu : g.nodes.map Node.unqualified = g.nodes)
    (h : collisions g.nodes = []) : g.disambiguated = .ok g := by
  have hsettle := settle_of_settled (round_eq_settled_iff.mpr h)
  refine disambiguated_eq_ok_iff.mpr ?_
  rw [hu, hsettle]
  exact ⟨rfl, rfl⟩

theorem disambiguated_empty : Graph.disambiguated ⟨[], [], []⟩ = .ok ⟨[], [], []⟩ :=
  disambiguated_of_settled rfl rfl

theorem disambiguated_eq_error_iff {g : Graph} {c : NameCollision} :
    g.disambiguated = .error c ↔ (settle (g.nodes.map Node.unqualified)).2 = some c := by
  rw [disambiguated, disambiguate]
  rcases settle (g.nodes.map Node.unqualified) with ⟨nodes, _ | c'⟩ <;> simp

theorem unqualified_of_disambiguated {g g' : Graph} (h : g.disambiguated = .ok g') :
    g'.unqualified = g.unqualified := by
  obtain ⟨_, rfl⟩ := disambiguated_eq_ok_iff.mp h
  simp [unqualified, settle_unqualified]

/-- A graph whose names hold no dots can be disambiguated exactly when no two of its nodes have one dotted
path. Then only unique names change, and no two nodes share a record name; otherwise the collision tells a
path of the graph and how many nodes have it. -/
theorem disambiguated_decides (g : Graph) (h : g.DotFree) :
    ((∃ g', g.disambiguated = .ok g') ↔ (g.nodes.map Node.dotted).Nodup) ∧
    (∀ g', g.disambiguated = .ok g' →
      g'.unqualified = g.unqualified ∧
        g'.nodes.Pairwise fun a b => ∀ record ∈ a.records, record ∉ b.records) ∧
    ∀ c, g.disambiguated = .error c →
      c.path ∈ g.nodes.map Node.dotted ∧ 2 ≤ c.count ∧
        c.count = (g.nodes.map Node.dotted).count c.path := by
  have hdotted : (g.nodes.map Node.unqualified).map Node.dotted = g.nodes.map Node.dotted := by
    simp [Function.comp_def]
  have hfree : ∀ n ∈ g.nodes.map Node.unqualified, n.DotFree :=
    dotFree_of_unqualified_eq (by simp [Function.comp_def]) h
  rcases settle_cases (lockstep_unqualified g.nodes) hfree with
    ⟨hnone, hl, hdisjoint⟩ | ⟨c, hsome, hmem, htwo, hcount⟩
  · have hok := disambiguated_eq_ok_iff.mpr ⟨hnone, rfl⟩
    refine ⟨⟨fun _ => ?_, fun _ => ⟨_, hok⟩⟩, fun g' hg' => ?_, fun c hc => ?_⟩
    · have hu := settle_unqualified (g.nodes.map Node.unqualified)
      have hnodup := paths_nodup_of_disjoint hl (dotFree_of_unqualified_eq hu hfree) hdisjoint
      rwa [dotted_of_unqualified_eq hu, hdotted] at hnodup
    · obtain ⟨_, rfl⟩ := disambiguated_eq_ok_iff.mp hg'
      exact ⟨unqualified_of_disambiguated hg', hdisjoint⟩
    · simp [hok] at hc
  · have herror := disambiguated_eq_error_iff.mpr hsome
    rw [hdotted] at hmem hcount
    refine ⟨⟨fun hok => ?_, fun hnodup => ?_⟩, fun g' hg' => ?_, fun c' hc' => ?_⟩
    · obtain ⟨g', hg'⟩ := hok
      simp [herror] at hg'
    · have hone := List.nodup_iff_count.mp hnodup c.path
      omega
    · simp [herror] at hg'
    · rw [herror, Except.error.injEq] at hc'
      subst hc'
      exact ⟨hmem, htwo, hcount⟩

def twinConfigs : Graph :=
  ⟨[], [0, 2, 3],
    [⟨"outer", [], "outer", 0, [], [1], default⟩, ⟨"config", ["outer"], "config", 0, [], [], default⟩,
      ⟨"config", [], "config", 0, [], [], default⟩, ⟨"config", [], "config", 0, [], [], default⟩]⟩

theorem disambiguated_twinConfigs :
    twinConfigs.DotFree ∧ twinConfigs.disambiguated = .error ⟨"config", 2⟩ := by
  have hfree : twinConfigs.DotFree := by decide
  obtain ⟨hok, _, herror⟩ := disambiguated_decides twinConfigs hfree
  have hpaths : twinConfigs.nodes.map Node.dotted = ["outer", "outer.config", "config", "config"] := by
    decide
  refine ⟨hfree, ?_⟩
  cases h : twinConfigs.disambiguated with
  | ok g' =>
      have hnodup := hok.mp ⟨g', h⟩
      rw [hpaths] at hnodup
      exact absurd hnodup (by decide)
  | error c =>
      obtain ⟨path, count⟩ := c
      obtain ⟨hmem, htwo, hcount⟩ := herror _ h
      rw [hpaths] at hmem hcount
      have htwo : 2 ≤ count := htwo
      simp only [List.mem_cons, List.not_mem_nil, or_false, or_self] at hmem
      rcases hmem with rfl | rfl | rfl
      · have hone : count = 1 := hcount
        omega
      · have hone : count = 1 := hcount
        omega
      · rw [show count = 2 from hcount]

end Graph

end ProviderBindings
