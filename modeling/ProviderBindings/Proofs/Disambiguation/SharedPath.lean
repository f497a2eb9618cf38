import ProviderBindings.Graph.Round

/-!
The paths of nodes as dotted texts, and how many nodes of a group or of a whole graph have one of them.
-/

namespace ProviderBindings

def Node.DotFree (n : Node) : Prop := ∀ name ∈ n.path, '.' ∉ name.toList

instance (n : Node) : Decidable n.DotFree := inferInstanceAs (Decidable (∀ name ∈ n.path, _))

theorem intercalate_dot_inj {a b : List String} (ha : ∀ s ∈ a, '.' ∉ s.toList)
    (hb : ∀ s ∈ b, '.' ∉ s.toList) (na : a ≠ []) (nb : b ≠ [])
    (h : ".".intercalate a = ".".intercalate b) : a = b := by
  have hdot : ".".toList = ['.'] := by decide
  have hchars := congrArg String.toList h
  rw [String.toList_intercalate, String.toList_intercalate, hdot] at hchars
  have ea : (['.'].intercalate (a.map String.toList)).splitOn '.' = a.map String.toList :=
    List.splitOn_intercalate '.' (by simpa using ha) (by simpa using na)
  have eb : (['.'].intercalate (b.map String.toList)).splitOn '.' = b.map String.toList :=
    List.splitOn_intercalate '.' (by simpa using hb) (by simpa using nb)
  rw [hchars, eb] at ea
  exact ((List.map_inj_right fun _ _ e => String.toList_injective e).mp ea).symm

theorem Node.path_eq_of_dotted_eq {m n : Node} (hm : m.DotFree) (hn : n.DotFree)
    (h : m.dotted = n.dotted) : m.path = n.path :=
  intercalate_dot_inj hm hn (by simp [Node.path]) (by simp [Node.path]) h

theorem Node.ancestors_eq_of_path_eq {m n : Node} (h : m.path = n.path) :
    m.ancestors = n.ancestors ∧ m.name = n.name := by
  obtain ⟨ha, hs⟩ := List.append_inj' h rfl
  exact ⟨ha, by simpa using hs⟩

@[simp] theorem Node.unqualified_qualified (n : Node) : n.qualified.unqualified = n.unqualified := by
  simp only [Node.qualified]
  split <;> rfl

@[simp] theorem Node.unqualified_suffixed (n : Node) : n.suffixed.unqualified = n.unqualified := rfl

@[simp] theorem Node.unqualified_unqualified (n : Node) : n.unqualified.unqualified = n.unqualified := rfl

@[simp] theorem Node.path_unqualified (n : Node) : n.unqualified.path = n.path := rfl

@[simp] theorem Node.dotted_unqualified (n : Node) : n.unqualified.dotted = n.dotted := rfl

theorem Node.path_eq_of_unqualified_eq {m n : Node} (h : m.unqualified = n.unqualified) :
    m.path = n.path := by
  rw [← m.path_unqualified, h, n.path_unqualified]

namespace Disambiguation

def pathsAt (nodes : List Node) (group : List Nat) : List String :=
  (group.filterMap fun i => nodes[i]?).map Node.dotted

theorem pathsAt_congr {a b : List Node} (h : a.map Node.dotted = b.map Node.dotted)
    (group : List Nat) : pathsAt a group = pathsAt b group := by
  have hview (nodes : List Node) :
      pathsAt nodes group = group.filterMap fun i => (nodes.map Node.dotted)[i]? := by
    simp [pathsAt, List.map_filterMap]
  rw [hview, hview, h]

theorem sharedPath_eq_none_iff {nodes : List Node} {group : List Nat} :
    sharedPath nodes group = none ↔ (pathsAt nodes group).Nodup := by
  rw [List.nodup_iff_count]
  simp only [sharedPath, Option.map_eq_none_iff, List.find?_eq_none, decide_eq_true_eq, Nat.not_lt]
  constructor
  · intro h p
    by_cases hp : p ∈ pathsAt nodes group
    · exact h p hp
    · rw [List.count_eq_zero_of_not_mem hp]
      exact Nat.zero_le 1
  · exact fun h p _ => h p

theorem sharedPath_eq_some {nodes : List Node} {group : List Nat} {c : NameCollision}
    (h : sharedPath nodes group = some c) :
    c.path ∈ pathsAt nodes group ∧ 1 < c.count ∧ c.count = (pathsAt nodes group).count c.path := by
  simp only [sharedPath, Option.map_eq_some_iff] at h
  obtain ⟨p, hp, rfl⟩ := h
  have hcount := List.find?_some hp
  exact ⟨List.mem_of_find?_eq_some hp, of_decide_eq_true hcount, rfl⟩

theorem mem_pathsAt {nodes : List Node} {group : List Nat} {p : String} :
    p ∈ pathsAt nodes group ↔ ∃ i ∈ group, ∃ n, nodes[i]? = some n ∧ n.dotted = p := by
  simp only [pathsAt, List.mem_map, List.mem_filterMap]
  constructor
  · rintro ⟨n, ⟨i, hi, hn⟩, hp⟩
    exact ⟨i, hi, n, hn, hp⟩
  · rintro ⟨i, hi, n, hn, hp⟩
    exact ⟨n, ⟨i, hi, hn⟩, hp⟩

theorem eq_of_dotted_eq {nodes : List Node} {group : List Nat} (h : (pathsAt nodes group).Nodup)
    {i j : Nat} {m n : Node} (hi : i ∈ group) (hj : j ∈ group) (hm : nodes[i]? = some m)
    (hn : nodes[j]? = some n) (hd : m.dotted = n.dotted) : i = j := by
  rw [pathsAt, List.Nodup, List.pairwise_map, List.pairwise_filterMap] at h
  induction h with
  | nil => simp at hi
  | @cons k rest hk _ ih =>
      rcases List.mem_cons.mp hi with hi | hi
      · rcases List.mem_cons.mp hj with hj | hj
        · rw [hi, hj]
        · exact absurd hd (hk j hj m (hi ▸ hm) n hn)
      · rcases List.mem_cons.mp hj with hj | hj
        · exact absurd hd.symm (hk i hi n (hj ▸ hn) m hm)
        · exact ih hi hj

theorem count_pathsAt (nodes : List Node) (group : List Nat) (p : String) :
    (pathsAt nodes group).count p =
      (group.filter fun i => nodes[i]?.any fun n => n.dotted == p).length := by
  induction group with
  | nil => rfl
  | cons i rest ih =>
      simp only [pathsAt, List.filterMap_cons, List.filter_cons] at ih ⊢
      cases nodes[i]? with
      | none => simpa using ih
      | some n =>
          simp only [List.map_cons, List.count_cons, ih, Option.any_some]
          split <;> simp

theorem filterMap_range_getElem? (nodes : List Node) :
    (List.range nodes.length).filterMap (fun i => nodes[i]?) = nodes := by
  induction nodes with
  | nil => rfl
  | cons n rest ih =>
      rw [List.length_cons, List.range_succ_eq_map, List.filterMap_cons, List.filterMap_map]
      simpa [Function.comp_def] using ih

theorem count_pathsAt_eq {nodes : List Node} {group : List Nat} {p : String}
    (ho : group.Pairwise (· < ·))
    (hall : ∀ i n, nodes[i]? = some n → n.dotted = p → i ∈ group) :
    (pathsAt nodes group).count p = (nodes.map Node.dotted).count p := by
  have hwhole : nodes.map Node.dotted = pathsAt nodes (List.range nodes.length) := by
    rw [pathsAt, filterMap_range_getElem?]
  rw [hwhole, count_pathsAt, count_pathsAt]
  refine List.Perm.length_eq ((List.perm_ext_iff_of_nodup ?_ ?_).mpr fun i => ?_)
  · exact (ho.imp Nat.ne_of_lt).filter _
  · exact List.nodup_range.filter _
  · simp only [List.mem_filter, List.mem_range]
    constructor
    · rintro ⟨_, hp⟩
      obtain ⟨n, hn, _⟩ := (Option.any_eq_true _ _).mp hp
      exact ⟨(List.getElem?_eq_some_iff.mp hn).1, hp⟩
    · rintro ⟨hlt, hp⟩
      refine ⟨hall i nodes[i] (List.getElem?_eq_getElem hlt) ?_, hp⟩
      simpa [List.getElem?_eq_getElem hlt] using hp

end Disambiguation

end ProviderBindings
