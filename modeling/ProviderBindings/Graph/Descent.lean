import ProviderBindings.Graph.Round
import ProviderBindings.Naming.Growth

/-!
Why rounds come to an end. A round that qualifies a node uses up an ancestor. In a round that only suffixes,
every node that moves shares a record with an earlier one, so that it stays close to what stands in front of
it: the room that the nodes have got above them shrinks.
-/

namespace ProviderBindings.Disambiguation

/-- What a round may do to the nodes it starts with: the nodes at the positions `moved` are qualified or, when
their ancestors are used up and an earlier node shares a record with them, suffixed; all others stay. -/
structure Moved (start : List Node) (moved : List Nat) (nodes : List Node) : Prop where
  length_eq : nodes.length = start.length
  inside : ∀ i ∈ moved, i < start.length
  stays : ∀ i, i ∉ moved → nodes[i]? = start[i]?
  moves : ∀ i ∈ moved, ∀ n, start[i]? = some n →
    (0 < n.ancestorsLeft ∧ nodes[i]? = some n.qualified) ∨
      (n.ancestorsLeft = 0 ∧ nodes[i]? = some n.suffixed ∧
        ∃ j m record, j < i ∧ start[j]? = some m ∧ record ∈ m.records ∧ record ∈ n.records)

theorem Moved.refl (start : List Node) : Moved start [] start where
  length_eq := rfl
  inside := by simp
  stays := by simp
  moves := by simp

theorem getElem?_changeAt (change : Node → Node) (positions : List Nat) (nodes : List Node) (i : Nat) :
    (changeAt change positions nodes)[i]? =
      if i ∈ positions then nodes[i]?.map change else nodes[i]? := by
  rw [changeAt, List.getElem?_mapIdx]
  by_cases h : i ∈ positions
  · simp [h]
  · simp [h]

theorem Moved.change {start nodes : List Node} {moved positions : List Nat} {change : Node → Node}
    (h : Moved start moved nodes) (hin : ∀ i ∈ positions, i < start.length)
    (hnew : ∀ i ∈ positions, i ∉ moved)
    (hchange : ∀ i ∈ positions, ∀ n, start[i]? = some n →
      (0 < n.ancestorsLeft ∧ change n = n.qualified) ∨
        (n.ancestorsLeft = 0 ∧ change n = n.suffixed ∧
          ∃ j m record, j < i ∧ start[j]? = some m ∧ record ∈ m.records ∧ record ∈ n.records)) :
    Moved start (positions ++ moved) (changeAt change positions nodes) where
  length_eq := by rw [changeAt, List.length_mapIdx, h.length_eq]
  inside := by
    intro i hi
    rcases List.mem_append.mp hi with hi | hi
    · exact hin i hi
    · exact h.inside i hi
  stays := by
    intro i hi
    rw [List.mem_append, not_or] at hi
    rw [getElem?_changeAt, if_neg hi.1, h.stays i hi.2]
  moves := by
    intro i hi n hn
    by_cases hp : i ∈ positions
    · have hstay := h.stays i (hnew i hp)
      rw [getElem?_changeAt, if_pos hp, hstay, hn, Option.map_some]
      rcases hchange i hp n hn with ⟨hl, he⟩ | ⟨hl, he, hshare⟩
      · exact .inl ⟨hl, by rw [he]⟩
      · exact .inr ⟨hl, by rw [he], hshare⟩
    · rw [getElem?_changeAt, if_neg hp]
      exact h.moves i ((List.mem_append.mp hi).resolve_left hp) n hn

theorem first_lt_of_mem_drop {group : List Nat} (h : group.Pairwise (· < ·)) {i : Nat}
    (hi : i ∈ group.drop 1) : ∃ j ∈ group, j < i := by
  cases group with
  | nil => simp at hi
  | cons j rest => exact ⟨j, by simp, List.rel_of_pairwise_cons h hi⟩

theorem drop_ne_nil {group : List Nat} (h : 1 < group.length) : group.drop 1 ≠ [] := by
  intro hd
  rw [List.drop_eq_nil_iff] at hd
  omega

theorem Collides.lt_length {nodes : List Node} {group : List Nat} (h : Collides nodes group) :
    ∀ i ∈ group, i < nodes.length := by
  obtain ⟨_, hs⟩ := h.shared
  intro i hi
  obtain ⟨n, hn, _⟩ := hs i hi
  exact (List.getElem?_eq_some_iff.mp hn).1

theorem Moved.qualify {start nodes : List Node} {moved group : List Nat} (h : Moved start moved nodes)
    (hg : Collides start group) (hnew : ∀ i ∈ group, i ∉ moved) :
    Moved start (group.filter (hasAncestorLeft nodes) ++ moved)
      (changeAt Node.qualified (group.filter (hasAncestorLeft nodes)) nodes) := by
  refine h.change ?_ ?_ ?_
  · exact fun i hi => hg.lt_length i (List.mem_filter.mp hi).1
  · exact fun i hi => hnew i (List.mem_filter.mp hi).1
  · intro i hi n hn
    obtain ⟨hi, hleft⟩ := List.mem_filter.mp hi
    rw [hasAncestorLeft, h.stays i (hnew i hi), hn] at hleft
    exact .inl ⟨of_decide_eq_true hleft, rfl⟩

theorem Moved.suffix {start nodes : List Node} {moved group : List Nat} (h : Moved start moved nodes)
    (hg : Collides start group) (hnew : ∀ i ∈ group, i ∉ moved)
    (hleft : group.filter (hasAncestorLeft nodes) = []) :
    Moved start (group.drop 1 ++ moved) (changeAt Node.suffixed (group.drop 1) nodes) := by
  have hmem : ∀ i ∈ group.drop 1, i ∈ group := fun i hi => List.mem_of_mem_drop hi
  refine h.change ?_ ?_ ?_
  · exact fun i hi => hg.lt_length i (hmem i hi)
  · exact fun i hi => hnew i (hmem i hi)
  · intro i hi n hn
    have hused := List.filter_eq_nil_iff.mp hleft i (hmem i hi)
    rw [hasAncestorLeft, h.stays i (hnew i (hmem i hi)), hn, decide_eq_true_eq] at hused
    obtain ⟨record, hs⟩ := hg.shared
    obtain ⟨j, hj, hlt⟩ := first_lt_of_mem_drop hg.ordered hi
    obtain ⟨m, hm, hmr⟩ := hs j hj
    obtain ⟨n', hn', hnr⟩ := hs i (hmem i hi)
    rw [hn, Option.some.injEq] at hn'
    subst hn'
    exact .inr ⟨by omega, rfl, j, m, record, hlt, hm, hmr, hnr⟩

theorem moved_of_moveGroups {start : List Node} {groups : List (List Nat)} :
    ∀ {moved : List Nat} {nodes nodes' : List Node} {result : Option NameCollision},
      (∀ g ∈ groups, Collides start g) → Moved start moved nodes →
      moveGroups moved nodes groups = (nodes', result) →
      ∃ moved', Moved start moved' nodes' ∧ moved ⊆ moved' ∧
        (groups ≠ [] → result = none → moved' ≠ []) := by
  induction groups with
  | nil =>
      intro moved nodes nodes' result _ h he
      simp only [moveGroups, Prod.mk.injEq] at he
      obtain ⟨rfl, rfl⟩ := he
      exact ⟨moved, h, fun _ hi => hi, fun hne => absurd rfl hne⟩
  | cons group rest ih =>
      intro moved nodes nodes' result hg h he
      have hrest : ∀ g ∈ rest, Collides start g := fun g hm => hg g (by simp [hm])
      have hgroup := hg group (by simp)
      rw [moveGroups] at he
      split at he
      · rename_i hany
        obtain ⟨moved', hm, hsub, _⟩ := ih hrest h he
        refine ⟨moved', hm, hsub, fun _ _ hnil => ?_⟩
        subst hnil
        rw [List.subset_nil.mp hsub] at hany
        simp at hany
      · rename_i hany
        have hnew : ∀ i ∈ group, i ∉ moved := by
          simpa using hany
        dsimp only at he
        split at he
        · rename_i hq
          obtain ⟨moved', hm, hsub, _⟩ := ih hrest (h.qualify hgroup hnew) he
          refine ⟨moved', hm, fun _ hi => hsub (List.mem_append_right _ hi), fun _ _ hnil => ?_⟩
          subst hnil
          have := (List.append_eq_nil_iff.mp (List.subset_nil.mp hsub)).1
          simp [this] at hq
        · rename_i hq
          have hleft : group.filter (hasAncestorLeft nodes) = [] := by simpa using hq
          split at he
          · simp only [Prod.mk.injEq] at he
            obtain ⟨rfl, rfl⟩ := he
            exact ⟨moved, h, fun _ hi => hi, fun _ hr => by simp at hr⟩
          · obtain ⟨moved', hm, hsub, _⟩ := ih hrest (h.suffix hgroup hnew hleft) he
            refine ⟨moved', hm, fun _ hi => hsub (List.mem_append_right _ hi), fun _ _ hnil => ?_⟩
            subst hnil
            exact drop_ne_nil hgroup.several (List.append_eq_nil_iff.mp (List.subset_nil.mp hsub)).1

theorem moved_of_round {nodes nodes' : List Node} (h : round nodes = .moved nodes') :
    ∃ moved, Moved nodes moved nodes' ∧ moved ≠ [] := by
  rw [round] at h
  split at h
  · simp at h
  · rename_i groups hne
    split at h
    · simp at h
    · rename_i nodes'' he
      simp only [Round.moved.injEq] at h
      subst h
      obtain ⟨moved, hm, _, hsome⟩ :=
        moved_of_moveGroups (fun g hg => collides_of_mem hg) (.refl nodes) he
      exact ⟨moved, hm, hsome hne rfl⟩

def total (ns : List Nat) : Nat := ns.foldr (· + ·) 0

def unused (nodes : List Node) : Nat := total (nodes.map Node.ancestorsLeft)

/-- The room above numbers: how far each stays below a ceiling, which is the greatest number so far and
rises a little from each number to the next. -/
def room (ceiling : Nat) : List Nat → Nat
  | [] => 0
  | p :: rest => (max p ceiling - p) + room (max p ceiling + 32) rest

def statures (nodes : List Node) : List Nat := nodes.map fun n => Naming.stature n.uniqueName

theorem total_le_of_getElem? {ps : List Nat} :
    ∀ {qs : List Nat}, qs.length = ps.length →
      (∀ i p q : Nat, ps[i]? = some p → qs[i]? = some q → q ≤ p) →
      total qs ≤ total ps ∧ (total qs = total ps → qs = ps) := by
  induction ps with
  | nil =>
      intro qs hl _
      simp [List.length_eq_zero_iff.mp hl]
  | cons p ps ih =>
      intro qs hl h
      cases qs with
      | nil => simp at hl
      | cons q qs =>
          obtain ⟨hle, heq⟩ := ih (by simpa using hl) fun i p' q' hp hq =>
            h (i + 1) p' q' (by simpa using hp) (by simpa using hq)
          have hq := h 0 p q (by simp) (by simp)
          simp only [total, List.foldr_cons] at hle heq ⊢
          refine ⟨by omega, fun hs => ?_⟩
          rw [heq (by omega), show q = p by omega]

theorem room_le_of_getElem? {ps : List Nat} :
    ∀ {qs : List Nat} {b b' : Nat}, qs.length = ps.length → b' ≤ b →
      (∀ i p q : Nat, ps[i]? = some p → qs[i]? = some q →
        q = p ∨ (p < q ∧ (q ≤ b ∨ ∃ j r, j < i ∧ ps[j]? = some r ∧ q ≤ r + 32))) →
      room b' qs ≤ room b ps ∧ (room b' qs = room b ps → qs = ps) := by
  induction ps with
  | nil =>
      intro qs b b' hl _ _
      simp [List.length_eq_zero_iff.mp hl, room]
  | cons p ps ih =>
      intro qs b b' hl hb h
      cases qs with
      | nil => simp at hl
      | cons q qs =>
          have hq : q = p ∨ (p < q ∧ q ≤ b) := by
            rcases h 0 p q (by simp) (by simp) with he | ⟨hlt, hle | ⟨j, _, hj, _⟩⟩
            · exact .inl he
            · exact .inr ⟨hlt, hle⟩
            · omega
          obtain ⟨hle, heq⟩ := @ih qs (max p b + 32) (max q b' + 32) (by simpa using hl)
            (by omega) fun i p' q' hp' hq' => by
              rcases h (i + 1) p' q' (by simpa using hp') (by simpa using hq') with
                he | ⟨hlt, hle | ⟨j, r, hj, hr, hle⟩⟩
              · exact .inl he
              · exact .inr ⟨hlt, .inl (by omega)⟩
              · refine .inr ⟨hlt, ?_⟩
                cases j with
                | zero =>
                    simp only [List.getElem?_cons_zero, Option.some.injEq] at hr
                    exact .inl (by omega)
                | succ j => exact .inr ⟨j, r, by omega, by simpa using hr, hle⟩
          simp only [room]
          refine ⟨by omega, fun hs => ?_⟩
          rw [heq (by omega), show q = p by omega]

theorem ancestorsLeft_qualified {n : Node} (h : 0 < n.ancestorsLeft) :
    n.qualified.ancestorsLeft + 1 = n.ancestorsLeft := by
  unfold Node.ancestorsLeft at h ⊢
  have hi : n.ancestors.length - n.uniqueDepth - 1 < n.ancestors.length := by omega
  rw [Node.qualified, List.getElem?_eq_getElem hi]
  dsimp only
  omega

theorem Moved.getElem? {start nodes : List Node} {moved : List Nat} (h : Moved start moved nodes)
    {i : Nat} {n : Node} (hn : start[i]? = some n) :
    (i ∉ moved ∧ nodes[i]? = some n) ∨
      (i ∈ moved ∧ 0 < n.ancestorsLeft ∧ nodes[i]? = some n.qualified) ∨
      (i ∈ moved ∧ nodes[i]? = some n.suffixed ∧
        ∃ j m record, j < i ∧ start[j]? = some m ∧ record ∈ m.records ∧ record ∈ n.records) := by
  by_cases hi : i ∈ moved
  · rcases h.moves i hi n hn with ⟨hl, he⟩ | ⟨_, he, hshare⟩
    · exact .inr (.inl ⟨hi, hl, he⟩)
    · exact .inr (.inr ⟨hi, he, hshare⟩)
  · exact .inl ⟨hi, by rw [h.stays i hi, hn]⟩

theorem Moved.unused_le {start nodes : List Node} {moved : List Nat} (h : Moved start moved nodes) :
    unused nodes ≤ unused start ∧
      (unused nodes = unused start → nodes.map Node.ancestorsLeft = start.map Node.ancestorsLeft) := by
  refine total_le_of_getElem? (by simp [h.length_eq]) fun i p q hp hq => ?_
  rw [List.getElem?_map, Option.map_eq_some_iff] at hp hq
  obtain ⟨n, hn, rfl⟩ := hp
  obtain ⟨n', hn', rfl⟩ := hq
  rcases h.getElem? hn with ⟨_, he⟩ | ⟨_, hl, he⟩ | ⟨_, he, _⟩
  · rw [hn', Option.some.injEq] at he
    subst he
    exact Nat.le_refl _
  · rw [hn', Option.some.injEq] at he
    have := ancestorsLeft_qualified hl
    rw [he]
    omega
  · rw [hn', Option.some.injEq] at he
    subst he
    exact Nat.le_refl _

theorem Moved.suffixed_of_unused_eq {start nodes : List Node} {moved : List Nat}
    (h : Moved start moved nodes) (he : unused nodes = unused start) {i : Nat} {n : Node}
    (hn : start[i]? = some n) :
    (i ∉ moved ∧ nodes[i]? = some n) ∨
      (i ∈ moved ∧ nodes[i]? = some n.suffixed ∧
        ∃ j m record, j < i ∧ start[j]? = some m ∧ record ∈ m.records ∧ record ∈ n.records) := by
  rcases h.getElem? hn with hs | ⟨_, hl, hq⟩ | hs
  · exact .inl hs
  · have hmap := congrArg (fun l : List Nat => l[i]?) (h.unused_le.2 he)
    simp only [List.getElem?_map, hn, hq, Option.map_some, Option.some.injEq] at hmap
    have := ancestorsLeft_qualified hl
    omega
  · exact .inr hs

theorem Moved.descends {start nodes : List Node} {moved : List Nat} (h : Moved start moved nodes)
    (hm : moved ≠ []) :
    unused nodes < unused start ∨
      unused nodes = unused start ∧ room 0 (statures nodes) < room 0 (statures start) := by
  obtain ⟨hle, _⟩ := h.unused_le
  rcases Nat.lt_or_eq_of_le hle with hlt | he
  · exact .inl hlt
  · refine .inr ⟨he, ?_⟩
    obtain ⟨hroom, hsame⟩ := @room_le_of_getElem? (statures start) (statures nodes)
      0 0 (by simp [statures, h.length_eq]) (Nat.le_refl 0) fun i p q hp hq => by
        rw [statures, List.getElem?_map, Option.map_eq_some_iff] at hp hq
        obtain ⟨n, hn, rfl⟩ := hp
        obtain ⟨n', hn', rfl⟩ := hq
        rcases h.suffixed_of_unused_eq he hn with ⟨_, hs⟩ | ⟨_, hs, j, m, record, hj, hjm, hmr, hnr⟩
        · rw [hn', Option.some.injEq] at hs
          exact .inl (by rw [hs])
        · rw [hn', Option.some.injEq] at hs
          have hgrow := Naming.stature_suffix n.uniqueName
          have hclose := Naming.stature_of_shared hmr hnr
          refine .inr ⟨by rw [hs]; exact hgrow.1, .inr ⟨j, Naming.stature m.uniqueName, hj, ?_, ?_⟩⟩
          · simp [statures, hjm]
          · rw [hs]
            show Naming.stature (n.uniqueName ++ "_block") ≤ _
            omega
    refine Nat.lt_of_le_of_ne hroom fun heq => ?_
    obtain ⟨i, hi⟩ := List.exists_mem_of_ne_nil moved hm
    have hlt := h.inside i hi
    have hn : start[i]? = some start[i] := List.getElem?_eq_getElem hlt
    rcases h.suffixed_of_unused_eq he hn with ⟨hnot, _⟩ | ⟨_, hs, _⟩
    · exact hnot hi
    · have hmap := congrArg (fun l : List Nat => l[i]?) (hsame heq)
      simp only [statures, List.getElem?_map, hn, hs, Option.map_some, Option.some.injEq] at hmap
      have hgrow := (Naming.stature_suffix (start[i]).uniqueName).1
      simp only [Node.suffixed] at hmap
      omega

theorem descends_of_round {nodes nodes' : List Node} (h : round nodes = .moved nodes') :
    Prod.Lex (· < ·) (· < ·) (unused nodes', room 0 (statures nodes'))
      (unused nodes, room 0 (statures nodes)) := by
  obtain ⟨_, hm, hne⟩ := moved_of_round h
  rcases hm.descends hne with hlt | ⟨heq, hlt⟩
  · exact .left _ _ hlt
  · rw [heq]
    exact .right _ hlt

end ProviderBindings.Disambiguation
