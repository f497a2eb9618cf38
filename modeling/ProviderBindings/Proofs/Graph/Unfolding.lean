import ProviderBindings.Proofs.Graph.PreOrder
import ProviderBindings.Proofs.Schema.Level

/-!
The graph of a block, unfolded from its roots, has the recursive shape of the schema: at every level each
thing that is declared is a leaf or a child, and the shape of a child is what is declared below it.
-/

namespace ProviderBindings

open Schema (Declared Level)

structure LeavesShow (leaves : List Leaf) (level : Level) : Prop where
  declared : leaves.map (fun l => (l.name, some l.type)) = level.leaves.map fun d => (d.1, d.2.type?)
  plain : ∀ l ∈ leaves, l.type.embedsObject = false

mutual
def Branch.Shows : Branch → String × Declared → Prop
  | .node name traits leaves children, d =>
      name = d.1 ∧ d.2.nesting? = some traits.nesting ∧ LeavesShow leaves d.2.members ∧
        Branch.allShow children d.2.members.children

def Branch.allShow : List Branch → Level → Prop
  | [], [] => True
  | b :: rest, d :: others => Branch.Shows b d ∧ Branch.allShow rest others
  | _, _ => False
end

structure Members.Show (m : Members) (level : Level) : Prop where
  leaves : LeavesShow m.leaves level
  children : Branch.allShow m.children level.children

/-! ### Types -/

theorem ValueType.embedsObject_eq_false_or (t : ValueType) :
    t.embedsObject = false ∨ ∃ fields optional, t.inner = .object fields optional := by
  rw [embedsObject]
  cases t.inner with
  | object fields optional => exact .inr ⟨fields, optional, rfl⟩
  | _ => exact .inl rfl

namespace Members

theorem ofType_of_plain (name : String) (whole : ValueType) (isArgument isRequired : Bool) (docs : Docs)
    (crossed : List Nesting) {t : ValueType} (h : t.embedsObject = false) :
    ofType name whole isArgument isRequired docs crossed t =
      .leaf ⟨name, whole, isArgument, isRequired, docs⟩ := by
  induction t using ValueType.inner.induct generalizing crossed with
  | case1 element ih | case2 element ih | case3 element ih => exact ih (crossed ++ _) h
  | case4 t hlist hset hmap =>
      cases t with
      | bool | string | number => rw [ofType]
      | object fields optional => cases h
      | list element => exact absurd rfl (hlist element)
      | set element => exact absurd rfl (hset element)
      | map element => exact absurd rfl (hmap element)

theorem ofType_of_object (name : String) (whole : ValueType) (isArgument isRequired : Bool) (docs : Docs)
    (crossed : List Nesting) {t : ValueType} {fields : List (String × ValueType)} {optional : List String}
    (h : t.inner = .object fields optional) :
    ofType name whole isArgument isRequired docs crossed t =
      .child (.node name (objectTraits isArgument isRequired (crossed ++ t.wrappers) docs)
        (ofFields isArgument optional fields).leaves (ofFields isArgument optional fields).children) := by
  induction t using ValueType.inner.induct generalizing crossed with
  | case1 element ih | case2 element ih | case3 element ih =>
      rw [ofType, ih (crossed ++ _) h, ValueType.wrappers, List.append_assoc, List.singleton_append]
  | case4 t hlist hset hmap =>
      have ht : t = .object fields optional := by
        cases t with
        | list element => exact absurd rfl (hlist element)
        | set element => exact absurd rfl (hset element)
        | map element => exact absurd rfl (hmap element)
        | _ => exact h
      have hw : (ValueType.object fields optional).wrappers = [] := rfl
      rw [ht, hw, List.append_nil, ofType]

end Members

/-! ### Levels that are shown -/

theorem LeavesShow.append {a b : List Leaf} {la lb : Level} (ha : LeavesShow a la) (hb : LeavesShow b lb) :
    LeavesShow (a ++ b) (la ++ lb) where
  declared := by
    have hda := ha.declared
    have hdb := hb.declared
    simp only [Level.leaves] at hda hdb ⊢
    rw [List.map_append, hda, hdb, List.filter_append, List.map_append]
  plain := by
    intro l hl
    exact (List.mem_append.mp hl).elim (ha.plain l) (hb.plain l)

theorem Branch.allShow_append {a b : List Branch} {la lb : Level} (ha : Branch.allShow a la)
    (hb : Branch.allShow b lb) : Branch.allShow (a ++ b) (la ++ lb) := by
  induction a generalizing la with
  | nil =>
      cases la with
      | nil => exact hb
      | cons d rest => cases ha
  | cons branch rest ih =>
      cases la with
      | nil => cases ha
      | cons d others => exact ⟨ha.1, ih ha.2⟩

namespace Members

theorem Show.append {a b : Members} {la lb : Level} (ha : a.Show la) (hb : b.Show lb) :
    (a.append b).Show (la ++ lb) where
  leaves := ha.leaves.append hb.leaves
  children := by
    rw [Level.children, List.filter_append]
    exact Branch.allShow_append ha.children hb.children

theorem show_empty : Members.empty.Show [] := ⟨⟨rfl, by simp [empty]⟩, trivial⟩

theorem show_leaf {d : Declared} {l : Leaf} (hc : d.isChild = false) (ht : d.type? = some l.type)
    (hp : l.type.embedsObject = false) : (leaf l).Show [(l.name, d)] where
  leaves := ⟨by simp [leaf, Level.leaves, hc, ht], by simpa [leaf] using hp⟩
  children := by simp [leaf, Level.children, hc, Branch.allShow]

theorem show_child {d : Declared} {name : String} {traits : Traits} {m : Members} (hc : d.isChild = true)
    (hn : d.nesting? = some traits.nesting) (hm : m.Show d.members) :
    (child (.node name traits m.leaves m.children)).Show [(name, d)] where
  leaves := ⟨by simp [child, Level.leaves, hc], by simp [child]⟩
  children := by
    have hshows : Branch.Shows (.node name traits m.leaves m.children) (name, d) :=
      ⟨rfl, hn, hm.leaves, hm.children⟩
    simpa [child, Level.children, hc, Branch.allShow] using hshows

/-! ### What the members of a shape show -/

theorem show_ofField {d : Declared} {t : ValueType} (ht : d.type? = some t)
    (hc : d.isChild = t.embedsObject) (hn : d.nesting? = some t.wrappers) (hm : d.members = Level.ofType t)
    (name : String) (isArgument isRequired : Bool) (docs : Docs)
    (hinner : ∀ fields optional, t.inner = .object fields optional →
      (ofFields isArgument optional fields).Show (Table.mapValues .ofField fields)) :
    (ofField name t isArgument isRequired docs).Show [(name, d)] := by
  rw [ofField]
  rcases t.embedsObject_eq_false_or with hplain | ⟨fields, optional, ho⟩
  · rw [ofType_of_plain name t isArgument isRequired docs [] hplain]
    exact show_leaf (hc.trans hplain) ht hplain
  · rw [ofType_of_object name t isArgument isRequired docs [] ho]
    have hembeds : t.embedsObject = true := by rw [ValueType.embedsObject, ho, ValueType.isObject]
    refine show_child (hc.trans hembeds) hn ?_
    rw [hm, Level.ofType, ho]
    exact hinner fields optional ho

-- The recursion is on the whole type, and not on its object, so that it goes through the wrappers.
mutual
theorem show_ofObject : ∀ (t : ValueType) (isArgument : Bool) (fields : List (String × ValueType))
    (optional : List String), t.inner = .object fields optional →
    (ofFields isArgument optional fields).Show (Table.mapValues .ofField fields)
  | .list element, isArgument, fields, optional, h => show_ofObject element isArgument fields optional h
  | .set element, isArgument, fields, optional, h => show_ofObject element isArgument fields optional h
  | .map element, isArgument, fields, optional, h => show_ofObject element isArgument fields optional h
  | .object own ownOptional, isArgument, fields, optional, h => by
      obtain ⟨hf, ho⟩ : own = fields ∧ ownOptional = optional := by simpa [ValueType.inner] using h
      rw [← hf]
      exact show_ofFields isArgument optional own
  | .bool, _, _, _, h => by cases h
  | .string, _, _, _, h => by cases h
  | .number, _, _, _, h => by cases h

theorem show_ofFields (isArgument : Bool) (optional : List String) :
    ∀ fields : List (String × ValueType),
      (ofFields isArgument optional fields).Show (Table.mapValues .ofField fields)
  | [] => show_empty
  | (name, t) :: rest => by
      have hfirst := show_ofField (d := .ofField t) rfl rfl rfl rfl name isArgument
        (isArgument && !optional.contains name) .none (show_ofObject t isArgument)
      exact hfirst.append (show_ofFields isArgument optional rest)
end

theorem nestingOr_eq_ok_iff {path mode : String} {found : Option (List Nesting)} {nesting : List Nesting} :
    Schema.nestingOr path mode found = .ok nesting ↔ found = some nesting := by
  cases found <;> simp [Schema.nestingOr]

theorem decodedType_eq_ok_iff {path : String} {expression : Option Json} {t : ValueType} :
    decodedType path expression = .ok t ↔ ∃ e, expression = some e ∧ ValueType.ofJson? e = .ok t := by
  cases expression with
  | none => simp [decodedType]
  | some e =>
      simp only [decodedType, Option.some.injEq, exists_eq_left']
      cases ValueType.ofJson? e <;> simp

/-- What holds of members and of the level that they are built from, when it holds of each thing that is
declared as soon as it holds of what is declared below. -/
structure Compositional (R : Members → Level → Prop) : Prop where
  empty : R .empty []
  append : ∀ {a b : Members} {la lb : Level}, R a la → R b lb → R (a.append b) (la ++ lb)
  typed : ∀ (name : String) {a : Schema.Attribute} {t : ValueType} (docs : Docs), a.nested = none →
    (Declared.ofAttribute a).type? = some t →
      R (ofField name t a.isArgument a.required docs) [(name, .ofAttribute a)]
  nested : ∀ (name : String) {a : Schema.Attribute} {n : Schema.NestedType} {traits : Traits} {m : Members},
    a.nested = some n → Schema.attributeNesting? n.nestingMode = some traits.nesting →
      traits.isArgument = a.isArgument → traits.isRequired = a.required →
        R m (Table.mapValues .ofAttribute n.attributes) →
          R (child (.node name traits m.leaves m.children)) [(name, .ofAttribute a)]
  block : ∀ (name : String) {b : Schema.BlockType} {traits : Traits} {m : Members},
    Schema.blockNesting? b.nestingMode = some traits.nesting → traits.isArgument = true →
      traits.isRequired = (b.minItems == 1 && b.maxItems == 1) → R m (Level.ofBlock b.block) →
        R (child (.node name traits m.leaves m.children)) [(name, .ofBlock b)]

section

variable {R : Members → Level → Prop} (h : Compositional R)

include h

mutual
theorem Compositional.ofAttribute (ancestors : List String) (name : String) :
    ∀ (a : Schema.Attribute) {m : Members}, Members.ofAttribute ancestors name a = .ok m →
      R m [(name, .ofAttribute a)]
  | ⟨_, some nested, _, _, _, _, _, _⟩, m, hm =>
      Compositional.ofNested ancestors name _ _ _ nested hm rfl rfl rfl
  | ⟨type, none, _, _, _, _, _, _⟩, m, hm => by
      obtain ⟨t, ht, hm⟩ := bind_eq_ok_iff.mp hm
      obtain ⟨e, rfl, he⟩ := decodedType_eq_ok_iff.mp ht
      cases hm
      exact h.typed name _ rfl (by simp [Declared.type?, he, Except.toOption])

theorem Compositional.ofNested (ancestors : List String) (name : String) (isArgument isRequired : Bool)
    (docs : Docs) :
    ∀ (nested : Schema.NestedType) {m : Members} {a : Schema.Attribute},
      Members.ofNested ancestors name isArgument isRequired docs nested = .ok m → a.nested = some nested →
      isArgument = a.isArgument → isRequired = a.required → R m [(name, .ofAttribute a)]
  | ⟨attributes, mode, minItems, maxItems⟩, m, a, hm, hn, ha, hr => by
      obtain ⟨nesting, hnesting, hm⟩ := bind_eq_ok_iff.mp hm
      obtain ⟨inner, hi, hm⟩ := bind_eq_ok_iff.mp hm
      cases hm
      have hinner := Compositional.ofAttributes (ancestors ++ [name]) attributes hi
      exact h.nested name hn (nestingOr_eq_ok_iff.mp hnesting) ha hr hinner

theorem Compositional.ofAttributes (ancestors : List String) :
    ∀ (attributes : List (String × Schema.Attribute)) {m : Members},
      Members.ofAttributes ancestors attributes = .ok m → R m (Table.mapValues .ofAttribute attributes)
  | [], m, hm => by
      cases hm
      exact h.empty
  | (name, a) :: rest, m, hm => by
      obtain ⟨first, hf, hm⟩ := bind_eq_ok_iff.mp hm
      obtain ⟨others, ho, hm⟩ := bind_eq_ok_iff.mp hm
      cases hm
      have hfirst := Compositional.ofAttribute ancestors name a hf
      have hothers := Compositional.ofAttributes ancestors rest ho
      exact h.append hfirst hothers
end

mutual
theorem Compositional.ofBlock (ancestors : List String) :
    ∀ (b : Schema.Block) {m : Members}, Members.ofBlock ancestors b = .ok m → R m (Level.ofBlock b)
  | ⟨attributes, blockTypes, _, _⟩, m, hm => by
      obtain ⟨first, hf, hm⟩ := bind_eq_ok_iff.mp hm
      obtain ⟨others, ho, hm⟩ := bind_eq_ok_iff.mp hm
      cases hm
      have hattributes := h.ofAttributes ancestors attributes hf
      have hblocks := Compositional.ofBlockTypes ancestors blockTypes ho
      exact h.append hattributes hblocks

theorem Compositional.ofBlockType (ancestors : List String) (name : String) :
    ∀ (b : Schema.BlockType) {m : Members}, Members.ofBlockType ancestors name b = .ok m →
      R m [(name, .ofBlock b)]
  | ⟨mode, ⟨attributes, blockTypes, description, deprecated⟩, minItems, maxItems⟩, m, hm => by
      obtain ⟨nesting, hnesting, hm⟩ := bind_eq_ok_iff.mp hm
      obtain ⟨inner, hi, hm⟩ := bind_eq_ok_iff.mp hm
      cases hm
      have hinner :=
        Compositional.ofBlock (ancestors ++ [name]) ⟨attributes, blockTypes, description, deprecated⟩ hi
      exact h.block name (nestingOr_eq_ok_iff.mp hnesting) rfl rfl hinner

theorem Compositional.ofBlockTypes (ancestors : List String) :
    ∀ (blockTypes : List (String × Schema.BlockType)) {m : Members},
      Members.ofBlockTypes ancestors blockTypes = .ok m → R m (Table.mapValues .ofBlock blockTypes)
  | [], m, hm => by
      cases hm
      exact h.empty
  | (name, b) :: rest, m, hm => by
      obtain ⟨first, hf, hm⟩ := bind_eq_ok_iff.mp hm
      obtain ⟨others, ho, hm⟩ := bind_eq_ok_iff.mp hm
      cases hm
      have hfirst := Compositional.ofBlockType ancestors name b hf
      have hothers := Compositional.ofBlockTypes ancestors rest ho
      exact h.append hfirst hothers
end

end

theorem compositional_show : Compositional Show where
  empty := show_empty
  append := Show.append
  typed name a t docs hn ht := by
    refine show_ofField ht ?_ ?_ ?_ name _ _ docs (show_ofObject t _)
    · simp [Declared.isChild, hn, ht]
    · simp [Declared.nesting?, hn, ht]
    · simp [Declared.members, hn, ht]
  nested name a n traits m hn hnesting _ _ hm := by
    refine show_child ?_ ?_ ?_
    · simp [Declared.isChild, hn]
    · simpa [Declared.nesting?, hn] using hnesting
    · simpa [Declared.members, hn] using hm
  block name b traits m hnesting _ _ hm := show_child rfl hnesting hm

theorem show_ofBlock (ancestors : List String) (b : Schema.Block) {m : Members}
    (h : ofBlock ancestors b = .ok m) : m.Show (Level.ofBlock b) :=
  compositional_show.ofBlock ancestors b h

end Members

namespace Graph

theorem ofBlock_unfolds {block : Schema.Block} {g : Graph} (h : ofBlock block = .ok g) :
    ∃ forest, Unfolds g.nodes g.children forest ∧
      (∀ other, Unfolds g.nodes g.children other → other = forest) ∧
      Members.Show ⟨g.leaves, forest⟩ (Level.ofBlock block) ∧
      (block.KeyOrdered → ∀ level, (Level.ofBlock block).Below level → level.KeyOrdered) := by
  obtain ⟨m, hm, rfl⟩ := map_eq_ok_iff.mp h
  have hunfolds := (walks_ofMembers m).2
  refine ⟨m.children, hunfolds, fun other ho => ho.unique hunfolds, Members.show_ofBlock [] block hm, ?_⟩
  exact fun ho level hl => (Level.keyOrdered_of_below ho hl).1

def rack : Schema.Block :=
  ⟨[("bays",
      ⟨some (.list [.text "list", .list [.text "map",
          .list [.text "object", .object [("unit", .text "number"), ("plug", .text "string")]]]]),
        none, none, true, false, false, false, false⟩),
    ("label", ⟨some (.list [.text "set", .text "string"]), none, none, true, false, false, false, false⟩),
    ("power",
      ⟨none, some ⟨[("watts", ⟨some (.text "number"), none, none, false, true, false, false, false⟩)], "set",
        none, none⟩, none, true, false, false, false, false⟩)],
    [("door", ⟨"map", .empty, 0, 0⟩)], none, false⟩

theorem unfolds_rack :
    rack.KeyOrdered ∧ ∃ g forest, ofBlock rack = .ok g ∧ g.leaves.map Leaf.name = ["label"] ∧
      g.nodes.map (fun n => (n.name, n.traits.nesting)) =
        [("bays", [.list, .map]), ("power", [.set]), ("door", [.list])] ∧
      Unfolds g.nodes g.children forest ∧ Members.Show ⟨g.leaves, forest⟩ (Level.ofBlock rack) ∧
      ∀ level, (Level.ofBlock rack).Below level → level.KeyOrdered := by
  have hattributes : Table.Ordered rack.attributes := by
    unfold Table.Ordered
    decide
  have hblocks : Table.Ordered rack.blockTypes := List.pairwise_singleton _ _
  have hpower : Schema.attributesKeyOrdered rack.attributes :=
    ⟨trivial, trivial, ⟨List.pairwise_singleton _ _, trivial, trivial⟩, trivial⟩
  have hdoor : Schema.blockTypesKeyOrdered rack.blockTypes := ⟨⟨⟨.nil, trivial⟩, .nil, trivial⟩, trivial⟩
  have hordered : rack.KeyOrdered := ⟨⟨hattributes, hpower⟩, hblocks, hdoor⟩
  obtain ⟨forest, hunfolds, _, hshow, hlevels⟩ := @ofBlock_unfolds rack _ rfl
  exact ⟨hordered, _, forest, rfl, rfl, rfl, hunfolds, hshow, hlevels hordered⟩

end Graph

end ProviderBindings
