import ProviderBindings.Proofs.Graph.Unfolding

/-!
What can be set and what must be. Attributes and blocks have the flags of their own declaration, also below a
nested type; the fields of an object have those of the attribute that holds it, however deep they are, and
must be set unless their own object type lists them as optional.
-/

namespace ProviderBindings

structure Flags where
  isArgument : Bool
  isRequired : Bool
  deriving DecidableEq, Repr

def Flags.Sound (f : Flags) : Prop := f.isRequired = true → f.isArgument = true

def Leaf.flags (l : Leaf) : Flags := ⟨l.isArgument, l.isRequired⟩

def Traits.flags (t : Traits) : Flags := ⟨t.isArgument, t.isRequired⟩

def ValueType.optionalFields : ValueType → List String
  | .object _ optional => optional
  | _ => []

namespace Schema

structure ObjectScope where
  isArgument : Bool
  optional : List String

namespace Declared

def flags (scope : ObjectScope) (name : String) : Declared → Flags
  | .ofAttribute a => ⟨a.isArgument, a.required⟩
  | .ofField _ => ⟨scope.isArgument, scope.isArgument && !scope.optional.contains name⟩
  | .ofBlock b => ⟨true, b.minItems == 1 && b.maxItems == 1⟩

def scope (isArgument : Bool) (d : Declared) : ObjectScope :=
  ⟨isArgument, (d.type?.map fun t => t.inner.optionalFields).getD []⟩

def isPromoted : Declared → Bool
  | .ofAttribute a => a.nested.isNone
  | .ofField _ => true
  | .ofBlock _ => false

theorem flags_sound (scope : ObjectScope) (name : String) (d : Declared) : (d.flags scope name).Sound := by
  cases d with
  | ofAttribute a => simp +contextual [Flags.Sound, flags, Attribute.isArgument]
  | ofField t => simp +contextual [Flags.Sound, flags]
  | ofBlock b => simp [Flags.Sound, flags]

end Declared

end Schema

open Schema (Declared Level ObjectScope)

/-! ### Forests -/

mutual
def Branch.All (P : Traits → List Leaf → Prop) : Branch → Prop
  | .node _ traits leaves children => P traits leaves ∧ Branch.listAll P children

def Branch.listAll (P : Traits → List Leaf → Prop) : List Branch → Prop
  | [] => True
  | b :: rest => Branch.All P b ∧ Branch.listAll P rest
end

def Inherits (isArgument : Bool) (traits : Traits) (leaves : List Leaf) : Prop :=
  traits.isArgument = isArgument ∧ ∀ l ∈ leaves, l.isArgument = isArgument

def LeavesCarry (scope : ObjectScope) (leaves : List Leaf) (level : Level) : Prop :=
  leaves.map (fun l => (l.name, l.flags)) = level.leaves.map fun d => (d.1, d.2.flags scope d.1)

mutual
/-- Whether a branch has the flags of what is declared under its name, and so have its members; from an
attribute whose type holds an object the whole branch inherits whether it can be set. -/
def Branch.Carries (scope : ObjectScope) : Branch → String × Declared → Prop
  | .node name traits leaves children, d =>
      name = d.1 ∧ traits.flags = d.2.flags scope d.1 ∧
        LeavesCarry (d.2.scope traits.isArgument) leaves d.2.members ∧
        Branch.allCarry (d.2.scope traits.isArgument) children d.2.members.children ∧
        (d.2.isPromoted = true →
          Branch.All (Inherits traits.isArgument) (.node name traits leaves children))

def Branch.allCarry (scope : ObjectScope) : List Branch → Level → Prop
  | [], [] => True
  | b :: rest, d :: others => Branch.Carries scope b d ∧ Branch.allCarry scope rest others
  | _, _ => False
end

namespace Branch

theorem listAll_append {P : Traits → List Leaf → Prop} {a b : List Branch} (ha : listAll P a)
    (hb : listAll P b) : listAll P (a ++ b) := by
  induction a with
  | nil => exact hb
  | cons branch rest ih => exact ⟨ha.1, ih ha.2⟩

theorem allCarry_append {scope : ObjectScope} {a b : List Branch} {la lb : Level} (ha : allCarry scope a la)
    (hb : allCarry scope b lb) : allCarry scope (a ++ b) (la ++ lb) := by
  induction a generalizing la with
  | nil =>
      cases la with
      | nil => exact hb
      | cons d rest => cases ha
  | cons branch rest ih =>
      cases la with
      | nil => cases ha
      | cons d others => exact ⟨ha.1, ih ha.2⟩

end Branch

theorem LeavesCarry.sound {scope : ObjectScope} {leaves : List Leaf} {level : Level}
    (h : LeavesCarry scope leaves level) : ∀ l ∈ leaves, l.flags.Sound := by
  intro l hl
  have hmem : (l.name, l.flags) ∈ level.leaves.map fun d => (d.1, d.2.flags scope d.1) :=
    h ▸ List.mem_map_of_mem hl
  obtain ⟨d, _, hd⟩ := List.mem_map.mp hmem
  rw [← (Prod.mk.inj hd).2]
  exact d.2.flags_sound scope d.1

def SoundFlags (traits : Traits) (leaves : List Leaf) : Prop :=
  traits.flags.Sound ∧ ∀ l ∈ leaves, l.flags.Sound

mutual
theorem Branch.all_sound : ∀ (b : Branch) {scope : ObjectScope} {d : String × Declared},
    b.Carries scope d → b.All SoundFlags
  | .node name traits leaves children, scope, d, ⟨_, hflags, hleaves, hchildren, _⟩ => by
      refine ⟨⟨?_, hleaves.sound⟩, Branch.listAll_sound children hchildren⟩
      rw [hflags]
      exact d.2.flags_sound scope d.1

theorem Branch.listAll_sound : ∀ (bs : List Branch) {scope : ObjectScope} {level : Level},
    Branch.allCarry scope bs level → Branch.listAll SoundFlags bs
  | [], _, _, _ => trivial
  | b :: rest, _, _ :: _, ⟨hb, hrest⟩ => ⟨Branch.all_sound b hb, Branch.listAll_sound rest hrest⟩
end

namespace Members

structure Carry (scope : ObjectScope) (m : Members) (level : Level) : Prop where
  leaves : LeavesCarry scope m.leaves level
  children : Branch.allCarry scope m.children level.children

structure Inherit (isArgument : Bool) (m : Members) : Prop where
  leaves : ∀ l ∈ m.leaves, l.isArgument = isArgument
  children : Branch.listAll (Inherits isArgument) m.children

/-! ### Fields of objects -/

mutual
theorem inherit_ofType (name : String) (whole : ValueType) (isArgument isRequired : Bool) (docs : Docs) :
    ∀ (t : ValueType) (crossed : List Nesting),
      Inherit isArgument (ofType name whole isArgument isRequired docs crossed t)
  | .list element, crossed =>
      inherit_ofType name whole isArgument isRequired docs element (crossed ++ [.list])
  | .set element, crossed => inherit_ofType name whole isArgument isRequired docs element (crossed ++ [.set])
  | .map element, crossed => inherit_ofType name whole isArgument isRequired docs element (crossed ++ [.map])
  | .object fields optional, crossed => by
      obtain ⟨hleaves, hchildren⟩ := inherit_ofFields isArgument optional fields
      rw [ofType]
      exact ⟨by simp [child], ⟨⟨rfl, hleaves⟩, hchildren⟩, trivial⟩
  | .bool, _ | .string, _ | .number, _ => ⟨by simp [ofType, leaf], trivial⟩

theorem inherit_ofFields (isArgument : Bool) (optional : List String) :
    ∀ fields : List (String × ValueType), Inherit isArgument (ofFields isArgument optional fields)
  | [] => ⟨by simp [ofFields, empty], trivial⟩
  | (name, t) :: rest => by
      have hfirst := inherit_ofType name t isArgument (isArgument && !optional.contains name) .none t []
      have hothers := inherit_ofFields isArgument optional rest
      rw [ofFields]
      exact ⟨List.forall_mem_append.mpr ⟨hfirst.leaves, hothers.leaves⟩,
        Branch.listAll_append hfirst.children hothers.children⟩
end

/-! ### Members that carry flags -/

section

variable {scope : ObjectScope}

theorem Carry.append {a b : Members} {la lb : Level} (ha : a.Carry scope la) (hb : b.Carry scope lb) :
    (a.append b).Carry scope (la ++ lb) where
  leaves := by
    have hda := ha.leaves
    have hdb := hb.leaves
    simp only [LeavesCarry, Level.leaves] at hda hdb ⊢
    rw [Members.append, List.map_append, hda, hdb, List.filter_append, List.map_append]
  children := by
    rw [Level.children, List.filter_append]
    exact Branch.allCarry_append ha.children hb.children

theorem carry_empty : Members.empty.Carry scope [] := ⟨rfl, trivial⟩

theorem carry_leaf {d : Declared} {l : Leaf} (hc : d.isChild = false) (hf : l.flags = d.flags scope l.name) :
    (leaf l).Carry scope [(l.name, d)] where
  leaves := by simp [LeavesCarry, leaf, Level.leaves, hc, hf]
  children := by simp [leaf, Level.children, hc, Branch.allCarry]

theorem carry_child {d : Declared} {name : String} {traits : Traits} {m : Members} (hc : d.isChild = true)
    (hf : traits.flags = d.flags scope name) (hm : m.Carry (d.scope traits.isArgument) d.members)
    (hp : d.isPromoted = true → m.Inherit traits.isArgument) :
    (child (.node name traits m.leaves m.children)).Carry scope [(name, d)] where
  leaves := by simp [LeavesCarry, child, Level.leaves, hc]
  children := by
    have hcarries : Branch.Carries scope (.node name traits m.leaves m.children) (name, d) :=
      ⟨rfl, hf, hm.leaves, hm.children, fun h => ⟨⟨rfl, (hp h).leaves⟩, (hp h).children⟩⟩
    simpa [child, Level.children, hc, Branch.allCarry] using hcarries

theorem carry_ofField {d : Declared} {t : ValueType} (ht : d.type? = some t) (hc : d.isChild = t.embedsObject)
    (hm : d.members = Level.ofType t) (name : String) (isArgument isRequired : Bool) (docs : Docs)
    (hf : d.flags scope name = ⟨isArgument, isRequired⟩)
    (hinner : ∀ fields optional, t.inner = .object fields optional →
      (ofFields isArgument optional fields).Carry ⟨isArgument, optional⟩ (Table.mapValues .ofField fields)) :
    (ofField name t isArgument isRequired docs).Carry scope [(name, d)] := by
  rw [ofField]
  rcases t.embedsObject_eq_false_or with hplain | ⟨fields, optional, ho⟩
  · rw [ofType_of_plain name t isArgument isRequired docs [] hplain]
    exact carry_leaf (hc.trans hplain) hf.symm
  · rw [ofType_of_object name t isArgument isRequired docs [] ho]
    have hembeds : t.embedsObject = true := by rw [ValueType.embedsObject, ho, ValueType.isObject]
    have hscope : d.scope isArgument = ⟨isArgument, optional⟩ := by
      simp [Declared.scope, ht, ho, ValueType.optionalFields]
    refine carry_child (hc.trans hembeds) hf.symm ?_ fun _ => inherit_ofFields isArgument optional fields
    rw [hm, Level.ofType, ho]
    change (ofFields isArgument optional fields).Carry (d.scope isArgument) _
    rw [hscope]
    exact hinner fields optional ho

end

-- Every object on the way has optional fields of its own, so that the scope changes with the level.
mutual
theorem carry_ofObject : ∀ (t : ValueType) (isArgument : Bool) (fields : List (String × ValueType))
    (optional : List String), t.inner = .object fields optional →
    (ofFields isArgument optional fields).Carry ⟨isArgument, optional⟩ (Table.mapValues .ofField fields)
  | .list element, isArgument, fields, optional, h => carry_ofObject element isArgument fields optional h
  | .set element, isArgument, fields, optional, h => carry_ofObject element isArgument fields optional h
  | .map element, isArgument, fields, optional, h => carry_ofObject element isArgument fields optional h
  | .object own ownOptional, isArgument, fields, optional, h => by
      obtain ⟨hf, ho⟩ : own = fields ∧ ownOptional = optional := by simpa [ValueType.inner] using h
      rw [← hf, ← ho]
      exact carry_ofFields isArgument ownOptional own
  | .bool, _, _, _, h => by cases h
  | .string, _, _, _, h => by cases h
  | .number, _, _, _, h => by cases h

theorem carry_ofFields (isArgument : Bool) (optional : List String) :
    ∀ fields : List (String × ValueType),
      (ofFields isArgument optional fields).Carry ⟨isArgument, optional⟩ (Table.mapValues .ofField fields)
  | [] => carry_empty
  | (name, t) :: rest => by
      have hfirst : (ofField name t isArgument (isArgument && !optional.contains name) .none).Carry
          ⟨isArgument, optional⟩ [(name, .ofField t)] :=
        carry_ofField rfl rfl rfl name _ _ .none rfl (carry_ofObject t isArgument)
      exact hfirst.append (carry_ofFields isArgument optional rest)
end

/-! ### Attributes and blocks -/

theorem compositional_carry : Compositional fun m level => ∀ scope, m.Carry scope level where
  empty _ := carry_empty
  append ha hb scope := (ha scope).append (hb scope)
  typed name a t docs hn ht scope := by
    refine carry_ofField ht ?_ ?_ name _ _ docs rfl (carry_ofObject t _)
    · simp [Declared.isChild, hn, ht]
    · simp [Declared.members, hn, ht]
  nested name a n traits m hn _ ha hr hm scope := by
    refine carry_child ?_ ?_ ?_ ?_
    · simp [Declared.isChild, hn]
    · rw [Traits.flags, ha, hr, Declared.flags]
    · simpa [Declared.members, hn] using hm _
    · simp [Declared.isPromoted, hn]
  block name b traits m _ ha hr hm scope := by
    have hflags : traits.flags = (Declared.ofBlock b).flags scope name := by
      rw [Traits.flags, ha, hr, Declared.flags]
    refine carry_child rfl hflags (hm _) fun hp => ?_
    cases hp

end Members

namespace Graph

mutual
theorem all_layBranch {P : Traits → List Leaf → Prop} (ancestors : List String) (start : Nat) :
    ∀ {b : Branch}, b.All P → ∀ n ∈ layBranch ancestors start b, P n.traits n.leaves
  | .node name _ _ _, ⟨hroot, hbelow⟩ =>
      List.forall_mem_cons.mpr ⟨hroot, all_layForest (ancestors ++ [name]) (start + 1) hbelow⟩

theorem all_layForest {P : Traits → List Leaf → Prop} (ancestors : List String) (start : Nat) :
    ∀ {bs : List Branch}, Branch.listAll P bs →
      ∀ n ∈ (layForest ancestors start bs).nodes, P n.traits n.leaves
  | [], _ => by simp [layForest]
  | b :: _, ⟨hb, hrest⟩ =>
      List.forall_mem_append.mpr ⟨all_layBranch ancestors start hb,
        all_layForest ancestors (start + (layBranch ancestors start b).length) hrest⟩
end

theorem ofBlock_carries {block : Schema.Block} {g : Graph} (h : ofBlock block = .ok g) :
    ∃ forest, Unfolds g.nodes g.children forest ∧
      (∀ other, Unfolds g.nodes g.children other → other = forest) ∧
      (∀ scope, Members.Carry scope ⟨g.leaves, forest⟩ (Level.ofBlock block)) ∧
      (∀ l ∈ g.leaves, l.flags.Sound) ∧
      ∀ n ∈ g.nodes, n.traits.flags.Sound ∧ ∀ l ∈ n.leaves, l.flags.Sound := by
  obtain ⟨m, hm, rfl⟩ := map_eq_ok_iff.mp h
  have hunfolds := (walks_ofMembers m).2
  have hcarry := Members.compositional_carry.ofBlock [] block hm
  obtain ⟨hleaves, hchildren⟩ := hcarry ⟨true, []⟩
  exact ⟨m.children, hunfolds, fun other ho => ho.unique hunfolds, hcarry, hleaves.sound,
    all_layForest [] 0 (Branch.listAll_sound m.children hchildren)⟩

def gatehouse : Schema.Block :=
  ⟨[("access",
      ⟨some (.list [.text "list", .list [.text "object",
          .object [("note", .text "string"),
            ("rule", .list [.text "map", .list [.text "object",
              .object [("from", .text "string"), ("to", .text "string")], .list [.text "from"]]])],
          .list [.text "note"]]]),
        none, none, true, false, false, false, false⟩),
    ("state",
      ⟨some (.list [.text "object", .object [("since", .text "number")]]),
        none, none, false, false, true, false, false⟩),
    ("watch",
      ⟨none, some ⟨[("badge", ⟨some (.text "string"), none, none, true, false, false, false, false⟩),
          ("seen", ⟨some (.text "bool"), none, none, false, false, true, false, false⟩)], "single",
        none, none⟩, none, false, false, true, false, false⟩)],
    [("door",
      ⟨"list", ⟨[("serial", ⟨some (.text "string"), none, none, false, false, true, false, false⟩)],
        [], none, false⟩, 1, 1⟩)], none, false⟩

theorem carries_gatehouse :
    ∃ g forest, ofBlock gatehouse = .ok g ∧
      g.nodes.map (fun n => (n.path, n.traits.flags)) =
        [(["access"], ⟨true, true⟩), (["access", "rule"], ⟨true, true⟩), (["state"], ⟨false, false⟩),
          (["watch"], ⟨false, false⟩), (["door"], ⟨true, true⟩)] ∧
      g.nodes.map (fun n => n.leaves.map fun l => (l.name, l.flags)) =
        [[("note", ⟨true, false⟩)], [("from", ⟨true, false⟩), ("to", ⟨true, true⟩)],
          [("since", ⟨false, false⟩)], [("badge", ⟨true, true⟩), ("seen", ⟨false, false⟩)],
          [("serial", ⟨false, false⟩)]] ∧
      Unfolds g.nodes g.children forest ∧
      (∀ scope, Members.Carry scope ⟨g.leaves, forest⟩ (Level.ofBlock gatehouse)) ∧
      ∀ n ∈ g.nodes, n.traits.flags.Sound := by
  obtain ⟨forest, hunfolds, _, hcarry, _, hsound⟩ := @ofBlock_carries gatehouse _ rfl
  exact ⟨_, forest, rfl, rfl, rfl, hunfolds, hcarry, fun n hn => (hsound n hn).1⟩

end Graph

end ProviderBindings
