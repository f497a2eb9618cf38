import ProviderBindings.Graph.Forest
import ProviderBindings.Proofs.Success
import ProviderBindings.Proofs.Table

/-!
What a schema declares, one level at a time: a block declares attributes and blocks, an attribute with a
nested type declares attributes, and a type that holds an object declares the fields of the object. When the
tables of a block are in key order, then so are all levels below it.
-/

namespace ProviderBindings

namespace ValueType

def objectFields : ValueType → List (String × ValueType)
  | .object fields _ => fields
  | _ => []

mutual
def KeyOrdered : ValueType → Prop
  | .list element => KeyOrdered element
  | .set element => KeyOrdered element
  | .map element => KeyOrdered element
  | .object fields _ => Table.Ordered fields ∧ fieldsKeyOrdered fields
  | _ => True

def fieldsKeyOrdered : List (String × ValueType) → Prop
  | [] => True
  | (_, t) :: rest => KeyOrdered t ∧ fieldsKeyOrdered rest
end

theorem fieldsKeyOrdered_iff {fields : List (String × ValueType)} :
    fieldsKeyOrdered fields ↔ ∀ p ∈ fields, p.2.KeyOrdered := by
  induction fields with
  | nil => simp [fieldsKeyOrdered]
  | cons p rest ih => simp [fieldsKeyOrdered, ih]

theorem fieldsKeyOrdered_insert (name : String) {t : ValueType} {fields : List (String × ValueType)}
    (ht : t.KeyOrdered) (h : fieldsKeyOrdered fields) :
    fieldsKeyOrdered (Table.insert name t fields) := by
  induction fields with
  | nil => simp [Table.insert, fieldsKeyOrdered, ht]
  | cons p rest ih =>
      obtain ⟨k, v⟩ := p
      obtain ⟨hv, hrest⟩ := h
      simp only [Table.insert]
      split
      · exact ⟨ht, hv, hrest⟩
      · split
        · exact ⟨ht, hrest⟩
        · exact ⟨hv, ih hrest⟩

theorem keyOrdered_of_ofJson {v : Json} : ∀ {t : ValueType}, ofJson? v = .ok t → t.KeyOrdered := by
  -- The reader of fields puts each of them into the table `done`, which is in key order all along.
  induction v using ofJson?.induct_unfolding _
    (fun done _ result => Table.Ordered done ∧ fieldsKeyOrdered done →
      ∀ types, result = .ok types → Table.Ordered types ∧ fieldsKeyOrdered types) with
  | case1 | case2 | case3 =>
      rintro t ⟨⟩
      trivial
  | case4 | case10 | case11 | case12 => simp
  | case5 element ih | case6 element ih | case7 element ih =>
      intro t h
      obtain ⟨u, hu, rfl⟩ := map_eq_ok_iff.mp h
      have hu := ih hu
      exact hu
  | case8 fields ih =>
      intro t h
      obtain ⟨types, ht, h⟩ := bind_eq_ok_iff.mp h
      cases h
      exact ih ⟨.nil, trivial⟩ types ht
  | case9 fields optional ih =>
      intro t h
      obtain ⟨types, ht, h⟩ := bind_eq_ok_iff.mp h
      obtain ⟨names, _, h⟩ := bind_eq_ok_iff.mp h
      cases h
      exact ih ⟨.nil, trivial⟩ types ht
  | case13 done hdone types h =>
      cases h
      exact hdone
  | case14 done name v rest ihv ihrest hdone types h =>
      obtain ⟨ho, hd⟩ := hdone
      obtain ⟨t, ht, h⟩ := bind_eq_ok_iff.mp h
      exact ihrest t ⟨Table.ordered_insert name t ho, fieldsKeyOrdered_insert name (ihv ht) hd⟩ types h

theorem keyOrdered_inner {t : ValueType} (h : t.KeyOrdered) :
    Table.Ordered t.inner.objectFields ∧ ∀ p ∈ t.inner.objectFields, p.2.KeyOrdered := by
  fun_induction inner t with
  | case1 element ih | case2 element ih | case3 element ih => exact ih h
  | case4 t =>
      cases t with
      | object fields _ => exact ⟨h.1, fieldsKeyOrdered_iff.mp h.2⟩
      | _ => exact ⟨.nil, by simp [objectFields]⟩

end ValueType

namespace Schema

mutual
def Attribute.KeyOrdered : Attribute → Prop
  | ⟨_, some nested, _, _, _, _, _, _⟩ => NestedType.KeyOrdered nested
  | ⟨_, none, _, _, _, _, _, _⟩ => True

def NestedType.KeyOrdered : NestedType → Prop
  | ⟨attributes, _, _, _⟩ => Table.Ordered attributes ∧ attributesKeyOrdered attributes

def attributesKeyOrdered : List (String × Attribute) → Prop
  | [] => True
  | (_, a) :: rest => Attribute.KeyOrdered a ∧ attributesKeyOrdered rest
end

mutual
def Block.KeyOrdered : Block → Prop
  | ⟨attributes, blockTypes, _, _⟩ =>
      (Table.Ordered attributes ∧ attributesKeyOrdered attributes) ∧
        Table.Ordered blockTypes ∧ blockTypesKeyOrdered blockTypes

def BlockType.KeyOrdered : BlockType → Prop
  | ⟨_, block, _, _⟩ => Block.KeyOrdered block

def blockTypesKeyOrdered : List (String × BlockType) → Prop
  | [] => True
  | (_, b) :: rest => BlockType.KeyOrdered b ∧ blockTypesKeyOrdered rest
end

theorem attributesKeyOrdered_iff {attributes : List (String × Attribute)} :
    attributesKeyOrdered attributes ↔ ∀ p ∈ attributes, p.2.KeyOrdered := by
  induction attributes with
  | nil => simp [attributesKeyOrdered]
  | cons p rest ih => simp [attributesKeyOrdered, ih]

theorem blockTypesKeyOrdered_iff {blockTypes : List (String × BlockType)} :
    blockTypesKeyOrdered blockTypes ↔ ∀ p ∈ blockTypes, p.2.KeyOrdered := by
  induction blockTypes with
  | nil => simp [blockTypesKeyOrdered]
  | cons p rest ih => simp [blockTypesKeyOrdered, ih]

/-! ### Levels -/

inductive Declared where
  | ofAttribute (a : Attribute)
  | ofField (type : ValueType)
  | ofBlock (b : BlockType)

abbrev Level := List (String × Declared)

def Level.ofBlock (b : Block) : Level :=
  Table.mapValues .ofAttribute b.attributes ++ Table.mapValues .ofBlock b.blockTypes

def Level.ofType (t : ValueType) : Level := Table.mapValues .ofField t.inner.objectFields

namespace Declared

def type? : Declared → Option ValueType
  | .ofAttribute a =>
      match a.nested, a.type with
      | none, some expression => (ValueType.ofJson? expression).toOption
      | _, _ => none
  | .ofField t => some t
  | .ofBlock _ => none

def isChild : Declared → Bool
  | .ofAttribute a => a.nested.isSome || (type? (.ofAttribute a)).any ValueType.embedsObject
  | .ofField t => t.embedsObject
  | .ofBlock _ => true

def nesting? : Declared → Option (List Nesting)
  | .ofAttribute a =>
      match a.nested with
      | some nested => attributeNesting? nested.nestingMode
      | none => (type? (.ofAttribute a)).map ValueType.wrappers
  | .ofField t => some t.wrappers
  | .ofBlock b => blockNesting? b.nestingMode

def members : Declared → Level
  | .ofAttribute a =>
      match a.nested with
      | some nested => Table.mapValues .ofAttribute nested.attributes
      | none => ((type? (.ofAttribute a)).map Level.ofType).getD []
  | .ofField t => Level.ofType t
  | .ofBlock b => Level.ofBlock b.block

def isBlock : Declared → Bool
  | .ofBlock _ => true
  | _ => false

def KeyOrdered : Declared → Prop
  | .ofAttribute a => a.KeyOrdered
  | .ofField t => t.KeyOrdered
  | .ofBlock b => b.KeyOrdered

end Declared

namespace Level

def leaves (l : Level) : Level := l.filter fun d => !d.2.isChild

def children (l : Level) : Level := l.filter fun d => d.2.isChild

inductive Below (root : Level) : Level → Prop
  | root : Below root root
  | member {level : Level} {name : String} {d : Declared} (h : Below root level)
      (hd : (name, d) ∈ level) : Below root d.members

def KeyOrdered (l : Level) : Prop :=
  l.Pairwise fun a b => (a.2.isBlock = true → b.2.isBlock = true) ∧ (a.2.isBlock = b.2.isBlock → a.1 < b.1)

theorem keyOrdered_mapValues {α : Type} (declare : α → Declared) {t : Table α} (isBlock : Bool)
    (hb : ∀ a, (declare a).isBlock = isBlock) (h : Table.Ordered t) :
    KeyOrdered (Table.mapValues declare t) := by
  refine List.pairwise_map.mpr ((List.pairwise_map.mp h).imp fun {p q} hlt => ?_)
  exact ⟨fun _ => by simp_all, fun _ => hlt⟩

theorem forall_mem_mapValues {α : Type} (declare : α → Declared) {t : Table α}
    (h : ∀ p ∈ t, (declare p.2).KeyOrdered) :
    ∀ d ∈ (Table.mapValues declare t : Level), d.2.KeyOrdered := by
  intro d hd
  obtain ⟨p, hp, rfl⟩ := List.mem_map.mp hd
  exact h p hp

theorem keyOrdered_ofBlock {b : Block} (h : b.KeyOrdered) :
    (Level.ofBlock b).KeyOrdered ∧ ∀ d ∈ Level.ofBlock b, d.2.KeyOrdered := by
  obtain ⟨attributes, blockTypes, _, _⟩ := b
  obtain ⟨⟨hta, ha⟩, htb, hb⟩ := h
  have hma := forall_mem_mapValues .ofAttribute (attributesKeyOrdered_iff.mp ha)
  have hmb := forall_mem_mapValues .ofBlock (blockTypesKeyOrdered_iff.mp hb)
  refine ⟨List.pairwise_append.mpr ⟨keyOrdered_mapValues .ofAttribute false (fun _ => rfl) hta,
    keyOrdered_mapValues .ofBlock true (fun _ => rfl) htb, fun p hp q hq => ?_⟩, fun d hd => ?_⟩
  · obtain ⟨_, _, rfl⟩ := List.mem_map.mp hp
    obtain ⟨_, _, rfl⟩ := List.mem_map.mp hq
    simp [Declared.isBlock]
  · exact (List.mem_append.mp hd).elim (hma d) (hmb d)

theorem keyOrdered_ofType {t : ValueType} (h : t.KeyOrdered) :
    (Level.ofType t).KeyOrdered ∧ ∀ d ∈ Level.ofType t, d.2.KeyOrdered := by
  obtain ⟨ht, hf⟩ := ValueType.keyOrdered_inner h
  exact ⟨keyOrdered_mapValues .ofField false (fun _ => rfl) ht, forall_mem_mapValues .ofField hf⟩

theorem keyOrdered_members {d : Declared} (h : d.KeyOrdered) :
    d.members.KeyOrdered ∧ ∀ d' ∈ d.members, d'.2.KeyOrdered := by
  cases d with
  | ofField t => exact keyOrdered_ofType h
  | ofBlock b =>
      obtain ⟨_, block, _, _⟩ := b
      exact keyOrdered_ofBlock h
  | ofAttribute a =>
      obtain ⟨type, nested, _, _, _, _, _, _⟩ := a
      cases nested with
      | some nested =>
          obtain ⟨attributes, _, _, _⟩ := nested
          obtain ⟨ht, ha⟩ := h
          exact ⟨keyOrdered_mapValues .ofAttribute false (fun _ => rfl) ht,
            forall_mem_mapValues .ofAttribute (attributesKeyOrdered_iff.mp ha)⟩
      | none =>
          have hnil : KeyOrdered ([] : Level) ∧ ∀ d' ∈ ([] : Level), d'.2.KeyOrdered := ⟨.nil, by simp⟩
          cases type with
          | none => exact hnil
          | some expression =>
              simp only [Declared.members, Declared.type?]
              cases ht : ValueType.ofJson? expression with
              | error e => exact hnil
              | ok t => exact keyOrdered_ofType (ValueType.keyOrdered_of_ofJson ht)

theorem keyOrdered_of_below {b : Block} (h : b.KeyOrdered) {level : Level}
    (hl : (Level.ofBlock b).Below level) : level.KeyOrdered ∧ ∀ d ∈ level, d.2.KeyOrdered := by
  induction hl with
  | root => exact keyOrdered_ofBlock h
  | member _ hd ih => exact keyOrdered_members (ih.2 _ hd)

end Level

end Schema

end ProviderBindings
