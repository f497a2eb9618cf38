import ProviderBindings.Proofs.Wire.Writing
import ProviderBindings.Schema.Decode
import ProviderBindings.Schema.Encode

/-!
Writing schema documents and reading them back. A document is read from the object that writes all of it, and
from every other one that leaves out fields with their defaults or has unknown members, at any depth.
-/

namespace ProviderBindings.Schema

open Wire (Datum Written pairsWritten written_text written_flag written_count written_ofOption
  written_of_pairs written_mapValues)

/-! ### Documents as data -/

mutual
def Attribute.toDatum : Attribute → Datum
  | ⟨type, nested, description, required, optional, computed, sensitive, deprecated⟩ =>
      .record
        [Datum.ofOption .json type,
          match nested with
            | some n => .present (NestedType.toDatum n)
            | none => .absent,
          Datum.ofOption .text description, .flag required, .flag optional, .flag computed,
          .flag sensitive, .flag deprecated]

def NestedType.toDatum : NestedType → Datum
  | ⟨attributes, nestingMode, minItems, maxItems⟩ =>
      .record
        [.table (attributesToData attributes), .text nestingMode, Datum.ofOption .count minItems,
          Datum.ofOption .count maxItems]

def attributesToData : List (String × Attribute) → List (String × Datum)
  | [] => []
  | (name, a) :: rest => (name, Attribute.toDatum a) :: attributesToData rest
end

mutual
def Block.toDatum : Block → Datum
  | ⟨attributes, blockTypes, description, deprecated⟩ =>
      .record
        [.table (attributesToData attributes), .table (blockTypesToData blockTypes),
          Datum.ofOption .text description, .flag deprecated]

def BlockType.toDatum : BlockType → Datum
  | ⟨nestingMode, block, minItems, maxItems⟩ =>
      .record [.text nestingMode, Block.toDatum block, .count minItems, .count maxItems]

def blockTypesToData : List (String × BlockType) → List (String × Datum)
  | [] => []
  | (name, b) :: rest => (name, BlockType.toDatum b) :: blockTypesToData rest
end

def Entry.toDatum (e : Entry) : Datum := .record [.count e.version, e.block.toDatum]

def Provider.toDatum (p : Provider) : Datum :=
  .record
    [p.provider.toDatum, .table (Table.mapValues Entry.toDatum p.resources),
      .table (Table.mapValues Entry.toDatum p.dataSources)]

def Document.toDatum (d : Document) : Datum :=
  .record [.text d.formatVersion, .table (Table.mapValues Provider.toDatum d.providers)]

theorem optionOf_ofOption {α : Type} {f : α → Datum} {g : Datum → α} (h : ∀ a, g (f a) = a)
    (o : Option α) : optionOf g (Datum.ofOption f o) = o := by
  cases o with
  | none => rfl
  | some a => exact congrArg some (h a)

theorem mapValues_ofDatum {α : Type} {f : α → Datum} {g : Datum → α} (h : ∀ a, g (f a) = a) (t : Table α) :
    Table.mapValues g (Table.mapValues f t) = t := by
  simp [Table.mapValues, Function.comp_def, h]

mutual
theorem Attribute.ofDatum_toDatum : ∀ a : Attribute, Attribute.ofDatum a.toDatum = a
  | ⟨type, some nested, description, _, _, _, _, _⟩ => by
      rw [Attribute.toDatum, Attribute.ofDatum, NestedType.ofDatum_toDatum nested,
        optionOf_ofOption (fun _ => rfl) type, optionOf_ofOption (fun _ => rfl) description]
      rfl
  | ⟨type, none, description, _, _, _, _, _⟩ => by
      rw [Attribute.toDatum, Attribute.ofDatum]
      · rw [optionOf_ofOption (fun _ => rfl) type, optionOf_ofOption (fun _ => rfl) description]
        rfl
      · nofun

theorem NestedType.ofDatum_toDatum : ∀ n : NestedType, NestedType.ofDatum n.toDatum = n
  | ⟨attributes, _, minItems, maxItems⟩ => by
      rw [NestedType.toDatum, NestedType.ofDatum, attributesOfData_toData attributes,
        optionOf_ofOption (fun _ => rfl) minItems, optionOf_ofOption (fun _ => rfl) maxItems]
      rfl

theorem attributesOfData_toData : ∀ attributes : List (String × Attribute),
    attributesOfData (attributesToData attributes) = attributes
  | [] => rfl
  | (_, a) :: rest => by
      rw [attributesToData, attributesOfData, Attribute.ofDatum_toDatum a, attributesOfData_toData rest]
end

mutual
theorem Block.ofDatum_toDatum : ∀ b : Block, Block.ofDatum b.toDatum = b
  | ⟨attributes, blockTypes, description, _⟩ => by
      rw [Block.toDatum, Block.ofDatum, attributesOfData_toData attributes,
        blockTypesOfData_toData blockTypes, optionOf_ofOption (fun _ => rfl) description]
      rfl

theorem BlockType.ofDatum_toDatum : ∀ b : BlockType, BlockType.ofDatum b.toDatum = b
  | ⟨_, block, _, _⟩ => by
      rw [BlockType.toDatum, BlockType.ofDatum, Block.ofDatum_toDatum block]
      rfl

theorem blockTypesOfData_toData : ∀ blockTypes : List (String × BlockType),
    blockTypesOfData (blockTypesToData blockTypes) = blockTypes
  | [] => rfl
  | (_, b) :: rest => by
      rw [blockTypesToData, blockTypesOfData, BlockType.ofDatum_toDatum b, blockTypesOfData_toData rest]
end

theorem Entry.ofDatum_toDatum (e : Entry) : Entry.ofDatum e.toDatum = e := by
  rw [toDatum, ofDatum, Block.ofDatum_toDatum]
  rfl

theorem Provider.ofDatum_toDatum (p : Provider) : Provider.ofDatum p.toDatum = p := by
  rw [toDatum, ofDatum, Entry.ofDatum_toDatum, tableOf, tableOf, mapValues_ofDatum Entry.ofDatum_toDatum,
    mapValues_ofDatum Entry.ofDatum_toDatum]

theorem Document.ofDatum_toDatum (d : Document) : Document.ofDatum d.toDatum = d := by
  rw [toDatum, ofDatum, tableOf, mapValues_ofDatum Provider.ofDatum_toDatum]
  rfl

/-! ### Writing -/

mutual
def Attribute.WellFormed : Attribute → Prop
  | ⟨type, some nested, _, _, _, _, _, _⟩ =>
      (∀ v ∈ type, v ≠ .null ∧ v.KeyOrdered) ∧ NestedType.WellFormed nested
  | ⟨type, none, _, _, _, _, _, _⟩ => ∀ v ∈ type, v ≠ .null ∧ v.KeyOrdered

def NestedType.WellFormed : NestedType → Prop
  | ⟨attributes, _, _, _⟩ => Table.Ordered attributes ∧ attributesWellFormed attributes

def attributesWellFormed : List (String × Attribute) → Prop
  | [] => True
  | (_, a) :: rest => Attribute.WellFormed a ∧ attributesWellFormed rest
end

mutual
def Block.WellFormed : Block → Prop
  | ⟨attributes, blockTypes, _, _⟩ =>
      (Table.Ordered attributes ∧ attributesWellFormed attributes) ∧
        Table.Ordered blockTypes ∧ blockTypesWellFormed blockTypes

def BlockType.WellFormed : BlockType → Prop
  | ⟨_, block, _, _⟩ => Block.WellFormed block

def blockTypesWellFormed : List (String × BlockType) → Prop
  | [] => True
  | (_, b) :: rest => BlockType.WellFormed b ∧ blockTypesWellFormed rest
end

def Provider.WellFormed (p : Provider) : Prop :=
  p.provider.block.WellFormed ∧
    (Table.Ordered p.resources ∧ ∀ e ∈ p.resources, e.2.block.WellFormed) ∧
    Table.Ordered p.dataSources ∧ ∀ e ∈ p.dataSources, e.2.block.WellFormed

def Document.WellFormed (d : Document) : Prop :=
  Table.Ordered d.providers ∧ ∀ p ∈ d.providers, p.2.WellFormed

theorem distinct_records : records.Distinct := by
  intro name
  rw [Wire.Environment.fields]
  have hall : ∀ r ∈ records, (r.fields.map Wire.Field.key).Nodup := by decide
  split
  · rename_i r hr
    exact hall r (List.mem_of_find?_eq_some hr)
  · exact .nil

def WrittenRecord (d : Datum) (name : Wire.RecordName) (v : Json) : Prop :=
  Written records d .plain (.record name) v

theorem writtenRecord_members {name : Wire.RecordName} {data : List Datum} {pairs : List (String × Json)}
    (h : pairsWritten records data (records.fields name) pairs) :
    WrittenRecord (.record data) name (members pairs) :=
  written_of_pairs distinct_records h

theorem eq_mapValues {α β : Type} {f : α → β} {map : List (String × α) → List (String × β)}
    (hnil : map [] = []) (hcons : ∀ name a rest, map ((name, a) :: rest) = (name, f a) :: map rest)
    (t : List (String × α)) : map t = Table.mapValues f t := by
  induction t with
  | nil => exact hnil
  | cons p rest ih =>
      rw [hcons, ih]
      rfl

theorem attributesToData_eq (attributes : List (String × Attribute)) :
    attributesToData attributes = Table.mapValues Attribute.toDatum attributes :=
  eq_mapValues rfl (fun _ _ _ => rfl) attributes

theorem attributesToJson_eq (attributes : List (String × Attribute)) :
    attributesToJson attributes = Table.mapValues Attribute.toJson attributes :=
  eq_mapValues rfl (fun _ _ _ => rfl) attributes

theorem blockTypesToData_eq (blockTypes : List (String × BlockType)) :
    blockTypesToData blockTypes = Table.mapValues BlockType.toDatum blockTypes :=
  eq_mapValues rfl (fun _ _ _ => rfl) blockTypes

theorem blockTypesToJson_eq (blockTypes : List (String × BlockType)) :
    blockTypesToJson blockTypes = Table.mapValues BlockType.toJson blockTypes :=
  eq_mapValues rfl (fun _ _ _ => rfl) blockTypes

theorem written_type {type : Option Json} (h : ∀ v ∈ type, v ≠ .null ∧ v.KeyOrdered) :
    Written records (Datum.ofOption .json type) .optional .json (type.getD .null) := by
  have hid : type.getD .null = Json.ofOption id type := by cases type <;> rfl
  rw [hid]
  exact written_ofOption fun v hv => ⟨(h v hv).1, ⟨nofun, rfl, rfl⟩, (h v hv).2⟩

theorem written_description (description : Option String) :
    Written records (Datum.ofOption .text description) .optional .text (Json.ofOption .text description) :=
  written_ofOption fun s _ => ⟨by simp, written_text s⟩

theorem written_bound (bound : Option Nat) :
    Written records (Datum.ofOption .count bound) .optional .count (Json.ofOption .nat bound) :=
  written_ofOption fun n _ => ⟨by simp [Json.nat], written_count n⟩

mutual
theorem written_attribute : ∀ a : Attribute, a.WellFormed → WrittenRecord a.toDatum "Attribute" a.toJson
  | ⟨type, some nested, description, required, optional, computed, sensitive, deprecated⟩, h => by
      obtain ⟨hnested, hordered⟩ := written_nested nested h.2
      have hne : nested.toJson ≠ .null := by
        obtain ⟨_, _, _, _⟩ := nested
        rw [NestedType.toJson]
        nofun
      have hwritten :
          Written records (.present nested.toDatum) .optional (.record "NestedType") nested.toJson :=
        ⟨⟨rfl, hne, hnested⟩, hordered⟩
      exact writtenRecord_members ⟨⟨rfl, written_type h.1⟩, ⟨rfl, hwritten⟩,
        ⟨rfl, written_description description⟩, ⟨rfl, written_flag required⟩, ⟨rfl, written_flag optional⟩,
        ⟨rfl, written_flag computed⟩, ⟨rfl, written_flag sensitive⟩, ⟨rfl, written_flag deprecated⟩, trivial⟩
  | ⟨type, none, description, required, optional, computed, sensitive, deprecated⟩, h => by
      have hwritten : Written records .absent .optional (.record "NestedType") .null := ⟨⟨rfl, rfl⟩, trivial⟩
      exact writtenRecord_members ⟨⟨rfl, written_type h⟩, ⟨rfl, hwritten⟩,
        ⟨rfl, written_description description⟩, ⟨rfl, written_flag required⟩, ⟨rfl, written_flag optional⟩,
        ⟨rfl, written_flag computed⟩, ⟨rfl, written_flag sensitive⟩, ⟨rfl, written_flag deprecated⟩, trivial⟩

theorem written_nested : ∀ n : NestedType, n.WellFormed → WrittenRecord n.toDatum "NestedType" n.toJson
  | ⟨attributes, nestingMode, minItems, maxItems⟩, ⟨ho, ha⟩ => by
      have htable := written_mapValues ho (written_attributes attributes ha)
      rw [NestedType.toDatum, NestedType.toJson, attributesToData_eq, attributesToJson_eq]
      exact writtenRecord_members ⟨⟨rfl, htable⟩, ⟨rfl, written_text nestingMode⟩,
        ⟨rfl, written_bound minItems⟩, ⟨rfl, written_bound maxItems⟩, trivial⟩

theorem written_attributes : ∀ attributes : List (String × Attribute), attributesWellFormed attributes →
    ∀ p ∈ attributes, WrittenRecord p.2.toDatum "Attribute" p.2.toJson
  | [], _ => by simp
  | (_, a) :: rest, ⟨ha, hrest⟩ =>
      List.forall_mem_cons.mpr ⟨written_attribute a ha, written_attributes rest hrest⟩
end

mutual
theorem written_block : ∀ b : Block, b.WellFormed → WrittenRecord b.toDatum "Block" b.toJson
  | ⟨attributes, blockTypes, description, deprecated⟩, ⟨⟨hoa, ha⟩, hob, hb⟩ => by
      have hattributes := written_mapValues hoa (written_attributes attributes ha)
      have hblockTypes := written_mapValues hob (written_blockTypes blockTypes hb)
      rw [Block.toDatum, Block.toJson, attributesToData_eq, attributesToJson_eq, blockTypesToData_eq,
        blockTypesToJson_eq]
      exact writtenRecord_members ⟨⟨rfl, hattributes⟩, ⟨rfl, hblockTypes⟩,
        ⟨rfl, written_description description⟩, ⟨rfl, written_flag deprecated⟩, trivial⟩

theorem written_blockType : ∀ b : BlockType, b.WellFormed → WrittenRecord b.toDatum "BlockType" b.toJson
  | ⟨nestingMode, block, minItems, maxItems⟩, h => by
      have hblock := written_block block h
      rw [BlockType.toDatum, BlockType.toJson]
      exact writtenRecord_members ⟨⟨rfl, written_text nestingMode⟩, ⟨rfl, hblock⟩,
        ⟨rfl, written_count minItems⟩, ⟨rfl, written_count maxItems⟩, trivial⟩

theorem written_blockTypes : ∀ blockTypes : List (String × BlockType), blockTypesWellFormed blockTypes →
    ∀ p ∈ blockTypes, WrittenRecord p.2.toDatum "BlockType" p.2.toJson
  | [], _ => by simp
  | (_, b) :: rest, ⟨hb, hrest⟩ =>
      List.forall_mem_cons.mpr ⟨written_blockType b hb, written_blockTypes rest hrest⟩
end

theorem written_entry {e : Entry} (h : e.block.WellFormed) : WrittenRecord e.toDatum "SchemaEntry" e.toJson :=
  writtenRecord_members ⟨⟨rfl, written_count e.version⟩, ⟨rfl, written_block e.block h⟩, trivial⟩

theorem written_provider {p : Provider} (h : p.WellFormed) :
    WrittenRecord p.toDatum "ProviderSchema" p.toJson := by
  obtain ⟨hp, ⟨hor, hr⟩, hod, hd⟩ := h
  have hresources := written_mapValues hor fun e he => written_entry (hr e he)
  have hdataSources := written_mapValues hod fun e he => written_entry (hd e he)
  exact writtenRecord_members ⟨⟨rfl, written_entry hp⟩, ⟨rfl, hresources⟩, ⟨rfl, hdataSources⟩, trivial⟩

theorem written_document {d : Document} (h : d.WellFormed) :
    WrittenRecord d.toDatum "SchemaDocument" d.toJson := by
  have hproviders := written_mapValues h.1 fun p hp => written_provider (h.2 p hp)
  exact writtenRecord_members ⟨⟨rfl, written_text d.formatVersion⟩, ⟨rfl, hproviders⟩, trivial⟩

/-! ### Reading -/

/-- A value writes a document when each object in it that is a record has the fields of the record, those
with their defaults perhaps left out, and any members besides. -/
def Document.WrittenBy (d : Document) (v : Json) : Prop := WrittenRecord d.toDatum "SchemaDocument" v

theorem Document.ofJson?_of_writtenBy (d : Document) (h : d.WellFormed) :
    d.WrittenBy d.toJson ∧ Document.ofJson? d.toJson = .ok d ∧
      ∀ v, d.WrittenBy v → Document.ofJson? v = .ok d := by
  have hread : ∀ v, d.WrittenBy v → Document.ofJson? v = .ok d := by
    intro v hv
    rw [Document.ofJson?, Wire.decodeValue_of_written distinct_records hv]
    exact congrArg Except.ok d.ofDatum_toDatum
  exact ⟨written_document h, hread _ (written_document h), hread⟩

def nestedDocument : Document :=
  let name : Attribute := ⟨some (.text "string"), none, none, true, false, false, false, false⟩
  let rules : NestedType := ⟨[("name", name)], "list", none, some 2⟩
  let policy : Attribute := ⟨none, some rules, some "rules", false, true, false, false, false⟩
  let timeouts : BlockType := ⟨"single", ⟨[("name", name)], [], none, false⟩, 0, 1⟩
  let host : Entry := ⟨1, ⟨[("policy", policy)], [("timeouts", timeouts)], none, false⟩⟩
  ⟨"1.0", [("registry/cloud", ⟨.empty, [("cloud_host", host)], []⟩)]⟩

def sparseJson : Json :=
  let name : Json := .object [("required", .bool true), ("type", .text "string"), ("unit", .nat 3)]
  let rules : Json := .object
    [("attributes", .object [("name", name)]), ("kind", .list [.null, .object []]), ("max_items", .nat 2),
      ("nesting_mode", .text "list")]
  let policy : Json := .object
    [("description", .text "rules"), ("nested_type", rules), ("optional", .bool true),
      ("write_only", .bool false)]
  let timeouts : Json := .object
    [("block", .object [("attributes", .object [("name", name)]), ("tag", .null)]), ("default", .text ""),
      ("max_items", .nat 1), ("nesting_mode", .text "single")]
  let block : Json := .object
    [("attributes", .object [("policy", policy)]), ("block_types", .object [("timeouts", timeouts)]),
      ("version", .nat 7)]
  let host : Json := .object [("block", block), ("identity", .object []), ("version", .nat 1)]
  let cloud : Json := .object
    [("functions", .object []), ("resource_schemas", .object [("cloud_host", host)])]
  .object
    [("format_version", .text "1.0"), ("origin", .text "mirror"),
      ("provider_schemas", .object [("registry/cloud", cloud)])]

theorem Document.ofJson?_sparseJson :
    nestedDocument.WellFormed ∧ nestedDocument.WrittenBy sparseJson ∧
      Document.ofJson? sparseJson = .ok nestedDocument := by
  have hwell : nestedDocument.WellFormed := by
    simp [nestedDocument, WellFormed, Provider.WellFormed, Block.WellFormed, BlockType.WellFormed,
      Attribute.WellFormed, NestedType.WellFormed, attributesWellFormed, blockTypesWellFormed, Table.Ordered,
      Table.keys, Entry.empty, Block.empty, Json.KeyOrdered]
  have hwritten : nestedDocument.WrittenBy sparseJson := by
    refine ⟨?_, ?_⟩
    · simp [nestedDocument, sparseJson, toDatum, Provider.toDatum, Entry.toDatum, Entry.empty, Block.toDatum,
        Block.empty, BlockType.toDatum, Attribute.toDatum, NestedType.toDatum, attributesToData,
        blockTypesToData, Table.mapValues, Table.get?, Datum.ofOption, Datum.WrittenAs, Wire.fieldsWrittenAs,
        Wire.entriesWrittenAs, Wire.Environment.fields, Wire.Field.initial, Wire.Shape.initial, records,
        Json.nat]
    · decide
  exact ⟨hwell, hwritten, (ofJson?_of_writtenBy nestedDocument hwell).2.2 sparseJson hwritten⟩

end ProviderBindings.Schema
