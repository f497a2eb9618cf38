import ProviderBindings.Schema.Document
import ProviderBindings.Wire.Decode

/-!
The records of a schema document as they are written, and the document that decoded data describe.
-/

namespace ProviderBindings.Schema

open Wire (Datum Environment Failure Field RecordShape Shape)

def records : Environment :=
  [⟨"SchemaDocument",
      [⟨"format_version", .text, .plain⟩,
        ⟨"provider_schemas", .table (.record "ProviderSchema"), .plain⟩]⟩,
    ⟨"ProviderSchema",
      [⟨"provider", .record "SchemaEntry", .plain⟩,
        ⟨"resource_schemas", .table (.record "SchemaEntry"), .plain⟩,
        ⟨"data_source_schemas", .table (.record "SchemaEntry"), .plain⟩]⟩,
    ⟨"SchemaEntry",
      [⟨"version", .count, .plain⟩,
        ⟨"block", .record "Block", .plain⟩]⟩,
    ⟨"Block",
      [⟨"attributes", .table (.record "Attribute"), .plain⟩,
        ⟨"block_types", .table (.record "BlockType"), .plain⟩,
        ⟨"description", .text, .optional⟩,
        ⟨"deprecated", .flag, .plain⟩]⟩,
    ⟨"Attribute",
      [⟨"type", .json, .optional⟩,
        ⟨"nested_type", .record "NestedType", .optional⟩,
        ⟨"description", .text, .optional⟩,
        ⟨"required", .flag, .plain⟩,
        ⟨"optional", .flag, .plain⟩,
        ⟨"computed", .flag, .plain⟩,
        ⟨"sensitive", .flag, .plain⟩,
        ⟨"deprecated", .flag, .plain⟩]⟩,
    ⟨"NestedType",
      [⟨"attributes", .table (.record "Attribute"), .plain⟩,
        ⟨"nesting_mode", .text, .plain⟩,
        ⟨"min_items", .count, .optional⟩,
        ⟨"max_items", .count, .optional⟩]⟩,
    ⟨"BlockType",
      [⟨"nesting_mode", .text, .plain⟩,
        ⟨"block", .record "Block", .plain⟩,
        ⟨"min_items", .count, .plain⟩,
        ⟨"max_items", .count, .plain⟩]⟩]

def textOf : Datum → String
  | .text s => s
  | _ => ""

def flagOf : Datum → Bool
  | .flag b => b
  | _ => false

def countOf : Datum → Nat
  | .count n => n
  | _ => 0

def optionOf {α : Type} (f : Datum → α) : Datum → Option α
  | .present d => some (f d)
  | _ => none

def jsonOf : Datum → Json
  | .json v => v
  | _ => .null

mutual
def Attribute.ofDatum : Datum → Attribute
  | .record [type, .present nested, description, required, optional, computed, sensitive, deprecated] =>
      ⟨optionOf jsonOf type, some (NestedType.ofDatum nested), optionOf textOf description,
        flagOf required, flagOf optional, flagOf computed, flagOf sensitive, flagOf deprecated⟩
  | .record [type, _, description, required, optional, computed, sensitive, deprecated] =>
      ⟨optionOf jsonOf type, none, optionOf textOf description,
        flagOf required, flagOf optional, flagOf computed, flagOf sensitive, flagOf deprecated⟩
  | _ => ⟨none, none, none, false, false, false, false, false⟩

def NestedType.ofDatum : Datum → NestedType
  | .record [.table attributes, nestingMode, minItems, maxItems] =>
      ⟨attributesOfData attributes, textOf nestingMode, optionOf countOf minItems,
        optionOf countOf maxItems⟩
  | _ => ⟨[], "", none, none⟩

def attributesOfData : List (String × Datum) → List (String × Attribute)
  | [] => []
  | (name, d) :: rest => (name, Attribute.ofDatum d) :: attributesOfData rest
end

mutual
def Block.ofDatum : Datum → Block
  | .record [.table attributes, .table blockTypes, description, deprecated] =>
      ⟨attributesOfData attributes, blockTypesOfData blockTypes, optionOf textOf description,
        flagOf deprecated⟩
  | _ => .empty

def BlockType.ofDatum : Datum → BlockType
  | .record [nestingMode, block, minItems, maxItems] =>
      ⟨textOf nestingMode, Block.ofDatum block, countOf minItems, countOf maxItems⟩
  | _ => ⟨"", .empty, 0, 0⟩

def blockTypesOfData : List (String × Datum) → List (String × BlockType)
  | [] => []
  | (name, d) :: rest => (name, BlockType.ofDatum d) :: blockTypesOfData rest
end

def Entry.ofDatum : Datum → Entry
  | .record [version, block] => ⟨countOf version, Block.ofDatum block⟩
  | _ => .empty

def tableOf {α : Type} (f : Datum → α) : Datum → Table α
  | .table entries => Table.mapValues f entries
  | _ => []

def Provider.ofDatum : Datum → Provider
  | .record [provider, resources, dataSources] =>
      ⟨Entry.ofDatum provider, tableOf Entry.ofDatum resources, tableOf Entry.ofDatum dataSources⟩
  | _ => ⟨.empty, [], []⟩

def Document.ofDatum : Datum → Document
  | .record [formatVersion, providers] => ⟨textOf formatVersion, tableOf Provider.ofDatum providers⟩
  | _ => ⟨"", []⟩

def Block.ofJson? (v : Json) : Except Failure Block :=
  (Wire.decodeValue records (.record "Block") v).map Block.ofDatum

def Provider.ofJson? (v : Json) : Except Failure Provider :=
  (Wire.decodeValue records (.record "ProviderSchema") v).map Provider.ofDatum

def Document.ofJson? (v : Json) : Except Failure Document :=
  (Wire.decodeValue records (.record "SchemaDocument") v).map Document.ofDatum

def Block.ofBytes? (bytes : List UInt8) : Except Failure Block :=
  (Wire.decodeBytes records (.record "Block") bytes).map Block.ofDatum

def Provider.ofBytes? (bytes : List UInt8) : Except Failure Provider :=
  (Wire.decodeBytes records (.record "ProviderSchema") bytes).map Provider.ofDatum

def Document.ofBytes? (bytes : List UInt8) : Except Failure Document :=
  (Wire.decodeBytes records (.record "SchemaDocument") bytes).map Document.ofDatum

def unreadable (message : String) : String := "invalid provider schema JSON: " ++ message

end ProviderBindings.Schema
