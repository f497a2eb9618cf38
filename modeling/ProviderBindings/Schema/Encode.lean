import ProviderBindings.Schema.Document

/-!
The JSON value that writes every field of every record of a document. A missing optional field is null.
-/

namespace ProviderBindings.Schema

/-- The object with the given members; the last of several equal keys stays. -/
def members (pairs : List (String × Json)) : Json := .object (Table.ofList pairs)

mutual
def Attribute.toJson : Attribute → Json
  | ⟨type, nested, description, required, optional, computed, sensitive, deprecated⟩ =>
      members
        [("type", type.getD .null),
          ("nested_type", match nested with
            | some n => NestedType.toJson n
            | none => .null),
          ("description", Json.ofOption .text description), ("required", .bool required),
          ("optional", .bool optional), ("computed", .bool computed),
          ("sensitive", .bool sensitive), ("deprecated", .bool deprecated)]

def NestedType.toJson : NestedType → Json
  | ⟨attributes, nestingMode, minItems, maxItems⟩ =>
      members
        [("attributes", .object (attributesToJson attributes)), ("nesting_mode", .text nestingMode),
          ("min_items", Json.ofOption .nat minItems), ("max_items", Json.ofOption .nat maxItems)]

def attributesToJson : List (String × Attribute) → List (String × Json)
  | [] => []
  | (name, a) :: rest => (name, Attribute.toJson a) :: attributesToJson rest
end

mutual
def Block.toJson : Block → Json
  | ⟨attributes, blockTypes, description, deprecated⟩ =>
      members
        [("attributes", .object (attributesToJson attributes)),
          ("block_types", .object (blockTypesToJson blockTypes)),
          ("description", Json.ofOption .text description), ("deprecated", .bool deprecated)]

def BlockType.toJson : BlockType → Json
  | ⟨nestingMode, block, minItems, maxItems⟩ =>
      members
        [("nesting_mode", .text nestingMode), ("block", Block.toJson block),
          ("min_items", .nat minItems), ("max_items", .nat maxItems)]

def blockTypesToJson : List (String × BlockType) → List (String × Json)
  | [] => []
  | (name, b) :: rest => (name, BlockType.toJson b) :: blockTypesToJson rest
end

def Entry.toJson (e : Entry) : Json :=
  members [("version", .nat e.version), ("block", e.block.toJson)]

def Provider.toJson (p : Provider) : Json :=
  members
    [("provider", p.provider.toJson),
      ("resource_schemas", .object (Table.mapValues Entry.toJson p.resources)),
      ("data_source_schemas", .object (Table.mapValues Entry.toJson p.dataSources))]

def Document.toJson (d : Document) : Json :=
  members
    [("format_version", .text d.formatVersion),
      ("provider_schemas", .object (Table.mapValues Provider.toJson d.providers))]

end ProviderBindings.Schema
