import ProviderBindings.Json.Value

/-!
Schema documents: for each provider its configuration block and the blocks of its resource and data source
types. Attribute types stay undecoded, so that a type outside the closed set costs one entity only.
-/

namespace ProviderBindings.Schema

mutual
/-- Exactly one of `type` and `nested` is given in a well-formed document; `nested` describes an object
whose fields have flags of their own. -/
structure Attribute where
  type : Option Json
  nested : Option NestedType
  description : Option String
  required : Bool
  optional : Bool
  computed : Bool
  sensitive : Bool
  deprecated : Bool

structure NestedType where
  attributes : List (String × Attribute)
  nestingMode : String
  minItems : Option Nat
  maxItems : Option Nat
end

def Attribute.isArgument (a : Attribute) : Bool := !(a.computed && !a.optional && !a.required)

mutual
structure Block where
  attributes : List (String × Attribute)
  blockTypes : List (String × BlockType)
  description : Option String
  deprecated : Bool

structure BlockType where
  nestingMode : String
  block : Block
  minItems : Nat
  maxItems : Nat
end

def Block.empty : Block := ⟨[], [], none, false⟩

instance : Inhabited Block := ⟨Block.empty⟩

structure Entry where
  version : Nat
  block : Block
  deriving Inhabited

def Entry.empty : Entry := ⟨0, .empty⟩

structure Provider where
  provider : Entry
  resources : Table Entry
  dataSources : Table Entry
  deriving Inhabited

structure Document where
  formatVersion : String
  providers : Table Provider
  deriving Inhabited

end ProviderBindings.Schema
