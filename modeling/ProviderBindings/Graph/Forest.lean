import ProviderBindings.ValueType
import ProviderBindings.Schema.Document

/-!
The shape of an entity as a forest. A shape has leaf attributes and child shapes; an attribute whose type
holds an object, or that declares fields of its own, is a child and never a leaf.
-/

namespace ProviderBindings

structure Docs where
  description : Option String
  deprecated : Bool
  sensitive : Bool
  deriving DecidableEq, Repr, Inhabited

def Docs.none : Docs := ⟨Option.none, false, false⟩

structure Leaf where
  name : String
  type : ValueType
  isArgument : Bool
  isRequired : Bool
  docs : Docs
  deriving Repr, Inhabited

/-- What is known of a child shape apart from its members. At most zero items means no bound. -/
structure Traits where
  isArgument : Bool
  isRequired : Bool
  nesting : List Nesting
  minItems : Nat
  maxItems : Nat
  docs : Docs
  deriving DecidableEq, Repr, Inhabited

inductive Branch where
  | node (name : String) (traits : Traits) (leaves : List Leaf) (children : List Branch)
  deriving Inhabited

inductive GraphError where
  | unsupportedType (path : String) (source : TypeError)
  | unsupportedNesting (path mode : String)
  deriving DecidableEq, Repr

def GraphError.message : GraphError → String
  | .unsupportedType path source => "attribute `" ++ path ++ "`: " ++ source.message
  | .unsupportedNesting path mode => "block `" ++ path ++ "`: unsupported nesting mode `" ++ mode ++ "`"

def dottedPath (ancestors : List String) (name : String) : String :=
  let path := ".".intercalate ancestors
  if path.isEmpty then name else path ++ "." ++ name

namespace Schema

def attributeNesting? : String → Option (List Nesting)
  | "single" | "" => some []
  | "list" => some [.list]
  | "set" => some [.set]
  | "map" => some [.map]
  | _ => none

/-- How the nesting mode of a block holds its shape; map blocks count as lists. -/
def blockNesting? : String → Option (List Nesting)
  | "single" | "group" => some []
  | "list" => some [.list]
  | "set" => some [.set]
  | "map" => some [.list]
  | _ => none

def nestingOr (path mode : String) : Option (List Nesting) → Except GraphError (List Nesting)
  | some nesting => .ok nesting
  | none => .error (.unsupportedNesting path mode)

end Schema

structure Members where
  leaves : List Leaf
  children : List Branch
  deriving Inhabited

namespace Members

def empty : Members := ⟨[], []⟩

def leaf (l : Leaf) : Members := ⟨[l], []⟩

def child (b : Branch) : Members := ⟨[], [b]⟩

def append (a b : Members) : Members := ⟨a.leaves ++ b.leaves, a.children ++ b.children⟩

def countOfFlag (b : Bool) : Nat := if b then 1 else 0

def objectTraits (isArgument isRequired : Bool) (nesting : List Nesting) (docs : Docs) : Traits :=
  ⟨isArgument, isRequired, nesting, countOfFlag isRequired, countOfFlag nesting.isEmpty, docs⟩

mutual
/-- A field of a decoded type: the object behind its wrappers makes it a child, otherwise it is a leaf.
`crossed` holds the wrappers above `current`, and `whole` is the type of the field. -/
def ofType (name : String) (whole : ValueType) (isArgument isRequired : Bool) (docs : Docs)
    (crossed : List Nesting) : ValueType → Members
  | .list element => ofType name whole isArgument isRequired docs (crossed ++ [.list]) element
  | .set element => ofType name whole isArgument isRequired docs (crossed ++ [.set]) element
  | .map element => ofType name whole isArgument isRequired docs (crossed ++ [.map]) element
  | .object fields optional =>
      let inner := ofFields isArgument optional fields
      .child (.node name (objectTraits isArgument isRequired crossed docs) inner.leaves inner.children)
  | .bool => .leaf ⟨name, whole, isArgument, isRequired, docs⟩
  | .string => .leaf ⟨name, whole, isArgument, isRequired, docs⟩
  | .number => .leaf ⟨name, whole, isArgument, isRequired, docs⟩

/-- The fields of an object type can be set when the attribute can, and are then required unless the type
lists them as optional. -/
def ofFields (isArgument : Bool) (optional : List String) : List (String × ValueType) → Members
  | [] => .empty
  | (name, type) :: rest =>
      (ofType name type isArgument (isArgument && !optional.contains name) .none [] type).append
        (ofFields isArgument optional rest)
end

def ofField (name : String) (type : ValueType) (isArgument isRequired : Bool) (docs : Docs) : Members :=
  ofType name type isArgument isRequired docs [] type

def decodedType (path : String) : Option Json → Except GraphError ValueType
  | some expression =>
      match ValueType.ofJson? expression with
      | .ok type => .ok type
      | .error source => .error (.unsupportedType path source)
  | none => .error (.unsupportedType path (.malformed "<missing>"))

mutual
def ofAttribute (ancestors : List String) (name : String) : Schema.Attribute → Except GraphError Members
  | a@⟨_, some nested, description, _, _, _, sensitive, deprecated⟩ =>
      ofNested ancestors name a.isArgument a.required ⟨description, deprecated, sensitive⟩ nested
  | a@⟨type, none, description, _, _, _, sensitive, deprecated⟩ => do
      let type ← decodedType (dottedPath ancestors name) type
      .ok (ofField name type a.isArgument a.required ⟨description, deprecated, sensitive⟩)

def ofNested (ancestors : List String) (name : String) (isArgument isRequired : Bool) (docs : Docs) :
    Schema.NestedType → Except GraphError Members
  | ⟨attributes, mode, minItems, maxItems⟩ => do
      let nesting ← Schema.nestingOr (dottedPath ancestors name) mode (Schema.attributeNesting? mode)
      let inner ← ofAttributes (ancestors ++ [name]) attributes
      .ok (.child (.node name
        ⟨isArgument, isRequired, nesting, minItems.getD (countOfFlag isRequired),
          maxItems.getD (countOfFlag nesting.isEmpty), docs⟩
        inner.leaves inner.children))

def ofAttributes (ancestors : List String) :
    List (String × Schema.Attribute) → Except GraphError Members
  | [] => .ok .empty
  | (name, a) :: rest => do
      let first ← ofAttribute ancestors name a
      let others ← ofAttributes ancestors rest
      .ok (first.append others)
end

mutual
def ofBlock (ancestors : List String) : Schema.Block → Except GraphError Members
  | ⟨attributes, blockTypes, _, _⟩ => do
      let first ← ofAttributes ancestors attributes
      let others ← ofBlockTypes ancestors blockTypes
      .ok (first.append others)

def ofBlockType (ancestors : List String) (name : String) : Schema.BlockType → Except GraphError Members
  | ⟨mode, ⟨attributes, blockTypes, description, deprecated⟩, minItems, maxItems⟩ => do
      let nesting ← Schema.nestingOr (dottedPath ancestors name) mode (Schema.blockNesting? mode)
      let inner ← ofBlock (ancestors ++ [name]) ⟨attributes, blockTypes, description, deprecated⟩
      .ok (.child (.node name
        ⟨true, minItems == 1 && maxItems == 1, nesting, minItems, maxItems,
          ⟨description, deprecated, false⟩⟩
        inner.leaves inner.children))

def ofBlockTypes (ancestors : List String) :
    List (String × Schema.BlockType) → Except GraphError Members
  | [] => .ok .empty
  | (name, b) :: rest => do
      let first ← ofBlockType ancestors name b
      let others ← ofBlockTypes ancestors rest
      .ok (first.append others)
end

end Members

end ProviderBindings
