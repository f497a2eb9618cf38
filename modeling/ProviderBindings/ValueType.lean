import ProviderBindings.Json.Printer

/-!
The types of attributes, and their encoding as JSON type expressions: a name, or a list of a constructor
and its operands.
-/

namespace ProviderBindings

inductive Nesting where
  | single
  | list
  | set
  | map
  deriving DecidableEq, Repr

def Nesting.name : Nesting → String
  | .single => "single"
  | .list => "list"
  | .set => "set"
  | .map => "map"

/-- Fields of an object are a table; the optional ones among them are listed in increasing order. -/
inductive ValueType where
  | bool
  | string
  | number
  | list (element : ValueType)
  | set (element : ValueType)
  | map (element : ValueType)
  | object (fields : List (String × ValueType)) (optional : List String)
  deriving Repr, Inhabited

inductive TypeError where
  | unsupported (head : String)
  | malformed (text : String)
  deriving DecidableEq, Repr

def TypeError.message : TypeError → String
  | .unsupported head => "unsupported type `" ++ head ++ "`"
  | .malformed text => "malformed type expression `" ++ text ++ "`"

namespace ValueType

def insertName (name : String) : List String → List String
  | [] => [name]
  | n :: rest =>
      if name < n then name :: n :: rest
      else if name = n then n :: rest
      else n :: insertName name rest

def namesOf (done : List String) : List Json → Except TypeError (List String)
  | [] => .ok done
  | .text name :: rest => namesOf (insertName name done) rest
  | other :: _ => .error (.malformed other.print)

mutual
/-- Decodes a type expression. A name or constructor outside the closed set is unsupported, anything else
that is no type expression is malformed. -/
def ofJson? : Json → Except TypeError ValueType
  | .text "bool" => .ok .bool
  | .text "string" => .ok .string
  | .text "number" => .ok .number
  | .text other => .error (.unsupported other)
  | .list [.text "list", element] => (ofJson? element).map .list
  | .list [.text "set", element] => (ofJson? element).map .set
  | .list [.text "map", element] => (ofJson? element).map .map
  | .list [.text "object", .object fields] => do
      let fields ← fieldsOfJson? [] fields
      .ok (.object fields [])
  | .list [.text "object", .object fields, .list optional] => do
      let fields ← fieldsOfJson? [] fields
      let optional ← namesOf [] optional
      .ok (.object fields optional)
  | .list (.text head :: operands) =>
      if head = "list" ∨ head = "set" ∨ head = "map" ∨ head = "object" then
        .error (.malformed (Json.list (.text head :: operands)).print)
      else .error (.unsupported head)
  | other => .error (.malformed other.print)

def fieldsOfJson? (done : Table ValueType) :
    List (String × Json) → Except TypeError (Table ValueType)
  | [] => .ok done
  | (name, v) :: rest => do
      let t ← ofJson? v
      fieldsOfJson? (Table.insert name t done) rest
end

mutual
def toJson : ValueType → Json
  | .bool => .text "bool"
  | .string => .text "string"
  | .number => .text "number"
  | .list element => .list [.text "list", toJson element]
  | .set element => .list [.text "set", toJson element]
  | .map element => .list [.text "map", toJson element]
  | .object fields optional =>
      .list [.text "object", .object (fieldsToJson fields), Json.texts optional]

def fieldsToJson : List (String × ValueType) → List (String × Json)
  | [] => []
  | (name, t) :: rest => (name, toJson t) :: fieldsToJson rest
end

mutual
def display : ValueType → String
  | .bool => "bool"
  | .string => "string"
  | .number => "number"
  | .list element => "list(" ++ display element ++ ")"
  | .set element => "set(" ++ display element ++ ")"
  | .map element => "map(" ++ display element ++ ")"
  | .object fields optional => "object(\x7b" ++ displayFields optional fields ++ "\x7d)"

def displayFields (optional : List String) : List (String × ValueType) → String
  | [] => ""
  | [(name, t)] => displayField optional name (display t)
  | (name, t) :: rest =>
      displayField optional name (display t) ++ ", " ++ displayFields optional rest

def displayField (optional : List String) (name shown : String) : String :=
  if optional.contains name then name ++ " = optional(" ++ shown ++ ")" else name ++ " = " ++ shown
end

def wrappers : ValueType → List Nesting
  | .list element => .list :: wrappers element
  | .set element => .set :: wrappers element
  | .map element => .map :: wrappers element
  | _ => []

def inner : ValueType → ValueType
  | .list element => inner element
  | .set element => inner element
  | .map element => inner element
  | t => t

def isObject : ValueType → Bool
  | .object _ _ => true
  | _ => false

def embedsObject (t : ValueType) : Bool := t.inner.isObject

end ValueType

end ProviderBindings
