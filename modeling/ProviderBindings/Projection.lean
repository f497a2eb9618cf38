import ProviderBindings.ValueType
import ProviderBindings.Code.Expr

/-!
The three projections of an attribute type: what may be given as an argument, what is read back from the
state, and what a reference to the attribute is. Objects have none, since they are shapes of their own.
-/

namespace ProviderBindings

open Code (Ty Expr)

structure MappingError where
  type : String
  deriving DecidableEq, Repr

def MappingError.message (e : MappingError) : String :=
  "object type `" ++ e.type ++ "` must be promoted to a node before type mapping"

namespace ValueType

def notMapped (fields : List (String × ValueType)) (optional : List String) : MappingError :=
  ⟨(ValueType.object fields optional).display⟩

def argumentType : ValueType → Except MappingError Ty
  | .string => .ok (.support .stringValue [])
  | .number => .ok (.support .numberValue [])
  | .bool => .ok (.support .boolValue [])
  | .list element => (argumentType element).map fun t => .support .listValue [t]
  | .set element => (argumentType element).map fun t => .support .setValue [t]
  | .map element => (argumentType element).map fun t => .support .mapValue [t]
  | .object fields optional => .error (notMapped fields optional)

def stateType : ValueType → Except MappingError Ty
  | .string => .ok .string
  | .number => .ok .float
  | .bool => .ok .bool
  | .list element => (stateType element).map .vec
  | .set element => (stateType element).map .vec
  | .map element => (stateType element).map .map
  | .object fields optional => .error (notMapped fields optional)

def referenceType : ValueType → Except MappingError Ty
  | .string => .ok (.support .stringRef [])
  | .number => .ok (.support .numberRef [])
  | .bool => .ok (.support .boolRef [])
  | .list element => (referenceType element).map fun t => .support .listRef [t]
  | .set element => (referenceType element).map fun t => .support .setRef [t]
  | .map element => (referenceType element).map fun t => .support .mapRef [t]
  | .object fields optional => .error (notMapped fields optional)

structure Projections where
  argument : Ty
  state : Ty
  reference : Ty

def project (t : ValueType) : Except MappingError Projections := do
  let argument ← t.argumentType
  let state ← t.stateType
  let reference ← t.referenceType
  .ok ⟨argument, state, reference⟩

def referenceConstructor (t : ValueType) (base : Expr) : Except MappingError Expr :=
  t.referenceType.map fun r => .fromReference r base

end ValueType

end ProviderBindings
