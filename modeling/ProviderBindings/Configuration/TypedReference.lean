import ProviderBindings.Code.Type
import ProviderBindings.Configuration.Reference

/-!
References with the types that bindings give them. The type says which steps lead on: a position or a splat
from a list, a splat from a set, a key from a map, and none from a scalar.
-/

namespace ProviderBindings

open Code (Ty)

structure TypedReference where
  type : Ty
  reference : Reference
  deriving Repr

namespace TypedReference

def index? (r : TypedReference) (position : Nat) : Option TypedReference :=
  match r.type with
  | .support .listRef [element] => some ⟨element, r.reference.step (.index position)⟩
  | _ => none

def splat? (r : TypedReference) : Option TypedReference :=
  match r.type with
  | .support .listRef [element] => some ⟨element, r.reference.step .splat⟩
  | .support .setRef [element] => some ⟨element, r.reference.step .splat⟩
  | _ => none

def key? (r : TypedReference) (key : String) : Option TypedReference :=
  match r.type with
  | .support .mapRef [value] => some ⟨value, r.reference.step (.key key)⟩
  | _ => none

def headName : Ty → String
  | .support item _ => item.id
  | .named _ name => name
  | t => t.text

def shown (r : TypedReference) : String := headName r.type ++ "(" ++ r.reference.shown ++ ")"

end TypedReference

end ProviderBindings
