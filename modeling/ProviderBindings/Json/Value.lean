import ProviderBindings.Number.Binary64
import ProviderBindings.Table

/-!
Values of the JSON data format. A number without fraction and exponent that fits 64 bits is an integer,
every other one a binary floating-point number; the members of an object are a table.
-/

namespace ProviderBindings

namespace Json

inductive Number where
  | integer (value : Int)
  | real (value : Binary64)
  deriving DecidableEq, Repr, Inhabited

end Json

inductive Json where
  | null
  | bool (value : Bool)
  | number (value : Json.Number)
  | text (value : String)
  | list (items : List Json)
  | object (members : List (String × Json))
  deriving Repr, Inhabited

namespace Json

def nat (n : Nat) : Json := .number (.integer n)

def ofOption {α : Type} (f : α → Json) : Option α → Json
  | none => .null
  | some a => f a

def texts (items : List String) : Json := .list (items.map .text)

def isNull : Json → Bool
  | .null => true
  | _ => false

def member? (key : String) : Json → Option Json
  | .object members => Table.get? key members
  | _ => none

end Json

end ProviderBindings
