import ProviderBindings.Configuration.Reference

/-!
Arguments: literals, at any depth with references in the place of values. References become
interpolations, literals stand for themselves.
-/

namespace ProviderBindings

inductive Argument where
  | text (value : String)
  | number (value : Binary64)
  | flag (value : Bool)
  | list (items : List Argument)
  /-- The items of a set stay in the order in which they are given. -/
  | set (items : List Argument)
  | map (entries : List (String × Argument))
  /-- A record of arguments, with its fields by schema name. -/
  | record (fields : List (String × Argument))
  /-- A map whose keys are no texts, which no configuration can hold. -/
  | unkeyed
  | reference (r : Reference)
  deriving Repr, Inhabited

inductive ConfigurationError where
  | keyNotText
  deriving DecidableEq, Repr

def ConfigurationError.fault : ConfigurationError → String
  | .keyNotText => "key must be a string"

def ConfigurationError.message (e : ConfigurationError) : String :=
  "failed to render configuration: " ++ e.fault

namespace Argument

mutual
def toJson? : Argument → Except ConfigurationError Json
  | .text value => .ok (.text value)
  | .number value => .ok (.number (.real value))
  | .flag value => .ok (.bool value)
  | .list items => (itemsToJson? items).map .list
  | .set items => (itemsToJson? items).map .list
  | .map entries => (entriesToJson? [] entries).map .object
  | .record fields => (entriesToJson? [] fields).map .object
  | .unkeyed => .error .keyNotText
  | .reference r => .ok r.toJson

def itemsToJson? : List Argument → Except ConfigurationError (List Json)
  | [] => .ok []
  | a :: rest => do
      let v ← toJson? a
      let vs ← itemsToJson? rest
      .ok (v :: vs)

def entriesToJson? (done : Table Json) : List (String × Argument) → Except ConfigurationError (Table Json)
  | [] => .ok done
  | (key, a) :: rest => do
      let v ← toJson? a
      entriesToJson? (Table.insert key v done) rest
end

def reference? : Argument → Option Reference
  | .reference r => some r
  | _ => none

def isLiteral (a : Argument) : Bool := a.reference?.isNone

end Argument

end ProviderBindings
