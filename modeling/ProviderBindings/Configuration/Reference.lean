import ProviderBindings.Json.Printer
import ProviderBindings.Text.Quoted

/-!
References: symbolic paths from a resource or data source to something below it. A reference is written as
a traversal, and as an interpolation where a value is expected.
-/

namespace ProviderBindings

namespace Reference

inductive Root where
  | resource (type name : String)
  | dataSource (type name : String)
  deriving DecidableEq, Repr

inductive Step where
  | attribute (name : String)
  | block (name : String)
  | index (position : Nat)
  | key (key : String)
  | splat
  deriving DecidableEq, Repr

end Reference

structure Reference where
  root : Reference.Root
  steps : List Reference.Step
  deriving DecidableEq, Repr

namespace Reference

def resource (type name : String) : Reference := ⟨.resource type name, []⟩

def dataSource (type name : String) : Reference := ⟨.dataSource type name, []⟩

def step (r : Reference) (s : Step) : Reference := { r with steps := r.steps ++ [s] }

def Root.traversal : Root → String
  | .resource type name => type ++ "." ++ name
  | .dataSource type name => "data." ++ type ++ "." ++ name

def Step.traversal : Step → String
  | .attribute name => "." ++ name
  | .block name => "." ++ name
  | .index position => "[" ++ toString position ++ "]"
  | .key k => "[" ++ Json.quote k ++ "]"
  | .splat => "[*]"

def traversal (r : Reference) : String := r.root.traversal ++ String.join (r.steps.map Step.traversal)

def interpolation (r : Reference) : String := "$\x7b" ++ r.traversal ++ "\x7d"

def toJson (r : Reference) : Json := .text r.interpolation

/-! ### The structure of a reference, as diagnostics show it -/

def Root.shown : Root → String
  | .resource type name =>
      "Resource \x7b resource_type: " ++ Text.quoted type ++ ", name: " ++ Text.quoted name ++ " \x7d"
  | .dataSource type name =>
      "DataSource \x7b data_source_type: " ++ Text.quoted type ++ ", name: " ++ Text.quoted name ++ " \x7d"

def Step.shown : Step → String
  | .attribute name => "Attribute(" ++ Text.quoted name ++ ")"
  | .block name => "Block(" ++ Text.quoted name ++ ")"
  | .index position => "Index(" ++ toString position ++ ")"
  | .key k => "Key(" ++ Text.quoted k ++ ")"
  | .splat => "Splat"

def shown (r : Reference) : String :=
  "Reference \x7b root: " ++ r.root.shown ++ ", steps: [" ++
    ", ".intercalate (r.steps.map Step.shown) ++ "] \x7d"

end Reference

end ProviderBindings
