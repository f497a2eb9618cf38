import ProviderBindings.Configuration.Argument
import ProviderBindings.Configuration.Lifecycle

/-!
Configuration documents: provider, resource and data source blocks by their addresses. A block replaces the
one that had its address, and an entity whose arguments cannot be rendered changes nothing.
-/

namespace ProviderBindings

structure Requirement where
  source : String
  version : String
  deriving DecidableEq, Repr

def Requirement.toJson (r : Requirement) : Json :=
  .object (Table.ofList [("source", .text r.source), ("version", .text r.version)])

abbrev Blocks := Table (Table Json)

namespace Blocks

def put (type name : String) (body : Json) (blocks : Blocks) : Blocks :=
  Table.insert type (Table.insert name body ((Table.get? type blocks).getD [])) blocks

def toJson (blocks : Blocks) : Json := .object (Table.mapValues Json.object blocks)

end Blocks

structure ConfigurationDocument where
  required : Table Requirement
  providers : Table Json
  resources : Blocks
  dataSources : Blocks
  deriving Repr

namespace ConfigurationDocument

def empty : ConfigurationDocument := ⟨[], [], [], []⟩

def withMember (name : String) (value : Json) : Json → Json
  | .object members => .object (Table.insert name value members)
  | v => v

def withMeta (dependencies : DependsOn) (lifecycle : Option Lifecycle) (body : Json) : Json :=
  let body := if dependencies.isEmpty then body else withMember "depends_on" dependencies.toJson body
  match lifecycle with
  | some l => withMember "lifecycle" (.object (Table.ofList l.members)) body
  | none => body

def addProvider (d : ConfigurationDocument) (name : String) (requirement : Requirement)
    (body : Except ConfigurationError Json) : Except ConfigurationError ConfigurationDocument :=
  body.map fun body =>
    { d with
      required := Table.insert name requirement d.required
      providers := Table.insert name body d.providers }

def addResource (d : ConfigurationDocument) (type name : String) (dependencies : DependsOn)
    (lifecycle : Option Lifecycle) (body : Except ConfigurationError Json) :
    Except ConfigurationError ConfigurationDocument :=
  body.map fun body =>
    { d with resources := d.resources.put type name (withMeta dependencies lifecycle body) }

def addDataSource (d : ConfigurationDocument) (type name : String)
    (body : Except ConfigurationError Json) : Except ConfigurationError ConfigurationDocument :=
  body.map fun body => { d with dataSources := d.dataSources.put type name body }

def part (name : String) (isEmpty : Bool) (value : Json) : List (String × Json) :=
  if isEmpty then [] else [(name, value)]

def toJson (d : ConfigurationDocument) : Json :=
  .object
    (part "data" d.dataSources.isEmpty d.dataSources.toJson ++
      part "provider" d.providers.isEmpty (.object d.providers) ++
      part "resource" d.resources.isEmpty d.resources.toJson ++
      part "terraform" d.required.isEmpty
        (.object [("required_providers", .object (Table.mapValues Requirement.toJson d.required))]))

end ConfigurationDocument

end ProviderBindings
