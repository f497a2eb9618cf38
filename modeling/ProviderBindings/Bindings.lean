import ProviderBindings.Bindings.Primary
import ProviderBindings.Bindings.Record
import ProviderBindings.ModulePath

/-!
The bindings of an entity: a file with its primary record and the records of its root, and, when its graph
has nodes, a file with the records of every node. Providers are configured but neither referred to nor read
back, so their shapes have argument records only.
-/

namespace ProviderBindings

open Code (Item)

structure Bindings where
  file : Code.File
  /-- The records of nested shapes. -/
  nested : Option Code.File
  deriving Repr

namespace Entity

def isConfigurationOnly (e : Entity) : Bool := e.kind = .provider

def recordItems (e : Entity) (s : Shape) (qualifier : Option String) (t : Naming.RecordTriad)
    (argsDoc attributesDoc stateDoc : String) : Except BindingError (List Item) := do
  let args ← s.argumentRecord qualifier t.args [argsDoc]
  if e.isConfigurationOnly then .ok [.struct args]
  else
    let attributes ← s.attributeItems qualifier t.attributes [attributesDoc]
    let state ← s.stateRecord qualifier t.state [stateDoc]
    .ok (.struct args :: attributes ++ [.struct state])

def recordNames (e : Entity) (n : Node) : List String :=
  if e.isConfigurationOnly then [n.triad.args] else n.triad.toList

def nodeItems (e : Entity) (g : Graph) (n : Node) : Except BindingError (List Item) :=
  let shape := Shape.ofNode g n
  e.recordItems shape none n.triad ("Arguments of `" ++ shape.dotted ++ "`.")
    ("Typed references into `" ++ shape.dotted ++ "`.") ("Decoded state of `" ++ shape.dotted ++ "`.")

/-- The records of nodes one after another; `taken` holds the record names of those before. -/
def nestedItems (e : Entity) (g : Graph) (taken : List String) :
    List Node → Except BindingError (List Item)
  | [] => .ok []
  | n :: rest =>
      match (e.recordNames n).find? taken.contains with
      | some name => .error (.duplicateRecord e.names.nestedPath name)
      | none => do
          let items ← e.nodeItems g n
          let others ← e.nestedItems g (e.recordNames n ++ taken) rest
          .ok (items ++ others)

def nestedFile (e : Entity) (g : Graph) : Except BindingError Code.File :=
  (e.nestedItems g [] g.nodes).map fun items =>
    ⟨["Nested shapes of the " ++ e.display ++ "."], [], items⟩

def fileDocs (e : Entity) : List String :=
  ("Bindings for the " ++ e.display ++ " of `" ++ e.spec.source ++ "` " ++ e.spec.version ++ ".") ::
    (match e.block.description with
      | some d => "" :: Text.trimmedLines d
      | none => [])

/-- The path under which the entity's file finds the records of nested shapes. -/
def nestedModule (e : Entity) (mount : ModulePath) : ModulePath :=
  (mount.join e.names.directory).join e.names.nested

def entityFile (e : Entity) (mount : ModulePath) (g : Graph) : Except BindingError Code.File := do
  let records ← e.recordItems (Shape.ofRoot g) (some e.names.nested)
    ⟨e.names.args, e.names.attributes, e.names.state⟩ ("Arguments of " ++ e.display ++ ".")
    ("Typed references to the attributes of " ++ e.display ++ ".")
    ("Decoded state of " ++ e.display ++ ".")
  let uses := if g.nodes.isEmpty then [] else [(e.nestedModule mount).segments]
  .ok ⟨e.fileDocs, uses, e.primaryItems ++ records⟩

/-- The bindings of an entity with a graph, for a crate that has the output at `mount`. -/
def bindings (e : Entity) (mount : ModulePath) (g : Graph) : Except BindingError Bindings := do
  let nested ← if g.nodes.isEmpty then .ok none else (e.nestedFile g).map some
  let file ← e.entityFile mount g
  .ok ⟨file, nested⟩

end Entity

def moduleIndex (doc : String) (modules : List String) : Code.File :=
  ⟨[doc], [], modules.map Item.module_⟩

end ProviderBindings
