import ProviderBindings.Bindings
import ProviderBindings.Code.Render
import ProviderBindings.Graph.Disambiguation
import ProviderBindings.Provider.Tree

/-!
The source files of an entity: its graph, with unique names, gives the bindings, which are then rendered.
-/

namespace ProviderBindings

/-- Why an entity has no source files. Its siblings are not concerned. -/
inductive EntityError where
  | graph (e : GraphError)
  | names (c : NameCollision)
  | bindings (e : BindingError)
  | render (e : Code.RenderError)
  | output (c : PathClash)
  deriving DecidableEq, Repr

namespace EntityError

def message : EntityError → String
  | .graph e => e.message
  | .names c => c.message
  | .bindings e => e.message
  | .render e => e.message
  | .output c => c.message

def code : EntityError → String
  | .graph _ => "terragen::unsupported_type"
  | .names _ => "terragen::unresolved_name_collision"
  | .bindings _ => "terragen::name_collision"
  | .render _ => "terragen::render"
  | .output _ => PathClash.code

def help : EntityError → Option String
  | .graph _ => some "only bool, string, number, list, set, map and object types can be bound"
  | .output _ => some PathClash.help
  | _ => none

end EntityError

structure EntitySource where
  files : List SourceFile
  modules : List String
  deriving Repr

def Graph.disambiguated (g : Graph) : Except NameCollision Graph :=
  match g.disambiguate with
  | (g, none) => .ok g
  | (_, some c) => .error c

def rendered (version path : String) (f : Code.File) : Except EntityError SourceFile :=
  match f.render version with
  | .ok contents => .ok ⟨path, contents⟩
  | .error e => .error (.render e)

namespace Entity

def bindings? (e : Entity) (mount : ModulePath) : Except EntityError Bindings :=
  match Graph.ofBlock e.block with
  | .error x => .error (.graph x)
  | .ok g =>
      match g.disambiguated with
      | .error c => .error (.names c)
      | .ok g =>
          match e.bindings mount g with
          | .error x => .error (.bindings x)
          | .ok b => .ok b

/-- The source of an entity; `version` is the one that the header of each file tells. -/
def source? (e : Entity) (mount : ModulePath) (version : String) : Except EntityError EntitySource := do
  let b ← e.bindings? mount
  let file ← rendered version e.names.filePath b.file
  match b.nested with
  | none => .ok ⟨[file], [e.names.unit]⟩
  | some nested =>
      let nested ← rendered version e.names.nestedPath nested
      .ok ⟨[file, nested], [e.names.unit, e.names.nested]⟩

end Entity

end ProviderBindings
