import ProviderBindings.Bindings.Source

/-!
The source of a provider: the files of its configuration, its resource types and its data source types,
and the index that declares their modules. An entity that fails costs itself only.
-/

namespace ProviderBindings

structure EntityFailure where
  entity : String
  error : EntityError
  deriving Repr

structure ProviderSource where
  /-- The module of the provider's directory. -/
  directory : String
  tree : ProviderTree
  /-- The number of entities, with those that failed. -/
  entities : Nat
  failures : List EntityFailure
  deriving Repr

def indexName : String := "mod.rs"

namespace ProviderSpec

def entities (spec : ProviderSpec) (schema : Schema.Provider) : List Entity :=
  .ofProvider spec schema.provider.block ::
    schema.resources.map (fun r => .ofResource spec r.1 r.2.block) ++
      schema.dataSources.map fun d => .ofDataSource spec d.1 d.2.block

def indexPath (spec : ProviderSpec) : String := spec.stem ++ "/" ++ indexName

def indexDoc (spec : ProviderSpec) : String :=
  "Bindings for the `" ++ spec.localName ++ "` provider (`" ++ spec.source ++ "` " ++ spec.version ++ ")."

end ProviderSpec

def ProviderTree.addEntity (t : ProviderTree) (mount : ModulePath) (version : String) (e : Entity) :
    Except EntityError ProviderTree :=
  match e.source? mount version with
  | .error x => .error x
  | .ok source =>
      match t.insert e.display source.files source.modules with
      | .error clash => .error (.output clash)
      | .ok t => .ok t

def ProviderTree.addEntities (mount : ModulePath) (version : String) (t : ProviderTree) :
    List Entity → ProviderTree × List EntityFailure
  | [] => (t, [])
  | e :: rest =>
      match t.addEntity mount version e with
      | .ok t => t.addEntities mount version rest
      | .error x =>
          let (t, failures) := t.addEntities mount version rest
          (t, ⟨e.display, x⟩ :: failures)

def ProviderSpec.source? (spec : ProviderSpec) (schema : Schema.Provider) (mount : ModulePath)
    (version : String) : Except Code.RenderError ProviderSource := do
  let entities := spec.entities schema
  let (tree, failures) := (ProviderTree.empty spec.indexPath).addEntities mount version entities
  let index ← (moduleIndex spec.indexDoc tree.modules).render version
  .ok ⟨spec.directory, tree.setIndex index, entities.length, failures⟩

def rootIndex (version : String) (modules : List String) : Except Code.RenderError SourceFile :=
  ((moduleIndex "Generated provider bindings." (sortModules modules)).render version).map fun contents =>
    ⟨indexName, contents⟩

end ProviderBindings
