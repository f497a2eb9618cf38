import ProviderBindings.ProviderSpec
import ProviderBindings.Schema.Document

/-!
Entities: what bindings are generated for, which is a provider's configuration, its resource types and its
data source types. All names of an entity's files and records come from its kind, its type name and its
provider.
-/

namespace ProviderBindings

inductive EntityKind where
  | provider
  | resource
  | dataSource
  deriving DecidableEq, Repr

def EntityKind.display : EntityKind → String
  | .provider => "provider"
  | .resource => "resource"
  | .dataSource => "data source"

structure Entity where
  kind : EntityKind
  typeName : String
  spec : ProviderSpec
  block : Schema.Block

namespace Entity

def ofProvider (spec : ProviderSpec) (block : Schema.Block) : Entity :=
  ⟨.provider, spec.localName, spec, block⟩

def ofResource (spec : ProviderSpec) (typeName : String) (block : Schema.Block) : Entity :=
  ⟨.resource, typeName, spec, block⟩

def ofDataSource (spec : ProviderSpec) (typeName : String) (block : Schema.Block) : Entity :=
  ⟨.dataSource, typeName, spec, block⟩

def display (e : Entity) : String := e.kind.display ++ " `" ++ e.typeName ++ "`"

def shortName (e : Entity) : String :=
  Naming.shortTypeName (Naming.providerType e.spec.source) e.typeName

end Entity

structure EntityNames where
  record : String
  args : String
  attributes : String
  state : String
  /-- The module of the provider's directory. -/
  directory : String
  /-- The module of the entity's own file. -/
  unit : String
  /-- The module of the records of nested shapes. -/
  nested : String
  deriving DecidableEq, Repr

def Entity.record (e : Entity) : String :=
  match e.kind with
  | .provider => "Provider"
  | .resource => Naming.recordName e.shortName
  | .dataSource => "Data" ++ Naming.pascalCase e.shortName

def Entity.unit (e : Entity) : String :=
  match e.kind with
  | .provider => "provider"
  | .resource => Naming.moduleName ("resource_" ++ e.typeName)
  | .dataSource => Naming.moduleName ("data_" ++ e.typeName)

def Entity.nestedUnit (e : Entity) : String :=
  match e.kind with
  | .provider => Naming.moduleName (e.spec.localName ++ "_config")
  | .resource => Naming.moduleName e.shortName
  | .dataSource => Naming.moduleName ("data_" ++ e.shortName)

def Entity.names (e : Entity) : EntityNames :=
  ⟨e.record, e.record ++ "Args", e.record ++ "Attributes", e.record ++ "State", e.spec.directory, e.unit,
    e.nestedUnit⟩

def sourcePath (directory unit : String) : String :=
  Naming.fileStem directory ++ "/" ++ Naming.fileStem unit ++ ".rs"

def EntityNames.filePath (n : EntityNames) : String := sourcePath n.directory n.unit

def EntityNames.nestedPath (n : EntityNames) : String := sourcePath n.directory n.nested

end ProviderBindings
