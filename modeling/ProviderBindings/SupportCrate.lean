/-!
The items of the crate that generated bindings depend on. Bindings name no other crate, and they name
these items by their full paths.
-/

namespace ProviderBindings

inductive SupportItem where
  | stringValue | numberValue | boolValue | listValue | setValue | mapValue
  | reference | stringRef | numberRef | boolRef | listRef | setRef | mapRef
  | fromReference | referencable
  | provider | resource | dataSource | dependsOn | lifecycle
  | configuration | configurationError | stateError
  | configurationFn | decodeState | nullAsDefault | serde
  deriving DecidableEq, Repr

namespace SupportItem

def crateName : String := "terra"

inductive Kind where
  | struct | alias | trait | function | module_
  deriving DecidableEq, Repr

def Kind.name : Kind → String
  | .struct => "Struct"
  | .alias => "Alias"
  | .trait => "Trait"
  | .function => "Function"
  | .module_ => "Module"

structure Info where
  path : List String
  kind : Kind
  arity : Nat
  description : String
  deriving DecidableEq, Repr

def all : List SupportItem :=
  [.stringValue, .numberValue, .boolValue, .listValue, .setValue, .mapValue, .reference, .stringRef,
    .numberRef, .boolRef, .listRef, .setRef, .mapRef, .fromReference, .referencable, .provider,
    .resource, .dataSource, .dependsOn, .lifecycle, .configuration, .configurationError, .stateError,
    .configurationFn, .decodeState, .nullAsDefault, .serde]

def info : SupportItem → Info
  | .stringValue => ⟨["StringValue"], .alias, 0, "String literal or reference."⟩
  | .numberValue => ⟨["NumberValue"], .alias, 0, "Number literal or reference."⟩
  | .boolValue => ⟨["BoolValue"], .alias, 0, "Bool literal or reference."⟩
  | .listValue => ⟨["ListValue"], .alias, 1, "List literal or reference."⟩
  | .setValue => ⟨["SetValue"], .alias, 1, "Set literal or reference."⟩
  | .mapValue => ⟨["MapValue"], .alias, 1, "String-keyed map literal or reference."⟩
  | .reference => ⟨["Reference"], .struct, 0, "Untyped traversal path."⟩
  | .stringRef => ⟨["StringRef"], .struct, 0, "Reference to a string."⟩
  | .numberRef => ⟨["NumberRef"], .struct, 0, "Reference to a number."⟩
  | .boolRef => ⟨["BoolRef"], .struct, 0, "Reference to a bool."⟩
  | .listRef => ⟨["ListRef"], .struct, 1, "Reference to a list of typed references."⟩
  | .setRef => ⟨["SetRef"], .struct, 1, "Reference to a set of typed references."⟩
  | .mapRef => ⟨["MapRef"], .struct, 1, "Reference to a map of typed references."⟩
  | .fromReference =>
      ⟨["FromReference"], .trait, 0, "Build a typed reference from an untyped one."⟩
  | .referencable =>
      ⟨["Referencable"], .trait, 0, "Entities that can be the root of a reference."⟩
  | .provider => ⟨["Provider"], .trait, 0, "Provider configuration contract."⟩
  | .resource => ⟨["Resource"], .trait, 0, "Managed resource contract."⟩
  | .dataSource => ⟨["DataSource"], .trait, 0, "Data source contract."⟩
  | .dependsOn => ⟨["DependsOn"], .struct, 0, "Explicit dependency list."⟩
  | .lifecycle => ⟨["Lifecycle"], .struct, 0, "Resource lifecycle policy."⟩
  | .configuration => ⟨["Configuration"], .alias, 0, "Rendered configuration body."⟩
  | .configurationError =>
      ⟨["ConfigurationError"], .struct, 0, "Failure to render a configuration body."⟩
  | .stateError => ⟨["StateError"], .struct, 0, "Failure to decode resource state."⟩
  | .configurationFn =>
      ⟨["configuration"], .function, 0, "Render an argument record into a configuration body."⟩
  | .decodeState =>
      ⟨["decode_state"], .function, 1, "Decode a JSON state payload into a state record."⟩
  | .nullAsDefault =>
      ⟨["de", "null_as_default"], .function, 1, "Deserialize `null` as the field's default."⟩
  | .serde => ⟨["serde"], .module_, 0, "Re-exported serde crate."⟩

def id : SupportItem → String
  | .stringValue => "StringValue"
  | .numberValue => "NumberValue"
  | .boolValue => "BoolValue"
  | .listValue => "ListValue"
  | .setValue => "SetValue"
  | .mapValue => "MapValue"
  | .reference => "Reference"
  | .stringRef => "StringRef"
  | .numberRef => "NumberRef"
  | .boolRef => "BoolRef"
  | .listRef => "ListRef"
  | .setRef => "SetRef"
  | .mapRef => "MapRef"
  | .fromReference => "FromReference"
  | .referencable => "Referencable"
  | .provider => "Provider"
  | .resource => "Resource"
  | .dataSource => "DataSource"
  | .dependsOn => "DependsOn"
  | .lifecycle => "Lifecycle"
  | .configuration => "Configuration"
  | .configurationError => "ConfigurationError"
  | .stateError => "StateError"
  | .configurationFn => "ConfigurationFn"
  | .decodeState => "DecodeState"
  | .nullAsDefault => "NullAsDefault"
  | .serde => "Serde"

def canonical (i : SupportItem) : String := "::".intercalate i.info.path

def segments (i : SupportItem) : List String := crateName :: i.info.path

def fullPath (i : SupportItem) : String := "::".intercalate i.segments

def ofCanonical? (path : String) : Option SupportItem := all.find? (·.canonical = path)

def ofId? (name : String) : Option SupportItem := all.find? (·.id = name)

theorem mem_all (i : SupportItem) : i ∈ all := by
  cases i <;> decide

end SupportItem

end ProviderBindings
