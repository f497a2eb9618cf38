import ProviderBindings.Code.Item
import ProviderBindings.Entity

/-!
The primary record of an entity: the value that a configuration is built from, and what it implements.
-/

namespace ProviderBindings

open Code (Ty Expr Stmt FieldDecl StructDecl MethodDecl ImplDecl Item Receiver Derive)

namespace Primary

def plainField (name : String) (type : Ty) : FieldDecl := ⟨name, type, [], [], true⟩

def documentedField (name : String) (type : Ty) (doc : String) : FieldDecl := ⟨name, type, [doc], [], true⟩

def named (name : String) : Ty := .named none name

def supportType (item : SupportItem) : Ty := .support item []

def literal (value : String) : Expr := .into (.str value)

def documented (docs : List String) (m : MethodDecl) : MethodDecl := { m with docs := docs }

def configurationMethod : MethodDecl :=
  Code.getter "configuration" (.result (supportType .configuration) (supportType .configurationError))
    (.call .configurationFn none [.borrow (.selfField "args")])

def textGetter (name field : String) : MethodDecl :=
  Code.getter name .str (.borrow (.selfField field))

def record (e : Entity) (doc : String) (fields : List FieldDecl) : Item :=
  .struct ⟨e.names.record, [doc], [.debug, .clone], [], fields, true⟩

def implementation (e : Entity) (trait : Option SupportItem) (methods : List MethodDecl) : Item :=
  .impl ⟨e.names.record, trait, methods⟩

def namedConstructor (e : Entity) (others : List (String × Expr)) : MethodDecl :=
  ⟨"new", [], true, .none, [("name", .implInto .string), ("args", named e.names.args)], .self,
    [.expr (.construct ([("name", .into (.var "name")), ("args", .var "args")] ++ others))]⟩

def attributesMethod (e : Entity) : MethodDecl :=
  documented ["Typed references to this entity's attributes."]
    (Code.getter "attributes" (named e.names.attributes)
      (.fromReference (named e.names.attributes) .selfReference))

def referencable (e : Entity) (constructor : String) : Item :=
  implementation e (some .referencable)
    [Code.getter "reference" (supportType .reference)
      (.call .reference (some constructor) [.str e.typeName, .borrow (.selfField "name")])]

def localNameField : FieldDecl := documentedField "name" .string "Local name in the configuration."

def stateValue : Expr := .method (.selfField "state") "as_ref" []

def stateMethods (e : Entity) : List MethodDecl :=
  [documented ["Decoded state, if any has been imported."]
      (Code.getter "state" (.option (.ref (named e.names.state))) stateValue),
    documented ["Decoded state.", "", "# Panics", "", "If no state has been imported."]
      (Code.getter "state_must" (.ref (named e.names.state))
        (.unwrapOrPanic stateValue "resource `\x7b\x7d` has no imported state" [.selfReference]))]

def importState : MethodDecl :=
  ⟨"import_state", [], false, .refMut, [("payload", .bytes)],
    .result .unit (supportType .stateError),
    [.assign (.selfField "state") (.some (.attempt (.call .decodeState none [.var "payload"]))),
      .expr (.ok .unit)]⟩

def resourceItems (e : Entity) : List Item :=
  [record e ("The `" ++ e.typeName ++ "` resource.")
      [localNameField, plainField "args" (named e.names.args),
        documentedField "state" (.option (named e.names.state)) "Decoded state, once imported.",
        plainField "depends_on" (supportType .dependsOn),
        plainField "lifecycle" (.option (supportType .lifecycle))],
    implementation e none
      (namedConstructor e
          [("state", .none), ("depends_on", .default (supportType .dependsOn)), ("lifecycle", .none)] ::
        attributesMethod e :: stateMethods e),
    referencable e "resource",
    implementation e (some .resource)
      [Code.getter "resource_type" .staticStr (.str e.typeName),
        textGetter "local_name" "name",
        configurationMethod,
        Code.getter "dependencies" (.ref (supportType .dependsOn)) (.borrow (.selfField "depends_on")),
        Code.getter "lifecycle_management" (.option (.ref (supportType .lifecycle)))
          (.method (.selfField "lifecycle") "as_ref" []),
        importState]]

def dataSourceItems (e : Entity) : List Item :=
  [record e ("The `" ++ e.typeName ++ "` data source.")
      [localNameField, plainField "args" (named e.names.args)],
    implementation e none [namedConstructor e [], attributesMethod e],
    referencable e "data_source",
    implementation e (some .dataSource)
      [Code.getter "data_source_type" .staticStr (.str e.typeName),
        textGetter "local_name" "name",
        configurationMethod]]

def providerConstructor (e : Entity) : MethodDecl :=
  ⟨"new",
    ["A `" ++ e.spec.localName ++ "` provider pinned to the version the bindings were generated from."],
    true, .none, [("args", named e.names.args)], .self,
    [.expr (.construct
      [("local_name", literal e.spec.localName), ("source", literal e.spec.source),
        ("version", literal e.spec.version), ("args", .var "args")])]⟩

def providerItems (e : Entity) : List Item :=
  [record e ("Configuration of the `" ++ e.spec.source ++ "` provider.")
      [plainField "local_name" .string, plainField "source" .string, plainField "version" .string,
        plainField "args" (named e.names.args)],
    implementation e none [providerConstructor e],
    implementation e (some .provider)
      [textGetter "local_name" "local_name", textGetter "source" "source",
        textGetter "version" "version", configurationMethod]]

end Primary

def Entity.primaryItems (e : Entity) : List Item :=
  match e.kind with
  | .provider => Primary.providerItems e
  | .resource => Primary.resourceItems e
  | .dataSource => Primary.dataSourceItems e

end ProviderBindings
