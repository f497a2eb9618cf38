import ProviderBindings.Code.Item
import ProviderBindings.Json.Value

/-!
Generated code as JSON, the form in which tools exchange it. Every tree has one JSON form, and only these
forms are read.
-/

namespace ProviderBindings.Code

def jsonObject (members : List (String × Json)) : Json := .object (Table.ofList members)

def textOf? : Json → Option String
  | .text s => some s
  | _ => none

def flagOf? : Json → Option Bool
  | .bool b => some b
  | _ => none

def listOf? {α : Type} (item : Json → Option α) : Json → Option (List α)
  | .list items => items.mapM item
  | _ => none

def textsOf? : Json → Option (List String) := listOf? textOf?

def pairOf? {α β : Type} (first : Json → Option α) (second : Json → Option β) : Json → Option (α × β)
  | .list [a, b] => do some (← first a, ← second b)
  | _ => none

/-! ### Types -/

namespace Ty

def plainOfName? : String → Option Ty
  | "unit" => some .unit
  | "bool" => some .bool
  | "float" => some .float
  | "string" => some .string
  | "str" => some .str
  | "static_str" => some .staticStr
  | "bytes" => some .bytes
  | "self" => some .self
  | _ => none

mutual
def toJson : Ty → Json
  | .unit => .text "unit"
  | .bool => .text "bool"
  | .float => .text "float"
  | .string => .text "string"
  | .str => .text "str"
  | .staticStr => .text "static_str"
  | .bytes => .text "bytes"
  | .self => .text "self"
  | .vec item => .object [("vec", toJson item)]
  | .map value => .object [("map", toJson value)]
  | .option item => .object [("option", toJson item)]
  | .result ok error => .object [("result", .list [toJson ok, toJson error])]
  | .ref target => .object [("ref", toJson target)]
  | .refMut target => .object [("ref_mut", toJson target)]
  | .implInto target => .object [("impl_into", toJson target)]
  | .named qualifier name => .object [("module", Json.ofOption .text qualifier), ("named", .text name)]
  | .support item args => .object [("args", .list (allToJson args)), ("runtime", .text item.id)]

def allToJson : List Ty → List Json
  | [] => []
  | t :: rest => toJson t :: allToJson rest
end

mutual
def ofJson? : Json → Option Ty
  | .text name => plainOfName? name
  | .object [("vec", item)] => (ofJson? item).map .vec
  | .object [("map", value)] => (ofJson? value).map .map
  | .object [("option", item)] => (ofJson? item).map .option
  | .object [("result", .list [ok, error])] => do some (.result (← ofJson? ok) (← ofJson? error))
  | .object [("ref", target)] => (ofJson? target).map .ref
  | .object [("ref_mut", target)] => (ofJson? target).map .refMut
  | .object [("impl_into", target)] => (ofJson? target).map .implInto
  | .object [("module", .null), ("named", .text name)] => some (.named none name)
  | .object [("module", .text qualifier), ("named", .text name)] => some (.named (some qualifier) name)
  | .object [("args", .list args), ("runtime", .text id)] => do
      some (.support (← SupportItem.ofId? id) (← allOfJson? args))
  | _ => none

def allOfJson? : List Json → Option (List Ty)
  | [] => some []
  | v :: rest => do some ((← ofJson? v) :: (← allOfJson? rest))
end

end Ty

/-! ### Expressions and statements -/

def TraversalStep.ofName? : String → Option TraversalStep
  | "attribute" => some .attribute
  | "block" => some .block
  | _ => none

namespace Expr

def kind (name : String) : String × Json := ("e", .text name)

mutual
def toJson : Expr → Json
  | .str value => .object [kind "str", ("value", .text value)]
  | .unit => .object [kind "unit"]
  | .var name => .object [kind "var", ("name", .text name)]
  | .self => .object [kind "self"]
  | .field base name => .object [("base", toJson base), kind "field", ("name", .text name)]
  | .borrow inner => .object [kind "borrow", ("inner", toJson inner)]
  | .method receiver name args =>
      .object [("args", .list (allToJson args)), kind "method", ("name", .text name),
        ("receiver", toJson receiver)]
  | .call item Option.none args =>
      .object [("args", .list (allToJson args)), kind "call", ("runtime", .text item.id)]
  | .call item (Option.some function) args =>
      .object [("args", .list (allToJson args)), ("assoc", .text function), kind "call",
        ("runtime", .text item.id)]
  | .fromReference type reference =>
      .object [kind "from_reference", ("reference", toJson reference), ("ty", type.toJson)]
  | .traverse base step name =>
      .object [("base", toJson base), kind "traverse", ("name", .text name), ("step", .text step.method)]
  | .selfReference => .object [kind "self_reference"]
  | .construct fields => .object [kind "struct", ("fields", .list (fieldsToJson fields))]
  | .into inner => .object [kind "into", ("inner", toJson inner)]
  | .none => .object [kind "none"]
  | .some inner => .object [kind "some", ("inner", toJson inner)]
  | .ok inner => .object [kind "ok", ("inner", toJson inner)]
  | .attempt inner => .object [kind "try", ("inner", toJson inner)]
  | .default type => .object [kind "default", ("ty", type.toJson)]
  | .unwrapOrPanic value message args =>
      .object [("args", .list (allToJson args)), kind "unwrap_or_panic", ("message", .text message),
        ("value", toJson value)]

def allToJson : List Expr → List Json
  | [] => []
  | e :: rest => toJson e :: allToJson rest

def fieldsToJson : List (String × Expr) → List Json
  | [] => []
  | (name, e) :: rest => .list [.text name, toJson e] :: fieldsToJson rest
end

def wrapperOfName? : String → Option (Expr → Expr)
  | "borrow" => Option.some .borrow
  | "into" => Option.some .into
  | "some" => Option.some .some
  | "ok" => Option.some .ok
  | "try" => Option.some .attempt
  | _ => Option.none

def plainOf? : String → Option Expr
  | "unit" => Option.some .unit
  | "self" => Option.some .self
  | "self_reference" => Option.some .selfReference
  | "none" => Option.some .none
  | _ => Option.none

mutual
def ofJson? : Json → Option Expr
  | .object [("e", .text "str"), ("value", .text value)] => Option.some (.str value)
  | .object [("e", .text "var"), ("name", .text name)] => Option.some (.var name)
  | .object [("e", .text name)] => plainOf? name
  | .object [("base", base), ("e", .text "field"), ("name", .text name)] =>
      (ofJson? base).map (.field · name)
  | .object [("e", .text wrapper), ("inner", inner)] => do
      Option.some ((← wrapperOfName? wrapper) (← ofJson? inner))
  | .object [("args", .list args), ("e", .text "method"), ("name", .text name), ("receiver", receiver)] => do
      Option.some (.method (← ofJson? receiver) name (← allOfJson? args))
  | .object [("args", .list args), ("e", .text "call"), ("runtime", .text id)] => do
      Option.some (.call (← SupportItem.ofId? id) Option.none (← allOfJson? args))
  | .object
      [("args", .list args), ("assoc", .text function), ("e", .text "call"), ("runtime", .text id)] => do
      Option.some (.call (← SupportItem.ofId? id) (Option.some function) (← allOfJson? args))
  | .object [("e", .text "from_reference"), ("reference", reference), ("ty", type)] => do
      Option.some (.fromReference (← Ty.ofJson? type) (← ofJson? reference))
  | .object [("base", base), ("e", .text "traverse"), ("name", .text name), ("step", .text step)] => do
      Option.some (.traverse (← ofJson? base) (← TraversalStep.ofName? step) name)
  | .object [("e", .text "struct"), ("fields", .list fields)] => (fieldsOfJson? fields).map .construct
  | .object [("e", .text "default"), ("ty", type)] => (Ty.ofJson? type).map .default
  | .object [("args", .list args), ("e", .text "unwrap_or_panic"), ("message", .text message),
        ("value", value)] => do
      Option.some (.unwrapOrPanic (← ofJson? value) message (← allOfJson? args))
  | _ => Option.none

def allOfJson? : List Json → Option (List Expr)
  | [] => Option.some []
  | v :: rest => do Option.some ((← ofJson? v) :: (← allOfJson? rest))

def fieldsOfJson? : List Json → Option (List (String × Expr))
  | [] => Option.some []
  | .list [.text name, v] :: rest => do Option.some ((name, ← ofJson? v) :: (← fieldsOfJson? rest))
  | _ => Option.none
end

end Expr

def Stmt.toJson : Stmt → Json
  | .assign target value => .object [("assign", .list [target.toJson, value.toJson])]
  | .expr e => .object [("expr", e.toJson)]

def Stmt.ofJson? : Json → Option Stmt
  | .object [("assign", .list [target, value])] => do
      some (.assign (← Expr.ofJson? target) (← Expr.ofJson? value))
  | .object [("expr", e)] => (Expr.ofJson? e).map .expr
  | _ => none

/-! ### Declarations -/

def Derive.name : Derive → String
  | .debug => "Debug"
  | .clone => "Clone"
  | .default => "Default"
  | .partialEq => "PartialEq"
  | .serialize => "Serialize"
  | .deserialize => "Deserialize"

def Derive.all : List Derive := [.debug, .clone, .default, .partialEq, .serialize, .deserialize]

def Derive.ofJson? (v : Json) : Option Derive := do
  let name ← textOf? v
  Derive.all.find? (·.name = name)

def Serde.toJson : Serde → Json
  | .crate path => .object [("crate", .text path)]
  | .default => .text "default"
  | .rename name => .object [("rename", .text name)]
  | .skipIf path => .object [("skip_serializing_if", .text path)]
  | .decodeWith path => .object [("deserialize_with", .text path)]

def Serde.ofJson? : Json → Option Serde
  | .object [("crate", .text path)] => some (.crate path)
  | .text "default" => some .default
  | .object [("rename", .text name)] => some (.rename name)
  | .object [("skip_serializing_if", .text path)] => some (.skipIf path)
  | .object [("deserialize_with", .text path)] => some (.decodeWith path)
  | _ => none

def FieldDecl.toJson (f : FieldDecl) : Json :=
  jsonObject [("name", .text f.name), ("ty", f.type.toJson), ("docs", .texts f.docs),
    ("serde", .list (f.serde.map Serde.toJson)), ("public", .bool f.isPublic)]

def FieldDecl.ofJson? (v : Json) : Option FieldDecl := do
  some ⟨← textOf? (← v.member? "name"), ← Ty.ofJson? (← v.member? "ty"), ← textsOf? (← v.member? "docs"),
    ← listOf? Serde.ofJson? (← v.member? "serde"), ← flagOf? (← v.member? "public")⟩

def StructDecl.toJson (s : StructDecl) : Json :=
  jsonObject [("name", .text s.name), ("docs", .texts s.docs), ("public", .bool s.isPublic),
    ("serde", .list (s.serde.map Serde.toJson)), ("derives", .texts (s.derives.map Derive.name)),
    ("fields", .list (s.fields.map FieldDecl.toJson))]

def StructDecl.ofJson? (v : Json) : Option StructDecl := do
  some ⟨← textOf? (← v.member? "name"), ← textsOf? (← v.member? "docs"),
    ← listOf? Derive.ofJson? (← v.member? "derives"), ← listOf? Serde.ofJson? (← v.member? "serde"),
    ← listOf? FieldDecl.ofJson? (← v.member? "fields"), ← flagOf? (← v.member? "public")⟩

def Receiver.name : Receiver → String
  | .none => "none"
  | .ref => "ref"
  | .refMut => "ref_mut"

def Receiver.ofJson? (v : Json) : Option Receiver := do
  let name ← textOf? v
  [Receiver.none, .ref, .refMut].find? (·.name = name)

def MethodDecl.toJson (m : MethodDecl) : Json :=
  jsonObject [("name", .text m.name), ("docs", .texts m.docs), ("public", .bool m.isPublic),
    ("receiver", .text m.receiver.name),
    ("params", .list (m.params.map fun p => .list [.text p.1, p.2.toJson])),
    ("returns", m.returns.toJson), ("body", .list (m.body.map Stmt.toJson))]

def MethodDecl.ofJson? (v : Json) : Option MethodDecl := do
  some ⟨← textOf? (← v.member? "name"), ← textsOf? (← v.member? "docs"), ← flagOf? (← v.member? "public"),
    ← Receiver.ofJson? (← v.member? "receiver"),
    ← listOf? (pairOf? textOf? Ty.ofJson?) (← v.member? "params"), ← Ty.ofJson? (← v.member? "returns"),
    ← listOf? Stmt.ofJson? (← v.member? "body")⟩

def ImplDecl.toJson (i : ImplDecl) : Json :=
  jsonObject [("target", .text i.target), ("trait", Json.ofOption (fun t => .text t.id) i.trait),
    ("methods", .list (i.methods.map MethodDecl.toJson))]

def ImplDecl.ofJson? (v : Json) : Option ImplDecl := do
  let trait ← match ← v.member? "trait" with
    | .null => some none
    | t => (textOf? t).bind fun id => (SupportItem.ofId? id).map some
  some ⟨← textOf? (← v.member? "target"), trait, ← listOf? MethodDecl.ofJson? (← v.member? "methods")⟩

def Item.toJson : Item → Json
  | .module_ name => .object [("module", .text name)]
  | .struct decl => .object [("struct", decl.toJson)]
  | .impl decl => .object [("impl", decl.toJson)]

def Item.ofJson? : Json → Option Item
  | .object [("module", .text name)] => some (.module_ name)
  | .object [("struct", decl)] => (StructDecl.ofJson? decl).map .struct
  | .object [("impl", decl)] => (ImplDecl.ofJson? decl).map .impl
  | _ => none

def File.toJson (f : File) : Json :=
  jsonObject [("docs", .texts f.docs), ("uses", .list (f.uses.map .texts)),
    ("items", .list (f.items.map Item.toJson))]

def File.ofJson? (v : Json) : Option File := do
  some ⟨← textsOf? (← v.member? "docs"), ← listOf? textsOf? (← v.member? "uses"),
    ← listOf? Item.ofJson? (← v.member? "items")⟩

end ProviderBindings.Code
