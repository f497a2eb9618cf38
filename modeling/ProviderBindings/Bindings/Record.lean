import ProviderBindings.Bindings.Member
import ProviderBindings.Code.Item
import ProviderBindings.Text.Lines

/-!
The three records of a shape. The argument record holds what may be configured, the attribute record leads
from a reference of the shape to references of its members, and the state record is read back from a run.
Child shapes are referred to by the records of their own.
-/

namespace ProviderBindings

open Code (Ty Expr TraversalStep FieldDecl StructDecl MethodDecl ImplDecl Item Derive Serde)

/-! ### Types of members -/

def nestData (item : Ty) : List Nesting → Ty
  | [] => item
  | .single :: rest => nestData item rest
  | .list :: rest => .vec (nestData item rest)
  | .set :: rest => .vec (nestData item rest)
  | .map :: rest => .map (nestData item rest)

def nestReference (item : Ty) : List Nesting → Ty
  | [] => item
  | .single :: rest => nestReference item rest
  | .list :: rest => .support .listRef [nestReference item rest]
  | .set :: rest => .support .setRef [nestReference item rest]
  | .map :: rest => .support .mapRef [nestReference item rest]

/-- The records of a node in increasing distance from the configuration. -/
def Node.triad (n : Node) : Naming.RecordTriad := Naming.recordTriad n.uniqueName

def Node.dataType (n : Node) (record : Ty) : Ty :=
  if n.isSingular then .option record else nestData record n.traits.nesting

namespace Member

/-- The type in the argument record. Optional leaves are wrapped, and so is every singular child, even a
required one. `qualifier` is the module of the records of nodes, if it is another one. -/
def argumentType (qualifier : Option String) : Member → Except MappingError Ty
  | .leaf l => l.type.argumentType.map fun t => if l.isRequired then t else .option t
  | .child n => .ok (n.dataType (.named qualifier n.triad.args))

def referenceType (qualifier : Option String) : Member → Except MappingError Ty
  | .leaf l => l.type.referenceType
  | .child n => .ok (nestReference (.named qualifier n.triad.attributes) n.traits.nesting)

def stateType (qualifier : Option String) : Member → Except MappingError Ty
  | .leaf l => l.type.stateType
  | .child n => .ok (n.dataType (.named qualifier n.triad.state))

def step : Member → TraversalStep
  | .leaf _ => .attribute
  | .child _ => .block

end Member

/-! ### Documentation -/

def Docs.lines (d : Docs) : List String :=
  (d.description.toList.flatMap Text.trimmedLines).filter (!·.isEmpty) ++
    (if d.deprecated then ["**Deprecated.**"] else []) ++
    (if d.sensitive then ["Sensitive: the value is redacted in plans and logs."] else [])

def requirementLine (isRequired : Bool) : String := if isRequired then "Required." else "Optional."

def cardinalityLine? : Nat → Nat → Option String
  | 0, 0 => none
  | least, 0 => some ("At least " ++ toString least ++ " item(s).")
  | 0, most => some ("At most " ++ toString most ++ " item(s).")
  | least, most =>
      if least = most then some ("Exactly " ++ toString least ++ " item(s).")
      else some ("Between " ++ toString least ++ " and " ++ toString most ++ " items.")

def Member.argumentDocs (m : Member) : List String :=
  m.docs.lines ++ requirementLine m.isRequired ::
    (match m with
      | .leaf _ => []
      | .child n => (cardinalityLine? n.traits.minItems n.traits.maxItems).toList)

/-! ### Records -/

def emptyTest? : Ty → Option String
  | .option _ => some "Option::is_none"
  | .vec _ => some "Vec::is_empty"
  | .map _ => some "std::collections::BTreeMap::is_empty"
  | _ => none

def serdeCrate : Serde := .crate SupportItem.serde.fullPath

/-- Empty values of optional members and missing singular children are not written. -/
def Slot.argumentField (s : Slot) : FieldDecl :=
  let skipped :=
    if !s.member.isRequired || s.type.isOption then (emptyTest? s.type).map Serde.skipIf else none
  ⟨s.identifier, s.type, s.member.argumentDocs, .rename s.member.name :: skipped.toList, true⟩

def Slot.stateField (s : Slot) : FieldDecl :=
  ⟨s.identifier, s.type, [],
    [.rename s.member.name, .decodeWith SupportItem.nullAsDefault.fullPath], true⟩

def Slot.accessor (s : Slot) : MethodDecl :=
  { Code.getter s.identifier s.type
      (.fromReference s.type (.traverse (.selfField "reference") s.member.step s.member.name)) with
    docs := s.member.docs.lines }

namespace Shape

def argumentRecord (s : Shape) (qualifier : Option String) (name : String) (docs : List String) :
    Except BindingError StructDecl := do
  let slots ← s.slots name (Member.argumentType qualifier) s.arguments
  let fields := slots.map Slot.argumentField
  let defaults := if fields.all fun f => (emptyTest? f.type).isSome then [Derive.default] else []
  .ok ⟨name, docs, [.debug, .clone] ++ defaults ++ [.partialEq, .serialize], [serdeCrate], fields, true⟩

def attributeItems (s : Shape) (qualifier : Option String) (name : String) (docs : List String) :
    Except BindingError (List Item) := do
  let slots ← s.slots name (Member.referenceType qualifier) s.members
  let reference : Ty := .support .reference []
  let construction : MethodDecl :=
    ⟨"from_reference", [], false, .none, [("reference", reference)], .self,
      [.expr (.construct [("reference", .var "reference")])]⟩
  .ok ([.struct ⟨name, docs, [.debug, .clone, .partialEq], [],
        [⟨"reference", reference, [], [], false⟩], true⟩,
      .impl ⟨name, some .fromReference, [construction]⟩] ++
    if slots.isEmpty then [] else [.impl ⟨name, none, slots.map Slot.accessor⟩])

def stateRecord (s : Shape) (qualifier : Option String) (name : String) (docs : List String) :
    Except BindingError StructDecl := do
  let slots ← s.slots name (Member.stateType qualifier) s.members
  .ok ⟨name, docs, [.debug, .clone, .default, .partialEq, .deserialize], [serdeCrate, .default],
    slots.map Slot.stateField, true⟩

end Shape

end ProviderBindings
