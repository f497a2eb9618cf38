import ProviderBindings.Graph
import ProviderBindings.Naming
import ProviderBindings.Projection

/-!
The members of a shape: its leaf attributes and then its child shapes. A record of the shape has one slot
per member, with an identifier that no other slot of the record has.
-/

namespace ProviderBindings

open Code (Ty)

inductive Member where
  | leaf (l : Leaf)
  | child (n : Node)
  deriving Repr

namespace Member

def name : Member → String
  | .leaf l => l.name
  | .child n => n.name

def isArgument : Member → Bool
  | .leaf l => l.isArgument
  | .child n => n.traits.isArgument

def isRequired : Member → Bool
  | .leaf l => l.isRequired
  | .child n => n.traits.isRequired

def docs : Member → Docs
  | .leaf l => l.docs
  | .child n => n.traits.docs

def identifier (m : Member) : String := Naming.memberName m.name

end Member

structure Shape where
  /-- The names on the way from the root, which is empty for the root itself. -/
  path : List String
  leaves : List Leaf
  children : List Node

namespace Shape

def ofRoot (g : Graph) : Shape := ⟨[], g.leaves, g.topChildren⟩

def ofNode (g : Graph) (n : Node) : Shape := ⟨n.path, n.leaves, g.childrenOf n⟩

def members (s : Shape) : List Member := s.leaves.map .leaf ++ s.children.map .child

def arguments (s : Shape) : List Member := s.members.filter (·.isArgument)

def dotted (s : Shape) : String := ".".intercalate s.path

def memberPath (s : Shape) (m : Member) : String := ".".intercalate (s.path ++ [m.name])

end Shape

inductive BindingError where
  | duplicateRecord (file name : String)
  | duplicateMember (record identifier first second : String)
  | mapping (path : String) (source : MappingError)
  deriving DecidableEq, Repr

def BindingError.message : BindingError → String
  | .duplicateRecord file name => "record `" ++ name ++ "` would be generated twice in `" ++ file ++ "`"
  | .duplicateMember record identifier first second =>
      "`" ++ record ++ "` would have two members named `" ++ identifier ++ "` (from `" ++ first ++
        "` and `" ++ second ++ "`)"
  | .mapping path source => "attribute `" ++ path ++ "`: " ++ source.message

structure Slot where
  member : Member
  type : Ty
  deriving Repr

def Slot.identifier (s : Slot) : String := s.member.identifier

/-- Types members one after another. `earlier` holds the identifiers of the members before with their names;
a member with one of these identifiers is refused before it is typed. -/
def Shape.slotsAfter (s : Shape) (record : String) (typeOf : Member → Except MappingError Ty)
    (earlier : List (String × String)) : List Member → Except BindingError (List Slot)
  | [] => .ok []
  | m :: rest =>
      let identifier := m.identifier
      match earlier.lookup identifier with
      | some first => .error (.duplicateMember record identifier first m.name)
      | none =>
          match typeOf m with
          | .error source => .error (.mapping (s.memberPath m) source)
          | .ok type =>
              (s.slotsAfter record typeOf ((identifier, m.name) :: earlier) rest).map (⟨m, type⟩ :: ·)

def Shape.slots (s : Shape) (record : String) (typeOf : Member → Except MappingError Ty)
    (members : List Member) : Except BindingError (List Slot) :=
  s.slotsAfter record typeOf [] members

end ProviderBindings
