import ProviderBindings.Code.Expr

/-!
Declarations: the records, methods, modules and files that bindings consist of.
-/

namespace ProviderBindings.Code

inductive Derive where
  | debug
  | clone
  | default
  | partialEq
  | serialize
  | deserialize
  deriving DecidableEq, Repr

inductive Serde where
  | crate (path : String)
  | default
  | rename (name : String)
  | skipIf (path : String)
  | decodeWith (path : String)
  deriving DecidableEq, Repr

structure FieldDecl where
  name : String
  type : Ty
  docs : List String
  serde : List Serde
  isPublic : Bool
  deriving Repr, Inhabited

structure StructDecl where
  name : String
  docs : List String
  derives : List Derive
  serde : List Serde
  fields : List FieldDecl
  isPublic : Bool
  deriving Repr, Inhabited

inductive Receiver where
  | none
  | ref
  | refMut
  deriving DecidableEq, Repr, Inhabited

structure MethodDecl where
  name : String
  docs : List String
  isPublic : Bool
  receiver : Receiver
  params : List (String × Ty)
  returns : Ty
  body : List Stmt
  deriving Repr, Inhabited

structure ImplDecl where
  target : String
  trait : Option SupportItem
  methods : List MethodDecl
  deriving Repr, Inhabited

inductive Item where
  | module_ (name : String)
  | struct (decl : StructDecl)
  | impl (decl : ImplDecl)
  deriving Repr, Inhabited

structure File where
  docs : List String
  uses : List (List String)
  items : List Item
  deriving Repr, Inhabited

def getter (name : String) (returns : Ty) (value : Expr) : MethodDecl :=
  ⟨name, [], true, .ref, [], returns, [.expr value]⟩

end ProviderBindings.Code
