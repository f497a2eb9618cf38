import ProviderBindings.Code.Item

/-!
Which records a piece of generated code mentions, and which records a file declares. A record is mentioned by
its name and the module in front of it, if there is one.
-/

namespace ProviderBindings.Code

abbrev Mention := Option String × String

mutual
def Ty.mentions : Ty → List Mention
  | .vec item => Ty.mentions item
  | .map value => Ty.mentions value
  | .option item => Ty.mentions item
  | .result ok error => Ty.mentions ok ++ Ty.mentions error
  | .ref target => Ty.mentions target
  | .refMut target => Ty.mentions target
  | .implInto target => Ty.mentions target
  | .named qualifier name => [(qualifier, name)]
  | .support _ args => Ty.mentionsOf args
  | _ => []

def Ty.mentionsOf : List Ty → List Mention
  | [] => []
  | t :: rest => Ty.mentions t ++ Ty.mentionsOf rest
end

mutual
def Expr.mentions : Expr → List Mention
  | .field base _ => Expr.mentions base
  | .borrow inner => Expr.mentions inner
  | .method receiver _ args => Expr.mentions receiver ++ Expr.mentionsOf args
  | .call _ _ args => Expr.mentionsOf args
  | .fromReference type reference => type.mentions ++ Expr.mentions reference
  | .traverse base _ _ => Expr.mentions base
  | .construct fields => Expr.mentionsOfFields fields
  | .into inner => Expr.mentions inner
  | .some inner => Expr.mentions inner
  | .ok inner => Expr.mentions inner
  | .attempt inner => Expr.mentions inner
  | .default type => type.mentions
  | .unwrapOrPanic value _ args => Expr.mentions value ++ Expr.mentionsOf args
  | _ => []

def Expr.mentionsOf : List Expr → List Mention
  | [] => []
  | e :: rest => Expr.mentions e ++ Expr.mentionsOf rest

def Expr.mentionsOfFields : List (String × Expr) → List Mention
  | [] => []
  | (_, e) :: rest => Expr.mentions e ++ Expr.mentionsOfFields rest
end

def Stmt.mentions : Stmt → List Mention
  | .assign target value => target.mentions ++ value.mentions
  | .expr e => e.mentions

def StructDecl.mentions (d : StructDecl) : List Mention := d.fields.flatMap fun f => f.type.mentions

def MethodDecl.mentions (m : MethodDecl) : List Mention :=
  (m.params.flatMap fun p => p.2.mentions) ++ m.returns.mentions ++ m.body.flatMap Stmt.mentions

def ImplDecl.mentions (d : ImplDecl) : List Mention := d.methods.flatMap MethodDecl.mentions

namespace Item

def mentions : Item → List Mention
  | .module_ _ => []
  | .struct d => d.mentions
  | .impl d => d.mentions

def declared? : Item → Option String
  | .struct d => some d.name
  | _ => none

def owner? : Item → Option String
  | .module_ _ => none
  | .struct d => some d.name
  | .impl d => some d.target

end Item

def declared (items : List Item) : List String := items.filterMap Item.declared?

@[simp] theorem declared_nil : declared [] = [] := rfl

@[simp] theorem declared_append (a b : List Item) : declared (a ++ b) = declared a ++ declared b :=
  List.filterMap_append

@[simp] theorem declared_struct (d : StructDecl) (items : List Item) :
    declared (.struct d :: items) = d.name :: declared items := rfl

@[simp] theorem declared_impl (d : ImplDecl) (items : List Item) :
    declared (.impl d :: items) = declared items := rfl

@[simp] theorem mentions_getter (name : String) (returns : Ty) (value : Expr) :
    (getter name returns value).mentions = returns.mentions ++ value.mentions := by
  simp [getter, MethodDecl.mentions, Stmt.mentions]

end ProviderBindings.Code
