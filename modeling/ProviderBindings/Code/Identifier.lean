import ProviderBindings.Code.Item
import ProviderBindings.Naming.Keyword

/-!
Which names are identifiers of the generated code, and which identifiers may stand where.
-/

namespace ProviderBindings.Code

def isNameChar (c : Char) : Bool := c.isAlphanum || c == '_'

def isPlainIdentifier : List Char → Bool
  | [] => false
  | ['_'] => false
  | c :: rest => (c.isAlpha || c == '_') && rest.all isNameChar

def isIdentifier (name : String) : Bool :=
  match name.toList with
  | 'r' :: '#' :: body =>
      isPlainIdentifier body && !Naming.nonRawKeywords.contains (String.ofList body)
  | body => isPlainIdentifier body

def reservedWords : List String :=
  ["abstract", "as", "async", "await", "become", "box", "break", "const", "continue", "crate", "do",
    "dyn", "else", "enum", "extern", "false", "final", "fn", "for", "if", "impl", "in", "let", "loop",
    "macro", "match", "mod", "move", "mut", "override", "priv", "pub", "ref", "return", "Self", "self",
    "static", "struct", "super", "trait", "true", "try", "type", "typeof", "unsafe", "unsized", "use",
    "virtual", "where", "while", "yield"]

def isFree (name : String) : Bool := !reservedWords.contains name

def pathWords : List String := ["self", "Self", "super", "crate"]

def isTypePath : List String → Bool
  | [] => false
  | first :: rest =>
      (isFree first || pathWords.contains first) &&
        rest.all fun s => isFree s || pathWords.contains s || s == "try"

def isValuePath : List String → Bool
  | [] => false
  | [name] => isFree name || pathWords.contains name || name == "true" || name == "false"
  | first :: rest => isTypePath (if first = "try" then rest else first :: rest)

def isUsePath (path : List String) : Bool :=
  !path.isEmpty &&
    path.all fun s => isFree s || s == "self" || s == "super" || s == "crate" || s == "try"

namespace Ty

mutual
def names : Ty → List String
  | .vec item => names item
  | .map value => names value
  | .option item => names item
  | .result ok error => names ok ++ names error
  | .ref target => names target
  | .refMut target => names target
  | .implInto target => names target
  | .named qualifier name => name :: qualifier.toList
  | .support _ args => namesOf args
  | _ => []

def namesOf : List Ty → List String
  | [] => []
  | t :: rest => names t ++ namesOf rest
end

mutual
def isParsable : Ty → Bool
  | .vec item => isParsable item
  | .map value => isParsable value
  | .option item => isParsable item
  | .result ok error => isParsable ok && isParsable error
  | .ref target => isParsable target
  | .refMut target => isParsable target
  | .implInto target => isParsable target
  | .named qualifier name => isTypePath (qualifier.toList ++ [name])
  | .support _ args => allParsable args
  | _ => true

def allParsable : List Ty → Bool
  | [] => true
  | t :: rest => isParsable t && allParsable rest
end

end Ty

namespace Expr

def isShorthand (name : String) : Expr → Bool
  | .var v => v == name
  | _ => false

mutual
def names : Expr → List String
  | .var name => [name]
  | .field base name => names base ++ [name]
  | .borrow inner => names inner
  | .method receiver name args => names receiver ++ name :: namesOf args
  | .call _ function args => function.toList ++ namesOf args
  | .fromReference type reference => type.names ++ names reference
  | .traverse base _ _ => names base
  | .construct fields => namesOfFields fields
  | .into inner => names inner
  | .some inner => names inner
  | .ok inner => names inner
  | .attempt inner => names inner
  | .default type => type.names
  | .unwrapOrPanic value _ args => names value ++ namesOf args
  | _ => []

def namesOf : List Expr → List String
  | [] => []
  | e :: rest => names e ++ namesOf rest

def namesOfFields : List (String × Expr) → List String
  | [] => []
  | (name, e) :: rest => name :: (if isShorthand name e then [] else names e) ++ namesOfFields rest
end

end Expr

def Stmt.names : Stmt → List String
  | .assign target value => target.names ++ value.names
  | .expr e => e.names

def FieldDecl.names (f : FieldDecl) : List String := f.name :: f.type.names

def StructDecl.names (s : StructDecl) : List String := s.name :: s.fields.flatMap FieldDecl.names

def MethodDecl.names (m : MethodDecl) : List String :=
  m.name :: (m.params.flatMap fun p => p.1 :: p.2.names) ++ m.returns.names ++ m.body.flatMap Stmt.names

def ImplDecl.names (i : ImplDecl) : List String := i.target :: i.methods.flatMap MethodDecl.names

def Item.names : Item → List String
  | .module_ name => [name]
  | .struct decl => decl.names
  | .impl decl => decl.names

def File.names (f : File) : List String := f.uses.flatten ++ f.items.flatMap Item.names

end ProviderBindings.Code
