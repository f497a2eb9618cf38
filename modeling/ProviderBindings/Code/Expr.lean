import ProviderBindings.Code.Type

/-!
Expressions and statements: the forms that the methods of bindings need. Names are identifiers already.
-/

namespace ProviderBindings.Code

inductive TraversalStep where
  | attribute
  | block
  deriving DecidableEq, Repr

def TraversalStep.method : TraversalStep → String
  | .attribute => "attribute"
  | .block => "block"

inductive Expr where
  | str (value : String)
  | unit
  | var (name : String)
  | self
  | field (base : Expr) (name : String)
  | borrow (inner : Expr)
  | method (receiver : Expr) (name : String) (args : List Expr)
  /-- Calls a function of the support crate, or a function of one of its items. -/
  | call (item : SupportItem) (function : Option String) (args : List Expr)
  | fromReference (type : Ty) (reference : Expr)
  | traverse (base : Expr) (step : TraversalStep) (name : String)
  | selfReference
  | construct (fields : List (String × Expr))
  | into (inner : Expr)
  | none
  | some (inner : Expr)
  | ok (inner : Expr)
  | attempt (inner : Expr)
  | default (type : Ty)
  | unwrapOrPanic (value : Expr) (message : String) (args : List Expr)
  deriving Repr, Inhabited

def Expr.selfField (name : String) : Expr := .field .self name

inductive Stmt where
  | assign (target value : Expr)
  | expr (e : Expr)
  deriving Repr, Inhabited

end ProviderBindings.Code
