import ProviderBindings.Bindings
import ProviderBindings.Configuration.TypedReference

/-!
What the files of an entity mean to code that uses them: where names lead, which types expressions have, and
what methods return. Only the expressions on the way from an entity to references have types and values here.
-/

namespace ProviderBindings

open Code (Ty Expr Stmt Item File FieldDecl MethodDecl TraversalStep)

inductive Side where
  | own
  | nested
  deriving DecidableEq, Repr

/-- The files of an entity, with the path under which the second one is used. -/
structure Program where
  bindings : Bindings
  nestedPath : List String

def Entity.program (e : Entity) (mount : ModulePath) (b : Bindings) : Program :=
  ⟨b, (e.nestedModule mount).segments⟩

/-! ### Names -/

namespace Code

def methodsOf (items : List Item) (record : String) (trait : Option SupportItem) : List MethodDecl :=
  items.flatMap fun
    | .impl d => if d.target = record ∧ d.trait = trait then d.methods else []
    | _ => []

def fieldsOf (items : List Item) (record : String) : List FieldDecl :=
  items.flatMap fun
    | .struct d => if d.name = record then d.fields else []
    | _ => []

end Code

namespace Program

variable (p : Program)

def file? : Side → Option File
  | .own => some p.bindings.file
  | .nested => p.bindings.nested

def items (side : Side) : List Item := ((p.file? side).map File.items).getD []

def uses (side : Side) : List (List String) := ((p.file? side).map File.uses).getD []

/-- The file that a qualified name of another file leads to. A qualifier is the last part of a path that is
used, and of no other one. -/
def resolve? (side : Side) : Option String → Option Side
  | none => some side
  | some qualifier =>
      if (p.uses side).filter (·.getLast? = some qualifier) = [p.nestedPath] then some .nested else none

def method? (side : Side) (record : String) (trait : Option SupportItem) (name : String) :
    Option MethodDecl :=
  match (Code.methodsOf (p.items side) record trait).filter (·.name = name) with
  | [m] => some m
  | _ => none

end Program

/-! ### Types -/

structure Scope where
  side : Side
  record : String
  hasObject : Bool
  params : List (String × Ty)

def Code.Ty.reference : Ty := .support .reference []

def Code.Ty.isText : Ty → Bool
  | .staticStr => true
  | .ref .string => true
  | _ => false

def Code.Ty.isTypedReference : Ty → Bool
  | .support item [] => [SupportItem.stringRef, .numberRef, .boolRef].contains item
  | .support item [_] => [SupportItem.listRef, .setRef, .mapRef].contains item
  | _ => false

mutual
inductive HasType (p : Program) : Scope → Expr → Ty → Prop
  | str {scope : Scope} {value : String} : HasType p scope (.str value) .staticStr
  | var {scope : Scope} {name : String} {t : Ty} (h : scope.params.lookup name = some t) :
      HasType p scope (.var name) t
  | self {scope : Scope} (h : scope.hasObject = true) : HasType p scope .self .self
  | field {scope : Scope} {base : Expr} {f : FieldDecl} (hb : HasType p scope base .self)
      (hf : f ∈ Code.fieldsOf (p.items scope.side) scope.record) :
      HasType p scope (.field base f.name) f.type
  | borrow {scope : Scope} {inner : Expr} {t : Ty} (h : HasType p scope inner t) :
      HasType p scope (.borrow inner) (.ref t)
  | root {scope : Scope} {function : String} {type name : Expr} {t u : Ty}
      (hf : function = "resource" ∨ function = "data_source") (ht : HasType p scope type t)
      (hn : HasType p scope name u) (htext : t.isText = true ∧ u.isText = true) :
      HasType p scope (.call .reference (some function) [type, name]) .reference
  | traverse {scope : Scope} {base : Expr} {step : TraversalStep} {name : String}
      (hb : HasType p scope base .reference) : HasType p scope (.traverse base step name) .reference
  | fromReference {scope : Scope} {t : Ty} {reference : Expr} (hr : HasType p scope reference .reference)
      (ht : Builds p scope.side t) : HasType p scope (.fromReference t reference) t
  | selfReference {scope : Scope} {m : MethodDecl} {value : Expr} (ho : scope.hasObject = true)
      (hm : p.method? scope.side scope.record (some .referencable) "reference" = some m)
      (hreceiver : m.receiver = .ref) (hparams : m.params = []) (hreturns : m.returns = .reference)
      (hb : m.body = [.expr value])
      (hv : HasType p ⟨scope.side, scope.record, true, []⟩ value .reference) :
      HasType p scope .selfReference .reference
  | construct {scope : Scope} {fields : List (String × Expr)}
      (hn : fields.map Prod.fst = (Code.fieldsOf (p.items scope.side) scope.record).map FieldDecl.name)
      (hf : ∀ value f, (f.name, value) ∈ fields →
        f ∈ Code.fieldsOf (p.items scope.side) scope.record → HasType p scope value f.type) :
      HasType p scope (.construct fields) .self

inductive Builds (p : Program) : Side → Ty → Prop
  | typed {side : Side} {t : Ty} (h : t.isTypedReference = true) : Builds p side t
  | record {side home : Side} {qualifier : Option String} {name parameter : String} {m : MethodDecl}
      {value : Expr} (hr : p.resolve? side qualifier = some home)
      (hm : p.method? home name (some .fromReference) "from_reference" = some m)
      (hreceiver : m.receiver = .none) (hparams : m.params = [(parameter, .reference)])
      (hreturns : m.returns = .self) (hb : m.body = [.expr value])
      (hv : HasType p ⟨home, name, false, m.params⟩ value .self) :
      Builds p side (.named qualifier name)
end

/-! ### Values -/

inductive Value where
  | text (s : String)
  | reference (r : Reference)
  | typed (side : Side) (r : TypedReference)
  | record (side : Side) (name : String) (fields : List (String × Value))

namespace Value

def field? (name : String) : Value → Option Value
  | .record _ _ fields => fields.lookup name
  | _ => none

def reference? : Value → Option Reference
  | .reference r => some r
  | _ => none

def root? : String → List Value → Option Value
  | "resource", [.text type, .text name] => some (.reference (.resource type name))
  | "data_source", [.text type, .text name] => some (.reference (.dataSource type name))
  | _, _ => none

end Value

structure Activation where
  side : Side
  record : String
  object? : Option Value
  params : List (String × Value)

structure Calls where
  fromReference : Side → Ty → Reference → Option Value
  reference : Value → Option Reference

def Code.TraversalStep.toStep (name : String) : TraversalStep → Reference.Step
  | .attribute => .attribute name
  | .block => .block name

namespace Value

mutual
def ofExpr? (calls : Calls) (activation : Activation) : Expr → Option Value
  | .str value => some (.text value)
  | .var name => activation.params.lookup name
  | .self => activation.object?
  | .field base name => (ofExpr? calls activation base).bind (field? name)
  | .borrow inner => ofExpr? calls activation inner
  | .call .reference (some function) args => (ofExprs? calls activation args).bind (root? function)
  | .traverse base step name =>
      ((ofExpr? calls activation base).bind reference?).map fun r => .reference (r.step (step.toStep name))
  | .fromReference t base =>
      ((ofExpr? calls activation base).bind reference?).bind (calls.fromReference activation.side t)
  | .selfReference => (activation.object?.bind calls.reference).map .reference
  | .construct fields => (ofFields? calls activation fields).map (.record activation.side activation.record)
  | _ => none

def ofExprs? (calls : Calls) (activation : Activation) : List Expr → Option (List Value)
  | [] => some []
  | e :: rest => do
      let first ← ofExpr? calls activation e
      let others ← ofExprs? calls activation rest
      some (first :: others)

def ofFields? (calls : Calls) (activation : Activation) :
    List (String × Expr) → Option (List (String × Value))
  | [] => some []
  | (name, e) :: rest => do
      let first ← ofExpr? calls activation e
      let others ← ofFields? calls activation rest
      some ((name, first) :: others)
end

def ofBody? (calls : Calls) (activation : Activation) (m : MethodDecl) : Option Value :=
  match m.body with
  | [.expr e] => ofExpr? calls activation e
  | _ => none

end Value

namespace Program

variable (p : Program)

def fromReference? (calls : Calls) (side : Side) (t : Ty) (r : Reference) : Option Value :=
  match t with
  | .named qualifier name => do
      let home ← p.resolve? side qualifier
      let m ← p.method? home name (some .fromReference) "from_reference"
      match m.params with
      | [(parameter, _)] => Value.ofBody? calls ⟨home, name, none, [(parameter, .reference r)]⟩ m
      | _ => none
  | t => if t.isTypedReference then some (.typed side ⟨t, r⟩) else none

def reference? (calls : Calls) : Value → Option Reference
  | .record side name fields => do
      let m ← p.method? side name (some .referencable) "reference"
      (Value.ofBody? calls ⟨side, name, some (.record side name fields), []⟩ m).bind Value.reference?
  | _ => none

def calls : Nat → Calls
  | 0 => ⟨fun _ _ _ => none, fun _ => none⟩
  | depth + 1 => ⟨p.fromReference? (calls depth), p.reference? (calls depth)⟩

end Program

/-! ### Moves -/

inductive Choice where
  | index (position : Nat)
  | splat
  | key (k : String)
  deriving DecidableEq, Repr

def Choice.step : Choice → Reference.Step
  | .index position => .index position
  | .splat => .splat
  | .key k => .key k

def TypedReference.choose? (r : TypedReference) : Choice → Option TypedReference
  | .index position => r.index? position
  | .splat => r.splat?
  | .key k => r.key? k

inductive Move where
  | accessor (name : String)
  | choose (c : Choice)
  deriving DecidableEq, Repr

namespace Program

variable (p : Program)

def move? (depth : Nat) : Move → Value → Option Value
  | .accessor name, .record side record fields => do
      let m ← p.method? side record none name
      Value.ofBody? (p.calls depth) ⟨side, record, some (.record side record fields), []⟩ m
  | .choose c, .typed side r => do
      let element ← r.choose? c
      (p.calls depth).fromReference side element.type element.reference
  | _, _ => none

def run? (depth : Nat) : List Move → Value → Option Value
  | [], v => some v
  | m :: rest, v => (p.move? depth m v).bind (run? depth rest)

inductive Moves : Move → Side × Ty → Side × Ty → Prop
  | accessor {side home : Side} {qualifier : Option String} {record name : String} {m : MethodDecl}
      {value : Expr} (hr : p.resolve? side qualifier = some home)
      (hm : p.method? home record none name = some m) (hpublic : m.isPublic = true)
      (hreceiver : m.receiver = .ref) (hparams : m.params = []) (hb : m.body = [.expr value])
      (hv : HasType p ⟨home, record, true, []⟩ value m.returns) :
      Moves (.accessor name) (side, .named qualifier record) (home, m.returns)
  | index {side : Side} {t : Ty} {position : Nat} (ht : Builds p side t) :
      Moves (.choose (.index position)) (side, .support .listRef [t]) (side, t)
  | splatList {side : Side} {t : Ty} (ht : Builds p side t) :
      Moves (.choose .splat) (side, .support .listRef [t]) (side, t)
  | splatSet {side : Side} {t : Ty} (ht : Builds p side t) :
      Moves (.choose .splat) (side, .support .setRef [t]) (side, t)
  | key {side : Side} {t : Ty} {k : String} (ht : Builds p side t) :
      Moves (.choose (.key k)) (side, .support .mapRef [t]) (side, t)

def Follows : List Move → Side × Ty → Side × Ty → Prop
  | [], start, stop => start = stop
  | m :: rest, start, stop => ∃ next, p.Moves m start next ∧ Follows rest next stop

variable {p}

theorem Follows.append {first rest : List Move} {start middle stop : Side × Ty}
    (hf : p.Follows first start middle) (hr : p.Follows rest middle stop) :
    p.Follows (first ++ rest) start stop := by
  induction first generalizing start with
  | nil =>
      cases hf
      exact hr
  | cons m others ih =>
      obtain ⟨next, hm, ho⟩ := hf
      exact ⟨next, hm, ih ho⟩

theorem run?_append (depth : Nat) (first rest : List Move) (v : Value) :
    p.run? depth (first ++ rest) v = (p.run? depth first v).bind (p.run? depth rest) := by
  induction first generalizing v with
  | nil => rfl
  | cons m others ih =>
      simp only [List.cons_append, run?, Option.bind_assoc]
      exact congrArg _ (funext ih)

end Program

end ProviderBindings
