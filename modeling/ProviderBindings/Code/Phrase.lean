import ProviderBindings.Code.Identifier
import ProviderBindings.Code.Token
import ProviderBindings.Text.Quoted

/-!
Expressions as a reader of the generated code groups them. A borrow extends over the selections, calls and
attempts behind it, so that an expression written behind a borrow belongs to what is borrowed.
-/

namespace ProviderBindings.Code

inductive Phrase where
  | path (segments : List String)
  /-- A function of a type, or of a trait as the type has it. -/
  | qualified (type : Ty) (trait : Option SupportItem) (function : String)
  | literal (text : String)
  | unit
  | borrow (inner : Phrase)
  | field (base : Phrase) (name : String)
  | method (receiver : Phrase) (name : String) (args : List Phrase)
  | call (function : Phrase) (args : List Phrase)
  | attempt (inner : Phrase)
  | construct (fields : List (String × Option Phrase))
  | panic (message : Phrase) (args : List Phrase)
  deriving Inhabited

namespace Phrase

def string (s : String) : Phrase := .literal (Text.literal s)

def selectField (name : String) : Phrase → Phrase
  | .borrow inner => .borrow (selectField name inner)
  | p => .field p name

def callMethod (name : String) (args : List Phrase) : Phrase → Phrase
  | .borrow inner => .borrow (callMethod name args inner)
  | p => .method p name args

def attempted : Phrase → Phrase
  | .borrow inner => .borrow (attempted inner)
  | p => .attempt p

def callPath (segments : List String) (args : List Phrase) : Phrase := .call (.path segments) args

end Phrase

namespace Expr

mutual
def phrase : Expr → Phrase
  | .str value => .string value
  | .unit => .unit
  | .var name => .path [name]
  | .self => .path ["self"]
  | .field base name => (phrase base).selectField name
  | .borrow inner => .borrow (phrase inner)
  | .method receiver name args => (phrase receiver).callMethod name (phrases args)
  | .call item function args => .callPath (item.segments ++ function.toList) (phrases args)
  | .fromReference type reference =>
      .call (.qualified type (Option.some .fromReference) "from_reference") [phrase reference]
  | .traverse base step name => (phrase base).callMethod step.method [.string name]
  | .selfReference => .callPath (SupportItem.referencable.segments ++ ["reference"]) [.path ["self"]]
  | .construct fields => .construct (phrasesOfFields fields)
  | .into inner => (phrase inner).callMethod "into" []
  | .none => .path ["None"]
  | .some inner => .callPath ["Some"] [phrase inner]
  | .ok inner => .callPath ["Ok"] [phrase inner]
  | .attempt inner => (phrase inner).attempted
  | .default (.named qualifier name) => .callPath (qualifier.toList ++ [name, "default"]) []
  | .default (.support item []) => .callPath (item.segments ++ ["default"]) []
  | .default type => .call (.qualified type Option.none "default") []
  | .unwrapOrPanic value message args =>
      (phrase value).callMethod "unwrap_or_else" [.panic (.string message) (phrases args)]

def phrases : List Expr → List Phrase
  | [] => []
  | e :: rest => phrase e :: phrases rest

def phrasesOfFields : List (String × Expr) → List (String × Option Phrase)
  | [] => []
  | (name, e) :: rest =>
      (name, if isShorthand name e then Option.none else Option.some (phrase e)) :: phrasesOfFields rest
end

end Expr

namespace Phrase

open Token

mutual
def tokens : Phrase → List Token
  | .path segments => Token.path segments
  | .qualified type trait function =>
      mark '<' :: type.tokens ++
        (match trait with
          | some item => .word "as" :: Token.path item.segments
          | none => []) ++
        mark '>' :: pathMark ++ [.word function]
  | .literal text => [.literal text]
  | .unit => [.group .round []]
  | .borrow inner => mark '&' :: tokens inner
  | .field base name => tokens base ++ [mark '.', .word name]
  | .method receiver name args =>
      tokens receiver ++ [mark '.', .word name, .group .round (tokensOfArgs args)]
  | .call function args => tokens function ++ [.group .round (tokensOfArgs args)]
  | .attempt inner => tokens inner ++ [mark '?']
  | .construct fields => [.word "Self", .group .curly (tokensOfFields fields)]
  | .panic message args =>
      [.punct '|' true, .punct '|' false, .word "panic", mark '!',
        .group .round (tokens message ++ tokensBehind args)]

def tokensOfArgs : List Phrase → List Token
  | [] => []
  | [p] => tokens p
  | p :: rest => tokens p ++ mark ',' :: tokensOfArgs rest

def tokensBehind : List Phrase → List Token
  | [] => []
  | p :: rest => mark ',' :: tokens p ++ tokensBehind rest

def tokensOfFields : List (String × Option Phrase) → List Token
  | [] => []
  | [(name, some p)] => .word name :: mark ':' :: tokens p
  | [(name, none)] => [.word name]
  | (name, some p) :: rest => .word name :: mark ':' :: tokens p ++ mark ',' :: tokensOfFields rest
  | (name, none) :: rest => .word name :: mark ',' :: tokensOfFields rest
end

mutual
/-- Whether a reader accepts the phrase. What a panic says is not read any further. -/
def isParsable : Phrase → Bool
  | .path segments => isValuePath segments
  | .qualified type _ _ => type.isParsable
  | .borrow inner => isParsable inner
  | .field base name => isParsable base && (isFree name || name == "await")
  | .method receiver name args => isParsable receiver && isFree name && allParsable args
  | .call function args => isParsable function && allParsable args
  | .attempt inner => isParsable inner
  | .construct fields => fieldsParsable fields
  | _ => true

def allParsable : List Phrase → Bool
  | [] => true
  | p :: rest => isParsable p && allParsable rest

def fieldsParsable : List (String × Option Phrase) → Bool
  | [] => true
  | (name, some p) :: rest => isFree name && isParsable p && fieldsParsable rest
  | (name, none) :: rest => isFree name && fieldsParsable rest
end

/-- Whether the phrase starts with the crate keyword alone, which a statement must not. -/
def startsWithCrate : Phrase → Bool
  | .path ["crate"] => true
  | .field base _ => startsWithCrate base
  | .method receiver _ _ => startsWithCrate receiver
  | .call function _ => startsWithCrate function
  | .attempt inner => startsWithCrate inner
  | _ => false

end Phrase

def Stmt.isParsable : Stmt → Bool
  | .assign target value =>
      target.phrase.isParsable && !target.phrase.startsWithCrate && value.phrase.isParsable
  | .expr e => e.phrase.isParsable && !e.phrase.startsWithCrate

/-- A parameter is a free name or a word that reads as a pattern; `self` is the receiver when no other one
comes before it. -/
def paramsParsable (first : Bool) : List (String × Ty) → Bool
  | [] => true
  | (name, type) :: rest =>
      (isFree name || ["Self", "super", "crate", "true", "false"].contains name ||
        (name == "self" && first)) &&
        type.isParsable && paramsParsable false rest

def MethodDecl.isParsable (m : MethodDecl) : Bool :=
  isFree m.name && paramsParsable (m.receiver == .none) m.params && m.returns.isParsable &&
    m.body.all Stmt.isParsable

def StructDecl.isParsable (s : StructDecl) : Bool :=
  isFree s.name && s.fields.all fun f => isFree f.name && f.type.isParsable

def ImplDecl.isParsable (i : ImplDecl) : Bool :=
  isTypePath [i.target] && i.methods.all MethodDecl.isParsable

def Item.isParsable : Item → Bool
  | .module_ name => isFree name || name == "try"
  | .struct decl => decl.isParsable
  | .impl decl => decl.isParsable

def File.isParsable (f : File) : Bool := f.uses.all isUsePath && f.items.all Item.isParsable

end ProviderBindings.Code
