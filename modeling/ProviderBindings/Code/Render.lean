import ProviderBindings.Code.Phrase
import ProviderBindings.Page
import ProviderBindings.Text.Lines

/-!
The text of a file of bindings: the header line, an empty line, and the formatted declarations.
-/

namespace ProviderBindings.Code

open Page (Box)

inductive RenderError where
  | invalidIdentifier (name : String)
  | unparsable
  deriving DecidableEq, Repr

def RenderError.message : RenderError → String
  | .invalidIdentifier name => "invalid identifier `" ++ name ++ "`"
  | .unparsable => "syn parse error"

def word (s : String) : Box := .text s

def pathText (segments : List String) : Box := .text ("::".intercalate segments)

/-- Boxes that are separated by commas, each behind a break; the last break puts a comma behind the last
box when it is taken. -/
def commaSeparated : List (List Box) → List Box
  | [] => []
  | [b] => b ++ [Box.outdented 0 ","]
  | b :: rest => b ++ word "," :: Box.blank :: commaSeparated rest

def listed (indent : Int) (boxes : List (List Box)) : List Box :=
  if boxes.isEmpty then [] else [.consistent indent (Box.zeroBreak :: commaSeparated boxes)]

def angled (head : List Box) (args : List (List Box)) : List Box :=
  head ++ word "<" :: listed Page.tab args ++ [word ">"]

namespace Ty

mutual
def boxes : Ty → List Box
  | .unit => [word "()"]
  | .bool => [word "bool"]
  | .float => [word "f64"]
  | .string => [word "String"]
  | .str => [word "&str"]
  | .staticStr => [word "&'static str"]
  | .bytes => [word "&[u8]"]
  | .vec item => angled [word "Vec"] [boxes item]
  | .map value => angled [pathText ["std", "collections", "BTreeMap"]] [[word "String"], boxes value]
  | .option item => angled [word "Option"] [boxes item]
  | .result ok error => angled [word "Result"] [boxes ok, boxes error]
  | .ref target => word "&" :: boxes target
  | .refMut target => word "&mut " :: boxes target
  | .implInto target => word "impl " :: angled [word "Into"] [boxes target]
  | .named qualifier name => [pathText (qualifier.toList ++ [name])]
  | .support item [] => [pathText item.segments]
  | .support item args => angled [pathText item.segments] (boxesOf args)
  | .self => [word "Self"]

def boxesOf : List Ty → List (List Box)
  | [] => []
  | t :: rest => boxes t :: boxesOf rest
end

end Ty

/-! ### Tokens inside a macro -/

def spacedWords : List String :=
  ["as", "async", "await", "box", "break", "const", "continue", "crate", "dyn", "else", "enum", "extern",
    "fn", "for", "if", "impl", "in", "let", "loop", "macro", "match", "mod", "move", "mut", "pub", "ref",
    "return", "static", "struct", "trait", "type", "unsafe", "use", "where", "while", "yield"]

/-- What the last token was, as far as the blank before the next one hangs on it. -/
inductive Before where
  | start
  | dot
  | colon
  | pathMark
  | word
  | wordBang
  | closed
  | other
  deriving DecidableEq, Repr

def spacing (before : Before) : Token → Bool × Before
  | .group .curly _ => (true, .other)
  | .group _ _ =>
      match before with
      | .word => (false, .closed)
      | .wordBang => (false, .other)
      | _ => (true, .closed)
  | .word w =>
      (before != .dot && before != .pathMark, if spacedWords.contains w then .other else .word)
  | .literal _ => (before != .dot, .word)
  | .punct ':' joint =>
      if before = .colon then (false, .pathMark)
      else if joint then (before != .word, .colon)
      else (true, .other)
  | .punct '!' false => if before = .word then (false, .wordBang) else (true, .other)
  | .punct ',' _ => (false, .other)
  | .punct '.' _ => (before != .word && before != .closed, .dot)
  | .punct _ _ => (true, .other)

def Token.isJoint : Token → Bool
  | .punct _ joint => joint
  | _ => false

def gap (tight joint : Bool) : Token → List Box
  | t =>
      if joint then []
      else if !tight then [Box.blank]
      else
        match t with
        | .punct '.' _ => [Box.zeroBreak]
        | _ => []

mutual
def tokenBoxes : Token → List Box
  | .word w => [word w]
  | .punct c _ => [word c.toString]
  | .literal t => [word t]
  | .group .round contents => word "(" :: tokensBoxes .start true contents ++ [word ")"]
  | .group .square contents => word "[" :: tokensBoxes .start true contents ++ [word "]"]
  | .group .curly [] => [word "\x7b\x7d"]
  | .group .curly contents =>
      word "\x7b" :: Box.blank :: tokensBoxes .start true contents ++ [Box.blank, word "\x7d"]

/-- The boxes of tokens behind another one; `joint` says that no blank may come before the first. -/
def tokensBoxes (before : Before) (joint : Bool) : List Token → List Box
  | [] => []
  | t :: rest =>
      let (spaced, after) := spacing before t
      gap (!spaced) joint t ++ tokenBoxes t ++ tokensBoxes after t.isJoint rest
end

/-! ### Expressions -/

namespace Phrase

/-- A name no wider than a tab stop; a chain that starts a line keeps its first selection beside it. -/
def isShortName : Phrase → Bool
  | .path [name] => name.utf8ByteSize ≤ 4 && name != "true"
  | _ => false

/-- An argument that stands directly inside the parentheses when it is the only one. -/
def isBlockLike : Phrase → Bool
  | .unit => true
  | .construct _ => true
  | .panic _ _ => true
  | _ => false

def dotBreak (lineStart : Bool) (base : Phrase) : List Box :=
  if lineStart && isShortName base then [] else [Box.zeroBreak]

def braceOpening : Box := .brk ⟨0, 0, "\x7b", "", false⟩

def braceClosing : Box := .brk ⟨0, -Page.tab, "", "\x7d", false⟩

/-- How a phrase is laid out: as a link of the chain of selections around it, or on its own. -/
inductive Place where
  | whole
  | link
  deriving DecidableEq, Repr

/-- The innermost link of a chain stands in a box that takes the indentation of the chain back. -/
def leaf (place : Place) (boxes : List Box) : List Box :=
  match place with
  | .whole => boxes
  | .link => [.consistent (-Page.tab) boxes]

def chain (place : Place) (links : List Box) : List Box :=
  match place with
  | .whole => [.consistent Page.tab links]
  | .link => links

/-- The arguments of the one call whose receiver starts a line as a short name keep the indentation of the
line. -/
def argIndent (place : Place) (lineStart : Bool) (receiver : Phrase) : Int :=
  if place = .whole ∧ lineStart ∧ isShortName receiver then -Page.tab else 0

mutual
def layOut (place : Place) (lineStart : Bool) : Phrase → List Box
  | .field base name =>
      chain place (layOut .link lineStart base ++ dotBreak lineStart base ++ [word ("." ++ name)])
  | .method receiver name args =>
      chain place (layOut .link lineStart receiver ++ dotBreak lineStart receiver ++
        [word ("." ++ name),
          .consistent (argIndent place lineStart receiver) (word "(" :: argBoxes args ++ [word ")"])])
  | .attempt inner => layOut place lineStart inner ++ [word "?"]
  | .call function args => layOut place false function ++ word "(" :: argBoxes args ++ [word ")"]
  | .path segments => leaf place [pathText segments]
  | .qualified type trait function =>
      leaf place (word "<" :: type.boxes ++
        [word ((match trait with
          | some item => " as " ++ item.fullPath
          | none => "") ++ ">::" ++ function)])
  | .literal text => leaf place [word text]
  | .unit => leaf place [word "()"]
  | .borrow inner =>
      leaf place (word "&" :: layOut .whole false inner)
  | .construct fields =>
      leaf place
        [.group true Page.tab (some 34)
          (if fields.isEmpty then [word "Self \x7b"] else word "Self \x7b" :: Box.blank :: fieldBoxes fields),
          word "\x7d"]
  | .panic message args =>
      leaf place
        [.filled 0 [word "||", .brk ⟨1, Page.tab, "", "", false⟩], Box.neverBreak,
          .consistent Page.tab
            [braceOpening, word "panic!(",
              .consistent Page.tab
                [Box.zeroBreak, .filled 0 (tokensBoxes .start true (message.tokens ++ tokensBehind args)),
                  Box.outdented 0 ""],
              word ")", braceClosing]]

def argBoxes (args : List Phrase) : List Box :=
  match args with
  | [] => []
  | [p] => if isBlockLike p then layOut .whole false p else listed Page.tab [layOut .whole false p]
  | ps => listed Page.tab (eachBoxes ps)

def eachBoxes : List Phrase → List (List Box)
  | [] => []
  | p :: rest => layOut .whole false p :: eachBoxes rest

def fieldBoxes : List (String × Option Phrase) → List Box
  | [] => []
  | [(name, value)] => fieldBox name value ++ [Box.outdented 1 ","]
  | (name, value) :: rest => fieldBox name value ++ word "," :: Box.blank :: fieldBoxes rest

def fieldBox (name : String) : Option Phrase → List Box
  | some p => [word (name ++ ": "), .filled 0 (layOut .whole false p)]
  | none => [word name]
end

end Phrase

def Expr.boxes (e : Expr) : List Box := e.phrase.layOut .whole false

def Expr.lineBoxes (e : Expr) : List Box := e.phrase.layOut .whole true

def Stmt.boxes (isLast : Bool) : Stmt → List Box
  | .assign target value =>
      [.filled 0 [.filled 0 (target.boxes ++ word " = " :: Box.neverBreak :: value.boxes), word ";"],
        Box.newline]
  | .expr e => [.filled 0 (e.lineBoxes ++ if isLast then [] else [word ";"]), Box.newline]

def bodyBoxes : List Stmt → List Box
  | [] => []
  | [s] => s.boxes true
  | s :: rest => s.boxes false ++ bodyBoxes rest

/-! ### Declarations -/

/-- A line behind the mark of a comment: an empty line is the mark alone, and blanks at the end go. -/
def commentLine (opening : String) (line : List Char) : String :=
  if line.isEmpty then opening
  else
    let trimmed := ((' ' :: line).reverse.dropWhile (· == ' ')).reverse
    opening ++ String.ofList trimmed

def docLines (docs : List String) : List (List Char) :=
  docs.flatMap fun d => if d.isEmpty then [[]] else Text.lines d

def docBoxes (opening : String) (docs : List String) : List Box :=
  (docLines docs).flatMap fun line => [word (commentLine opening line), Box.newline]

def attributeBoxes (name : String) (args : List String) : List Box :=
  let rec separated : List String → List Box
    | [] => []
    | [a] => [word a]
    | a :: rest => word (a ++ ",") :: Box.blank :: separated rest
  [word ("#[" ++ name ++ "("),
    .consistent Page.tab (Box.zeroBreak :: separated args ++ [Box.outdented 0 ""]),
    word ")]", Box.blank]

def Derive.text : Derive → String
  | .debug => "Debug"
  | .clone => "Clone"
  | .default => "Default"
  | .partialEq => "PartialEq"
  | .serialize => SupportItem.serde.fullPath ++ "::Serialize"
  | .deserialize => SupportItem.serde.fullPath ++ "::Deserialize"

def Serde.text : Serde → String
  | .crate path => "crate = " ++ Text.literal path
  | .default => "default"
  | .rename name => "rename = " ++ Text.literal name
  | .skipIf path => "skip_serializing_if = " ++ Text.literal path
  | .decodeWith path => "deserialize_with = " ++ Text.literal path

def derivesBoxes (derives : List Derive) : List Box :=
  if derives.isEmpty then [] else attributeBoxes "derive" (derives.map Derive.text)

def serdeBoxes (serde : List Serde) : List Box :=
  if serde.isEmpty then [] else attributeBoxes "serde" (serde.map Serde.text)

def visibility (isPublic : Bool) : String := if isPublic then "pub " else ""

def FieldDecl.boxes (f : FieldDecl) : List Box :=
  docBoxes "///" f.docs ++ serdeBoxes f.serde ++
    word (visibility f.isPublic ++ f.name ++ ": ") :: f.type.boxes

def braced (members : List (List Box)) : List Box :=
  let rec lines : List (List Box) → List Box
    | [] => []
    | [m] => m ++ [Box.outdented Page.unbounded ""]
    | m :: rest => m ++ Box.newline :: lines rest
  if members.isEmpty then [word "\x7b"] else word "\x7b" :: Box.newline :: lines members

def StructDecl.boxes (s : StructDecl) : List Box :=
  docBoxes "///" s.docs ++ derivesBoxes s.derives ++ serdeBoxes s.serde ++
    [.consistent Page.tab (word (visibility s.isPublic ++ "struct " ++ s.name ++ " ") ::
        braced (s.fields.map fun f => f.boxes ++ [word ","])),
      word "\x7d", Box.newline]

def Receiver.boxes : Receiver → List (List Box)
  | .none => []
  | .ref => [[word "&self"]]
  | .refMut => [[word "&mut self"]]

def paramBoxes (p : String × Ty) : List Box := word (p.1 ++ ": ") :: p.2.boxes

def outdentLast (boxes : List Box) : List Box := boxes.dropLast ++ [Box.outdented Page.unbounded ""]

def MethodDecl.boxes (inTrait : Bool) (m : MethodDecl) : List Box :=
  let params := m.receiver.boxes ++ m.params.map paramBoxes
  let body := if m.body.isEmpty then [] else Box.newline :: outdentLast (bodyBoxes m.body)
  docBoxes "///" m.docs ++
    [.consistent Page.tab
        ([word (visibility (m.isPublic && !inTrait) ++ "fn " ++ m.name ++ "("), Box.neverBreak] ++
          listed 0 params ++
          [word ")", .consistent (-Page.tab) (word " -> " :: m.returns.boxes), word " \x7b"] ++ body),
      word "\x7d"]

def ImplDecl.boxes (i : ImplDecl) : List Box :=
  let heading :=
    match i.trait with
    | some item => [word ("impl " ++ item.fullPath), Box.blank, word ("for " ++ i.target)]
    | none => [word ("impl " ++ i.target)]
  [.consistent Page.tab
      (.filled (-Page.tab) heading :: word " " :: braced (i.methods.map (·.boxes i.trait.isSome))),
    word "\x7d", Box.newline]

def useBoxes (path : List String) : List Box :=
  [word ("use " ++ "::".intercalate path ++ ";"), Box.newline]

def Item.boxes : Item → List Box
  | .module_ name => [word ("pub mod " ++ name ++ ";"), Box.newline]
  | .struct decl => decl.boxes
  | .impl decl => decl.boxes

def File.boxes (f : File) : List Box :=
  [.consistent 0 (docBoxes "//!" f.docs ++ f.uses.flatMap useBoxes ++ f.items.flatMap Item.boxes)]

def toolVersion : String := "0.1.0"

def header (version : String) : String :=
  "// Code generated by terragen v" ++ version ++ ". DO NOT EDIT."

/-- The text of a file, unless one of its names is no identifier or does not fit its place. -/
def File.render (version : String) (f : File) : Except RenderError String :=
  match f.names.find? (!isIdentifier ·) with
  | some name => .error (.invalidIdentifier name)
  | none =>
      if f.isParsable then .ok (header version ++ "\n\n" ++ Page.render f.boxes)
      else .error .unparsable

end ProviderBindings.Code
