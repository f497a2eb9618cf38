import ProviderBindings.Json.Value

/-!
JSON text as a reader finds it, before it is known which of its parts are wanted: a tree of the values
with their places in the text, in which every fault stands where it was met. Wanted values are read
strictly; the values of unknown members are only skimmed, which overlooks some faults. Each fault
therefore says what a reader and what a skimmer make of it.
-/

namespace ProviderBindings.Json

inductive Cause where
  | endInValue
  | endInList
  | endInObject
  | endInText
  | expectedValue
  | expectedLiteral
  | expectedColon
  | expectedListEnd
  | expectedObjectEnd
  | trailingComma
  | keyNotText
  | trailingCharacters
  | invalidNumber
  | numberOutOfRange
  | controlCharacter
  | invalidEscape
  | loneSurrogate
  | openSurrogatePair
  | invalidCodePoint
  | tooDeep
  deriving DecidableEq, Repr

inductive Category where
  | ending
  | form
  | data
  deriving DecidableEq, Repr

def Cause.category : Cause → Category
  | .endInValue | .endInList | .endInObject | .endInText => .ending
  | _ => .form

def Cause.message : Cause → String
  | .endInValue => "EOF while parsing a value"
  | .endInList => "EOF while parsing a list"
  | .endInObject => "EOF while parsing an object"
  | .endInText => "EOF while parsing a string"
  | .expectedValue => "expected value"
  | .expectedLiteral => "expected ident"
  | .expectedColon => "expected `:`"
  | .expectedListEnd => "expected `,` or `]`"
  | .expectedObjectEnd => "expected `,` or `\x7d`"
  | .trailingComma => "trailing comma"
  | .keyNotText => "key must be a string"
  | .trailingCharacters => "trailing characters"
  | .invalidNumber => "invalid number"
  | .numberOutOfRange => "number out of range"
  | .controlCharacter => "control character (\\u0000-\\u001F) found while parsing a string"
  | .invalidEscape => "invalid escape"
  | .loneSurrogate => "lone leading surrogate in hex escape"
  | .openSurrogatePair => "unexpected end of hex escape"
  | .invalidCodePoint => "invalid unicode code point"
  | .tooDeep => "recursion limit exceeded"

/-- A cause and the number of bytes of the text up to and including the place it is reported at. -/
structure Fault where
  cause : Cause
  offset : Nat
  deriving DecidableEq, Repr

inductive Scalar where
  | null
  | bool (value : Bool)
  | number (value : Number)
  | text (value : String)
  deriving DecidableEq, Repr

def Scalar.toJson : Scalar → Json
  | .null => .null
  | .bool b => .bool b
  | .number n => .number n
  | .text s => .text s

inductive Close where
  | closed
  | broken (reading skimming : Fault)
  deriving DecidableEq, Repr

/-- The key of a member and the number of bytes up to and including its closing quote. A key that only a
skimmer accepts has a fault in place of its text. -/
structure Key where
  text : Except Fault String
  stop : Nat

/-- Where a list or an object begins: the bytes before its bracket, and whether it lies deeper than a
reader goes. -/
structure Opening where
  offset : Nat
  tooDeep : Bool
  deriving DecidableEq, Repr

def Opening.fault? (o : Opening) : Option Fault :=
  if o.tooDeep then some ⟨.tooDeep, o.offset + 1⟩ else none

inductive Tree where
  | scalar (value : Scalar) (start stop : Nat)
  | spoiled (fault : Fault) (start : Nat)
  | broken (reading skimming : Fault) (start : Nat)
  | list (opening : Opening) (items : List Tree) (close : Close)
  | object (opening : Opening) (members : List (Key × Tree)) (close : Close)

def Tree.start : Tree → Nat
  | .scalar _ start _ => start
  | .spoiled _ start => start
  | .broken _ _ start => start
  | .list opening _ _ => opening.offset
  | .object opening _ _ => opening.offset

def Close.skimmed : Close → Option Fault
  | .closed => none
  | .broken _ skimming => some skimming

mutual
def Tree.skimmed : Tree → Option Fault
  | .scalar _ _ _ => none
  | .spoiled _ _ => none
  | .broken _ skimming _ => some skimming
  | .list _ items close => skimmedItems close items
  | .object _ members close => skimmedMembers close members

def skimmedItems (close : Close) : List Tree → Option Fault
  | [] => close.skimmed
  | t :: rest => t.skimmed <|> skimmedItems close rest

def skimmedMembers (close : Close) : List (Key × Tree) → Option Fault
  | [] => close.skimmed
  | (_, t) :: rest => t.skimmed <|> skimmedMembers close rest
end

mutual
/-- A value as the tree of a faultless text; all its places are zero. -/
def Tree.ofJson : Json → Tree
  | .list items => .list ⟨0, false⟩ (treesOfItems items) .closed
  | .object members => .object ⟨0, false⟩ (treesOfMembers members) .closed
  | .null => .scalar .null 0 0
  | .bool b => .scalar (.bool b) 0 0
  | .number n => .scalar (.number n) 0 0
  | .text s => .scalar (.text s) 0 0

def treesOfItems : List Json → List Tree
  | [] => []
  | v :: rest => Tree.ofJson v :: treesOfItems rest

def treesOfMembers : List (String × Json) → List (Key × Tree)
  | [] => []
  | (k, v) :: rest => (⟨.ok k, 0⟩, Tree.ofJson v) :: treesOfMembers rest
end

def Close.read : Close → Except Fault Unit
  | .closed => .ok ()
  | .broken reading _ => .error reading

mutual
/-- The value, or the first fault that reading it meets. Of members with equal keys the last one stays. -/
def Tree.toJson : Tree → Except Fault Json
  | .scalar s _ _ => .ok s.toJson
  | .spoiled fault _ => .error fault
  | .broken reading _ _ => .error reading
  | .list opening items close =>
      match opening.fault? with
      | some fault => .error fault
      | none => (jsonOfItems close items).map .list
  | .object opening members close =>
      match opening.fault? with
      | some fault => .error fault
      | none => (jsonOfMembers close [] members).map .object

def jsonOfItems (close : Close) : List Tree → Except Fault (List Json)
  | [] => close.read.map fun _ => []
  | t :: rest => do
      let v ← t.toJson
      let vs ← jsonOfItems close rest
      .ok (v :: vs)

def jsonOfMembers (close : Close) (done : Table Json) : List (Key × Tree) → Except Fault (Table Json)
  | [] => close.read.map fun _ => done
  | (key, t) :: rest => do
      let k ← key.text
      let v ← t.toJson
      jsonOfMembers close (Table.insert k v done) rest
end

end ProviderBindings.Json
