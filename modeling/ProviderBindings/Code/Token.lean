import ProviderBindings.Code.Type

/-!
Tokens of the generated code. A punctuation character is joint when it forms one mark with the next one.
-/

namespace ProviderBindings.Code

inductive Bracket where
  | round
  | square
  | curly
  deriving DecidableEq, Repr

inductive Token where
  | word (text : String)
  | punct (mark : Char) (joint : Bool)
  | literal (text : String)
  | group (bracket : Bracket) (contents : List Token)
  deriving Repr, Inhabited

namespace Token

def mark (c : Char) : Token := .punct c false

def pathMark : List Token := [.punct ':' true, .punct ':' false]

def path : List String → List Token
  | [] => []
  | [s] => [.word s]
  | s :: rest => .word s :: pathMark ++ path rest

def separated : List (List Token) → List Token
  | [] => []
  | [ts] => ts
  | ts :: rest => ts ++ mark ',' :: separated rest

def angled (head : List Token) (args : List Token) : List Token :=
  head ++ mark '<' :: args ++ [mark '>']

end Token

namespace Ty

open Token

mutual
def tokens : Ty → List Token
  | .unit => [.group .round []]
  | .bool => [.word "bool"]
  | .float => [.word "f64"]
  | .string => [.word "String"]
  | .str => [mark '&', .word "str"]
  | .staticStr => [mark '&', .punct '\'' true, .word "static", .word "str"]
  | .bytes => [mark '&', .group .square [.word "u8"]]
  | .vec item => angled [.word "Vec"] (tokens item)
  | .map value =>
      angled (path ["std", "collections", "BTreeMap"]) (.word "String" :: mark ',' :: tokens value)
  | .option item => angled [.word "Option"] (tokens item)
  | .result ok error => angled [.word "Result"] (tokens ok ++ mark ',' :: tokens error)
  | .ref target => mark '&' :: tokens target
  | .refMut target => mark '&' :: .word "mut" :: tokens target
  | .implInto target => .word "impl" :: angled [.word "Into"] (tokens target)
  | .named (some qualifier) name => path [qualifier, name]
  | .named none name => [.word name]
  | .support item [] => path item.segments
  | .support item args => angled (path item.segments) (tokensOf args)
  | .self => [.word "Self"]

def tokensOf : List Ty → List Token
  | [] => []
  | [t] => tokens t
  | t :: rest => tokens t ++ mark ',' :: tokensOf rest
end

end Ty

end ProviderBindings.Code
