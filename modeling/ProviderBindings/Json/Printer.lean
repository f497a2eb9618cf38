import ProviderBindings.Json.Value
import ProviderBindings.Number.Shortest
import ProviderBindings.Text.Quoted

/-!
JSON text of a value: the compact form without blanks, and the indented form with one member or item a
line. A number that is not finite is written as `null`.
-/

namespace ProviderBindings.Json

def fourHexDigits (n : Nat) : List Char :=
  let digits := Nat.toDigits 16 n
  List.replicate (4 - digits.length) '0' ++ digits

def escapedChar (c : Char) : List Char :=
  if c = '"' then ['\\', '"']
  else if c = '\\' then ['\\', '\\']
  else if c = '\x08' then ['\\', 'b']
  else if c = '\x0c' then ['\\', 'f']
  else if c = '\n' then ['\\', 'n']
  else if c = '\r' then ['\\', 'r']
  else if c = '\t' then ['\\', 't']
  else if c.toNat < 32 then ['\\', 'u'] ++ fourHexDigits c.toNat
  else [c]

def quotedChars (s : String) : List Char :=
  '"' :: (s.toList.flatMap escapedChar ++ ['"'])

def quote (s : String) : String := String.ofList (quotedChars s)

def realText (x : Binary64) : String := (x.write? Binary64.standardLayout).getD "null"

def Number.print : Number → String
  | .integer i => toString i
  | .real x => realText x

def scalarChars : Json → List Char
  | .bool true => ['t', 'r', 'u', 'e']
  | .bool false => ['f', 'a', 'l', 's', 'e']
  | .number n => n.print.toList
  | .text s => quotedChars s
  | _ => ['n', 'u', 'l', 'l']

mutual
def chars : Json → List Char
  | .list items => '[' :: (itemChars items ++ [']'])
  | .object members => '\x7b' :: (memberChars members ++ ['\x7d'])
  | scalar => scalarChars scalar

def itemChars : List Json → List Char
  | [] => []
  | [v] => chars v
  | v :: rest => chars v ++ ',' :: itemChars rest

def memberChars : List (String × Json) → List Char
  | [] => []
  | [(k, v)] => quotedChars k ++ ':' :: chars v
  | (k, v) :: rest => quotedChars k ++ ':' :: (chars v ++ ',' :: memberChars rest)
end

def print (v : Json) : String := String.ofList (chars v)

def newline (depth : Nat) : List Char := '\n' :: List.replicate (2 * depth) ' '

mutual
def prettyChars (depth : Nat) : Json → List Char
  | .list [] => ['[', ']']
  | .list items => '[' :: (prettyItems (depth + 1) items ++ newline depth ++ [']'])
  | .object [] => ['\x7b', '\x7d']
  | .object members => '\x7b' :: (prettyMembers (depth + 1) members ++ newline depth ++ ['\x7d'])
  | scalar => scalarChars scalar

def prettyItems (depth : Nat) : List Json → List Char
  | [] => []
  | [v] => newline depth ++ prettyChars depth v
  | v :: rest => newline depth ++ prettyChars depth v ++ ',' :: prettyItems depth rest

def prettyMembers (depth : Nat) : List (String × Json) → List Char
  | [] => []
  | [(k, v)] => newline depth ++ quotedChars k ++ ':' :: ' ' :: prettyChars depth v
  | (k, v) :: rest =>
      newline depth ++ quotedChars k ++ ':' :: ' ' :: (prettyChars depth v ++
        ',' :: prettyMembers depth rest)
end

def pretty (v : Json) : String := String.ofList (prettyChars 0 v)

end ProviderBindings.Json
