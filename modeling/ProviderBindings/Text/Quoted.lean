import ProviderBindings.Text.Class

/-!
Quoted text in which every character that would not show as itself is escaped: the backslash forms of
the quote, the backslash and the common controls, and `\u` with the code point in braces for the rest.
-/

namespace ProviderBindings.Text

def escapedChar (c : Char) : List Char :=
  if c = '\x00' then ['\\', '0']
  else if c = '\t' then ['\\', 't']
  else if c = '\r' then ['\\', 'r']
  else if c = '\n' then ['\\', 'n']
  else if c = '"' then ['\\', '"']
  else if c = '\\' then ['\\', '\\']
  else if isPrintable c && !isGraphemeExtend c then [c]
  else ['\\', 'u', '\x7b'] ++ Nat.toDigits 16 c.toNat ++ ['\x7d']

def quoted (s : String) : String :=
  String.ofList ('"' :: (s.toList.flatMap escapedChar ++ ['"']))

/-- As mapping `escapedChar`, but a NUL before an octal digit is spelled with two hexadecimal digits, so
that the digit cannot be read as part of the escape. -/
def literalChars : List Char → List Char
  | [] => []
  | '\x00' :: d :: rest =>
      (if '0' ≤ d && d ≤ '7' then ['\\', 'x', '0', '0'] else ['\\', '0']) ++ literalChars (d :: rest)
  | c :: rest => escapedChar c ++ literalChars rest

def literal (s : String) : String :=
  String.ofList ('"' :: (literalChars s.toList ++ ['"']))

end ProviderBindings.Text
