/-!
The lines of a text, and the blanks at the end of a line.
-/

namespace ProviderBindings.Text

/-- The lines of a text; a carriage return that ends a line is no part of it, nor is the end of the text
after a line feed a line. -/
def linesFrom (line : List Char) : List Char → List (List Char)
  | [] => if line.isEmpty then [] else [line.reverse]
  | '\n' :: rest => (if line.head? = some '\r' then line.drop 1 else line).reverse :: linesFrom [] rest
  | c :: rest => linesFrom (c :: line) rest

def lines (s : String) : List (List Char) := linesFrom [] s.toList

def isBlank (c : Char) : Bool :=
  c == ' ' || (0x9 ≤ c.toNat && c.toNat ≤ 0xD) || c.toNat == 0x85 || c.toNat == 0xA0 ||
    c.toNat == 0x1680 || (0x2000 ≤ c.toNat && c.toNat ≤ 0x200A) || c.toNat == 0x2028 ||
    c.toNat == 0x2029 || c.toNat == 0x202F || c.toNat == 0x205F || c.toNat == 0x3000

def trimEnd (line : List Char) : List Char := (line.reverse.dropWhile isBlank).reverse

def trimmedLines (s : String) : List String := (lines s).map fun l => String.ofList (trimEnd l)

end ProviderBindings.Text
