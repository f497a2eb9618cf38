/-!
Keywords of the generated language, Rust, and the escaping of names that would be read as one.
-/

namespace ProviderBindings.Naming

/-- Strict and reserved keywords that may be written as raw identifiers. -/
def keywords : List String :=
  ["as", "break", "const", "continue", "crate", "else", "enum", "extern", "false", "fn", "for", "if",
    "impl", "in", "let", "loop", "match", "mod", "move", "mut", "pub", "ref", "return", "static",
    "struct", "super", "trait", "true", "type", "unsafe", "use", "where", "while", "async", "await",
    "dyn", "abstract", "become", "box", "do", "final", "macro", "override", "priv", "typeof", "unsized",
    "virtual", "yield", "try", "gen"]

def nonRawKeywords : List String := ["self", "Self", "super", "crate", "_"]

def isKeyword (name : String) : Bool := keywords.contains name

def escape (name : String) : String :=
  if nonRawKeywords.contains name then name ++ "_"
  else if isKeyword name then "r#" ++ name
  else name

end ProviderBindings.Naming
