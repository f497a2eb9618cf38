import ProviderBindings.ProviderSpec

/-!
The module at which bindings are mounted: `crate` and identifiers below it, joined by `::`.
-/

namespace ProviderBindings

structure ModulePath where
  segments : List String
  deriving DecidableEq, Repr, Inhabited

namespace ModulePath

def display (p : ModulePath) : String := "::".intercalate p.segments

def join (p : ModulePath) (segment : String) : ModulePath := ⟨p.segments ++ [segment]⟩

def standard : ModulePath := ⟨["crate", "terra_gen"]⟩

def pushHead (c : Char) : List (List Char) → List (List Char)
  | [] => [[c]]
  | s :: rest => (c :: s) :: rest

def splitColons : List Char → List (List Char)
  | [] => [[]]
  | ':' :: ':' :: rest => [] :: splitColons rest
  | c :: rest => pushHead c (splitColons rest)

def isNameLike : List Char → Bool
  | [] => false
  | c :: rest => (c.isAlpha || c == '_') && rest.all fun d => d.isAlphanum || d == '_'

def checkSegments : List String → Except PathFault Unit
  | [] => .ok ()
  | s :: rest =>
      if !isNameLike s.toList then .error .noIdentifier
      else if Naming.isKeyword s || s == "_" then .error .keyword
      else checkSegments rest

def ofSegments? : List String → Except PathFault ModulePath
  | [] => .error .notAtCrate
  | first :: rest =>
      if first ≠ "crate" then .error .notAtCrate
      else (checkSegments rest).map fun _ => ⟨first :: rest⟩

def ofString? (path : String) : Except ConfigError ModulePath :=
  match ofSegments? ((splitColons path.toList).map String.ofList) with
  | .ok p => .ok p
  | .error fault => .error (.modulePath path fault)

end ModulePath

end ProviderBindings
