import ProviderBindings.Naming.Case
import ProviderBindings.Naming.Keyword

/-!
The names that bindings give to the things of a provider schema.
-/

namespace ProviderBindings.Naming

def registryHost : String := "registry.terraform.io/"

def registryQualified (source : String) : String := registryHost ++ source

def providerType (source : String) : String :=
  String.ofList (source.toList.reverse.takeWhile (· != '/')).reverse

def afterLeading : List Char → List Char → Option (List Char)
  | [], cs => some cs
  | _ :: _, [] => none
  | a :: as, c :: cs => if a = c then afterLeading as cs else none

/-- A type name without the provider type and the underscore it starts with; other names, and those with
nothing behind the underscore, stay. -/
def shortTypeName (provider typeName : String) : String :=
  match afterLeading (provider.toList ++ ['_']) typeName.toList with
  | some [] => typeName
  | some rest => String.ofList rest
  | none => typeName

def reservedTypeNames : List String :=
  ["Into", "None", "Ok", "Option", "Result", "Self", "Some", "String", "Vec"]

def reservedModuleNames : List String := ["alloc", "core", "std", "terra"]

def recordName (name : String) : String :=
  let pascal := pascalCase name
  if reservedTypeNames.contains pascal then pascal ++ "Block" else pascal

structure RecordTriad where
  args : String
  attributes : String
  state : String
  deriving DecidableEq, Repr

def RecordTriad.toList (t : RecordTriad) : List String := [t.args, t.attributes, t.state]

def recordTriad (name : String) : RecordTriad :=
  let args := recordName name
  ⟨args, args ++ "Attributes", args ++ "State"⟩

def moduleName (name : String) : String :=
  let snake := snakeCase name
  if reservedModuleNames.contains snake then snake ++ "_" else escape snake

def memberName (name : String) : String := escape (snakeCase name)

/-- The name of a module's file without its extension: a raw identifier loses its mark. -/
def fileStem (identifier : String) : String :=
  match identifier.toList with
  | 'r' :: '#' :: rest => String.ofList rest
  | _ => identifier

end ProviderBindings.Naming
