import ProviderBindings.Naming
import ProviderBindings.Text.Split

/-!
Requested providers: a local name, a source address and a version, written `<local>=<source>:<version>`.
The source may contain both separators, since the first `=` and the last `:` count.
-/

namespace ProviderBindings

structure ProviderSpec where
  localName : String
  source : String
  version : String
  deriving DecidableEq, Repr, Inhabited

inductive SpecFault where
  | noEquals
  | noVersion
  | emptyLocalName
  | emptySource
  | emptyVersion
  | invalidLocalName
  deriving DecidableEq, Repr

def SpecFault.message : SpecFault → String
  | .noEquals => "missing `=`"
  | .noVersion => "missing `:<version>`"
  | .emptyLocalName => "empty local name"
  | .emptySource => "empty source address"
  | .emptyVersion => "empty version"
  | .invalidLocalName =>
      "local name must start with a letter and contain only letters, digits, `_` or `-`"

inductive PathFault where
  | notAtCrate
  | noIdentifier
  | keyword
  deriving DecidableEq, Repr

def PathFault.message : PathFault → String
  | .notAtCrate => "the path must start with `crate`"
  | .noIdentifier => "every segment must be a Rust identifier"
  | .keyword => "segments after `crate` may not be keywords"

inductive ConfigError where
  | providerSpec (spec : String) (fault : SpecFault)
  | duplicateLocalName (name : String)
  | moduleCollision (first second identifier : String)
  | modulePath (path : String) (fault : PathFault)
  deriving DecidableEq, Repr

def ConfigError.message : ConfigError → String
  | .providerSpec spec fault =>
      "invalid provider spec `" ++ spec ++ "`: " ++ fault.message ++
        " (expected `<local>=<source>:<version>`)"
  | .duplicateLocalName name => "provider local name `" ++ name ++ "` is given more than once"
  | .moduleCollision first second identifier =>
      "provider local names `" ++ first ++ "` and `" ++ second ++ "` both generate module `" ++
        identifier ++ "`"
  | .modulePath path fault => "invalid module path `" ++ path ++ "`: " ++ fault.message

namespace ProviderSpec

def isLocalNameChar (c : Char) : Bool := c.isAlphanum || c == '_' || c == '-'

def isLocalName : List Char → Bool
  | [] => false
  | c :: rest => c.isAlpha && rest.all isLocalNameChar

def ofChars? (cs : List Char) : Except SpecFault ProviderSpec :=
  match Text.splitAtFirst '=' cs with
  | none => .error .noEquals
  | some (localName, rest) =>
      match Text.splitAtLast ':' rest with
      | none => .error .noVersion
      | some (source, version) =>
          if localName.isEmpty then .error .emptyLocalName
          else if source.isEmpty then .error .emptySource
          else if version.isEmpty then .error .emptyVersion
          else if !isLocalName localName then .error .invalidLocalName
          else .ok ⟨String.ofList localName, String.ofList source, String.ofList version⟩

def ofString? (spec : String) : Except ConfigError ProviderSpec :=
  match ofChars? spec.toList with
  | .ok p => .ok p
  | .error fault => .error (.providerSpec spec fault)

def display (p : ProviderSpec) : String := p.localName ++ "=" ++ p.source ++ ":" ++ p.version

def directory (p : ProviderSpec) : String := Naming.moduleName p.localName

def stem (p : ProviderSpec) : String := Naming.fileStem p.directory

end ProviderSpec

/-- Reads specs in order; `earlier` holds the local names read before. -/
def readSpecs (earlier : List String) : List String → Except ConfigError (List ProviderSpec)
  | [] => .ok []
  | spec :: rest => do
      let p ← ProviderSpec.ofString? spec
      if earlier.contains p.localName then .error (.duplicateLocalName p.localName)
      else
        let ps ← readSpecs (p.localName :: earlier) rest
        .ok (p :: ps)

/-- Refuses the first provider whose directory one before it has already; `earlier` holds those, the
nearest first. -/
def checkDirectories (earlier : List ProviderSpec) : List ProviderSpec → Except ConfigError Unit
  | [] => .ok ()
  | p :: rest =>
      match earlier.find? (·.stem = p.stem) with
      | some first => .error (.moduleCollision first.localName p.localName p.directory)
      | none => checkDirectories (p :: earlier) rest

def checkProviderModules (providers : List ProviderSpec) : Except ConfigError Unit :=
  checkDirectories [] providers

def parseProviderSpecs (specs : List String) : Except ConfigError (List ProviderSpec) := do
  let providers ← readSpecs [] specs
  checkProviderModules providers
  .ok providers

end ProviderBindings
