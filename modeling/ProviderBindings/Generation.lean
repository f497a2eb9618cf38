import ProviderBindings.Output
import ProviderBindings.Provider.Source
import ProviderBindings.SchemaSource

/-!
Generation runs: the output directory is prepared, every requested provider is fetched, compiled and
written, and the index of all written providers comes last. A provider that fails costs itself only.
-/

namespace ProviderBindings

structure Request where
  outDirectory : String
  mount : ModulePath
  /-- Whether an output directory that is not empty is replaced. -/
  force : Bool
  providers : List ProviderSpec
  /-- The time for fetching one provider's schema, in milliseconds. -/
  timeout : Nat
  deriving DecidableEq, Repr

def Request.standardTimeout : Nat := 300000

def Request.ofProviders (outDirectory : String) (providers : List ProviderSpec) : Request :=
  ⟨outDirectory, .standard, false, providers, Request.standardTimeout⟩

inductive RunError where
  | config (e : ConfigError)
  | output (e : OutputError)
  | schemaNotFound (localName address : String) (available : List String)
  | source (provider : String) (e : SourceError)
  | timeout (provider : String) (limit : Nat)
  | entity (provider entity : String) (e : EntityError)
  | render (e : Code.RenderError)
  deriving DecidableEq, Repr

namespace RunError

def message : RunError → String
  | .config e => e.message
  | .output e => e.message
  | .schemaNotFound localName address _ =>
      "provider `" ++ localName ++ "`: no schema for `" ++ address ++ "` in the schema document"
  | .source provider _ => "provider `" ++ provider ++ "`: schema acquisition failed"
  | .timeout provider limit =>
      "provider `" ++ provider ++ "`: schema acquisition timed out after " ++ toString (limit / 1000) ++ "s"
  | .entity provider name _ => "provider `" ++ provider ++ "`: " ++ name ++ " was not generated"
  | .render e => e.message

def code : RunError → String
  | .config _ => "terragen::config"
  | .output e => e.code
  | .schemaNotFound _ _ _ => "terragen::schema_not_found"
  | .source _ _ => "terragen::source"
  | .timeout _ _ => "terragen::timeout"
  | .entity _ _ _ => "terragen::entity"
  | .render _ => "terragen::render"

def help : RunError → Option String
  | .config _ => some "provider specs look like `aws=hashicorp/aws:4.49.0`"
  | .output e => e.help
  | .schemaNotFound _ _ available =>
      some ("the document has schemas for: " ++
        (if available.isEmpty then "(none)" else ", ".intercalate available))
  | .timeout _ _ => some "raise `--timeout`, or pass a pre-fetched `--schema` file"
  | _ => none

end RunError

inductive Cause where
  | text (message : String)
  | io (e : IoError)
  deriving DecidableEq, Repr

def OutputError.causes : OutputError → List Cause
  | .directoryNotEmpty _ => []
  | .io _ _ e => [.io e]

def SourceError.causes : SourceError → List Cause
  | .read _ e => [.io e]
  | .schema fault => [.text fault]
  | .workingDirectory e => [.io e]
  | .spawn _ e => [.io e]
  | .command _ _ _ => []

def EntityError.causes : EntityError → List Cause
  | .graph (.unsupportedType _ source) => [.text source.message]
  | .bindings (.mapping _ source) => [.text source.message]
  | _ => []

def RunError.causes : RunError → List Cause
  | .output e => e.causes
  | .source _ e => .text e.message :: e.causes
  | .entity _ _ e => .text e.message :: e.causes
  | _ => []

/-- Takes a provider's schema out of a document: under its source address as it is given, or else as the
registry spells it. -/
def Schema.Document.take? (d : Schema.Document) (spec : ProviderSpec) :
    Option (Schema.Provider × Schema.Document) :=
  let under (key : String) : Option (Schema.Provider × Schema.Document) :=
    (Table.get? key d.providers).map fun p => (p, { d with providers := Table.erase key d.providers })
  under spec.source <|> under (Naming.registryQualified spec.source)

def Schema.Document.resolve (d : Schema.Document) (spec : ProviderSpec) :
    Except RunError (Schema.Provider × Schema.Document) :=
  match d.take? spec with
  | some found => .ok found
  | none => .error (.schemaNotFound spec.localName spec.source (Table.keys d.providers))

structure ProviderReport where
  localName : String
  /-- The number of entities, with those that failed. -/
  entities : Nat
  /-- The number of files written, with the index. -/
  files : Nat
  deriving DecidableEq, Repr

structure Report where
  providers : List ProviderReport
  failures : List RunError
  deriving DecidableEq, Repr

namespace Report

def isSuccess (r : Report) : Bool := r.failures.isEmpty

def filesWritten (r : Report) : Nat := r.providers.foldr (fun p n => p.files + n) 1

end Report

/-- What one provider adds to the report; a provider with output also has a module in the index. -/
structure ProviderRun where
  written : Option (ProviderReport × String)
  failures : List RunError
  deriving Repr

namespace Generation

open FileTree (Outcome)

def sourceOf (r : Request) (spec : ProviderSpec) : Fetch → Except RunError ProviderSource
  | .timedOut => .error (.timeout spec.localName r.timeout)
  | .failed e => .error (.source spec.localName e)
  | .document d => do
      let (schema, _) ← d.resolve spec
      match spec.source? schema r.mount Code.toolVersion with
      | .ok source => .ok source
      | .error e => .error (.render e)

def tally {α : Type} : Except OutputError α → Nat × List RunError → Nat × List RunError
  | .ok _, (count, failures) => (count + 1, failures)
  | .error e, (count, failures) => (count, .output e :: failures)

def writeAll (directory : String) : List (String × OwnedFile) → FileTree → FileTree × Nat × List RunError
  | [], t => (t, 0, [])
  | (path, f) :: rest, t =>
      let (t, outcome) := Output.write directory f.owner ⟨path, f.contents⟩ t
      let (t, written) := writeAll directory rest t
      (t, tally outcome written)

def entityFailures (spec : ProviderSpec) (source : ProviderSource) : List RunError :=
  source.failures.map fun f => .entity spec.localName f.entity f.error

def runProvider (r : Request) (spec : ProviderSpec) (fetched : Fetch) (t : FileTree) :
    FileTree × ProviderRun :=
  match sourceOf r spec fetched with
  | .error e => (t, ⟨none, [e]⟩)
  | .ok source =>
      let (t, count, failures) := writeAll r.outDirectory source.tree.files t
      (t, ⟨some (⟨spec.localName, source.entities, count⟩, source.directory),
        entityFailures spec source ++ failures⟩)

def runProviders (r : Request) (fetch : ProviderSpec → Fetch) :
    List ProviderSpec → FileTree → FileTree × List ProviderRun
  | [], t => (t, [])
  | spec :: rest, t =>
      let (t, run) := runProvider r spec (fetch spec) t
      let (t, runs) := runProviders r fetch rest t
      (t, run :: runs)

def reportOf (runs : List ProviderRun) : Report :=
  ⟨runs.filterMap fun run => run.written.map Prod.fst, runs.flatMap ProviderRun.failures⟩

def modulesOf (runs : List ProviderRun) : List String :=
  runs.filterMap fun run => run.written.map Prod.snd

def writeIndex (r : Request) (modules : List String) (t : FileTree) : Outcome RunError Unit :=
  match rootIndex Code.toolVersion modules with
  | .error e => (t, .error (.render e))
  | .ok index =>
      match Output.write r.outDirectory ProviderTree.indexOwner index t with
      | (t, .ok _) => (t, .ok ())
      | (t, .error e) => (t, .error (.output e))

end Generation

/-- Runs a request beside a file tree. Only a request that leaves nothing to generate fails; the failures of
providers and entities stand in the report. -/
def generate (r : Request) (fetch : FileTree → ProviderSpec → Fetch) (t : FileTree) :
    FileTree.Outcome RunError Report :=
  match checkProviderModules r.providers with
  | .error e => (t, .error (.config e))
  | .ok () =>
      match Output.prepare r.outDirectory r.force t with
      | (t, .error e) => (t, .error (.output e))
      | (prepared, .ok ()) =>
          let (t, runs) := Generation.runProviders r (fetch prepared) r.providers prepared
          match Generation.writeIndex r (Generation.modulesOf runs) t with
          | (t, .error e) => (t, .error e)
          | (t, .ok ()) => (t, .ok (Generation.reportOf runs))

end ProviderBindings
