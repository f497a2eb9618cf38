import ProviderBindings.FileTree.Route
import ProviderBindings.Json.Printer
import ProviderBindings.ProviderSpec
import ProviderBindings.Schema.Decode
import ProviderBindings.Text.Lines

/-!
Where schema documents come from: a file that was fetched before, or the `terraform` command, which runs in
a directory of its own with a configuration that requires one provider.
-/

namespace ProviderBindings

inductive ExitStatus where
  | exited (code : Nat)
  | signalled (number : Nat) (name : String)
  deriving DecidableEq, Repr

def ExitStatus.message : ExitStatus → String
  | .exited code => "exit status: " ++ toString code
  | .signalled number name => "signal: " ++ toString number ++ " (" ++ name ++ ")"

inductive SourceError where
  | read (path : String) (source : IoError)
  /-- The message about a document that cannot be read. -/
  | schema (fault : String)
  | workingDirectory (source : IoError)
  | spawn (line : String) (source : IoError)
  | command (line : String) (status : ExitStatus) (errors : String)
  deriving DecidableEq, Repr

namespace SourceError

def message : SourceError → String
  | .read path _ => "failed to read schema file `" ++ path ++ "`"
  | .schema fault => Schema.unreadable fault
  | .workingDirectory _ => "failed to prepare a terraform working directory"
  | .spawn line _ => "failed to run `" ++ line ++ "`"
  | .command line status errors => "`" ++ line ++ "` failed (" ++ status.message ++ "): " ++ errors

def code : SourceError → String
  | .read _ _ => "terragen::source::read"
  | .schema _ => "terragen::source::json"
  | .workingDirectory _ => "terragen::source::workdir"
  | .spawn _ _ => "terragen::source::spawn"
  | .command _ _ _ => "terragen::source::command"

def help : SourceError → Option String
  | .spawn _ _ =>
      some ("install terraform, or pass `--schema` with a pre-fetched " ++
        "`terraform providers schema -json` document")
  | _ => none

end SourceError

inductive Fetch where
  | document (d : Schema.Document)
  | failed (e : SourceError)
  | timedOut

inductive SchemaSource where
  | file (path : String)
  | command (binary : String)
  | silent
  deriving DecidableEq, Repr

def requiredProvidersConfig (spec : ProviderSpec) : String :=
  "terraform \x7b\n  required_providers \x7b\n    " ++ spec.localName ++
    " = \x7b\n      source  = \"" ++ spec.source ++ "\"\n      version = \"" ++ spec.version ++
    "\"\n    \x7d\n  \x7d\n\x7d\n"

/-- A command to be run in a directory that holds nothing but a configuration. -/
structure Invocation where
  binary : String
  arguments : List String
  configuration : String
  deriving DecidableEq, Repr

def Invocation.line (i : Invocation) : String := " ".intercalate (i.binary :: i.arguments)

structure Completion where
  status : ExitStatus
  output : List UInt8
  errors : String
  duration : Nat
  deriving Repr

inductive Launch where
  | noDirectory (e : IoError)
  | notStarted (e : IoError)
  | completed (c : Completion)

abbrev Runner := FileTree → Invocation → Launch

namespace SchemaSource

def ofBytes (bytes : List UInt8) : Fetch :=
  match Schema.Document.ofBytes? bytes with
  | .ok d => .document d
  | .error f => .failed (.schema (f.textMessage bytes))

def trimmed (s : String) : String :=
  String.ofList (Text.trimEnd (s.toList.dropWhile Text.isBlank))

def complete (run : Runner) (t : FileTree) (left : Nat) (i : Invocation) :
    Except Fetch (List UInt8 × Nat) :=
  match run t i with
  | .noDirectory e => .error (.failed (.workingDirectory e))
  | .notStarted e => .error (.failed (.spawn i.line e))
  | .completed c =>
      if left ≤ c.duration then .error .timedOut
      else if c.status = .exited 0 then .ok (c.output, left - c.duration)
      else .error (.failed (.command i.line c.status (trimmed c.errors)))

def query (run : Runner) (t : FileTree) (limit : Nat) (binary : String) (spec : ProviderSpec) :
    Except Fetch (List UInt8 × Nat) := do
  let configuration := requiredProvidersConfig spec
  let (_, left) ← complete run t limit ⟨binary, ["init", "-input=false", "-no-color"], configuration⟩
  complete run t left ⟨binary, ["providers", "schema", "-json"], configuration⟩

/-- Asks for the document with one provider's schema; `limit` is the number of milliseconds allowed. -/
def fetch (s : SchemaSource) (run : Runner) (limit : Nat) (t : FileTree) (spec : ProviderSpec) : Fetch :=
  match s with
  | .file path =>
      match t.read (Route.ofText path) with
      | .ok contents => ofBytes (Json.utf8 contents)
      | .error e => .failed (.read path e)
  | .command binary =>
      match query run t limit binary spec with
      | .ok (output, _) => ofBytes output
      | .error f => f
  | .silent => .timedOut

end SchemaSource

end ProviderBindings
