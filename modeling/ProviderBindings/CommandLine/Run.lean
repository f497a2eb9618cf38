import ProviderBindings.CommandLine

/-!
What a command line does: it is refused, or makes a request, which is then run.
-/

namespace ProviderBindings.CommandLine

inductive Ending where
  | refused (e : UsageError)
  | misconfigured (fault : GenerateArgs.Fault)
  | failed (e : RunError)
  | completed (report : Report)
  deriving DecidableEq, Repr

namespace Ending

def exitCode : Ending → Nat
  | .refused e => e.exitCode
  | .misconfigured _ => 2
  | .failed _ => 1
  | .completed report => if report.isSuccess then 0 else 1

def summary : Ending → List String
  | .completed report =>
      report.providers.map fun p =>
        p.localName ++ ": " ++ toString p.entities ++ " entities, " ++ toString p.files ++ " files"
  | _ => []

def versionLine : String := "terragen " ++ Code.toolVersion

end Ending

/-- Runs the arguments behind the name of the program beside a file tree. Nothing is fetched or written
unless they make a request. -/
def run (runner : Runner) (args : List String) (t : FileTree) : FileTree × Ending :=
  match parse args with
  | .error e => (t, .refused e)
  | .ok a =>
      match a.request with
      | .error fault => (t, .misconfigured fault)
      | .ok r =>
          match generate r (a.source.fetch runner r.timeout) t with
          | (t, .error e) => (t, .failed e)
          | (t, .ok report) => (t, .completed report)

end ProviderBindings.CommandLine
