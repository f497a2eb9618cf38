import ProviderBindings.FileTree.Route
import ProviderBindings.Provider.Tree

/-!
The output directory: it must be empty before files are written into it, or is emptied on request.
-/

namespace ProviderBindings

inductive OutputError where
  | directoryNotEmpty (path : String)
  | io (owner path : String) (source : IoError)
  deriving DecidableEq, Repr

namespace OutputError

def message : OutputError → String
  | .directoryNotEmpty path => "output directory `" ++ path ++ "` is not empty"
  | .io owner path _ => "I/O error writing " ++ owner ++ " to `" ++ path ++ "`"

def code : OutputError → String
  | .directoryNotEmpty _ => "terragen::directory_not_empty"
  | .io _ _ _ => "terragen::io"

def help : OutputError → Option String
  | .directoryNotEmpty _ => some "pass `--force` to replace its contents, or choose an empty directory"
  | .io _ _ _ => none

end OutputError

namespace Output

open FileTree (Outcome)

def failed {α : Type} (owner path : String) : Outcome IoError α → Outcome OutputError α
  | (t, .ok a) => (t, .ok a)
  | (t, .error e) => (t, .error (.io owner path e))

/-- Makes sure that the directory exists and is empty; with `force` one that is not is replaced. -/
def prepare (directory : String) (force : Bool) (t : FileTree) : Outcome OutputError Unit :=
  let route := Route.ofText directory
  let failed := failed "the output directory" directory
  match t.find route with
  | .error .notFound => failed (t.makeDirectories route)
  | .error e => failed (t, .error e)
  | .ok p =>
      if !t.isDirectory p then failed (t, .error .notADirectory)
      else if (t.inside p).isEmpty then (t, .ok ())
      else if !force then (t, .error (.directoryNotEmpty directory))
      else
        match t.removeDirectory route with
        | (t, .error e) => failed (t, .error e)
        | (t, .ok ()) => failed (t.makeDirectories route)

def filePath (directory path : String) : String :=
  ((Route.parts path.toList).map String.ofList).foldl Route.extend directory

def write (directory owner : String) (f : SourceFile) (t : FileTree) : Outcome OutputError String :=
  let path := filePath directory f.path
  let route := Route.ofText path
  let above := route.parent?.getD (Route.ofText directory)
  failed owner path
    (match t.makeDirectories above with
      | (t, .error e) => (t, .error e)
      | (t, .ok ()) =>
          match t.replaceFile route f.contents with
          | .ok t => (t, .ok path)
          | .error e => (t, .error e))

end Output

end ProviderBindings
