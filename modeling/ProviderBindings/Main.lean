import ProviderBindings.CommandLine.Run

/-!
The program. What a command line names is read from the disk, the command line is run beside it, and what
has changed is written back. Commands are not started from here, so that schemas come from files.
-/

namespace ProviderBindings.Disk

def pathOf (p : Place) : String := "/" ++ "/".intercalate p

def namesIn (p : Place) : IO (List String) := do
  try
    return (← ((← IO.currentDir) / pathOf p).readDir).toList.map fun e => e.fileName
  catch _ => return []

def entryAt (p : Place) : IO (Option Entry) := do
  if ← ((← IO.currentDir) / pathOf p).isDir then return some .directory
  try
    let bytes ← IO.FS.readBinFile (pathOf p)
    return some (.file ((String.fromUTF8? bytes).getD "") false)
  catch _ => return none

def note (t : FileTree) (p : Place) : IO FileTree := do
  let some e ← entryAt p | return t
  return if p = [] then t else t.insert p e

def stations (here : Place) : List String → List Place
  | [] => [here]
  | "." :: rest => stations here rest
  | ".." :: rest => here :: stations here.dropLast rest
  | name :: rest => here :: stations (here ++ [name]) rest

/-- Adds what stands on the way to a path, at it and directly inside it. -/
def load (t : FileTree) (path : String) : IO FileTree := do
  let route := Route.ofText path
  let places := stations (t.start route) route.steps
  let t ← places.foldlM note t
  let last := (places.getLast?).getD []
  (← namesIn last).foldlM (fun t name => note t (last ++ [name])) t

def remove (p : Place) : Entry → IO Unit
  | .directory => IO.FS.removeDirAll (pathOf p)
  | .file _ _ => IO.FS.removeFile (pathOf p)

def put (p : Place) : Entry → IO Unit
  | .directory => IO.FS.createDirAll (pathOf p)
  | .file contents _ => IO.FS.writeFile (pathOf p) contents

/-- Writes the difference between two trees. What stood inside something that is removed goes with it. -/
def save (before after : FileTree) : IO Unit := do
  for (p, e) in before.entries do
    if (after.get? p).isNone then
      try remove p e catch _ => pure ()
  for (p, e) in after.entries do
    if before.get? p ≠ some e then put p e

def snapshot (args : List String) : IO FileTree := do
  let here ← IO.currentDir
  let t := FileTree.empty []
  let t ← load t here.toString
  let t := { t with workingDirectory := (Route.ofText here.toString).steps }
  let .ok a := CommandLine.parse args | return t
  let t ← load t a.outDirectory
  match a.schema with
  | some path => load t path
  | none => return t

def shownError (e : RunError) : List String :=
  let help :=
    match e.help with
    | some h => ["help: " ++ h]
    | none => []
  let causes := e.causes.filterMap fun
    | .text message => some ("cause: " ++ message)
    | .io _ => none
  (e.code ++ ": " ++ e.message) :: causes ++ help

def messages : CommandLine.Ending → List String
  | .refused .help | .refused .version => []
  | .refused _ => ["usage: terragen generate --out DIR --provider SPEC"]
  | .misconfigured fault => [fault.message]
  | .failed e => shownError e
  | .completed report => report.failures.flatMap shownError

def noCommands : Runner := fun _ _ => .notStarted .notFound

end ProviderBindings.Disk

open ProviderBindings in
def main (args : List String) : IO UInt32 := do
  let before ← Disk.snapshot args
  let (after, ending) := CommandLine.run Disk.noCommands args before
  Disk.save before after
  if let .refused .version := ending then IO.println CommandLine.Ending.versionLine
  for line in Disk.messages ending ++ ending.summary do
    IO.eprintln line
  return UInt32.ofNat ending.exitCode
