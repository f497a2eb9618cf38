import ProviderBindings.FileTree

/-!
Paths as texts, and the operations of a file tree at the place to which a path leads. A path is walked step
by step: every step but the last must lead to a directory, one dot stays in place and two dots lead up.
-/

namespace ProviderBindings

structure Route where
  isAbsolute : Bool
  /-- The steps between slashes that are not empty. -/
  steps : List String
  /-- A slash at the end, which asks for a directory. -/
  endsOpen : Bool
  deriving DecidableEq, Repr

namespace Route

def addToFirst (c : Char) : List (List Char) → List (List Char)
  | [] => [[c]]
  | part :: rest => (c :: part) :: rest

def parts : List Char → List (List Char)
  | [] => [[]]
  | c :: rest => if c = '/' then [] :: parts rest else addToFirst c (parts rest)

def ofText (path : String) : Route :=
  let parts := parts path.toList
  let steps := parts.filter (!·.isEmpty)
  ⟨path.toList.head? = some '/', steps.map String.ofList, !steps.isEmpty && parts.getLast? = some []⟩

/-- The steps without single dots, of which only one at the start of a relative path counts. -/
def names (r : Route) : List String :=
  match r.steps with
  | [] => []
  | first :: rest =>
      let rest := rest.filter (· ≠ ".")
      if r.isAbsolute && first = "." then rest else first :: rest

def parent? (r : Route) : Option Route :=
  if r.names.isEmpty then none else some ⟨r.isAbsolute, r.names.dropLast, false⟩

def extend (path step : String) : String :=
  if path.isEmpty ∨ path.toList.getLast? = some '/' then path ++ step else path ++ "/" ++ step

def nameLimit : Nat := 255

def pathLimit : Nat := 4095

def width (r : Route) : Nat := r.steps.foldl (fun n s => n + s.utf8ByteSize + 1) 0

def fault? (r : Route) : Option IoError :=
  if r.steps.any (·.toList.contains '\x00') then some .invalidInput
  else if pathLimit < r.width then some .invalidFilename
  else none

end Route

namespace FileTree

def enter (t : FileTree) (here : Place) (name : String) : Except IoError Place :=
  if !t.isDirectory here then .error .notADirectory
  else if name = "." then .ok here
  else if name = ".." then .ok here.dropLast
  else if Route.nameLimit < name.utf8ByteSize then .error .invalidFilename
  else if (t.get? (here ++ [name])).isSome then .ok (here ++ [name])
  else .error .notFound

def walk (t : FileTree) (here : Place) : List String → Except IoError Place
  | [] => .ok here
  | name :: rest => do
      let next ← t.enter here name
      t.walk next rest

def start (t : FileTree) (r : Route) : Place := if r.isAbsolute then [] else t.workingDirectory

def find (t : FileTree) (r : Route) : Except IoError Place :=
  match r.fault? with
  | some e => .error e
  | none =>
      if r.steps.isEmpty && !r.isAbsolute then .error .notFound
      else do
        let p ← t.walk (t.start r) r.steps
        if r.endsOpen && !t.isDirectory p then .error .notADirectory else .ok p

inductive Target where
  /-- The root itself, or a directory by its dots. -/
  | fixed (last : String)
  | named (directory : Place) (name : String)

def target (t : FileTree) (r : Route) : Except IoError Target :=
  match r.fault? with
  | some e => .error e
  | none =>
      match r.steps.getLast? with
      | none => if r.isAbsolute then .ok (.fixed "") else .error .notFound
      | some last => do
          let directory ← t.walk (t.start r) r.steps.dropLast
          if !t.isDirectory directory then .error .notADirectory
          else if last = "." ∨ last = ".." then .ok (.fixed last)
          else if Route.nameLimit < last.utf8ByteSize then .error .invalidFilename
          else .ok (.named directory last)

def isDirectoryAt (t : FileTree) (r : Route) : Bool :=
  match t.find r with
  | .ok p => t.isDirectory p
  | .error _ => false

def read (t : FileTree) (r : Route) : Except IoError String := do
  let p ← t.find r
  match t.get? p with
  | some (.file contents _) => .ok contents
  | some .directory => .error .isADirectory
  | none => .error .notFound

def makeDirectory (t : FileTree) (r : Route) : Except IoError FileTree := do
  match ← t.target r with
  | .fixed _ => .error .alreadyExists
  | .named directory name =>
      if (t.get? (directory ++ [name])).isSome then .error .alreadyExists
      else .ok (t.insert (directory ++ [name]) .directory)

abbrev Outcome (ε α : Type) := FileTree × Except ε α

def makeBelow (r : Route) (above : FileTree → Outcome IoError Unit) (t : FileTree) :
    Outcome IoError Unit :=
  let settled (t : FileTree) (e : IoError) : Outcome IoError Unit :=
    if t.isDirectoryAt r then (t, .ok ()) else (t, .error e)
  match t.makeDirectory r with
  | .ok t => (t, .ok ())
  | .error .notFound =>
      match above t with
      | (t, .error e) => (t, .error e)
      | (t, .ok ()) =>
          match t.makeDirectory r with
          | .ok t => (t, .ok ())
          | .error e => settled t e
  | .error e => settled t e

/-- Makes the directory with the given names, the last name first, and all that are missing above it. -/
def makeNames (isAbsolute : Bool) : List String → FileTree → Outcome IoError Unit
  | [], t => (t, .ok ())
  | last :: above, t =>
      makeBelow ⟨isAbsolute, (last :: above).reverse, false⟩ (makeNames isAbsolute above) t

def makeDirectories (r : Route) (t : FileTree) : Outcome IoError Unit :=
  if r.steps.isEmpty then (t, .ok ())
  else makeBelow r (makeNames r.isAbsolute r.names.dropLast.reverse) t

/-- Removes a directory with all that stands inside it. A path that ends in dots names no entry that could
be removed, so that only what stands inside goes. -/
def removeDirectory (r : Route) (t : FileTree) : Outcome IoError Unit :=
  match t.find r with
  | .error e => (t, .error e)
  | .ok p =>
      let t := t.emptied p
      match t.target r with
      | .error .notFound => (t, .ok ())
      | .error e => (t, .error e)
      | .ok (.named directory name) => (t.removed (directory ++ [name]), .ok ())
      | .ok (.fixed ".") => (t, .error .invalidInput)
      | .ok (.fixed "..") => (t, .error .directoryNotEmpty)
      | .ok (.fixed _) => (t, .error .resourceBusy)

def replaceFile (t : FileTree) (r : Route) (contents : String) : Except IoError FileTree := do
  match ← t.target r with
  | .fixed _ => .error .resourceBusy
  | .named directory name =>
      if r.endsOpen then .error .notADirectory
      else if t.isDirectory (directory ++ [name]) then .error .isADirectory
      else .ok (t.insert (directory ++ [name]) (.file contents false))

end FileTree

end ProviderBindings
