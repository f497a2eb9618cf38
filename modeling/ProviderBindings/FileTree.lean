import ProviderBindings.Table

/-!
File trees: what stands at each place. The root is a directory, and so is the place above every entry.
-/

namespace ProviderBindings

abbrev Place := List String

inductive Entry where
  | directory
  | file (contents : String) (isExecutable : Bool)
  deriving DecidableEq, Repr

inductive IoError where
  | notFound
  | permissionDenied
  | alreadyExists
  | notADirectory
  | isADirectory
  | directoryNotEmpty
  | invalidFilename
  | invalidInput
  | resourceBusy
  deriving DecidableEq, Repr

structure FileTree where
  entries : List (Place × Entry)
  /-- Where paths without a leading slash start. -/
  workingDirectory : Place
  deriving DecidableEq, Repr

namespace FileTree

def empty (workingDirectory : Place) : FileTree := ⟨[], workingDirectory⟩

def get? (t : FileTree) (p : Place) : Option Entry :=
  if p = [] then some .directory else Table.get? p t.entries

def isDirectory (t : FileTree) (p : Place) : Bool := t.get? p = some .directory

def insert (t : FileTree) (p : Place) (e : Entry) : FileTree :=
  { t with entries := Table.insert p e t.entries }

def isBelow (p inside : Place) : Bool := p.isPrefixOf inside && decide (p ≠ inside)

def inside (t : FileTree) (p : Place) : List (Place × Entry) := t.entries.filter fun e => isBelow p e.1

def emptied (t : FileTree) (p : Place) : FileTree :=
  { t with entries := t.entries.filter fun e => !isBelow p e.1 }

def removed (t : FileTree) (p : Place) : FileTree :=
  { t with entries := t.entries.filter fun e => !p.isPrefixOf e.1 }

/-- Puts an entry at a place below a directory and makes the directories on the way that are missing. -/
def place (e : Entry) (above : Place) : List String → FileTree → FileTree
  | [], t => t
  | [name], t => t.insert (above ++ [name]) e
  | name :: rest, t =>
      let here := above ++ [name]
      place e here rest (if t.isDirectory here then t else t.insert here .directory)

/-- The files at or inside a place with their contents, and the directories there that hold nothing. -/
def leaves (t : FileTree) (p : Place) : List (Place × Option String) :=
  (t.entries.filter fun e => p.isPrefixOf e.1).filterMap fun e =>
    match e.2 with
    | .file contents _ => some (e.1, some contents)
    | .directory => if (t.inside e.1).isEmpty then some (e.1, none) else none

end FileTree

end ProviderBindings
