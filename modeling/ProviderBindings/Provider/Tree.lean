import ProviderBindings.Naming
import ProviderBindings.Table

/-!
The files of one provider. Every path has one owner: an entity whose files would take a path that is owned
already, or the path of the module index, adds nothing at all.
-/

namespace ProviderBindings

structure SourceFile where
  path : String
  contents : String
  deriving DecidableEq, Repr

structure PathClash where
  path : String
  first : String
  second : String
  deriving DecidableEq, Repr

def PathClash.message (c : PathClash) : String :=
  "`" ++ c.path ++ "` would be generated by both " ++ c.first ++ " and " ++ c.second

def PathClash.code : String := "terragen::duplicate_output_path"

def PathClash.help : String := "two type names map to the same file; the second entity was skipped"

structure OwnedFile where
  owner : String
  contents : String
  deriving DecidableEq, Repr

structure ProviderTree where
  /-- The path of the module index, which no entity may take. -/
  indexPath : String
  files : Table OwnedFile
  declared : List String
  deriving Repr

namespace ProviderTree

def indexOwner : String := "the module index"

def empty (indexPath : String) : ProviderTree := ⟨indexPath, [], []⟩

def owner? (t : ProviderTree) (path : String) : Option String :=
  if path = t.indexPath then some indexOwner else (Table.get? path t.files).map OwnedFile.owner

def clash? (t : ProviderTree) (owner : String) : List SourceFile → Option PathClash
  | [] => none
  | f :: rest =>
      match t.owner? f.path with
      | some first => some ⟨f.path, first, owner⟩
      | none => t.clash? owner rest

def put (owner : String) (files : Table OwnedFile) (f : SourceFile) : Table OwnedFile :=
  Table.insert f.path ⟨owner, f.contents⟩ files

def insert (t : ProviderTree) (owner : String) (files : List SourceFile) (modules : List String) :
    Except PathClash ProviderTree :=
  match t.clash? owner files with
  | some clash => .error clash
  | none => .ok { t with files := files.foldl (put owner) t.files, declared := t.declared ++ modules }

def setIndex (t : ProviderTree) (contents : String) : ProviderTree :=
  { t with files := put indexOwner t.files ⟨t.indexPath, contents⟩ }

def size (t : ProviderTree) : Nat := t.files.length

def toList (t : ProviderTree) : List SourceFile := t.files.map fun f => ⟨f.1, f.2.contents⟩

end ProviderTree

/-- Puts modules into the order of their files' names; modules of one file keep their order. -/
def sortModules (modules : List String) : List String :=
  modules.mergeSort fun a b => decide (Naming.fileStem a ≤ Naming.fileStem b)

def ProviderTree.modules (t : ProviderTree) : List String := sortModules t.declared

end ProviderBindings
