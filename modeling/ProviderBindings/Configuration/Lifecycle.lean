import ProviderBindings.Configuration.Reference

/-!
What every resource has besides its arguments: explicit dependencies and a lifecycle policy. Both name
references by their traversals and not by interpolations.
-/

namespace ProviderBindings

def traversals (references : List Reference) : Json := Json.texts (references.map Reference.traversal)

structure DependsOn where
  references : List Reference
  deriving DecidableEq, Repr

namespace DependsOn

def empty : DependsOn := ⟨[]⟩

def ofList (references : List Reference) : DependsOn := ⟨references⟩

def push (d : DependsOn) (r : Reference) : DependsOn := ⟨d.references ++ [r]⟩

def size (d : DependsOn) : Nat := d.references.length

def isEmpty (d : DependsOn) : Bool := d.references.isEmpty

def toJson (d : DependsOn) : Json := traversals d.references

end DependsOn

structure Lifecycle where
  createBeforeDestroy : Option Bool
  preventDestroy : Option Bool
  ignoreChanges : List String
  replaceTriggeredBy : List Reference
  deriving DecidableEq, Repr

namespace Lifecycle

def empty : Lifecycle := ⟨none, none, [], []⟩

def flagMember (name : String) (flag : Option Bool) : List (String × Json) :=
  (flag.map fun b => (name, Json.bool b)).toList

def members (l : Lifecycle) : List (String × Json) :=
  flagMember "create_before_destroy" l.createBeforeDestroy ++
    flagMember "prevent_destroy" l.preventDestroy ++
    (if l.ignoreChanges.isEmpty then [] else [("ignore_changes", Json.texts l.ignoreChanges)]) ++
    (if l.replaceTriggeredBy.isEmpty then []
      else [("replace_triggered_by", traversals l.replaceTriggeredBy)])

def toJson (l : Lifecycle) : Json := .object l.members

end Lifecycle

end ProviderBindings
