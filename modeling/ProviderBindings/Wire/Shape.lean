import ProviderBindings.Json.Value

/-!
Shapes of the records that a program reads from JSON, and the data that a shape describes. Records refer
to one another by name in an environment, so that a record may contain itself through a list or a table.
-/

namespace ProviderBindings.Wire

/-- The name of a record; `qualifier` is its module, if it is another one than that of the reader. -/
structure RecordName where
  qualifier : Option String
  name : String
  deriving DecidableEq, Repr

instance : Coe String RecordName := ⟨fun name => ⟨none, name⟩⟩

inductive Shape where
  | text
  | flag
  | count
  | real
  | json
  | list (item : Shape)
  | table (value : Shape)
  | record (name : RecordName)
  deriving DecidableEq, Repr

/-- What a null is in the place of a field: refused, the field's default, or no value. An optional field
has no value by default. -/
inductive Presence where
  | plain
  | lenient
  | optional
  deriving DecidableEq, Repr

structure Field where
  key : String
  shape : Shape
  presence : Presence
  deriving DecidableEq, Repr

structure RecordShape where
  name : RecordName
  fields : List Field
  deriving DecidableEq, Repr

abbrev Environment := List RecordShape

def Environment.fields (env : Environment) (name : RecordName) : List Field :=
  match env.find? (·.name = name) with
  | some r => r.fields
  | none => []

inductive Datum where
  | text (value : String)
  | flag (value : Bool)
  | count (value : Nat)
  | real (value : Binary64)
  | json (value : Json)
  | absent
  | present (value : Datum)
  | list (items : List Datum)
  | table (entries : List (String × Datum))
  | record (fields : List Datum)
  deriving Repr, Inhabited

/-- The default of a shape; `depth` bounds how far records directly inside records are filled in. -/
def Shape.initial (env : Environment) : Nat → Shape → Datum
  | _, .text => .text ""
  | _, .flag => .flag false
  | _, .count => .count 0
  | _, .real => .real (.zero false)
  | _, .json => .json .null
  | _, .list _ => .list []
  | _, .table _ => .table []
  | 0, .record _ => .record []
  | depth + 1, .record name =>
      .record ((env.fields name).map fun f =>
        match f.presence with
        | .optional => .absent
        | _ => Shape.initial env depth f.shape)

def Field.initial (env : Environment) (f : Field) : Datum :=
  match f.presence with
  | .optional => .absent
  | _ => f.shape.initial env env.length

end ProviderBindings.Wire
