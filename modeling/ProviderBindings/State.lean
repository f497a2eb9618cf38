import ProviderBindings.Code.Item
import ProviderBindings.Wire.Decode

/-!
Decoding of recorded state into state records. Unset members are null or missing in recorded state, and
either way take the default of their field.
-/

namespace ProviderBindings.State

open Code (Ty StructDecl FieldDecl Serde)
open Wire (Datum Environment Field RecordName RecordShape)

/-- The shape of what a state type holds; types that no state record has are read as any value. Records have
the names that the file of the type has for them. -/
def shapeOf : Ty → Wire.Shape
  | .string => .text
  | .float => .real
  | .bool => .flag
  | .vec item => .list (shapeOf item)
  | .map value => .table (shapeOf value)
  | .named qualifier name => .record ⟨qualifier, name⟩
  | .option item => shapeOf item
  | _ => .json

def presenceOf : Ty → Wire.Presence
  | .option _ => .optional
  | _ => .lenient

def fieldOf (key : String) (type : Ty) : Field := ⟨key, shapeOf type, presenceOf type⟩

def keyOf (f : FieldDecl) : String :=
  (f.serde.findSome? fun a => match a with
    | .rename key => some key
    | _ => none).getD f.name

def decoderOf? (f : FieldDecl) : Option String :=
  f.serde.findSome? fun a => match a with
    | .decodeWith path => some path
    | _ => none

/-- A field without a function of its own refuses nulls unless it is optional. -/
def field? (f : FieldDecl) : Option Field :=
  match decoderOf? f with
  | none => some ⟨keyOf f, shapeOf f.type, if f.type.isOption then .optional else .plain⟩
  | some path => if path = SupportItem.nullAsDefault.fullPath then some (fieldOf (keyOf f) f.type) else none

/-- The shape of what a record is decoded from. Missing fields are only made up for by a record that has a
default and asks for it. -/
def recordShape? (s : StructDecl) : Option RecordShape :=
  if .deserialize ∈ s.derives ∧ .default ∈ s.derives ∧ .default ∈ s.serde then
    (s.fields.mapM field?).map fun fields => ⟨s.name, fields⟩
  else none

def decode (env : Environment) (record : RecordName) (payload : List UInt8) : Except Wire.Failure Datum :=
  Wire.decodeBytes env (.record record) payload

def undecodable (payload : List UInt8) (f : Wire.Failure) : String :=
  "failed to decode state: " ++ f.textMessage payload

end ProviderBindings.State
