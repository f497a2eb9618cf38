import ProviderBindings.Wire.Shape
import ProviderBindings.Json.Reader
import ProviderBindings.Json.Printer

/-!
Decoding by shape. A record is written as an object of its fields, in any order and with unknown members
between them, or as a list of its fields in their own order; missing fields take their defaults. Faults
of the text and misfits of the values are reported in the order in which a reader meets them.
-/

namespace ProviderBindings.Wire

open Json (Fault Cause Category Scalar Close Key Tree Opening)

inductive Kind where
  | scalar (value : Scalar)
  | list
  | object
  deriving DecidableEq, Repr

inductive Failure where
  | fault (fault : Fault)
  | misfit (found : Kind) (expected : Shape) (offset : Nat)
  | negative (value : Int) (offset : Nat)
  | duplicateField (key : String) (offset : Nat)
  | surplus (count : Nat) (fault : Fault)
  deriving Repr

def Shape.expectation : Shape → String
  | .text => "a string"
  | .flag => "a boolean"
  | .count => "u64"
  | .real => "f64"
  | .json => "any valid JSON value"
  | .list _ => "a sequence"
  | .table _ => "a map"
  | .record name => "struct " ++ name.name

def Kind.describe : Kind → String
  | .scalar .null => "null"
  | .scalar (.bool b) => "boolean `" ++ (if b then "true" else "false") ++ "`"
  | .scalar (.number (.integer i)) => "integer `" ++ toString i ++ "`"
  | .scalar (.number (.real x)) => "floating point `" ++ Json.realText x ++ "`"
  | .scalar (.text s) => "string " ++ Text.quoted s
  | .list => "sequence"
  | .object => "map"

def Failure.category : Failure → Category
  | .fault f => f.cause.category
  | .surplus _ f => f.cause.category
  | _ => .data

def Failure.offset : Failure → Nat
  | .fault f => f.offset
  | .misfit _ _ offset => offset
  | .negative _ offset => offset
  | .duplicateField _ offset => offset
  | .surplus _ f => f.offset

def Failure.wording : Failure → String
  | .fault f => f.cause.message
  | .misfit found expected _ =>
      "invalid type: " ++ found.describe ++ ", expected " ++ expected.expectation
  | .negative value _ => "invalid value: integer `" ++ toString value ++ "`, expected u64"
  | .duplicateField key _ => "duplicate field `" ++ key ++ "`"
  | .surplus _ f => f.cause.message

def Failure.valueMessage : Failure → String
  | .surplus count _ =>
      "invalid length " ++ toString count ++ ", expected fewer elements in array"
  | f => f.wording

def Failure.textMessage (bytes : List UInt8) (f : Failure) : String :=
  let (line, column) := Json.lineAndColumn bytes f.offset
  f.wording ++ " at line " ++ toString line ++ " column " ++ toString column

def fromFault {α : Type} : Except Fault α → Except Failure α
  | .ok a => .ok a
  | .error f => .error (.fault f)

def scalarOf (shape : Shape) (s : Scalar) (offset : Nat) : Except Failure Datum :=
  match shape, s with
  | .text, .text t => .ok (.text t)
  | .flag, .bool b => .ok (.flag b)
  | .count, .number (.integer i) =>
      if i < 0 then .error (.negative i offset) else .ok (.count i.toNat)
  | .real, .number (.integer i) => .ok (.real (.ofInt i))
  | .real, .number (.real x) => .ok (.real x)
  | .json, s => .ok (.json s.toJson)
  | _, _ => .error (.misfit (.scalar s) shape offset)

/-- A list that is read as a record may end after any number of fields, but not go on after the last;
`count` is the number of its items. -/
def endOfFields (count : Nat) : Option Tree → Close → Except Failure Unit
  | some t, _ => .error (.surplus count ⟨.trailingCharacters, t.start + 1⟩)
  | none, .closed => .ok ()
  | none, .broken reading _ =>
      match reading.cause with
      | .expectedListEnd | .endInValue => .error (.fault ⟨.trailingCharacters, reading.offset⟩)
      | _ => .error (.fault reading)

def opened (o : Opening) : Except Failure Unit :=
  match o.fault? with
  | some fault => .error (.fault fault)
  | none => .ok ()

def isNull : Tree → Bool
  | .scalar .null _ _ => true
  | _ => false

def assemble (env : Environment) (fields : List Field) (read : List (String × Datum)) : Datum :=
  .record (fields.map fun f => (read.lookup f.key).getD (f.initial env))

def settle (env : Environment) (field : Field) (t : Tree) (decoded : Except Failure Datum) :
    Except Failure Datum :=
  match field.presence with
  | .plain => decoded
  | .lenient => if isNull t then .ok (field.shape.initial env env.length) else decoded
  | .optional => if isNull t then .ok .absent else decoded.map .present

theorem settle_null {env : Environment} {f : Field} {t : Tree} (hp : f.presence ≠ .plain)
    (ht : isNull t = true) (decoded : Except Failure Datum) : settle env f t decoded = .ok (f.initial env) := by
  rw [settle, Field.initial]
  cases hpresence : f.presence with
  | plain => exact absurd hpresence hp
  | lenient => exact if_pos ht
  | optional => exact if_pos ht

mutual
def decode (env : Environment) (shape : Shape) : Tree → Except Failure Datum
  | .scalar s _ stop => scalarOf shape s stop
  | .spoiled fault _ => .error (.fault fault)
  | .broken reading _ _ => .error (.fault reading)
  | .list opening items close =>
      match shape with
      | .list item => do
          opened opening
          let data ← decodeItems env item close items
          .ok (.list data)
      | .record name => do
          opened opening
          let read ← decodePositions env items.length close items (env.fields name)
          .ok (assemble env (env.fields name) read)
      | .json => (fromFault (Tree.list opening items close).toJson).map .json
      | shape => .error (.misfit .list shape opening.offset)
  | .object opening members close =>
      match shape with
      | .table value => do
          opened opening
          let entries ← decodeEntries env value close [] members
          .ok (.table entries)
      | .record name => do
          opened opening
          let read ← decodeFields env (env.fields name) close [] members
          .ok (assemble env (env.fields name) read)
      | .json => (fromFault (Tree.object opening members close).toJson).map .json
      | shape => .error (.misfit .object shape opening.offset)

def decodeItems (env : Environment) (item : Shape) (close : Close) :
    List Tree → Except Failure (List Datum)
  | [] => (fromFault close.read).map fun _ => []
  | t :: rest => do
      let d ← decode env item t
      let ds ← decodeItems env item close rest
      .ok (d :: ds)

def decodeEntries (env : Environment) (value : Shape) (close : Close) (done : Table Datum) :
    List (Key × Tree) → Except Failure (Table Datum)
  | [] => (fromFault close.read).map fun _ => done
  | (key, t) :: rest => do
      let k ← fromFault key.text
      let d ← decode env value t
      decodeEntries env value close (Table.insert k d done) rest

def decodeFields (env : Environment) (fields : List Field) (close : Close)
    (done : List (String × Datum)) : List (Key × Tree) → Except Failure (List (String × Datum))
  | [] => (fromFault close.read).map fun _ => done
  | (key, t) :: rest => do
      let k ← fromFault key.text
      match fields.find? (·.key = k) with
      | none =>
          match t.skimmed with
          | some fault => .error (.fault fault)
          | none => decodeFields env fields close done rest
      | some field =>
          if (done.lookup k).isSome then .error (.duplicateField k key.stop)
          else
            let d ← settle env field t (decode env field.shape t)
            decodeFields env fields close ((k, d) :: done) rest

def decodePositions (env : Environment) (count : Nat) (close : Close) :
    List Tree → List Field → Except Failure (List (String × Datum))
  | [], [] => (endOfFields count none close).map fun _ => []
  | [], _ :: _ => (fromFault close.read).map fun _ => []
  | t :: _, [] => (endOfFields count (some t) close).map fun _ => []
  | t :: rest, field :: fields => do
      let d ← settle env field t (decode env field.shape t)
      let ds ← decodePositions env count close rest fields
      .ok ((field.key, d) :: ds)
end

def decodeValue (env : Environment) (shape : Shape) (v : Json) : Except Failure Datum :=
  decode env shape (Tree.ofJson v)

def decodeBytes (env : Environment) (shape : Shape) (bytes : List UInt8) : Except Failure Datum :=
  let reading := Json.read bytes
  match decode env shape reading.tree, reading.after with
  | .ok _, some fault => .error (.fault fault)
  | result, _ => result

end ProviderBindings.Wire
