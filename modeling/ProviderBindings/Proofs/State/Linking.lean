import Mathlib.Data.List.Forall2
import ProviderBindings.Proofs.Code.Evaluation
import ProviderBindings.State

/-!
The records that the files of an entity decode states into. A file mentions records by names of its own; in
the records of both files together they have the names that the entity's own file has for them.
-/

namespace ProviderBindings

open Code (Item StructDecl)
open Wire (RecordName RecordShape Environment Field)

/-! ### Lists of results -/

section

variable {α β γ : Type} {R : α → β → Prop}

theorem exists_mapM {f : β → Option γ} {Q : α → γ → Prop} {items : List α} {others : List β}
    (h : List.Forall₂ (fun a b => ∃ c, f b = some c ∧ Q a c) items others) :
    ∃ results, others.mapM f = some results ∧ List.Forall₂ Q items results := by
  induction h with
  | nil => exact ⟨[], rfl, .nil⟩
  | cons h _ ih =>
      obtain ⟨c, hc, hq⟩ := h
      obtain ⟨results, hresults, hall⟩ := ih
      exact ⟨c :: results, by simp [hc, hresults], .cons hq hall⟩

theorem map_eq_of_forall₂ {f : α → γ} {g : β → γ} {items : List α} {others : List β}
    (h : List.Forall₂ R items others) (hr : ∀ a b, R a b → g b = f a) : others.map g = items.map f := by
  induction h with
  | nil => rfl
  | cons h _ ih => rw [List.map_cons, List.map_cons, hr _ _ h, ih]

theorem exists_of_forall₂ {items : List α} {others : List β} (h : List.Forall₂ R items others) {b : β}
    (hb : b ∈ others) : ∃ a ∈ items, R a b := by
  induction h with
  | nil => cases hb
  | cons h _ ih =>
      rcases List.mem_cons.mp hb with rfl | hb
      · exact ⟨_, List.mem_cons_self, h⟩
      · obtain ⟨a, ha, hr⟩ := ih hb
        exact ⟨a, List.mem_cons_of_mem _ ha, hr⟩

end

/-! ### Names of records -/

namespace Wire

def Shape.record? : Shape → Option RecordName
  | .list item => item.record?
  | .table value => value.record?
  | .record name => some name
  | _ => none

def Shape.rename? (names : RecordName → Option RecordName) : Shape → Option Shape
  | .list item => (item.rename? names).map .list
  | .table value => (value.rename? names).map .table
  | .record name => (names name).map .record
  | s => some s

def Field.rename? (names : RecordName → Option RecordName) (f : Field) : Option Field :=
  (f.shape.rename? names).map fun shape => { f with shape := shape }

def RecordShape.rename? (names : RecordName → Option RecordName) (r : RecordShape) : Option RecordShape := do
  let name ← names r.name
  let fields ← r.fields.mapM (Field.rename? names)
  some ⟨name, fields⟩

def Environment.Closed (env : Environment) : Prop :=
  ∀ r ∈ env, ∀ f ∈ r.fields, ∀ name ∈ f.shape.record?, name ∈ env.map RecordShape.name

variable {names : RecordName → Option RecordName}

theorem Shape.exists_rename {s : Shape} (h : ∀ name ∈ s.record?, (names name).isSome) :
    ∃ s', s.rename? names = some s' ∧ s'.record? = s.record?.bind names := by
  induction s with
  | list item ih =>
      obtain ⟨item', hitem, hrecord⟩ := ih h
      exact ⟨.list item', by rw [rename?, hitem, Option.map_some], hrecord⟩
  | table value ih =>
      obtain ⟨value', hvalue, hrecord⟩ := ih h
      exact ⟨.table value', by rw [rename?, hvalue, Option.map_some], hrecord⟩
  | record name =>
      obtain ⟨name', hname⟩ := Option.isSome_iff_exists.mp (h name rfl)
      exact ⟨.record name', by rw [rename?, hname, Option.map_some], hname.symm⟩
  | text | flag | count | real | json => exact ⟨_, rfl, rfl⟩

structure Field.Renamed (names : RecordName → Option RecordName) (f f' : Field) : Prop where
  key : f'.key = f.key
  presence : f'.presence = f.presence
  record : f'.shape.record? = f.shape.record?.bind names

theorem Field.exists_rename {f : Field} (h : ∀ name ∈ f.shape.record?, (names name).isSome) :
    ∃ f', f.rename? names = some f' ∧ f.Renamed names f' := by
  obtain ⟨shape, hshape, hrecord⟩ := Shape.exists_rename h
  exact ⟨{ f with shape := shape }, by rw [rename?, hshape, Option.map_some], rfl, rfl, hrecord⟩

theorem RecordShape.exists_rename {r : RecordShape} {name : RecordName} (hname : names r.name = some name)
    (h : ∀ f ∈ r.fields, ∀ name ∈ f.shape.record?, (names name).isSome) :
    ∃ r', r.rename? names = some r' ∧ r'.name = name ∧
      List.Forall₂ (Field.Renamed names) r.fields r'.fields := by
  obtain ⟨fields, hfields, hrenamed⟩ :=
    exists_mapM (List.forall₂_same.mpr fun f hf => Field.exists_rename (h f hf))
  exact ⟨⟨name, fields⟩, by simp [rename?, hname, hfields], rfl, hrenamed⟩

end Wire

/-! ### Programs -/

def Code.decoded (items : List Item) : List StructDecl :=
  items.filterMap fun
    | .struct d => if .deserialize ∈ d.derives then some d else none
    | _ => none

@[simp] theorem Code.decoded_append (items others : List Item) :
    decoded (items ++ others) = decoded items ++ decoded others :=
  List.filterMap_append

namespace Program

variable (p : Program)

def qualifierOf : Side → Option String
  | .own => none
  | .nested => p.nestedPath.getLast?

/-- The name that the entity's own file has for a record that a file mentions. -/
def recordName? (side : Side) (mentioned : RecordName) : Option RecordName :=
  (p.resolve? side mentioned.qualifier).map fun home => ⟨p.qualifierOf home, mentioned.name⟩

def recordShape? (side : Side) (d : StructDecl) : Option RecordShape :=
  (State.recordShape? d).bind (RecordShape.rename? (p.recordName? side))

def states? : Option Environment := do
  let own ← (Code.decoded (p.items .own)).mapM (p.recordShape? .own)
  let nested ← (Code.decoded (p.items .nested)).mapM (p.recordShape? .nested)
  some (own ++ nested)

end Program

end ProviderBindings
