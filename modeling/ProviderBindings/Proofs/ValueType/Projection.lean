import ProviderBindings.Bindings.Record

/-!
The projections of a type are those of its innermost type in the layers of its wrappers, which are the layers
that the records of promoted objects are put in too. A type that holds an object has none of the three.
-/

namespace ProviderBindings

open Code (Ty)

/-! ### Layers -/

def argumentLayer : Nesting → Ty → Ty
  | .single, t => t
  | .list, t => .support .listValue [t]
  | .set, t => .support .setValue [t]
  | .map, t => .support .mapValue [t]

def dataLayer : Nesting → Ty → Ty
  | .single, t => t
  | .list, t => .vec t
  | .set, t => .vec t
  | .map, t => .map t

def referenceLayer : Nesting → Ty → Ty
  | .single, t => t
  | .list, t => .support .listRef [t]
  | .set, t => .support .setRef [t]
  | .map, t => .support .mapRef [t]

theorem nestData_eq_foldr (item : Ty) (path : List Nesting) :
    nestData item path = path.foldr dataLayer item := by
  induction path with
  | nil => rfl
  | cons nesting rest ih => cases nesting <;> simp [nestData, dataLayer, ih]

theorem nestReference_eq_foldr (item : Ty) (path : List Nesting) :
    nestReference item path = path.foldr referenceLayer item := by
  induction path with
  | nil => rfl
  | cons nesting rest ih => cases nesting <;> simp [nestReference, referenceLayer, ih]

namespace ValueType

@[elab_as_elim]
theorem wrapperInduction {motive : ValueType → Prop} (bool : motive .bool) (string : motive .string)
    (number : motive .number) (list : ∀ element, motive element → motive (.list element))
    (set : ∀ element, motive element → motive (.set element))
    (map : ∀ element, motive element → motive (.map element))
    (object : ∀ fields optional, motive (.object fields optional)) (t : ValueType) : motive t := by
  induction t using inner.induct with
  | case1 element ih => exact list element ih
  | case2 element ih => exact set element ih
  | case3 element ih => exact map element ih
  | case4 t hlist hset hmap =>
      cases t with
      | bool => exact bool
      | string => exact string
      | number => exact number
      | object fields optional => exact object fields optional
      | list element => exact absurd rfl (hlist element)
      | set element => exact absurd rfl (hset element)
      | map element => exact absurd rfl (hmap element)

theorem inner_cases (t : ValueType) :
    t.inner = .bool ∨ t.inner = .string ∨ t.inner = .number ∨
      ∃ fields optional, t.inner = .object fields optional := by
  induction t using wrapperInduction with
  | list element ih | set element ih | map element ih => exact ih
  | object fields optional => exact .inr (.inr (.inr ⟨fields, optional, rfl⟩))
  | _ => simp [inner]

def collection : Nesting → ValueType → ValueType
  | .single, t => t
  | .list, t => .list t
  | .set, t => .set t
  | .map, t => .map t

theorem foldr_collection (t : ValueType) : t.wrappers.foldr collection t.inner = t := by
  induction t using wrapperInduction with
  | list element ih | set element ih | map element ih =>
      simp only [wrappers, inner, List.foldr_cons, ih, collection]
  | _ => rfl

/-! ### Projections -/

structure Projects (layer : Nesting → Ty → Ty) (f : ValueType → Except MappingError Ty) : Prop where
  list (element : ValueType) : f (.list element) = (f element).map (layer .list)
  set (element : ValueType) : f (.set element) = (f element).map (layer .set)
  map (element : ValueType) : f (.map element) = (f element).map (layer .map)

theorem projects_argumentType : Projects argumentLayer argumentType :=
  ⟨fun _ => rfl, fun _ => rfl, fun _ => rfl⟩

theorem projects_stateType : Projects dataLayer stateType :=
  ⟨fun _ => rfl, fun _ => rfl, fun _ => rfl⟩

theorem projects_referenceType : Projects referenceLayer referenceType :=
  ⟨fun _ => rfl, fun _ => rfl, fun _ => rfl⟩

theorem Projects.eq_map_inner {layer : Nesting → Ty → Ty} {f : ValueType → Except MappingError Ty}
    (h : Projects layer f) (t : ValueType) :
    f t = (f t.inner).map fun item => t.wrappers.foldr layer item := by
  have hpush {nesting : Nesting} {element : ValueType}
      (ih : f element = (f element.inner).map fun item => element.wrappers.foldr layer item) :
      (f element).map (layer nesting) =
        (f element.inner).map fun item => (nesting :: element.wrappers).foldr layer item := by
    rw [ih]
    cases f element.inner <;> rfl
  have hself (t : ValueType) : (f t).map (fun item => item) = f t := by cases f t <;> rfl
  induction t using wrapperInduction with
  | list element ih => exact (h.list element).trans (hpush ih)
  | set element ih => exact (h.set element).trans (hpush ih)
  | map element ih => exact (h.map element).trans (hpush ih)
  | bool => exact (hself .bool).symm
  | string => exact (hself .string).symm
  | number => exact (hself .number).symm
  | object fields optional => exact (hself (.object fields optional)).symm

def Projections.layered (path : List Nesting) (p : Projections) : Projections where
  argument := path.foldr argumentLayer p.argument
  state := path.foldr dataLayer p.state
  reference := path.foldr referenceLayer p.reference

/-- The three projections are there together, in the layers that a promoted object is put in too, or fail
together with the name of the object that the type holds. -/
theorem projections_layered (t : ValueType) :
    t.wrappers.foldr collection t.inner = t ∧
      ((t.embedsObject = false ∧ ∃ scalar : Projections, t.inner.project = .ok scalar ∧
          t.argumentType = .ok (scalar.layered t.wrappers).argument ∧
          t.stateType = .ok (scalar.layered t.wrappers).state ∧
          t.referenceType = .ok (scalar.layered t.wrappers).reference ∧
          t.project = .ok (scalar.layered t.wrappers)) ∨
        (t.embedsObject = true ∧ ∃ fields optional, t.inner = .object fields optional ∧
          t.argumentType = .error ⟨t.inner.display⟩ ∧ t.stateType = .error ⟨t.inner.display⟩ ∧
          t.referenceType = .error ⟨t.inner.display⟩ ∧ t.project = .error ⟨t.inner.display⟩)) ∧
      t.stateType = t.inner.stateType.map (nestData · t.wrappers) ∧
      t.referenceType = t.inner.referenceType.map (nestReference · t.wrappers) := by
  have hargument := projects_argumentType.eq_map_inner t
  have hstate := projects_stateType.eq_map_inner t
  have hreference := projects_referenceType.eq_map_inner t
  simp only [nestData_eq_foldr, nestReference_eq_foldr]
  refine ⟨foldr_collection t, ?_, hstate, hreference⟩
  rw [project.eq_def t, hargument, hstate, hreference, embedsObject]
  rcases t.inner_cases with h | h | h | ⟨fields, optional, h⟩ <;> rw [h]
  · exact .inl ⟨rfl, _, rfl, rfl, rfl, rfl, rfl⟩
  · exact .inl ⟨rfl, _, rfl, rfl, rfl, rfl, rfl⟩
  · exact .inl ⟨rfl, _, rfl, rfl, rfl, rfl, rfl⟩
  · exact .inr ⟨rfl, fields, optional, rfl, rfl, rfl, rfl, rfl⟩

end ValueType

end ProviderBindings
