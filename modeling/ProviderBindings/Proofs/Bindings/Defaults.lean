import Mathlib.Data.List.Forall2
import ProviderBindings.Proofs.Bindings.AttributeRecord

/-!
Defaults of records, and fields that are left out of what is written. An argument record has a default unless
one of its leaves must be given, every record with a default takes it from the containers and primitives its
fields are, and an empty field is left out unless its member must be given.
-/

namespace ProviderBindings

open Code (Ty FieldDecl StructDecl Derive Serde)

/-! ### Types -/

namespace Code.Ty

/-- Types with a default of their own, whatever the records and the items of the support crate in them are. -/
inductive HasDefault : Ty → Prop where
  | unit : HasDefault .unit
  | bool : HasDefault .bool
  | float : HasDefault .float
  | string : HasDefault .string
  | str : HasDefault .str
  | staticStr : HasDefault .staticStr
  | bytes : HasDefault .bytes
  | vec (item : Ty) : HasDefault (.vec item)
  | map (value : Ty) : HasDefault (.map value)
  | option (item : Ty) : HasDefault (.option item)

inductive TestedBy : Ty → String → Prop where
  | option (item : Ty) : TestedBy (.option item) "Option::is_none"
  | vec (item : Ty) : TestedBy (.vec item) "Vec::is_empty"
  | map (value : Ty) : TestedBy (.map value) "std::collections::BTreeMap::is_empty"

theorem TestedBy.hasDefault {t : Ty} {test : String} (h : t.TestedBy test) : t.HasDefault := by
  cases h with
  | option item => exact .option item
  | vec item => exact .vec item
  | map value => exact .map value

end Code.Ty

theorem emptyTest?_eq_some_iff {t : Ty} {test : String} : emptyTest? t = some test ↔ t.TestedBy test := by
  constructor
  · intro h
    cases t with
    | option item | vec item | map value =>
        cases h
        constructor
    | _ => cases h
  · rintro (item | item | value) <;> rfl

theorem isSome_emptyTest?_iff {t : Ty} : (emptyTest? t).isSome = true ↔ ∃ test, t.TestedBy test := by
  rw [Option.isSome_iff_exists]
  simp only [emptyTest?_eq_some_iff]

theorem nestData_collection (item : Ty) {path : List Nesting} (h : path.all (· == .single) = false) :
    ∃ content, nestData item path = .vec content ∨ nestData item path = .map content := by
  induction path with
  | nil => cases h
  | cons nesting rest ih =>
      cases nesting with
      | single => exact ih h
      | list | set => exact ⟨_, .inl rfl⟩
      | map => exact ⟨_, .inr rfl⟩

theorem Node.dataType_cases (n : Node) (record : Ty) :
    (n.isSingular = true ∧ n.dataType record = .option record) ∨
      (n.isSingular = false ∧
        ∃ content, n.dataType record = .vec content ∨ n.dataType record = .map content) := by
  rw [dataType]
  cases h : n.isSingular with
  | true => exact .inl ⟨rfl, rfl⟩
  | false => exact .inr ⟨rfl, nestData_collection record h⟩

theorem Node.exists_testedBy (n : Node) (record : Ty) : ∃ test, (n.dataType record).TestedBy test := by
  rcases n.dataType_cases record with ⟨-, h⟩ | ⟨-, content, h | h⟩ <;> rw [h]
  · exact ⟨_, .option record⟩
  · exact ⟨_, .vec content⟩
  · exact ⟨_, .map content⟩

theorem Node.isOption_dataType (n : Node) (record : Ty) : (n.dataType record).isOption = n.isSingular := by
  rcases n.dataType_cases record with ⟨hn, h⟩ | ⟨hn, content, h | h⟩ <;> rw [h, hn] <;> rfl

namespace ValueType

theorem exists_support {v : ValueType} {t : Ty} (h : v.argumentType = .ok t) :
    ∃ item args, t = .support item args := by
  cases v with
  | bool | string | number =>
      cases h
      exact ⟨_, _, rfl⟩
  | list element | set element | map element =>
      obtain ⟨u, -, rfl⟩ := map_eq_ok_iff.mp h
      exact ⟨_, _, rfl⟩
  | object fields optional => cases h

theorem hasDefault_stateType {v : ValueType} {t : Ty} (h : v.stateType = .ok t) : t.HasDefault := by
  cases v with
  | bool =>
      cases h
      exact .bool
  | string =>
      cases h
      exact .string
  | number =>
      cases h
      exact .float
  | list element | set element =>
      obtain ⟨u, -, rfl⟩ := map_eq_ok_iff.mp h
      exact .vec u
  | map element =>
      obtain ⟨u, -, rfl⟩ := map_eq_ok_iff.mp h
      exact .map u
  | object fields optional => cases h

end ValueType

/-! ### Members -/

namespace Member

def IsRequiredLeaf : Member → Prop
  | .leaf l => l.isRequired = true
  | .child _ => False

def IsOmittable : Member → Prop
  | .leaf l => l.isRequired = false
  | .child n => n.isSingular = true ∨ n.traits.isRequired = false

variable {qualifier : Option String} {m : Member} {t : Ty}

theorem exists_testedBy_iff (h : m.argumentType qualifier = .ok t) :
    (∃ test, t.TestedBy test) ↔ ¬ m.IsRequiredLeaf := by
  cases m with
  | leaf l =>
      obtain ⟨u, hu, rfl⟩ := map_eq_ok_iff.mp h
      cases hr : l.isRequired with
      | true =>
          obtain ⟨item, args, rfl⟩ := ValueType.exists_support hu
          have hnone : ¬ ∃ test, (Ty.support item args).TestedBy test := by
            rintro ⟨test, ⟨⟩⟩
          simpa [IsRequiredLeaf, hr] using hnone
      | false => simpa [IsRequiredLeaf, hr] using ⟨_, Ty.TestedBy.option u⟩
  | child n =>
      cases h
      simpa [IsRequiredLeaf] using n.exists_testedBy _

theorem isOmittable_iff (h : m.argumentType qualifier = .ok t) :
    m.IsOmittable ↔ m.isRequired = false ∨ t.isOption = true := by
  cases m with
  | leaf l =>
      obtain ⟨u, hu, rfl⟩ := map_eq_ok_iff.mp h
      obtain ⟨item, args, rfl⟩ := ValueType.exists_support hu
      cases hr : l.isRequired <;> simp [IsOmittable, isRequired, Ty.isOption, hr]
  | child n =>
      cases h
      rw [n.isOption_dataType, or_comm]
      rfl

theorem not_isRequiredLeaf_of_isOmittable (h : m.IsOmittable) : ¬ m.IsRequiredLeaf := by
  cases m with
  | leaf l => simpa [IsOmittable, IsRequiredLeaf] using h
  | child n => exact id

theorem hasDefault_stateType (h : m.stateType qualifier = .ok t) : t.HasDefault := by
  cases m with
  | leaf l => exact ValueType.hasDefault_stateType h
  | child n =>
      cases h
      obtain ⟨test, htest⟩ := n.exists_testedBy (.named qualifier n.triad.state)
      exact htest.hasDefault

end Member

/-! ### Fields -/

structure Member.HeldBy (m : Member) (f : FieldDecl) : Prop where
  name : f.name = m.identifier
  omitted : m.IsOmittable → ∃ test, f.type.TestedBy test ∧ f.serde = [.rename m.name, .skipIf test]
  written : ¬ m.IsOmittable → f.serde = [.rename m.name]

theorem Slot.heldBy_argumentField {slot : Slot} {qualifier : Option String}
    (h : slot.member.argumentType qualifier = .ok slot.type) :
    slot.member.HeldBy slot.argumentField := by
  have hiff : (!slot.member.isRequired || slot.type.isOption) = true ↔ slot.member.IsOmittable := by
    simpa using (Member.isOmittable_iff h).symm
  refine ⟨rfl, fun hm => ?_, fun hm => ?_⟩
  · have hleaf := Member.not_isRequiredLeaf_of_isOmittable hm
    obtain ⟨test, htest⟩ := (Member.exists_testedBy_iff h).mpr hleaf
    refine ⟨test, htest, ?_⟩
    rw [argumentField]
    simp only [if_pos (hiff.mpr hm), emptyTest?_eq_some_iff.mpr htest]
    rfl
  · rw [argumentField]
    simp only [if_neg (mt hiff.mp hm)]
    rfl

/-! ### Records -/

namespace Shape

variable {s : Shape} {qualifier : Option String} {name : String} {docs : List String}

theorem forall_arguments_iff :
    (∀ m ∈ s.arguments, ¬ m.IsRequiredLeaf) ↔
      ∀ l ∈ s.leaves, l.isArgument = true → l.isRequired = false := by
  simp [arguments, members, or_imp, forall_and, Member.isArgument, Member.IsRequiredLeaf]

theorem argumentRecord_spec {d : StructDecl} (h : s.argumentRecord qualifier name docs = .ok d) :
    ∃ slots : List Slot, s.arguments = slots.map Slot.member ∧ d.fields = slots.map Slot.argumentField ∧
      (∀ slot ∈ slots, slot.member.argumentType qualifier = .ok slot.type) ∧
      (Derive.default ∈ d.derives ↔ ∀ slot ∈ slots, ∃ test, slot.type.TestedBy test) := by
  obtain ⟨slots, hslots, hd⟩ := bind_eq_ok_iff.mp h
  cases hd
  have htyped := fun slot hslot => (slotsAfter_typed hslots slot hslot).2
  refine ⟨slots, (member_of_slotsAfter hslots).symm, rfl, htyped, ?_⟩
  have hall : ((slots.map Slot.argumentField).all fun f => (emptyTest? f.type).isSome) = true ↔
      ∀ slot ∈ slots, ∃ test, slot.type.TestedBy test := by
    simp only [List.all_map, List.all_eq_true, Function.comp_apply, Slot.argumentField,
      isSome_emptyTest?_iff]
  rw [← hall]
  split
  · rename_i hdefault
    simpa using hdefault
  · rename_i hdefault
    simpa using hdefault

theorem record_defaults :
    (∀ args, s.argumentRecord qualifier name docs = .ok args →
      (Derive.default ∈ args.derives ↔ ∀ l ∈ s.leaves, l.isArgument = true → l.isRequired = false) ∧
      (Derive.default ∈ args.derives → ∀ f ∈ args.fields, f.type.HasDefault) ∧
      List.Forall₂ Member.HeldBy s.arguments args.fields) ∧
    ∀ state, s.stateRecord qualifier name docs = .ok state →
      Derive.default ∈ state.derives ∧ ∀ f ∈ state.fields, f.type.HasDefault := by
  refine ⟨fun args h => ?_, fun state h => ?_⟩
  · obtain ⟨slots, harguments, hfields, htyped, hdefault⟩ := argumentRecord_spec h
    refine ⟨?_, fun hd => ?_, ?_⟩
    · rw [hdefault, ← forall_arguments_iff, harguments, List.forall_mem_map]
      exact forall₂_congr fun slot hslot => Member.exists_testedBy_iff (htyped slot hslot)
    · rw [hfields, List.forall_mem_map]
      intro slot hslot
      obtain ⟨test, htest⟩ := hdefault.mp hd slot hslot
      exact htest.hasDefault
    · rw [harguments, hfields, List.forall₂_map_left_iff, List.forall₂_map_right_iff, List.forall₂_same]
      exact fun slot hslot => Slot.heldBy_argumentField (htyped slot hslot)
  · obtain ⟨slots, hslots, hd⟩ := bind_eq_ok_iff.mp h
    cases hd
    refine ⟨by simp, List.forall_mem_map.mpr fun slot hslot => ?_⟩
    exact Member.hasDefault_stateType (slotsAfter_typed hslots slot hslot).2

def clusterBlock : Schema.Block :=
  ⟨[("name", ⟨some (.text "string"), none, none, true, false, false, false, false⟩),
      ("tags", ⟨some (.list [.text "map", .text "string"]), none, none, false, true, false, false, false⟩)],
    [("logging", ⟨"single", ⟨[], [], none, false⟩, 1, 1⟩),
      ("node", ⟨"list",
        ⟨[("size", ⟨some (.text "number"), none, none, false, true, false, false, false⟩)], [], none, false⟩,
        1, 1⟩),
      ("route", ⟨"set", ⟨[], [], none, false⟩, 0, 0⟩)], none, false⟩

def clusterNode : Node :=
  ⟨"node", [], "node", 0, [⟨"size", .number, true, false, .none⟩], [], ⟨true, true, [.list], 1, 1, .none⟩⟩

def clusterGraph : Graph :=
  ⟨[⟨"name", .string, true, true, .none⟩, ⟨"tags", .map .string, true, false, .none⟩], [0, 1, 2],
    [⟨"logging", [], "logging", 0, [], [], ⟨true, true, [], 1, 1, .none⟩⟩, clusterNode,
      ⟨"route", [], "route", 0, [], [], ⟨true, false, [.set], 0, 0, .none⟩⟩]⟩

def clusterSerde : List (List Serde) :=
  [[.rename "name"], [.rename "tags", .skipIf "Option::is_none"],
    [.rename "logging", .skipIf "Option::is_none"], [.rename "node"],
    [.rename "route", .skipIf "Vec::is_empty"]]

theorem record_defaults_cluster : Graph.ofBlock clusterBlock = .ok clusterGraph ∧
    (∃ args, (ofRoot clusterGraph).argumentRecord (some "cluster") "ClusterArgs" [] = .ok args ∧
      args.fields.map FieldDecl.serde = clusterSerde ∧ Derive.default ∉ args.derives ∧
      List.Forall₂ Member.HeldBy (ofRoot clusterGraph).arguments args.fields) ∧
    (∃ args, (ofNode clusterGraph clusterNode).argumentRecord none "NodeArgs" [] = .ok args ∧
      Derive.default ∈ args.derives ∧ ∀ f ∈ args.fields, f.type.HasDefault) ∧
    ∃ state, (ofRoot clusterGraph).stateRecord (some "cluster") "ClusterState" [] = .ok state ∧
      Derive.default ∈ state.derives ∧ ∀ f ∈ state.fields, f.type.HasDefault := by
  have hgraph : Graph.ofBlock clusterBlock = .ok clusterGraph := rfl
  obtain ⟨args, hargs⟩ := exists_of_toBool
    (x := (ofRoot clusterGraph).argumentRecord (some "cluster") "ClusterArgs" []) (by decide +kernel)
  obtain ⟨nodeArgs, hnode⟩ := exists_of_toBool
    (x := (ofNode clusterGraph clusterNode).argumentRecord none "NodeArgs" []) (by decide +kernel)
  obtain ⟨state, hstate⟩ := exists_of_toBool
    (x := (ofRoot clusterGraph).stateRecord (some "cluster") "ClusterState" []) (by decide +kernel)
  have hserde : ((ofRoot clusterGraph).argumentRecord (some "cluster") "ClusterArgs" []).toOption.map
      (·.fields.map FieldDecl.serde) = some clusterSerde := by decide +kernel
  rw [hargs] at hserde
  obtain ⟨hdefault, -, hheld⟩ := record_defaults.1 args hargs
  obtain ⟨hdefault', hdefaults, -⟩ := record_defaults.1 nodeArgs hnode
  have hrequired : ¬ ∀ l ∈ (ofRoot clusterGraph).leaves, l.isArgument = true → l.isRequired = false := by
    decide
  have hoptional : ∀ l ∈ (ofNode clusterGraph clusterNode).leaves,
      l.isArgument = true → l.isRequired = false := by
    decide
  exact ⟨hgraph, ⟨args, hargs, Option.some.inj hserde, mt hdefault.mp hrequired, hheld⟩,
    ⟨nodeArgs, hnode, hdefault'.mpr hoptional, hdefaults (hdefault'.mpr hoptional)⟩,
    state, hstate, record_defaults.2 state hstate⟩

end Shape

end ProviderBindings
