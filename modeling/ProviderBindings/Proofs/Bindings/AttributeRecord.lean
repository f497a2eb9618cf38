import ProviderBindings.Proofs.Bindings.MemberClash
import ProviderBindings.Proofs.Code.Evaluation

/-!
The attribute records in the files of an entity. The record of a shape has one field, the reference it stands
for, and one accessor for each member of the shape; no other item of its file adds to it.
-/

namespace ProviderBindings

open Code (Ty Item File FieldDecl MethodDecl StructDecl methodsOf fieldsOf)
open Naming (RecordTriad)

/-! ### Items of others -/

namespace Code

variable {items : List Item} {record : String}

theorem methodsOf_eq_nil (h : ∀ item ∈ items, item.owner? ≠ some record) (trait : Option SupportItem) :
    methodsOf items record trait = [] := by
  refine List.flatMap_eq_nil_iff.mpr fun item hi => ?_
  cases item with
  | impl d =>
      have hne : d.target ≠ record := fun he => h _ hi (congrArg some he)
      simp [hne]
  | _ => rfl

theorem fieldsOf_eq_nil (h : ∀ item ∈ items, item.owner? ≠ some record) : fieldsOf items record = [] := by
  refine List.flatMap_eq_nil_iff.mpr fun item hi => ?_
  cases item with
  | struct d =>
      have hne : d.name ≠ record := fun he => h _ hi (congrArg some he)
      simp [hne]
  | _ => rfl

@[simp] theorem methodsOf_append (a b : List Item) (record : String) (trait : Option SupportItem) :
    methodsOf (a ++ b) record trait = methodsOf a record trait ++ methodsOf b record trait :=
  List.flatMap_append

@[simp] theorem fieldsOf_append (a b : List Item) (record : String) :
    fieldsOf (a ++ b) record = fieldsOf a record ++ fieldsOf b record :=
  List.flatMap_append

def IsPart (own items : List Item) (records : List String) : Prop :=
  ∃ before after, items = before ++ own ++ after ∧ ∀ record ∈ records,
    (∀ item ∈ before, item.owner? ≠ some record) ∧ ∀ item ∈ after, item.owner? ≠ some record

namespace IsPart

variable {own : List Item} {records : List String} (h : IsPart own items records) (hr : record ∈ records)

include h hr

theorem methodsOf_eq (trait : Option SupportItem) :
    methodsOf items record trait = methodsOf own record trait := by
  obtain ⟨before, after, rfl, hothers⟩ := h
  obtain ⟨hb, ha⟩ := hothers record hr
  rw [methodsOf_append, methodsOf_append, methodsOf_eq_nil hb, methodsOf_eq_nil ha, List.nil_append,
    List.append_nil]

theorem fieldsOf_eq : fieldsOf items record = fieldsOf own record := by
  obtain ⟨before, after, rfl, hothers⟩ := h
  obtain ⟨hb, ha⟩ := hothers record hr
  rw [fieldsOf_append, fieldsOf_append, fieldsOf_eq_nil hb, fieldsOf_eq_nil ha, List.nil_append,
    List.append_nil]

end IsPart

end Code

open Code (IsPart)

/-! ### Slots -/

namespace Shape

variable {s : Shape} {record : String} {typeOf : Member → Except MappingError Ty}

theorem member_of_slotsAfter {members : List Member} :
    ∀ {earlier : List (String × String)} {slots : List Slot},
      s.slotsAfter record typeOf earlier members = .ok slots → slots.map Slot.member = members := by
  induction members with
  | nil =>
      intro earlier slots h
      cases h
      rfl
  | cons m rest ih =>
      intro earlier slots h
      simp only [slotsAfter] at h
      split at h
      · cases h
      · split at h
        · cases h
        · obtain ⟨others, ho, rfl⟩ := map_eq_ok_iff.mp h
          rw [List.map_cons, ih ho]

theorem nodup_of_slots {members : List Member} {slots : List Slot}
    (h : s.slots record typeOf members = .ok slots) : (members.map Member.identifier).Nodup := by
  have hmembers := member_of_slotsAfter h
  have htyped : ∀ m ∈ members, ∃ t, typeOf m = .ok t := by
    intro m hm
    rw [← hmembers] at hm
    obtain ⟨slot, hslot, rfl⟩ := List.mem_map.mp hm
    exact ⟨slot.type, (slotsAfter_typed h slot hslot).2⟩
  refine List.pairwise_map.mpr (List.pairwise_iff_forall_sublist.mpr fun {a b} hab he => ?_)
  obtain ⟨x, hx⟩ := (slots_failsWith htyped).fails _ ⟨a, b, ⟨hab, he⟩, rfl⟩
  rw [h] at hx
  cases hx

/-! ### Records -/

def referenceField : FieldDecl := ⟨"reference", .reference, [], [], false⟩

def construction : MethodDecl :=
  ⟨"from_reference", [], false, .none, [("reference", .reference)], .self,
    [.expr (.construct [("reference", .var "reference")])]⟩

structure ServedBy (s : Shape) (items : List Item) (qualifier : Option String) (name : String) : Prop where
  fields : fieldsOf items name = [referenceField]
  construction : methodsOf items name (some .fromReference) = [construction]
  accessors : ∃ slots, s.slots name (Member.referenceType qualifier) s.members = .ok slots ∧
    methodsOf items name none = slots.map Slot.accessor

variable {items others : List Item} {qualifier : Option String} {name : String}

theorem servedBy_attributeItems {docs : List String} (h : s.attributeItems qualifier name docs = .ok items) :
    s.ServedBy items qualifier name := by
  obtain ⟨slots, hs, h⟩ := bind_eq_ok_iff.mp h
  cases h
  refine ⟨?_, ?_, slots, hs, ?_⟩
  · split <;> simp [fieldsOf, referenceField, Ty.reference]
  · split <;> simp [methodsOf, Shape.construction, Ty.reference]
  · split
    · rename_i hempty
      simp [methodsOf, List.isEmpty_iff.mp hempty]
    · simp [methodsOf]

theorem ServedBy.of_part {own : List Item} {records : List String} (h : s.ServedBy own qualifier name)
    (hp : IsPart own items records) (hn : name ∈ records) : s.ServedBy items qualifier name := by
  refine ⟨(hp.fieldsOf_eq hn).trans h.fields, (hp.methodsOf_eq hn _).trans h.construction, ?_⟩
  rw [hp.methodsOf_eq hn]
  exact h.accessors

end Shape

/-! ### Files -/

namespace Entity

variable {e : Entity} {g : Graph}

theorem exists_records (hk : e.isConfigurationOnly = false) {s : Shape} {qualifier : Option String}
    {t : RecordTriad} (ht : t.toList.Nodup) {argsDoc attributesDoc stateDoc : String} {items : List Item}
    (h : e.recordItems s qualifier t argsDoc attributesDoc stateDoc = .ok items) :
    ∃ args attributes state, s.argumentRecord qualifier t.args [argsDoc] = .ok args ∧
      s.attributeItems qualifier t.attributes [attributesDoc] = .ok attributes ∧
      s.stateRecord qualifier t.state [stateDoc] = .ok state ∧ IsPart [.struct args] items [t.args] ∧
        IsPart attributes items [t.attributes] ∧ IsPart [.struct state] items [t.state] := by
  obtain ⟨args, ha, h⟩ := bind_eq_ok_iff.mp h
  rw [hk] at h
  obtain ⟨attributes, hb, h⟩ := bind_eq_ok_iff.mp h
  obtain ⟨state, hst, h⟩ := bind_eq_ok_iff.mp h
  cases h
  obtain ⟨⟨hab, has⟩, hbs⟩ : (t.args ≠ t.attributes ∧ t.args ≠ t.state) ∧ t.attributes ≠ t.state := by
    simpa [RecordTriad.toList] using ht
  have hargs : ∀ item ∈ [Item.struct args], item.owner? = some t.args := by
    simp [Item.owner?, (Shape.holds_argumentRecord ha).2]
  have hattributes : ∀ item ∈ attributes, item.owner? = some t.attributes := fun item hi =>
    ((Shape.holds_attributeItems hb).1 item hi).owner
  have hstate : ∀ item ∈ [Item.struct state], item.owner? = some t.state := by
    simp [Item.owner?, (Shape.holds_stateRecord hst).2]
  have hother {own : List Item} {a b : String} (hown : ∀ item ∈ own, item.owner? = some a) (hne : a ≠ b) :
      ∀ item ∈ own, item.owner? ≠ some b := fun item hi heq =>
    hne (Option.some.inj ((hown item hi).symm.trans heq))
  refine ⟨args, attributes, state, ha, hb, hst, ⟨[], attributes ++ [.struct state], by simp, ?_⟩,
    ⟨[.struct args], [.struct state], rfl, ?_⟩, ⟨.struct args :: attributes, [], by simp, ?_⟩⟩
  · exact List.forall_mem_singleton.mpr ⟨List.forall_mem_nil _,
      List.forall_mem_append.mpr ⟨hother hattributes hab.symm, hother hstate has.symm⟩⟩
  · exact List.forall_mem_singleton.mpr ⟨hother hargs hab, hother hstate hbs.symm⟩
  · exact List.forall_mem_singleton.mpr
      ⟨List.forall_mem_append.mpr ⟨hother hargs has, hother hattributes hbs⟩, List.forall_mem_nil _⟩

theorem servedBy_recordItems (hk : e.isConfigurationOnly = false) {s : Shape} {qualifier : Option String}
    {t : RecordTriad} (ht : t.toList.Nodup) {argsDoc attributesDoc stateDoc : String} {items : List Item}
    (h : e.recordItems s qualifier t argsDoc attributesDoc stateDoc = .ok items) :
    s.ServedBy items qualifier t.attributes := by
  obtain ⟨_, _, _, -, hattributes, -, -, hpart, -⟩ := exists_records hk ht h
  exact (Shape.servedBy_attributeItems hattributes).of_part hpart (List.mem_singleton_self _)

theorem mem_recordNames_of_owner {s : Shape} {qualifier : Option String} {n : Node} {role : RecordRole}
    {item : Item} {name : String} (hr : role ∈ e.roles) (h : s.Holds qualifier n.triad role item)
    (howner : item.owner? = some name) : name ∈ e.recordNames n := by
  rw [← Option.some.inj (h.owner.symm.trans howner)]
  exact get_mem_recordNames hr n

theorem exists_nodeItems {nodes : List Node} :
    ∀ {taken : List String} {items : List Item}, e.nestedItems g taken nodes = .ok items →
      ∀ n ∈ nodes, ∃ own, e.nodeItems g n = .ok own ∧ IsPart own items (e.recordNames n) := by
  induction nodes with
  | nil => simp
  | cons first rest ih =>
      intro taken items h n hn
      have hdisjoint := (List.pairwise_cons.mp (nestedItems_spec h).2.2.2).1
      simp only [nestedItems] at h
      split at h
      · cases h
      · obtain ⟨own, ho, h⟩ := bind_eq_ok_iff.mp h
        obtain ⟨others, hr, h⟩ := bind_eq_ok_iff.mp h
        cases h
        rcases List.mem_cons.mp hn with rfl | hn
        · refine ⟨own, ho, [], others, rfl, fun name hname => ?_⟩
          refine ⟨List.forall_mem_nil _, fun item hi howner => ?_⟩
          obtain ⟨m, hm, role, hrole, hholds⟩ := (nestedItems_spec hr).2.1 item hi
          exact hdisjoint m hm name hname (mem_recordNames_of_owner hrole hholds howner)
        · obtain ⟨part, hpart, before, after, rfl, hothers⟩ := ih hr n hn
          refine ⟨part, hpart, own ++ before, after, by simp, fun name hname => ?_⟩
          obtain ⟨hb, ha⟩ := hothers name hname
          refine ⟨List.forall_mem_append.mpr ⟨fun item hi howner => ?_, hb⟩, ha⟩
          obtain ⟨role, hrole, hholds⟩ := (holds_recordItems ho).1 item hi
          exact hdisjoint n hn name (mem_recordNames_of_owner hrole hholds howner) hname

theorem exists_rootItems {mount : ModulePath} {file : File} (h : e.entityFile mount g = .ok file) :
    ∃ argsDoc attributesDoc stateDoc own,
      e.recordItems (Shape.ofRoot g) (some e.names.nested) e.triad argsDoc attributesDoc stateDoc = .ok own ∧
        IsPart own file.items (e.roles.map e.triad.get) := by
  obtain ⟨_, _, _, own, hr, hitems, _⟩ := entityFile_spec h
  refine ⟨_, _, _, own, hr, e.primaryItems, [], by simpa using hitems, fun name hname => ?_⟩
  refine ⟨fun item hi howner => ?_, List.forall_mem_nil _⟩
  rw [(primaryItems_owner e).2 item hi, Option.some.injEq] at howner
  exact (List.nodup_cons.mp e.rootNames_nodup).1 (howner ▸ hname)

section

variable (hk : e.isConfigurationOnly = false)

include hk

theorem nodup_triad (n : Node) : n.triad.toList.Nodup := by
  simpa [recordNames, hk] using e.recordNames_nodup n

theorem nodup_rootTriad : e.triad.toList.Nodup := by
  have hnames := e.rootNames_nodup
  simp only [roles, hk, Bool.false_eq_true, if_false] at hnames
  exact (List.nodup_cons.mp hnames).2

theorem servedBy_nestedItems {taken : List String} {nodes : List Node} {items : List Item}
    (h : e.nestedItems g taken nodes = .ok items) {n : Node} (hn : n ∈ nodes) :
    (Shape.ofNode g n).ServedBy items none n.triad.attributes := by
  obtain ⟨own, ho, hpart⟩ := exists_nodeItems h n hn
  exact (servedBy_recordItems hk (nodup_triad hk n) ho).of_part hpart
    (get_mem_recordNames (show RecordRole.attributes ∈ e.roles by simp [roles, hk]) n)

theorem servedBy_entityFile {mount : ModulePath} {file : File} (h : e.entityFile mount g = .ok file) :
    (Shape.ofRoot g).ServedBy file.items (some e.names.nested) e.names.attributes := by
  obtain ⟨_, _, _, own, ho, hpart⟩ := exists_rootItems h
  refine (servedBy_recordItems hk (nodup_rootTriad hk) ho).of_part hpart ?_
  simp [roles, hk, RecordTriad.get]

end

end Entity

end ProviderBindings
