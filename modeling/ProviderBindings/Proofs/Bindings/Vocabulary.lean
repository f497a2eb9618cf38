import ProviderBindings.Proofs.Bindings.Closed
import ProviderBindings.Proofs.Graph.DeclaredNames

/-!
The names in the files of an entity: fixed words of the bindings, names of the entity's records, and names
that nodes and members give. What holds of all of these holds of every name in the files.
-/

namespace ProviderBindings

open Code (Ty Expr Stmt Item FieldDecl StructDecl MethodDecl ImplDecl)
open Naming (RecordTriad memberName)

mutual
theorem Code.Ty.names_eq : ∀ t : Ty, t.names = t.mentions.flatMap fun m => m.2 :: m.1.toList
  | .vec item => by rw [Ty.names, Ty.mentions, Ty.names_eq item]
  | .map value => by rw [Ty.names, Ty.mentions, Ty.names_eq value]
  | .option item => by rw [Ty.names, Ty.mentions, Ty.names_eq item]
  | .result ok error => by
      rw [Ty.names, Ty.mentions, Ty.names_eq ok, Ty.names_eq error, List.flatMap_append]
  | .ref target => by rw [Ty.names, Ty.mentions, Ty.names_eq target]
  | .refMut target => by rw [Ty.names, Ty.mentions, Ty.names_eq target]
  | .implInto target => by rw [Ty.names, Ty.mentions, Ty.names_eq target]
  | .named qualifier name => by simp [Ty.names, Ty.mentions]
  | .support _ args => by rw [Ty.names, Ty.mentions, Ty.namesOf_eq args]
  | .unit | .self | .bool | .string | .str | .staticStr | .float | .bytes => by
      simp [Ty.names, Ty.mentions]

theorem Code.Ty.namesOf_eq : ∀ ts : List Ty,
    Ty.namesOf ts = (Ty.mentionsOf ts).flatMap fun m => m.2 :: m.1.toList
  | [] => rfl
  | t :: rest => by
      rw [Ty.namesOf, Ty.mentionsOf, Ty.names_eq t, Ty.namesOf_eq rest, List.flatMap_append]
end

/-! ### Words -/

def Bindings.words : List String :=
  ["args", "as_ref", "attributes", "configuration", "data_source", "data_source_type", "dependencies",
    "depends_on", "from_reference", "import_state", "lifecycle", "lifecycle_management", "local_name",
    "name", "new", "payload", "reference", "resource", "resource_type", "source", "state", "state_must",
    "version"]

structure Shape.Covers (P : String → Prop) (s : Shape) (qualifier : Option String) (t : RecordTriad) :
    Prop where
  words : ∀ name ∈ Bindings.words, P name
  records : ∀ role, P (t.get role)
  members : ∀ m ∈ s.members, P m.identifier
  children : ∀ c ∈ s.children, ∀ role, P (c.triad.get role)
  qualifier : ∀ q ∈ qualifier, P q

namespace Shape

variable {P : String → Prop} {s : Shape} {qualifier : Option String} {t : RecordTriad} {record : String}

theorem Covers.slots (hc : s.Covers P qualifier t) (role : RecordRole) {members : List Member}
    {slots : List Slot} (hsub : ∀ m ∈ members, m ∈ s.members)
    (h : s.slots record (Member.typeIn qualifier role) members = .ok slots) :
    ∀ slot ∈ slots, P slot.identifier ∧ ∀ name ∈ slot.type.names, P name := by
  intro slot hslot
  refine ⟨hc.members _ (hsub _ (slotsAfter_typed h slot hslot).1), fun name hname => ?_⟩
  rw [Ty.names_eq] at hname
  obtain ⟨m, hm, hname⟩ := List.mem_flatMap.mp hname
  obtain ⟨c, hchild, rfl⟩ := mention_of_slots role hsub h slot hslot m hm
  rcases List.mem_cons.mp hname with rfl | hname
  · exact hc.children c hchild role
  · exact hc.qualifier name (Option.mem_toList.mp hname)

theorem Covers.struct (hc : s.Covers P qualifier t) (role : RecordRole) {members : List Member}
    {slots : List Slot} (hsub : ∀ m ∈ members, m ∈ s.members)
    (h : s.slots record (Member.typeIn qualifier role) members = .ok slots) {field : Slot → FieldDecl}
    (hfield : ∀ slot, (field slot).names = slot.identifier :: slot.type.names) {d : StructDecl}
    (hname : d.name = t.get role) (hfields : d.fields = slots.map field) :
    ∀ name ∈ d.names, P name := by
  rw [StructDecl.names, hname, hfields, List.flatMap_map]
  refine List.forall_mem_cons.mpr ⟨hc.records role, fun name hn => ?_⟩
  obtain ⟨slot, hslot, hn⟩ := List.mem_flatMap.mp hn
  rw [hfield] at hn
  exact List.forall_mem_cons.mpr (hc.slots role hsub h slot hslot) name hn

theorem names_accessor (slot : Slot) :
    slot.accessor.names = slot.identifier :: (slot.type.names ++ (slot.type.names ++ ["reference"])) := by
  simp [Slot.accessor, Code.getter, MethodDecl.names, Stmt.names, Expr.names, Expr.selfField]

variable {docs : List String}

theorem Covers.argumentRecord (hc : s.Covers P qualifier t) {d : StructDecl}
    (h : s.argumentRecord qualifier t.args docs = .ok d) : ∀ name ∈ d.names, P name := by
  obtain ⟨slots, hs, hd⟩ := bind_eq_ok_iff.mp h
  cases hd
  have hsub : ∀ m ∈ s.arguments, m ∈ s.members := fun m hm => (List.mem_filter.mp hm).1
  exact hc.struct .args hsub hs (fun _ => rfl) rfl rfl

theorem Covers.stateRecord (hc : s.Covers P qualifier t) {d : StructDecl}
    (h : s.stateRecord qualifier t.state docs = .ok d) : ∀ name ∈ d.names, P name := by
  obtain ⟨slots, hs, hd⟩ := bind_eq_ok_iff.mp h
  cases hd
  exact hc.struct .state (fun m hm => hm) hs (fun _ => rfl) rfl rfl

theorem Covers.attributeItems (hc : s.Covers P qualifier t) {items : List Item}
    (h : s.attributeItems qualifier t.attributes docs = .ok items) :
    ∀ item ∈ items, ∀ name ∈ item.names, P name := by
  obtain ⟨slots, hs, hd⟩ := bind_eq_ok_iff.mp h
  have hrecord : P t.attributes := hc.records .attributes
  have hreference : P "reference" := hc.words _ (by decide)
  have hconstruction : P "from_reference" := hc.words _ (by decide)
  have haccessors : ∀ name ∈ slots.flatMap fun slot => slot.accessor.names, P name := by
    intro name hn
    obtain ⟨slot, hslot, hn⟩ := List.mem_flatMap.mp hn
    obtain ⟨hown, htype⟩ := hc.slots .attributes (fun m hm => hm) hs slot hslot
    rw [names_accessor, List.mem_cons, List.mem_append, List.mem_append, List.mem_singleton] at hn
    rcases hn with rfl | hn | hn | rfl
    · exact hown
    · exact htype name hn
    · exact htype name hn
    · exact hreference
  cases hd
  intro item hi
  simp only [List.cons_append, List.nil_append, List.mem_cons] at hi
  rcases hi with rfl | rfl | hi
  · simp [Item.names, StructDecl.names, FieldDecl.names, Ty.names, Ty.namesOf, hrecord, hreference]
  · simp [Item.names, ImplDecl.names, MethodDecl.names, Stmt.names, Ty.names, Ty.namesOf, Expr.names,
      Expr.namesOfFields, Expr.isShorthand, hrecord, hreference, hconstruction]
  · split at hi
    · simp at hi
    · rw [List.mem_singleton.mp hi, Item.names, ImplDecl.names, List.flatMap_map]
      exact List.forall_mem_cons.mpr ⟨hrecord, haccessors⟩

end Shape

namespace Entity

variable {P : String → Prop} {e : Entity} {g : Graph}

theorem covers_recordItems {s : Shape} {qualifier : Option String} {t : RecordTriad}
    (hc : s.Covers P qualifier t) {argsDoc attributesDoc stateDoc : String} {items : List Item}
    (h : e.recordItems s qualifier t argsDoc attributesDoc stateDoc = .ok items) :
    ∀ item ∈ items, ∀ name ∈ item.names, P name := by
  obtain ⟨args, ha, h⟩ := bind_eq_ok_iff.mp h
  have hargs := hc.argumentRecord ha
  split at h
  · cases h
    exact List.forall_mem_singleton.mpr hargs
  · obtain ⟨attributes, hb, h⟩ := bind_eq_ok_iff.mp h
    obtain ⟨state, hs, h⟩ := bind_eq_ok_iff.mp h
    cases h
    refine List.forall_mem_cons.mpr ⟨hargs, List.forall_mem_append.mpr ⟨hc.attributeItems hb, ?_⟩⟩
    exact List.forall_mem_singleton.mpr (hc.stateRecord hs)

theorem covers_primaryItems (hw : ∀ name ∈ Bindings.words, P name) (hr : P e.names.record)
    (ht : ∀ role, P (e.triad.get role)) : ∀ item ∈ e.primaryItems, ∀ name ∈ item.names, P name := by
  have hargs : P e.names.args := ht .args
  have hattributes : P e.names.attributes := ht .attributes
  have hstate : P e.names.state := ht .state
  simp only [Bindings.words, List.forall_mem_cons] at hw
  rw [primaryItems]
  split <;>
  simp [hw, hr, hargs, hattributes, hstate, Primary.providerItems, Primary.resourceItems,
    Primary.dataSourceItems, Primary.record, Primary.implementation, Primary.providerConstructor,
    Primary.namedConstructor, Primary.attributesMethod, Primary.stateMethods, Primary.stateValue,
    Primary.importState, Primary.referencable, Primary.configurationMethod, Primary.textGetter,
    Primary.documented, Primary.literal, Primary.localNameField, Primary.plainField,
    Primary.documentedField, Primary.named, Primary.supportType, Code.getter, Item.names,
    StructDecl.names, FieldDecl.names, ImplDecl.names, MethodDecl.names, Stmt.names, Ty.names,
    Ty.namesOf, Expr.names, Expr.namesOf, Expr.namesOfFields, Expr.isShorthand, Expr.selfField]

structure Covers (P : String → Prop) (e : Entity) (g : Graph) : Prop where
  words : ∀ name ∈ Bindings.words, P name
  record : P e.names.record
  records : ∀ role, P (e.triad.get role)
  nested : P e.names.nested
  named : g.NamedBy fun name => P (memberName name)
  nodes : ∀ n ∈ g.nodes, ∀ role, P (n.triad.get role)

theorem Covers.shape (hc : e.Covers P g) {s : Shape} {qualifier : Option String} {t : RecordTriad}
    (hr : ∀ role, P (t.get role)) (hl : ∀ l ∈ s.leaves, P (memberName l.name))
    (hs : ∀ c ∈ s.children, c ∈ g.nodes) (hq : ∀ q ∈ qualifier, P q) : s.Covers P qualifier t where
  words := hc.words
  records := hr
  members := by
    rw [Shape.members]
    refine List.forall_mem_append.mpr ⟨?_, ?_⟩
    · exact List.forall_mem_map.mpr hl
    · exact List.forall_mem_map.mpr fun c hm => (hc.named.nodes c (hs c hm)).name
  children c hm := hc.nodes c (hs c hm)
  qualifier := hq

theorem covers_nestedItems (hc : e.Covers P g) {nodes : List Node} (hn : ∀ n ∈ nodes, n ∈ g.nodes) :
    ∀ {taken : List String} {items : List Item}, e.nestedItems g taken nodes = .ok items →
      ∀ item ∈ items, ∀ name ∈ item.names, P name := by
  induction nodes with
  | nil =>
      intro taken items h
      cases h
      simp
  | cons n rest ih =>
      obtain ⟨hown, hrest⟩ := List.forall_mem_cons.mp hn
      intro taken items h
      simp only [nestedItems] at h
      split at h
      · cases h
      · obtain ⟨own, ho, h⟩ := bind_eq_ok_iff.mp h
        obtain ⟨others, hr, h⟩ := bind_eq_ok_iff.mp h
        cases h
        have hshape : (Shape.ofNode g n).Covers P none n.triad :=
          hc.shape (hc.nodes n hown) (hc.named.nodes n hown).leaves (fun _ => Graph.mem_of_mem_nodesAt)
            (by simp)
        exact List.forall_mem_append.mpr ⟨covers_recordItems hshape ho, ih hrest hr⟩

theorem covers_bindings (hc : e.Covers P g) {mount : ModulePath} {b : Bindings}
    (h : e.bindings mount g = .ok b) : ∀ f ∈ b.files, ∀ item ∈ f.items, ∀ name ∈ item.names, P name := by
  obtain ⟨_, hnested, hfile⟩ := bindings_spec h
  intro f hf
  rcases Bindings.mem_files.mp hf with rfl | hf
  · obtain ⟨_, _, _, records, hr, hitems, _⟩ := entityFile_spec hfile
    have hshape : (Shape.ofRoot g).Covers P (some e.names.nested) e.triad :=
      hc.shape hc.records hc.named.leaves (fun _ => Graph.mem_of_mem_nodesAt) (by simpa using hc.nested)
    rw [hitems]
    exact List.forall_mem_append.mpr
      ⟨covers_primaryItems hc.words hc.record hc.records, covers_recordItems hshape hr⟩
  · exact covers_nestedItems hc (fun n hn => hn) (hnested f hf).2

end Entity

end ProviderBindings
