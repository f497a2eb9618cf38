import ProviderBindings.Proofs.Bindings.AttributeRecord
import ProviderBindings.Proofs.Graph.Keys

/-!
The records of a shape agree on its members. The state record has a field and the attribute record an accessor
for every leaf and then every child, and the argument record has a field for those that are arguments; their
identifiers differ, and each carries the key that the schema has for the member.
-/

namespace ProviderBindings

open Code (Item FieldDecl MethodDecl Serde TraversalStep DeclaredOnce methodsOf fieldsOf IsPart)
open Naming (RecordTriad)
open Schema (Level)

namespace Code

def FieldDecl.renames (f : FieldDecl) : List String :=
  f.serde.filterMap fun
    | .rename name => some name
    | _ => none

def MethodDecl.step? (m : MethodDecl) : Option (TraversalStep × String) :=
  match m.body with
  | [.expr (.fromReference _ (.traverse (.field .self "reference") step name))] => some (step, name)
  | _ => none

end Code

theorem Slot.renames_argumentField (slot : Slot) : slot.argumentField.renames = [slot.member.name] := by
  rw [argumentField, FieldDecl.renames]
  dsimp only
  split
  · cases emptyTest? slot.type <;> rfl
  · rfl

theorem Slot.step?_accessor (slot : Slot) :
    slot.accessor.step? = some (slot.member.step, slot.member.name) := rfl

structure Lists {α β : Type} (declarations : List α) (name : α → String) (read : α → β)
    (members : List Member) (key : Member → β) : Prop where
  entries : declarations.map (fun a => (name a, read a)) = members.map fun m => (m.identifier, key m)
  distinct : (declarations.map name).Nodup

namespace Shape

structure Described (s : Shape) (root : Level) (items : List Item) (t : RecordTriad) : Prop where
  keys : ∃ level, root.At s.path level ∧ Keyed level s.leaves s.children
  declared : ∀ role : RecordRole, DeclaredOnce items (t.get role)
  state : Lists (fieldsOf items t.state) FieldDecl.name FieldDecl.renames s.members fun m => [m.name]
  accessors : Lists (methodsOf items t.attributes none) MethodDecl.name MethodDecl.step? s.members
    fun m => some (m.step, m.name)
  arguments : Lists (fieldsOf items t.args) FieldDecl.name FieldDecl.renames s.arguments fun m => [m.name]

variable {s : Shape} {qualifier : Option String} {record : String}

theorem lists_slots {typeOf : Member → Except MappingError Code.Ty} {members : List Member} {slots : List Slot}
    (h : s.slots record typeOf members = .ok slots) {α β : Type} {declare : Slot → α} {name : α → String}
    {read : α → β} {key : Member → β} (hname : ∀ slot, name (declare slot) = slot.member.identifier)
    (hread : ∀ slot, read (declare slot) = key slot.member) :
    Lists (slots.map declare) name read members key where
  entries := by
    rw [← member_of_slotsAfter h, List.map_map, List.map_map]
    simp only [Function.comp_def, hname, hread]
  distinct := by
    have hnodup := nodup_of_slots h
    rw [← member_of_slotsAfter h, List.map_map] at hnodup
    simpa only [List.map_map, Function.comp_def, hname] using hnodup

theorem lists_recordItems {e : Entity} (hk : e.isConfigurationOnly = false) {t : RecordTriad}
    (ht : t.toList.Nodup) {argsDoc attributesDoc stateDoc : String} {items : List Item}
    (h : e.recordItems s qualifier t argsDoc attributesDoc stateDoc = .ok items) :
    Lists (fieldsOf items t.state) FieldDecl.name FieldDecl.renames s.members (fun m => [m.name]) ∧
    Lists (methodsOf items t.attributes none) MethodDecl.name MethodDecl.step? s.members
      (fun m => some (m.step, m.name)) ∧
    Lists (fieldsOf items t.args) FieldDecl.name FieldDecl.renames s.arguments (fun m => [m.name]) := by
  obtain ⟨args, attributes, state, ha, hb, hst, hargs, hattributes, hstate⟩ := Entity.exists_records hk ht h
  obtain ⟨slots, hslots, hmethods⟩ := (servedBy_attributeItems hb).accessors
  obtain ⟨argSlots, hargSlots, ha⟩ := bind_eq_ok_iff.mp ha
  obtain ⟨stateSlots, hstateSlots, hst⟩ := bind_eq_ok_iff.mp hst
  cases ha
  cases hst
  refine ⟨?_, ?_, ?_⟩
  · have hfields : Lists (stateSlots.map Slot.stateField) FieldDecl.name FieldDecl.renames s.members
        fun m => [m.name] :=
      lists_slots hstateSlots (fun _ => by simp only [Slot.stateField, Slot.identifier]) fun _ => rfl
    rw [hstate.fieldsOf_eq (List.mem_singleton_self _)]
    simpa [fieldsOf] using hfields
  · rw [hattributes.methodsOf_eq (List.mem_singleton_self _), hmethods]
    exact lists_slots hslots (fun _ => by simp only [Slot.accessor, Code.getter, Slot.identifier])
      Slot.step?_accessor
  · have hfields : Lists (argSlots.map Slot.argumentField) FieldDecl.name FieldDecl.renames s.arguments
        fun m => [m.name] :=
      lists_slots hargSlots (fun _ => by simp only [Slot.argumentField, Slot.identifier])
        Slot.renames_argumentField
    rw [hargs.fieldsOf_eq (List.mem_singleton_self _)]
    simpa [fieldsOf] using hfields

end Shape

namespace Entity

variable {e : Entity} {mount : ModulePath} {g₀ g : Graph} {b : Bindings}

theorem described_bindings (hk : e.kind ≠ .provider) (hb : Graph.ofBlock e.block = .ok g₀)
    (hd : g₀.disambiguated = .ok g) (h : e.bindings mount g = .ok b) :
    (Shape.ofRoot g).Described (Level.ofBlock e.block) b.file.items e.triad ∧
      ∀ n ∈ g.nodes, ∃ file, b.nested = some file ∧
        (Shape.ofNode g n).Described (Level.ofBlock e.block) file.items n.triad := by
  have hk : e.isConfigurationOnly = false := by simpa [isConfigurationOnly] using hk
  have hroles : ∀ role, role ∈ e.roles := by
    intro role
    cases role <;> simp [roles, hk]
  obtain ⟨hsome, hnested, hfile⟩ := bindings_spec h
  obtain ⟨hroot, hnodes⟩ := Graph.keyed_of_disambiguated hb hd
  constructor
  · obtain ⟨_, _, _, own, ho, hpart⟩ := exists_rootItems hfile
    obtain ⟨hstate, haccessors, harguments⟩ := Shape.lists_recordItems hk (nodup_rootTriad hk) ho
    have hrecord (role : RecordRole) : e.triad.get role ∈ e.roles.map e.triad.get :=
      List.mem_map_of_mem (hroles role)
    exact {
      keys := ⟨_, .root, hroot⟩
      declared := fun role => declaredOnce_entityFile hfile _ (List.mem_cons_of_mem _ (hrecord role))
      state := hpart.fieldsOf_eq (hrecord .state) ▸ hstate
      accessors := hpart.methodsOf_eq (hrecord .attributes) none ▸ haccessors
      arguments := hpart.fieldsOf_eq (hrecord .args) ▸ harguments }
  · intro n hn
    obtain ⟨file, hf⟩ := Option.isSome_iff_exists.mp (hsome.mpr (List.ne_nil_of_mem hn))
    have hitems := (hnested file hf).2
    obtain ⟨own, ho, hpart⟩ := exists_nodeItems hitems n hn
    obtain ⟨hstate, haccessors, harguments⟩ := Shape.lists_recordItems hk (nodup_triad hk n) ho
    have hrecord (role : RecordRole) : n.triad.get role ∈ e.recordNames n :=
      get_mem_recordNames (hroles role) n
    exact ⟨file, hf, {
      keys := hnodes n hn
      declared := fun role => declaredOnce_nestedItems hitems hn (hroles role)
      state := hpart.fieldsOf_eq (hrecord .state) ▸ hstate
      accessors := hpart.methodsOf_eq (hrecord .attributes) none ▸ haccessors
      arguments := hpart.fieldsOf_eq (hrecord .args) ▸ harguments }⟩

/-- A key in two words, an object that cannot be set, with a field that is a keyword, and another keyword. -/
def vault : Entity :=
  .ofResource ⟨"acme", "acme/acme", "1.0.0"⟩ "acme_vault"
    ⟨[("kmsKeyId", ⟨some (.text "string"), none, none, false, true, false, false, false⟩),
      ("lease", ⟨some (.list [.text "object", .object [("self", .text "string")]]), none, none, false, false,
        true, false, false⟩),
      ("type", ⟨some (.text "string"), none, none, true, false, false, false, false⟩)],
      [("rule", ⟨"list", .empty, 0, 0⟩)], none, false⟩

def vaultLease : Node :=
  ⟨"lease", [], "lease", 0, [⟨"self", .string, false, false, .none⟩], [], ⟨false, false, [], 0, 1, .none⟩⟩

def vaultGraph : Graph :=
  ⟨[⟨"kmsKeyId", .string, true, false, .none⟩, ⟨"type", .string, true, true, .none⟩], [0, 1],
    [vaultLease, ⟨"rule", [], "rule", 0, [], [], ⟨true, false, [.list], 0, 0, .none⟩⟩]⟩

theorem described_vault : ∃ b file, Graph.ofBlock vault.block = .ok vaultGraph ∧
    vaultGraph.disambiguated = .ok vaultGraph ∧ vault.bindings .standard vaultGraph = .ok b ∧
    b.nested = some file ∧
    (fieldsOf b.file.items "VaultState").map (fun f => (f.name, f.renames)) =
      [("kms_key_id", ["kmsKeyId"]), ("r#type", ["type"]), ("lease", ["lease"]), ("rule", ["rule"])] ∧
    (methodsOf b.file.items "VaultAttributes" none).map (fun m => (m.name, m.step?)) =
      [("kms_key_id", some (.attribute, "kmsKeyId")), ("r#type", some (.attribute, "type")),
        ("lease", some (.block, "lease")), ("rule", some (.block, "rule"))] ∧
    (fieldsOf b.file.items "VaultArgs").map (fun f => (f.name, f.renames)) =
      [("kms_key_id", ["kmsKeyId"]), ("r#type", ["type"]), ("rule", ["rule"])] ∧
    (fieldsOf file.items "LeaseState").map (fun f => (f.name, f.renames)) = [("self_", ["self"])] := by
  have hb : Graph.ofBlock vault.block = .ok vaultGraph := rfl
  have hd : vaultGraph.disambiguated = .ok vaultGraph :=
    Graph.disambiguated_of_settled rfl (by decide +kernel)
  obtain ⟨b, h⟩ := exists_of_toBool (x := vault.bindings .standard vaultGraph) (by decide +kernel)
  obtain ⟨hroot, hnodes⟩ := described_bindings (by decide) hb hd h
  obtain ⟨file, hfile, hlease⟩ := hnodes vaultLease List.mem_cons_self
  have htriad : vault.triad = ⟨"VaultArgs", "VaultAttributes", "VaultState"⟩ := by decide +kernel
  have hname : vaultLease.triad.state = "LeaseState" := by decide +kernel
  rw [htriad] at hroot
  have hstate := hlease.state.entries
  rw [hname] at hstate
  exact ⟨b, file, hb, hd, h, hfile, hroot.state.entries.trans (by decide +kernel),
    hroot.accessors.entries.trans (by decide +kernel), hroot.arguments.entries.trans (by decide +kernel),
    hstate.trans (by decide +kernel)⟩

end Entity

end ProviderBindings
