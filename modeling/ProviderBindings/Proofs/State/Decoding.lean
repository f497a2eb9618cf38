import ProviderBindings.Proofs.Bindings.Navigation
import ProviderBindings.Proofs.State.Linking
import ProviderBindings.Proofs.Wire.Trimming

/-!
What generated state records are decoded from. Each of their fields takes its default from a null and where it
is missing, so that recorded states which differ in nulls and unknown members only are decoded alike.
-/

namespace ProviderBindings

open Code (Item StructDecl Derive decoded)
open Json (Tree)
open Wire (Environment Field RecordName RecordShape TextsAlike Trims Alike)

/-! ### Records -/

namespace State

theorem field?_stateField (slot : Slot) :
    field? slot.stateField = some (fieldOf slot.member.name slot.type) := rfl

theorem mapM_field?_stateField (slots : List Slot) :
    (slots.map Slot.stateField).mapM field? =
      some (slots.map fun slot => fieldOf slot.member.name slot.type) := by
  induction slots with
  | nil => rfl
  | cons slot rest ih => simp [field?_stateField, ih]

theorem presenceOf_ne_plain (type : Code.Ty) : presenceOf type ≠ .plain := by
  cases type <;> nofun

theorem mention_of_shapeOf (type : Code.Ty) :
    ∀ name ∈ (shapeOf type).record?, (name.qualifier, name.name) ∈ type.mentions := by
  fun_induction shapeOf type with
  | case1 | case2 | case3 | case8 => nofun
  | case4 item ih | case5 value ih | case7 item ih => simpa [Wire.Shape.record?] using ih
  | case6 qualifier name => simp [Wire.Shape.record?]

structure Lenient (r : RecordShape) : Prop where
  keys : (r.fields.map Field.key).Nodup
  presences : ∀ f ∈ r.fields, f.presence ≠ .plain

theorem Lenient.renamed {r r' : RecordShape} {names : RecordName → Option RecordName} (h : Lenient r)
    (hr : List.Forall₂ (Field.Renamed names) r.fields r'.fields) : Lenient r' := by
  refine ⟨?_, fun f' hf' => ?_⟩
  · rw [map_eq_of_forall₂ hr fun _ _ hf => hf.key]
    exact h.keys
  · obtain ⟨f, hf, hrenamed⟩ := exists_of_forall₂ hr hf'
    rw [hrenamed.presence]
    exact h.presences f hf

theorem recordShape?_stateRecord {s : ProviderBindings.Shape} {qualifier : Option String} {name : String}
    {docs : List String} {d : StructDecl} (h : s.stateRecord qualifier name docs = .ok d) :
    ∃ r, recordShape? d = some r ∧ r.name = name ∧ r.fields.map Field.key = s.members.map Member.name ∧
      Lenient r ∧
      ∀ f ∈ r.fields, ∀ name ∈ f.shape.record?, ∃ c ∈ s.children, name = ⟨qualifier, c.triad.state⟩ := by
  obtain ⟨slots, hslots, hd⟩ := bind_eq_ok_iff.mp h
  cases hd
  have hkeys : (slots.map fun slot => fieldOf slot.member.name slot.type).map Field.key =
      s.members.map Member.name := by
    rw [← Shape.member_of_slotsAfter hslots, List.map_map, List.map_map]
    rfl
  -- Members of one name would have one identifier.
  have hnodup : (s.members.map Member.name).Nodup := by
    refine List.Nodup.of_map Naming.memberName ?_
    rw [List.map_map]
    exact Shape.nodup_of_slots hslots
  refine ⟨⟨name, slots.map fun slot => fieldOf slot.member.name slot.type⟩, ?_, rfl, hkeys,
    ⟨hkeys ▸ hnodup, fun f hf => ?_⟩, fun f hf name hname => ?_⟩
  · rw [recordShape?, if_pos (by simp), mapM_field?_stateField]
    rfl
  · obtain ⟨slot, -, rfl⟩ := List.mem_map.mp hf
    exact presenceOf_ne_plain slot.type
  · obtain ⟨slot, hslot, rfl⟩ := List.mem_map.mp hf
    obtain ⟨c, hc, hmention⟩ := Shape.mention_of_slots .state (fun _ hm => hm) hslots slot hslot _
      (mention_of_shapeOf slot.type name hname)
    exact ⟨c, hc, congrArg (fun m => (⟨m.1, m.2⟩ : RecordName)) hmention⟩

end State

/-! ### Declarations -/

namespace Shape

variable {s : Shape} {qualifier : Option String} {name : String} {docs : List String}

theorem decoded_argumentRecord {d : StructDecl} (h : s.argumentRecord qualifier name docs = .ok d) :
    decoded [.struct d] = [] := by
  obtain ⟨slots, -, h⟩ := bind_eq_ok_iff.mp h
  cases h
  have hderives : Derive.deserialize ∉ [Derive.debug, .clone] ++
      (if (slots.map Slot.argumentField).all fun f => (emptyTest? f.type).isSome then [Derive.default]
        else []) ++ [.partialEq, .serialize] := by
    split <;> decide
  simp only [decoded, List.filterMap_cons, if_neg hderives, List.filterMap_nil]

theorem decoded_attributeItems {items : List Item} (h : s.attributeItems qualifier name docs = .ok items) :
    decoded items = [] := by
  obtain ⟨slots, -, h⟩ := bind_eq_ok_iff.mp h
  cases h
  split <;> rfl

theorem decoded_stateRecord {d : StructDecl} (h : s.stateRecord qualifier name docs = .ok d) :
    decoded [.struct d] = [d] := by
  obtain ⟨slots, -, h⟩ := bind_eq_ok_iff.mp h
  cases h
  rfl

def ReadBackBy (s : Shape) (qualifier : Option String) (name : String) (d : StructDecl) : Prop :=
  ∃ docs, s.stateRecord qualifier name docs = .ok d

end Shape

namespace Entity

variable {e : Entity} {g : Graph}

theorem decoded_recordItems (hk : e.isConfigurationOnly = false) {s : Shape} {qualifier : Option String}
    {t : Naming.RecordTriad} {argsDoc attributesDoc stateDoc : String} {items : List Item}
    (h : e.recordItems s qualifier t argsDoc attributesDoc stateDoc = .ok items) :
    ∃ d, s.ReadBackBy qualifier t.state d ∧ decoded items = [d] := by
  obtain ⟨args, ha, h⟩ := bind_eq_ok_iff.mp h
  rw [hk] at h
  obtain ⟨attributes, hb, h⟩ := bind_eq_ok_iff.mp h
  obtain ⟨state, hst, h⟩ := bind_eq_ok_iff.mp h
  cases h
  refine ⟨state, ⟨_, hst⟩, ?_⟩
  calc decoded ([.struct args] ++ attributes ++ [.struct state])
      = decoded [.struct args] ++ decoded attributes ++ decoded [.struct state] := by
        rw [Code.decoded_append, Code.decoded_append]
    _ = [state] := by
        rw [Shape.decoded_argumentRecord ha, Shape.decoded_attributeItems hb, Shape.decoded_stateRecord hst]
        rfl

theorem decoded_nestedItems (hk : e.isConfigurationOnly = false) {nodes : List Node} :
    ∀ {taken : List String} {items : List Item}, e.nestedItems g taken nodes = .ok items →
      List.Forall₂ (fun n d => (Shape.ofNode g n).ReadBackBy none n.triad.state d) nodes (decoded items) := by
  induction nodes with
  | nil =>
      intro taken items h
      cases h
      exact .nil
  | cons n rest ih =>
      intro taken items h
      simp only [nestedItems] at h
      split at h
      · cases h
      · obtain ⟨own, ho, h⟩ := bind_eq_ok_iff.mp h
        obtain ⟨others, hr, h⟩ := bind_eq_ok_iff.mp h
        cases h
        obtain ⟨d, hd, hown⟩ := decoded_recordItems hk ho
        rw [Code.decoded_append, hown]
        exact .cons hd (ih hr)

theorem decoded_primaryItems (e : Entity) : decoded e.primaryItems = [] := by
  rw [primaryItems]
  split <;> rfl

end Entity

/-! ### Both files -/

namespace Entity

variable {e : Entity} {mount : ModulePath} {g : Graph} {b : Bindings}

def stateShapes (e : Entity) (g : Graph) : List (RecordName × Shape) :=
  (⟨none, e.names.state⟩, Shape.ofRoot g) ::
    g.nodes.map fun n => (⟨some e.names.nested, n.triad.state⟩, Shape.ofNode g n)

structure DecodedBy (e : Entity) (s : RecordName × Shape) (r : RecordShape) : Prop where
  name : r.name = s.1
  keys : r.fields.map Field.key = s.2.members.map Member.name
  lenient : State.Lenient r
  children : ∀ f ∈ r.fields, ∀ name ∈ f.shape.record?,
    ∃ c ∈ s.2.children, name = ⟨some e.names.nested, c.triad.state⟩

theorem qualifierOf_nested (e : Entity) (mount : ModulePath) (b : Bindings) :
    (e.program mount b).qualifierOf .nested = some e.names.nested := by
  simp [Program.qualifierOf, program, nestedModule, ModulePath.join]

theorem exists_recordShape {side : Side} {qualifier : Option String} {name : String} {s : Shape}
    {d : StructDecl} (h : s.ReadBackBy qualifier name d)
    (hr : ∀ c ∈ s.children, (e.program mount b).resolve? side qualifier = some .nested) :
    ∃ r, (e.program mount b).recordShape? side d = some r ∧
      e.DecodedBy (⟨(e.program mount b).qualifierOf side, name⟩, s) r := by
  obtain ⟨docs, h⟩ := h
  obtain ⟨r, hrecord, hname, hkeys, hlenient, hchildren⟩ := State.recordShape?_stateRecord h
  have hown : (e.program mount b).recordName? side r.name =
      some ⟨(e.program mount b).qualifierOf side, name⟩ := by
    rw [hname]
    rfl
  have hchild : ∀ c ∈ s.children, (e.program mount b).recordName? side ⟨qualifier, c.triad.state⟩ =
      some ⟨some e.names.nested, c.triad.state⟩ := by
    intro c hc
    rw [Program.recordName?, hr c hc, Option.map_some, qualifierOf_nested]
  obtain ⟨r', hr', hname', hrenamed⟩ := RecordShape.exists_rename hown fun f hf name hmentioned => by
    obtain ⟨c, hc, rfl⟩ := hchildren f hf name hmentioned
    rw [hchild c hc]
    rfl
  refine ⟨r', by rw [Program.recordShape?, hrecord, Option.bind_some, hr'], hname',
    (map_eq_of_forall₂ hrenamed fun _ _ hf => hf.key).trans hkeys, hlenient.renamed hrenamed, ?_⟩
  intro f' hf' name hmentioned
  obtain ⟨f, hf, hfield⟩ := exists_of_forall₂ hrenamed hf'
  rw [hfield.record] at hmentioned
  obtain ⟨mentioned, hm, hname⟩ := Option.bind_eq_some_iff.mp hmentioned
  obtain ⟨c, hc, rfl⟩ := hchildren f hf mentioned hm
  exact ⟨c, hc, Option.some.inj (hname.symm.trans (hchild c hc))⟩

theorem nestedItems_program (h : e.bindings mount g = .ok b) :
    e.nestedItems g [] g.nodes = .ok ((e.program mount b).items .nested) := by
  obtain ⟨hsome, hnested, -⟩ := bindings_spec h
  cases hb : b.nested with
  | none =>
      have hempty : g.nodes = [] := by
        by_contra hne
        simpa [hb] using hsome.mpr hne
      rw [hempty, Program.items, Program.file?, program, hb]
      rfl
  | some f =>
      rw [(hnested f hb).2, Program.items, Program.file?, program, hb]
      rfl

theorem decoded_own (hk : e.isConfigurationOnly = false) (h : e.bindings mount g = .ok b) :
    ∃ d, (Shape.ofRoot g).ReadBackBy (some e.names.nested) e.names.state d ∧
      decoded ((e.program mount b).items .own) = [d] := by
  obtain ⟨-, -, hfile⟩ := bindings_spec h
  obtain ⟨_, _, _, records, hr, hitems, -⟩ := entityFile_spec hfile
  obtain ⟨d, hd, hdecoded⟩ := decoded_recordItems hk hr
  refine ⟨d, hd, ?_⟩
  calc decoded ((e.program mount b).items .own) = decoded b.file.items := rfl
    _ = decoded e.primaryItems ++ decoded records := by rw [hitems, Code.decoded_append]
    _ = [d] := by rw [decoded_primaryItems, hdecoded, List.nil_append]

theorem exists_states (hk : e.isConfigurationOnly = false) (h : e.bindings mount g = .ok b) :
    ∃ env, (e.program mount b).states? = some env ∧ List.Forall₂ e.DecodedBy (e.stateShapes g) env := by
  obtain ⟨d, hd, hown⟩ := decoded_own hk h
  obtain ⟨root, hroot, hrootDecoded⟩ : ∃ r, (e.program mount b).recordShape? .own d = some r ∧
      e.DecodedBy (⟨none, e.names.state⟩, Shape.ofRoot g) r :=
    exists_recordShape hd fun c hc => resolve?_nested h (List.ne_nil_of_mem (Graph.mem_of_mem_nodesAt hc))
  have hnodes : List.Forall₂ (fun n d => ∃ r, (e.program mount b).recordShape? .nested d = some r ∧
      e.DecodedBy (⟨some e.names.nested, n.triad.state⟩, Shape.ofNode g n) r) g.nodes
      (decoded ((e.program mount b).items .nested)) := by
    refine (decoded_nestedItems hk (nestedItems_program h)).imp fun n d hd => ?_
    rw [← qualifierOf_nested e mount b]
    exact exists_recordShape hd fun _ _ => rfl
  obtain ⟨nested, hnested, hall⟩ := exists_mapM hnodes
  refine ⟨root :: nested, ?_, .cons hrootDecoded (List.forall₂_map_left_iff.mpr hall)⟩
  simp [Program.states?, hown, hroot, hnested]

theorem nodup_stateNames (hk : e.isConfigurationOnly = false) (h : e.bindings mount g = .ok b) :
    ((e.stateShapes g).map Prod.fst).Nodup := by
  have hstate : ∀ n : Node, n.triad.state ∈ e.recordNames n := fun n =>
    get_mem_recordNames (show RecordRole.state ∈ e.roles by simp [roles, hk]) n
  have hpairwise := (nestedItems_spec (nestedItems_program h)).2.2.2
  simp only [stateShapes, List.map_cons, List.map_map, List.nodup_cons, List.mem_map, not_exists]
  refine ⟨fun n hn => by simp at hn, List.pairwise_map.mpr (hpairwise.imp fun {m n} hmn heq => ?_)⟩
  have hsame : m.triad.state = n.triad.state := congrArg RecordName.name heq
  have hshared := hstate n
  rw [← hsame] at hshared
  exact hmn _ (hstate m) hshared

end Entity

namespace State

variable {env : Environment}

theorem fields_eq_nil_or (env : Environment) (name : RecordName) :
    env.fields name = [] ∨ ∃ r ∈ env, env.fields name = r.fields := by
  rw [Environment.fields]
  cases hfind : env.find? (·.name = name) with
  | none => exact .inl rfl
  | some r => exact .inr ⟨r, List.mem_of_find?_eq_some hfind, rfl⟩

theorem distinct_of_lenient (h : ∀ r ∈ env, Lenient r) : env.Distinct := by
  intro name
  rcases fields_eq_nil_or env name with hnil | ⟨r, hr, hfields⟩
  · rw [hnil]
    exact List.nodup_nil
  · rw [hfields]
    exact (h r hr).keys

theorem tolerant_of_lenient (h : ∀ r ∈ env, Lenient r) : env.Tolerant := by
  intro name f hf
  rcases fields_eq_nil_or env name with hnil | ⟨r, hr, hfields⟩
  · rw [hnil] at hf
    cases hf
  · rw [hfields] at hf
    exact (h r hr).presences f hf

variable {e : Entity} {g : Graph} (h : List.Forall₂ e.DecodedBy (e.stateShapes g) env)

include h

theorem names_of_decodedBy : env.map RecordShape.name = (e.stateShapes g).map Prod.fst :=
  map_eq_of_forall₂ h fun _ _ hr => hr.name

theorem closed_of_decodedBy : env.Closed := by
  intro r hr f hf name hname
  obtain ⟨s, hs, hdecoded⟩ := exists_of_forall₂ h hr
  obtain ⟨c, hc, rfl⟩ := hdecoded.children f hf name hname
  have hnode : c ∈ g.nodes := by
    rcases List.mem_cons.mp hs with rfl | hs
    · exact Graph.mem_of_mem_nodesAt hc
    · obtain ⟨n, -, rfl⟩ := List.mem_map.mp hs
      exact Graph.mem_of_mem_nodesAt hc
  rw [names_of_decodedBy h, Entity.stateShapes, List.map_cons, List.map_map]
  exact List.mem_cons_of_mem _ (List.mem_map.mpr ⟨c, hnode, rfl⟩)

end State

/-! ### Decoding -/

namespace State

variable {e : Entity} {mount : ModulePath} {g : Graph} {b : Bindings}

/-- The state records in the files of an entity are told apart by file and name, and every record that one of
them mentions is found where it is declared. Texts that differ in nulls and unknown members of records only
are decoded to one datum by them, or both fail. -/
theorem decode_alike (hk : e.kind ≠ .provider) (h : e.bindings mount g = .ok b) :
    ∃ env, (e.program mount b).states? = some env ∧
      env.map (fun r => (r.name, r.fields.map Field.key)) =
        (e.stateShapes g).map (fun s => (s.1, s.2.members.map Member.name)) ∧
      (env.map RecordShape.name).Nodup ∧ env.Closed ∧
      ∀ record payload payload', TextsAlike env (.record record) payload payload' →
        SameResult (decode env record payload) (decode env record payload') := by
  have hk : e.isConfigurationOnly = false := by simpa [Entity.isConfigurationOnly] using hk
  obtain ⟨env, hstates, hall⟩ := Entity.exists_states hk h
  have hlenient : ∀ r ∈ env, Lenient r := by
    intro r hr
    obtain ⟨_, _, hdecoded⟩ := exists_of_forall₂ hall hr
    exact hdecoded.lenient
  refine ⟨env, hstates, map_eq_of_forall₂ hall fun _ _ hr => Prod.ext hr.name hr.keys, ?_,
    closed_of_decodedBy hall, fun _ _ _ halike => ?_⟩
  · rw [names_of_decodedBy hall]
    exact Entity.nodup_stateNames hk h
  · exact halike.sameResult (distinct_of_lenient hlenient) (tolerant_of_lenient hlenient)

/-- A resource with a single block `root` and a list of blocks `vpc`. The state record of the latter has the
name that the resource's own has. -/
def network : Entity :=
  .ofResource ⟨"aws", "hashicorp/aws", "5.0.0"⟩ "aws_vpc"
    ⟨[("ami", ⟨some (.text "string"), none, none, false, true, true, false, false⟩),
        ("id", ⟨some (.text "string"), none, none, false, false, true, false, false⟩)],
      [("root", ⟨"single", .empty, 0, 0⟩),
        ("vpc", ⟨"list",
          ⟨[("size", ⟨some (.text "number"), none, none, true, false, false, false, false⟩)], [], none,
            false⟩, 0, 0⟩)],
      none, false⟩

def networkGraph : Graph :=
  ⟨[⟨"ami", .string, true, false, .none⟩, ⟨"id", .string, false, false, .none⟩], [0, 1],
    [⟨"root", [], "root", 0, [], [], ⟨true, false, [], 0, 0, .none⟩⟩,
      ⟨"vpc", [], "vpc", 0, [⟨"size", .number, true, true, .none⟩], [],
        ⟨true, false, [.list], 0, 0, .none⟩⟩]⟩

def networkRecords : Environment :=
  [⟨"VpcState", [⟨"ami", .text, .lenient⟩, ⟨"id", .text, .lenient⟩,
      ⟨"root", .record ⟨some "vpc", "RootState"⟩, .optional⟩,
      ⟨"vpc", .list (.record ⟨some "vpc", "VpcState"⟩), .lenient⟩]⟩,
    ⟨⟨some "vpc", "RootState"⟩, []⟩, ⟨⟨some "vpc", "VpcState"⟩, [⟨"size", .real, .lenient⟩]⟩]

def withNulls : List UInt8 :=
  Json.utf8 "\x7b\"id\":\"i-0\",\"root\":null,\"vpc\":[\x7b\"size\":null\x7d]\x7d"

def withoutSize : List UInt8 :=
  Json.utf8 "\x7b\"id\":\"i-0\",\"ami\":null,\"vpc\":[\x7b\"id\":true\x7d]\x7d"

section

open Json (Key)

def networkTree (members : List (Key × Tree)) : Tree := .object ⟨0, false⟩ members .closed

def vpcMember (members : List (Key × Tree)) : Key × Tree :=
  (⟨.ok "vpc", 0⟩, .list ⟨0, false⟩ [.object ⟨0, false⟩ members .closed] .closed)

def nullMember (key : String) : Key × Tree := (⟨.ok key, 0⟩, .scalar .null 0 0)

theorem trims_null {f : Field} (hf : f ∈ networkRecords.fields "VpcState")
    {first last : Key × Tree} (hfirst : first.1.text ≠ .ok f.key) (hlast : last.1.text ≠ .ok f.key) :
    Trims networkRecords (.record "VpcState") (networkTree [first, nullMember f.key, last])
      (networkTree [first, last]) := by
  refine @Trims.nullField _ _ _ _ [first] [last] _ _ f hf rfl rfl ?_
  simp only [List.singleton_append, List.forall_mem_cons]
  exact ⟨hfirst, hlast, by simp⟩

theorem trims_vpc {first m : Key × Tree}
    (h : Trims networkRecords (.record ⟨some "vpc", "VpcState"⟩) (.object ⟨0, false⟩ [m] .closed)
      (.object ⟨0, false⟩ [] .closed)) :
    Trims networkRecords (.record "VpcState") (networkTree [first, vpcMember [m]])
      (networkTree [first, vpcMember []]) := by
  have hf : ⟨"vpc", .list (.record ⟨some "vpc", "VpcState"⟩), .lenient⟩ ∈
      networkRecords.fields "VpcState" := by
    decide
  exact @Trims.inField _ _ _ _ [first] [] _ _ _ _ hf rfl (@Trims.inItem _ _ _ _ [] [] _ _ h)

theorem textsAlike_network :
    TextsAlike networkRecords (.record "VpcState") withNulls withoutSize := by
  let id : Key × Tree := (⟨.ok "id", 0⟩, .scalar (.text "i-0") 0 0)
  let other : Key × Tree := (⟨.ok "id", 0⟩, .scalar (.bool true) 0 0)
  have hleft : ((Json.read withNulls).tree.unplaced, (Json.read withNulls).after.isSome) =
      ((networkTree [id, nullMember "root", vpcMember [nullMember "size"]]).unplaced, false) := rfl
  have hright : ((Json.read withoutSize).tree.unplaced, (Json.read withoutSize).after.isSome) =
      ((networkTree [id, nullMember "ami", vpcMember [other]]).unplaced, false) := rfl
  obtain ⟨hleft, hafter⟩ := Prod.mk.inj hleft
  obtain ⟨hright, hafter'⟩ := Prod.mk.inj hright
  have hroot := @trims_null ⟨"root", .record ⟨some "vpc", "RootState"⟩, .optional⟩ (by decide) id
    (vpcMember [nullMember "size"]) (by decide) (by decide)
  have hami := @trims_null ⟨"ami", .text, .lenient⟩ (by decide) id (vpcMember [other]) (by decide) (by decide)
  have hsize := @trims_vpc id (nullMember "size") (@Trims.nullField _ _ _ _ [] [] _ _
    ⟨"size", .real, .lenient⟩ (by decide) rfl rfl (by simp))
  -- The nested record has no field `id`, although the record of its name in the other file has one.
  have hother := @trims_vpc id other (@Trims.unknownMember _ _ _ _ [] [] _ _ "id" rfl (by decide) rfl)
  have hcommon := (Alike.of_unplaced hleft).trans _ _ _ (hroot.alike.trans _ _ _ hsize.alike)
  have hcommon' := (Alike.of_unplaced hright).trans _ _ _ (hami.alike.trans _ _ _ hother.alike)
  exact ⟨hcommon.trans _ _ _ hcommon'.symm, hafter.trans hafter'.symm⟩

end

theorem decode_alike_network : ∃ b,
    Graph.ofBlock network.block = .ok networkGraph ∧ network.bindings .standard networkGraph = .ok b ∧
    (network.program .standard b).states? = some networkRecords ∧ networkRecords.Closed ∧
    TextsAlike networkRecords (.record "VpcState") withNulls withoutSize ∧
    decode networkRecords "VpcState" withNulls =
      .ok (.record [.text "", .text "i-0", .absent, .list [.record [.real (.zero false)]]]) := by
  obtain ⟨b, hb⟩ := exists_of_toBool (x := network.bindings .standard networkGraph) (by decide +kernel)
  obtain ⟨env, hstates, -, -, hclosed, hsame⟩ := decode_alike (by decide) hb
  have hrecords : (network.bindings .standard networkGraph).toOption.bind
      (fun b => (network.program .standard b).states?) = some networkRecords := by decide +kernel
  rw [hb] at hrecords
  obtain rfl : env = networkRecords := Option.some.inj (hstates.symm.trans hrecords)
  have hdecoded : decode networkRecords "VpcState" withoutSize =
      .ok (.record [.text "", .text "i-0", .absent, .list [.record [.real (.zero false)]]]) := rfl
  exact ⟨b, rfl, hb, hstates, hclosed, textsAlike_network,
    (hsame "VpcState" withNulls withoutSize textsAlike_network _).mpr hdecoded⟩

end State

end ProviderBindings
