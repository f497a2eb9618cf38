import ProviderBindings.Proofs.Bindings.Closed
import ProviderBindings.Proofs.Graph.Promotion

/-!
When an entity has no bindings: two members of one shape have one identifier. Nothing else goes wrong once
the graph of a block has unique names, since every leaf has a type and no two nodes share a record.
-/

namespace ProviderBindings

open Code (Ty Item)
open Naming (RecordTriad)

/-! ### Types of members -/

theorem ValueType.exists_projections {v : ValueType} (h : v.embedsObject = false) :
    (∃ t, v.argumentType = .ok t) ∧ (∃ t, v.stateType = .ok t) ∧ ∃ t, v.referenceType = .ok t := by
  induction v using inner.induct with
  | case1 element ih | case2 element ih | case3 element ih =>
      obtain ⟨⟨a, ha⟩, ⟨s, hs⟩, ⟨r, hr⟩⟩ := ih h
      exact ⟨⟨_, map_eq_ok_iff.mpr ⟨a, ha, rfl⟩⟩, ⟨_, map_eq_ok_iff.mpr ⟨s, hs, rfl⟩⟩,
        ⟨_, map_eq_ok_iff.mpr ⟨r, hr, rfl⟩⟩⟩
  | case4 v hlist hset hmap =>
      cases v with
      | bool | string | number => exact ⟨⟨_, rfl⟩, ⟨_, rfl⟩, ⟨_, rfl⟩⟩
      | list element => exact absurd rfl (hlist element)
      | set element => exact absurd rfl (hset element)
      | map element => exact absurd rfl (hmap element)
      | object fields optional => cases h

def Member.Plain : Member → Prop
  | .leaf l => l.type.embedsObject = false
  | .child _ => True

theorem Member.Plain.exists_typeIn {m : Member} (h : m.Plain) (qualifier : Option String)
    (role : RecordRole) : ∃ t, m.typeIn qualifier role = .ok t := by
  cases m with
  | child n => cases role <;> exact ⟨_, rfl⟩
  | leaf l =>
      obtain ⟨⟨a, ha⟩, hstate, hreference⟩ := l.type.exists_projections h
      cases role with
      | args => exact ⟨_, map_eq_ok_iff.mpr ⟨a, ha, rfl⟩⟩
      | attributes => exact hreference
      | state => exact hstate

theorem Graph.Promoted.plain_root {g : Graph} (h : g.Promoted) : ∀ m ∈ (Shape.ofRoot g).members, m.Plain :=
  List.forall_mem_append.mpr ⟨by simpa [Shape.ofRoot, Member.Plain] using h.leaves, by simp [Member.Plain]⟩

theorem Node.Promoted.plain_members {n : Node} (h : n.Promoted) (g : Graph) :
    ∀ m ∈ (Shape.ofNode g n).members, m.Plain :=
  List.forall_mem_append.mpr ⟨by simpa [Shape.ofNode, Member.Plain] using h.leaves, by simp [Member.Plain]⟩

/-! ### Slots -/

def Clash (members : List Member) (a b : Member) : Prop :=
  [a, b].Sublist members ∧ a.identifier = b.identifier

def ReportsClash (record : String) (members : List Member) (x : BindingError) : Prop :=
  ∃ a b, Clash members a b ∧ x = .duplicateMember record a.identifier a.name b.name

theorem not_clash_of_nodup {members : List Member} (h : (members.map Member.identifier).Nodup)
    (a b : Member) : ¬ Clash members a b := by
  rintro ⟨hab, he⟩
  exact List.pairwise_iff_forall_sublist.mp (List.pairwise_map.mp h) hab he

def claims (members : List Member) : List (String × String) :=
  (members.map fun m => (m.identifier, m.name)).reverse

theorem claims_concat (members : List Member) (m : Member) :
    claims (members ++ [m]) = (m.identifier, m.name) :: claims members := by
  simp [claims]

theorem mem_claims {members : List Member} {p : String × String} :
    p ∈ claims members ↔ ∃ m ∈ members, (m.identifier, m.name) = p := by
  simp [claims]

namespace Shape

variable {s : Shape} {record : String} {typeOf : Member → Except MappingError Ty}

-- `before` grows along the members, and as long as nothing is refused its identifiers are distinct.
theorem slotsAfter_failsWith {members : List Member} :
    ∀ {before : List Member}, (∀ m ∈ members, ∃ t, typeOf m = .ok t) →
      (before.map Member.identifier).Nodup →
      FailsWith (s.slotsAfter record typeOf (claims before) members)
        (ReportsClash record (before ++ members)) := by
  induction members with
  | nil =>
      intro before _ hb
      refine .ok ?_
      rintro x ⟨a, b, hclash, _⟩
      rw [List.append_nil] at hclash
      exact not_clash_of_nodup hb a b hclash
  | cons m rest ih =>
      intro before hty hb
      obtain ⟨⟨t, ht⟩, hrest⟩ := List.forall_mem_cons.mp hty
      simp only [slotsAfter]
      cases hlookup : (claims before).lookup m.identifier with
      | some first =>
          obtain ⟨l, l', hsplit, _⟩ := List.lookup_eq_some_iff.mp hlookup
          obtain ⟨a, ha, hname⟩ := mem_claims.mp (by simp [hsplit] : (m.identifier, first) ∈ claims before)
          obtain ⟨hid, rfl⟩ := Prod.mk.inj hname
          have hsub : [a, m].Sublist (before ++ m :: rest) :=
            (List.singleton_sublist.mpr ha).append (List.singleton_sublist.mpr List.mem_cons_self)
          exact .error ⟨a, m, ⟨hsub, hid⟩, by rw [hid]⟩
      | none =>
          have hfree : ∀ a ∈ before, a.identifier ≠ m.identifier := by
            intro a ha he
            have hne := List.lookup_eq_none_iff.mp hlookup _ (mem_claims.mpr ⟨a, ha, rfl⟩)
            simp [he] at hne
          have hnodup : ((before ++ [m]).map Member.identifier).Nodup := by
            rw [List.map_append]
            refine List.nodup_append.mpr ⟨hb, by simp, ?_⟩
            simpa using hfree
          have hothers := ih hrest hnodup
          rw [claims_concat, List.append_assoc, List.singleton_append] at hothers
          simp only [ht]
          exact hothers.map

theorem slots_failsWith {members : List Member} (h : ∀ m ∈ members, ∃ t, typeOf m = .ok t) :
    FailsWith (s.slots record typeOf members) (ReportsClash record members) :=
  @slotsAfter_failsWith s record typeOf members [] h .nil

def membersIn (s : Shape) : RecordRole → List Member
  | .args => s.arguments
  | .attributes => s.members
  | .state => s.members

theorem membersIn_sublist (s : Shape) (role : RecordRole) : (s.membersIn role).Sublist s.members := by
  cases role with
  | args => exact List.filter_sublist
  | attributes | state => exact List.Sublist.refl _

end Shape

/-! ### Records -/

namespace Entity

variable {e : Entity} {g : Graph}

theorem recordItems_failsWith {s : Shape} (h : ∀ m ∈ s.members, m.Plain) (qualifier : Option String)
    (t : RecordTriad) (argsDoc attributesDoc stateDoc : String) :
    FailsWith (e.recordItems s qualifier t argsDoc attributesDoc stateDoc) fun x =>
      ∃ role ∈ e.roles, ReportsClash (t.get role) (s.membersIn role) x := by
  have hslots (role : RecordRole) :
      FailsWith (s.slots (t.get role) (Member.typeIn qualifier role) (s.membersIn role))
        (ReportsClash (t.get role) (s.membersIn role)) :=
    Shape.slots_failsWith fun m hm =>
      (h m ((s.membersIn_sublist role).subset hm)).exists_typeIn qualifier role
  have hargs : FailsWith (s.argumentRecord qualifier t.args [argsDoc]) _ :=
    (hslots .args).bind_of_ok fun _ => ⟨_, rfl⟩
  have hattributes : FailsWith (s.attributeItems qualifier t.attributes [attributesDoc]) _ :=
    (hslots .attributes).bind_of_ok fun _ => ⟨_, rfl⟩
  have hstate : FailsWith (s.stateRecord qualifier t.state [stateDoc]) _ :=
    (hslots .state).bind_of_ok fun _ => ⟨_, rfl⟩
  rw [recordItems, roles]
  cases e.isConfigurationOnly with
  | true => exact (hargs.bind_of_ok fun _ => ⟨_, rfl⟩).congr fun x => by simp
  | false =>
      have hrest := hargs.bind fun args _ => hattributes.bind fun attributes _ =>
        hstate.bind_of_ok fun state => ⟨.struct args :: attributes ++ [.struct state], rfl⟩
      exact hrest.congr fun x => by simp

theorem nestedItems_failsWith {nodes : List Node}
    (hplain : ∀ n ∈ nodes, ∀ m ∈ (Shape.ofNode g n).members, m.Plain)
    (hp : nodes.Pairwise fun a b => ∀ name ∈ e.recordNames a, name ∉ e.recordNames b) :
    ∀ {taken : List String}, (∀ n ∈ nodes, ∀ name ∈ e.recordNames n, name ∉ taken) →
      FailsWith (e.nestedItems g taken nodes) fun x =>
        ∃ n ∈ nodes, ∃ role ∈ e.roles,
          ReportsClash (n.triad.get role) ((Shape.ofNode g n).membersIn role) x := by
  induction nodes with
  | nil => exact fun _ => .ok (by simp)
  | cons n rest ih =>
      intro taken htaken
      obtain ⟨hn, hrest⟩ := List.forall_mem_cons.mp hplain
      obtain ⟨hnew, hp⟩ := List.pairwise_cons.mp hp
      obtain ⟨hfree, hothers⟩ := List.forall_mem_cons.mp htaken
      have hnone : (e.recordNames n).find? taken.contains = none := by
        simpa [List.find?_eq_none] using hfree
      have hbelow := @ih hrest hp (e.recordNames n ++ taken) fun m hm name hname => by
        simpa using ⟨fun hn => hnew m hm name hn hname, hothers m hm name hname⟩
      simp only [nestedItems, hnone]
      refine ((recordItems_failsWith hn none n.triad _ _ _).bind fun _ _ =>
        hbelow.bind_of_ok fun _ => ⟨_, rfl⟩).congr fun x => ?_
      simp

def shapes (e : Entity) (g : Graph) : List (Shape × RecordTriad) :=
  (Shape.ofRoot g, e.triad) :: g.nodes.map fun n => (Shape.ofNode g n, n.triad)

theorem exists_shape_iff {P : Shape × RecordTriad → Prop} :
    (∃ p ∈ e.shapes g, P p) ↔
      P (Shape.ofRoot g, e.triad) ∨ ∃ n ∈ g.nodes, P (Shape.ofNode g n, n.triad) := by
  constructor
  · rintro ⟨p, hp, h⟩
    rcases List.mem_cons.mp hp with rfl | hp
    · exact .inl h
    · obtain ⟨n, hn, rfl⟩ := List.mem_map.mp hp
      exact .inr ⟨n, hn, h⟩
  · rintro (h | ⟨n, hn, h⟩)
    · exact ⟨_, List.mem_cons_self, h⟩
    · exact ⟨_, List.mem_cons_of_mem _ (List.mem_map_of_mem hn), h⟩

def boundMembers (e : Entity) (s : Shape) : List Member :=
  if e.isConfigurationOnly then s.arguments else s.members

theorem bindings_failsWith (hg : g.Promoted)
    (hp : g.nodes.Pairwise fun a b => ∀ name ∈ e.recordNames a, name ∉ e.recordNames b)
    (mount : ModulePath) :
    FailsWith (e.bindings mount g) fun x =>
      ∃ p ∈ e.shapes g, ∃ role ∈ e.roles, ReportsClash (p.2.get role) (p.1.membersIn role) x := by
  have hroot : FailsWith (e.entityFile mount g) _ :=
    (recordItems_failsWith hg.plain_root (some e.names.nested) e.triad _ _ _).bind_of_ok fun _ => ⟨_, rfl⟩
  have hnodes : FailsWith (e.nestedItems g [] g.nodes) _ :=
    nestedItems_failsWith (fun n hn => (hg.nodes n hn).plain_members g) hp (by simp)
  rw [bindings]
  split
  · rename_i hempty
    have hnone : g.nodes = [] := List.isEmpty_iff.mp hempty
    refine FailsWith.congr (hroot.bind_of_ok fun file => ⟨⟨file, none⟩, rfl⟩) fun x => ?_
    rw [exists_shape_iff, hnone]
    simp
  · have hnested : FailsWith ((e.nestedFile g).map some) _ := hnodes.map.map
    refine FailsWith.congr
      (hnested.bind fun nested _ => hroot.bind_of_ok fun file => ⟨⟨file, nested⟩, rfl⟩) fun x => ?_
    rw [exists_shape_iff, or_comm]

theorem recordNames_disjoint (e : Entity) {g₀ : Graph} (hd : g₀.disambiguated = .ok g) :
    g.nodes.Pairwise fun a b => ∀ name ∈ e.recordNames a, name ∉ e.recordNames b := by
  obtain ⟨hnone, rfl⟩ := Graph.disambiguated_eq_ok_iff.mp hd
  obtain ⟨last, _, ⟨hcollisions, hs⟩ | ⟨_, c, _, hs⟩⟩ :=
    @Disambiguation.settle_induction (g₀.nodes.map Node.unqualified) (fun _ => True)
      (fun _ _ _ _ => trivial) trivial
  · have hsub : ∀ n : Node, e.recordNames n ⊆ n.records := by
      intro n
      rw [recordNames]
      split
      · simp [Node.triad, Node.records, RecordTriad.toList]
      · exact List.Subset.refl _
    rw [hs]
    refine (Disambiguation.records_disjoint hcollisions).imp fun {a b} hab name ha hb => ?_
    exact hab name (hsub a ha) (hsub b hb)
  · rw [hs] at hnone
    cases hnone

theorem clash_boundMembers_iff {s : Shape} {a b : Member} :
    Clash (e.boundMembers s) a b ↔ ∃ role ∈ e.roles, Clash (s.membersIn role) a b := by
  have hargs (h : Clash s.arguments a b) : Clash s.members a b := ⟨h.1.trans List.filter_sublist, h.2⟩
  rw [roles, boundMembers]
  cases e.isConfigurationOnly with
  | true => simp [Shape.membersIn]
  | false => simpa [Shape.membersIn] using hargs

theorem bindings_fails_iff {mount : ModulePath} {g₀ : Graph} (hb : Graph.ofBlock e.block = .ok g₀)
    (hd : g₀.disambiguated = .ok g) :
    ((∃ x, e.bindings mount g = .error x) ↔
      ∃ p ∈ e.shapes g, ∃ a b, Clash (e.boundMembers p.1) a b) ∧
    ∀ x, e.bindings mount g = .error x →
      ∃ p ∈ e.shapes g, ∃ a b, Clash (e.boundMembers p.1) a b ∧ ∃ role ∈ e.roles,
        x = .duplicateMember (p.2.get role) a.identifier a.name b.name := by
  have hg := (Graph.promoted_of_disambiguated hb hd).1
  have hfails := e.bindings_failsWith hg (e.recordNames_disjoint hd) mount
  have hreports : ∀ x, e.bindings mount g = .error x →
      ∃ p ∈ e.shapes g, ∃ a b, Clash (e.boundMembers p.1) a b ∧ ∃ role ∈ e.roles,
        x = .duplicateMember (p.2.get role) a.identifier a.name b.name := by
    intro x hx
    obtain ⟨p, hp, role, hrole, a, b, hclash, he⟩ := hfails.reports x hx
    exact ⟨p, hp, a, b, clash_boundMembers_iff.mpr ⟨role, hrole, hclash⟩, role, hrole, he⟩
  refine ⟨⟨fun ⟨x, hx⟩ => ?_, fun ⟨p, hp, a, b, hclash⟩ => ?_⟩, hreports⟩
  · obtain ⟨p, hp, a, b, hclash, _⟩ := hreports x hx
    exact ⟨p, hp, a, b, hclash⟩
  · obtain ⟨role, hrole, hclash⟩ := clash_boundMembers_iff.mp hclash
    exact hfails.fails _ ⟨p, hp, role, hrole, a, b, hclash, rfl⟩

/-- A resource with a block in which two attributes get the identifier `dest_port`. -/
def listener : Entity :=
  .ofResource ⟨"aws", "hashicorp/aws", "5.0.0"⟩ "aws_listener"
    ⟨[], [("rule",
      ⟨"list",
        ⟨[("destPort", ⟨some (.text "number"), none, none, true, false, false, false, false⟩),
          ("dest_port", ⟨some (.text "string"), none, none, false, true, false, false, false⟩)], [], none,
          false⟩, 0, 0⟩)], none, false⟩

def listenerRule : Node :=
  ⟨"rule", [], "rule", 0,
    [⟨"destPort", .number, true, true, .none⟩, ⟨"dest_port", .string, true, false, .none⟩], [],
    ⟨true, false, [.list], 0, 0, .none⟩⟩

def listenerGraph : Graph := ⟨[], [0], [listenerRule]⟩

theorem bindings_fails_listener :
    Graph.ofBlock listener.block = .ok listenerGraph ∧ listenerGraph.disambiguated = .ok listenerGraph ∧
      ∃ x, listener.bindings .standard listenerGraph = .error x := by
  have hb : Graph.ofBlock listener.block = .ok listenerGraph := rfl
  have hd : listenerGraph.disambiguated = .ok listenerGraph :=
    Graph.disambiguated_of_settled rfl (by decide +kernel)
  have hshape :
      (Shape.ofNode listenerGraph listenerRule, listenerRule.triad) ∈ listener.shapes listenerGraph :=
    List.mem_cons_of_mem _ List.mem_cons_self
  have hclash : Clash (listener.boundMembers (Shape.ofNode listenerGraph listenerRule))
      (.leaf ⟨"destPort", .number, true, true, .none⟩) (.leaf ⟨"dest_port", .string, true, false, .none⟩) :=
    ⟨List.Sublist.refl _, by decide +kernel⟩
  exact ⟨hb, hd, (listener.bindings_fails_iff hb hd).1.mpr ⟨_, hshape, _, _, hclash⟩⟩

end Entity

end ProviderBindings
