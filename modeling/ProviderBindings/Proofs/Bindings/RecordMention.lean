import ProviderBindings.Bindings
import ProviderBindings.Proofs.Code.Mention
import ProviderBindings.Proofs.Success

/-!
What the records of a shape mention. A record has one of three roles, and the records that it mentions are
those with the same role of the child shapes.
-/

namespace ProviderBindings

open Code (Ty Expr Item Mention StructDecl ImplDecl MethodDecl FieldDecl declared)

inductive RecordRole where
  | args
  | attributes
  | state
  deriving DecidableEq, Repr

def Naming.RecordTriad.get (t : Naming.RecordTriad) : RecordRole → String
  | .args => t.args
  | .attributes => t.attributes
  | .state => t.state

def Entity.roles (e : Entity) : List RecordRole :=
  if e.isConfigurationOnly then [.args] else [.args, .attributes, .state]

theorem Entity.recordNames_eq (e : Entity) (n : Node) : e.recordNames n = e.roles.map n.triad.get := by
  rw [recordNames, roles]
  split <;> rfl

theorem Entity.get_mem_recordNames {e : Entity} {role : RecordRole} (h : role ∈ e.roles) (n : Node) :
    n.triad.get role ∈ e.recordNames n := by
  rw [recordNames_eq]
  exact List.mem_map_of_mem h

/-! ### Types of members -/

@[simp] theorem mentions_vec (t : Ty) : (Ty.vec t).mentions = t.mentions := by rw [Ty.mentions]

@[simp] theorem mentions_map (t : Ty) : (Ty.map t).mentions = t.mentions := by rw [Ty.mentions]

@[simp] theorem mentions_option (t : Ty) : (Ty.option t).mentions = t.mentions := by rw [Ty.mentions]

@[simp] theorem mentions_named (qualifier : Option String) (name : String) :
    (Ty.named qualifier name).mentions = [(qualifier, name)] := by
  rw [Ty.mentions]

@[simp] theorem mentions_support_nil (item : SupportItem) : (Ty.support item []).mentions = [] := by
  simp [Ty.mentions, Ty.mentionsOf]

@[simp] theorem mentions_support_singleton (item : SupportItem) (t : Ty) :
    (Ty.support item [t]).mentions = t.mentions := by
  simp [Ty.mentions, Ty.mentionsOf]

theorem mentions_nestData (t : Ty) (path : List Nesting) : (nestData t path).mentions = t.mentions := by
  induction path with
  | nil => rfl
  | cons nesting rest ih => cases nesting <;> simp [nestData, ih]

theorem mentions_nestReference (t : Ty) (path : List Nesting) :
    (nestReference t path).mentions = t.mentions := by
  induction path with
  | nil => rfl
  | cons nesting rest ih => cases nesting <;> simp [nestReference, ih]

theorem mentions_dataType (n : Node) (t : Ty) : (n.dataType t).mentions = t.mentions := by
  rw [Node.dataType]
  split
  · simp
  · exact mentions_nestData t _

namespace ValueType

theorem mentions_argumentType {v : ValueType} {t : Ty} (h : v.argumentType = .ok t) :
    t.mentions = [] := by
  fun_induction argumentType v generalizing t with
  | case1 | case2 | case3 =>
      cases h
      simp
  | case4 element ih | case5 element ih | case6 element ih =>
      obtain ⟨u, hu, rfl⟩ := map_eq_ok_iff.mp h
      simp [ih hu]
  | case7 => cases h

theorem mentions_stateType {v : ValueType} {t : Ty} (h : v.stateType = .ok t) : t.mentions = [] := by
  fun_induction stateType v generalizing t with
  | case1 | case2 | case3 =>
      cases h
      simp [Ty.mentions]
  | case4 element ih | case5 element ih | case6 element ih =>
      obtain ⟨u, hu, rfl⟩ := map_eq_ok_iff.mp h
      simp [ih hu]
  | case7 => cases h

theorem mentions_referenceType {v : ValueType} {t : Ty} (h : v.referenceType = .ok t) :
    t.mentions = [] := by
  fun_induction referenceType v generalizing t with
  | case1 | case2 | case3 =>
      cases h
      simp
  | case4 element ih | case5 element ih | case6 element ih =>
      obtain ⟨u, hu, rfl⟩ := map_eq_ok_iff.mp h
      simp [ih hu]
  | case7 => cases h

end ValueType

namespace Member

def typeIn (qualifier : Option String) : RecordRole → Member → Except MappingError Ty
  | .args => argumentType qualifier
  | .attributes => referenceType qualifier
  | .state => stateType qualifier

def leadsTo (qualifier : Option String) (role : RecordRole) : Member → List Mention
  | .leaf _ => []
  | .child c => [(qualifier, c.triad.get role)]

theorem mentions_typeIn {qualifier : Option String} {role : RecordRole} {m : Member} {t : Ty}
    (h : m.typeIn qualifier role = .ok t) : t.mentions = m.leadsTo qualifier role := by
  cases m with
  | leaf l =>
      cases role with
      | args =>
          obtain ⟨u, hu, rfl⟩ := map_eq_ok_iff.mp h
          have hnone := ValueType.mentions_argumentType hu
          split <;> simp [hnone, leadsTo]
      | attributes => exact ValueType.mentions_referenceType h
      | state => exact ValueType.mentions_stateType h
  | child c =>
      cases role with
      | args =>
          cases h
          simp [mentions_dataType, leadsTo, Naming.RecordTriad.get]
      | attributes =>
          cases h
          simp [mentions_nestReference, leadsTo, Naming.RecordTriad.get]
      | state =>
          cases h
          simp [mentions_dataType, leadsTo, Naming.RecordTriad.get]

end Member

/-! ### Slots -/

namespace Shape

variable {s : Shape} {record : String} {typeOf : Member → Except MappingError Ty}

theorem slotsAfter_typed {members : List Member} :
    ∀ {earlier : List (String × String)} {slots : List Slot},
      s.slotsAfter record typeOf earlier members = .ok slots →
      ∀ slot ∈ slots, slot.member ∈ members ∧ typeOf slot.member = .ok slot.type := by
  induction members with
  | nil =>
      intro earlier slots h
      cases h
      simp
  | cons m rest ih =>
      intro earlier slots h slot hslot
      simp only [slotsAfter] at h
      split at h
      · cases h
      · split at h
        · cases h
        · rename_i type ht
          obtain ⟨others, ho, rfl⟩ := map_eq_ok_iff.mp h
          rcases List.mem_cons.mp hslot with rfl | hslot
          · exact ⟨by simp, ht⟩
          · obtain ⟨hm, hty⟩ := ih ho slot hslot
            exact ⟨List.mem_cons_of_mem _ hm, hty⟩

theorem mention_of_slots (role : RecordRole) {qualifier : Option String} {members : List Member}
    {slots : List Slot} (hsub : ∀ m ∈ members, m ∈ s.members)
    (h : s.slots record (Member.typeIn qualifier role) members = .ok slots) :
    ∀ slot ∈ slots, ∀ x ∈ slot.type.mentions, ∃ c ∈ s.children, x = (qualifier, c.triad.get role) := by
  intro slot hslot x hx
  obtain ⟨hm, ht⟩ := slotsAfter_typed h slot hslot
  rw [Member.mentions_typeIn ht] at hx
  have hmem := hsub _ hm
  cases hc : slot.member with
  | leaf l => simp [hc, Member.leadsTo] at hx
  | child c =>
      rw [hc] at hx hmem
      refine ⟨c, by simpa [Shape.members] using hmem, by simpa [Member.leadsTo] using hx⟩

/-! ### Items -/

structure Holds (s : Shape) (qualifier : Option String) (t : Naming.RecordTriad) (role : RecordRole)
    (item : Item) : Prop where
  owner : item.owner? = some (t.get role)
  children : ∀ x ∈ item.mentions, ∃ c ∈ s.children, x = (qualifier, c.triad.get role)

variable {qualifier : Option String} {t : Naming.RecordTriad} {docs : List String}

theorem holds_struct (role : RecordRole) {members : List Member} {slots : List Slot}
    (hsub : ∀ m ∈ members, m ∈ s.members)
    (h : s.slots record (Member.typeIn qualifier role) members = .ok slots) {field : Slot → FieldDecl}
    (htype : ∀ slot, (field slot).type = slot.type) {d : StructDecl} (hname : d.name = t.get role)
    (hfields : d.fields = slots.map field) : s.Holds qualifier t role (.struct d) := by
  refine ⟨congrArg some hname, fun x hx => ?_⟩
  simp only [Item.mentions, StructDecl.mentions, hfields, List.mem_flatMap, List.mem_map] at hx
  obtain ⟨_, ⟨slot, hslot, rfl⟩, hx⟩ := hx
  rw [htype] at hx
  exact mention_of_slots role hsub h slot hslot x hx

theorem holds_argumentRecord {d : StructDecl} (h : s.argumentRecord qualifier t.args docs = .ok d) :
    s.Holds qualifier t .args (.struct d) ∧ d.name = t.args := by
  obtain ⟨slots, hs, hd⟩ := bind_eq_ok_iff.mp h
  cases hd
  have hsub : ∀ m ∈ s.arguments, m ∈ s.members := fun m hm => (List.mem_filter.mp hm).1
  exact ⟨holds_struct .args hsub hs (fun _ => rfl) rfl rfl, rfl⟩

theorem mentions_accessor (slot : Slot) :
    slot.accessor.mentions = slot.type.mentions ++ slot.type.mentions := by
  have hvalue : (Expr.fromReference slot.type
      (.traverse (.selfField "reference") slot.member.step slot.member.name)).mentions =
        slot.type.mentions := by
    simp [Expr.mentions, Expr.selfField]
  rw [← congrArg (slot.type.mentions ++ ·) hvalue]
  exact Code.mentions_getter slot.identifier slot.type _

theorem holds_attributeItems {items : List Item}
    (h : s.attributeItems qualifier t.attributes docs = .ok items) :
    (∀ item ∈ items, s.Holds qualifier t .attributes item) ∧ declared items = [t.attributes] := by
  obtain ⟨slots, hs, hd⟩ := bind_eq_ok_iff.mp h
  have hmention := mention_of_slots .attributes (fun m hm => hm) hs
  have haccessors : s.Holds qualifier t .attributes
      (.impl ⟨t.attributes, none, slots.map Slot.accessor⟩) := by
    refine ⟨rfl, fun x hx => ?_⟩
    simp only [Item.mentions, ImplDecl.mentions, List.mem_flatMap, List.mem_map] at hx
    obtain ⟨_, ⟨slot, hslot, rfl⟩, hx⟩ := hx
    rw [mentions_accessor, List.mem_append, or_self] at hx
    exact hmention slot hslot x hx
  cases hd
  refine ⟨fun item hi => ?_, ?_⟩
  · simp only [List.cons_append, List.nil_append, List.mem_cons] at hi
    rcases hi with rfl | rfl | hi
    · exact ⟨rfl, by simp [Item.mentions, StructDecl.mentions]⟩
    · refine ⟨rfl, ?_⟩
      simp [Item.mentions, ImplDecl.mentions, MethodDecl.mentions, Code.Stmt.mentions, Ty.mentions,
        Ty.mentionsOf, Expr.mentions, Expr.mentionsOfFields]
    · split at hi
      · simp at hi
      · rw [List.mem_singleton.mp hi]
        exact haccessors
  · split <;> simp

theorem holds_stateRecord {d : StructDecl} (h : s.stateRecord qualifier t.state docs = .ok d) :
    s.Holds qualifier t .state (.struct d) ∧ d.name = t.state := by
  obtain ⟨slots, hs, hd⟩ := bind_eq_ok_iff.mp h
  cases hd
  exact ⟨holds_struct .state (fun m hm => hm) hs (fun _ => rfl) rfl rfl, rfl⟩

end Shape

theorem Entity.holds_recordItems {e : Entity} {s : Shape} {qualifier : Option String}
    {t : Naming.RecordTriad} {argsDoc attributesDoc stateDoc : String} {items : List Item}
    (h : e.recordItems s qualifier t argsDoc attributesDoc stateDoc = .ok items) :
    (∀ item ∈ items, ∃ role ∈ e.roles, s.Holds qualifier t role item) ∧
      declared items = e.roles.map t.get := by
  obtain ⟨args, ha, h⟩ := bind_eq_ok_iff.mp h
  obtain ⟨hargs, hargsName⟩ := Shape.holds_argumentRecord ha
  rw [roles]
  split at h
  · rename_i hc
    cases h
    rw [if_pos hc]
    refine ⟨fun item hi => ⟨.args, by simp, ?_⟩, by simp [hargsName, Naming.RecordTriad.get]⟩
    rw [List.mem_singleton.mp hi]
    exact hargs
  · rename_i hc
    obtain ⟨attributes, hb, h⟩ := bind_eq_ok_iff.mp h
    obtain ⟨state, hst, h⟩ := bind_eq_ok_iff.mp h
    cases h
    obtain ⟨hattributes, hattributesNames⟩ := Shape.holds_attributeItems hb
    obtain ⟨hstate, hstateName⟩ := Shape.holds_stateRecord hst
    rw [if_neg hc]
    refine ⟨fun item hi => ?_, ?_⟩
    · simp only [List.cons_append, List.mem_cons, List.mem_append, List.not_mem_nil, or_false] at hi
      rcases hi with rfl | hi | rfl
      · exact ⟨.args, by simp, hargs⟩
      · exact ⟨.attributes, by simp, hattributes item hi⟩
      · exact ⟨.state, by simp, hstate⟩
    · simp [hargsName, hattributesNames, hstateName, Naming.RecordTriad.get]

end ProviderBindings
