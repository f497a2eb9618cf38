import Mathlib.Data.List.Forall2
import ProviderBindings.Proofs.Bindings.AttributeRecord

/-!
Where accessors lead. Code that starts at an entity, calls the accessors of nested shapes, goes to an element
of each collection on the way and ends at a leaf, has the type of a reference to the leaf and gets the
reference that is written in the schema's own names.
-/

namespace ProviderBindings

open Code (Ty Expr Item File)

/-! ### Records that stand for references -/

theorem filter_eq_singleton {α : Type} {f : α → String} {l : List α} (h : (l.map f).Nodup) {x : α}
    (hx : x ∈ l) : l.filter (f · = f x) = [x] := by
  induction l with
  | nil => cases hx
  | cons y rest ih =>
      obtain ⟨hy, hrest⟩ := List.nodup_cons.mp h
      rcases List.mem_cons.mp hx with rfl | hx
      · have hnone : rest.filter (f · = f x) = [] := by
          refine List.filter_eq_nil_iff.mpr fun z hz he => hy ?_
          rw [← of_decide_eq_true he]
          exact List.mem_map_of_mem hz
        simp [hnone]
      · have hne : f y ≠ f x := fun he => hy (he ▸ List.mem_map_of_mem hx)
        simp [hne, ih hrest hx]

theorem Program.method?_eq_some {p : Program} {side : Side} {record : String} {trait : Option SupportItem}
    (h : ((Code.methodsOf (p.items side) record trait).map Code.MethodDecl.name).Nodup)
    {m : Code.MethodDecl} (hm : m ∈ Code.methodsOf (p.items side) record trait) :
    p.method? side record trait m.name = some m := by
  have hsole := filter_eq_singleton h hm
  unfold method?
  split
  · rename_i m' hfilter
    simpa [hsole] using hfilter.symm
  · rename_i hnot
    exact absurd hsole (hnot m)

theorem ValueType.isTypedReference_of_referenceType {v : ValueType} {t : Ty}
    (h : v.referenceType = .ok t) : t.isTypedReference = true := by
  cases v with
  | string | number | bool =>
      cases h
      rfl
  | list element | set element | map element =>
      obtain ⟨u, _, rfl⟩ := map_eq_ok_iff.mp h
      rfl
  | object fields optional => cases h

def attributeValue (side : Side) (name : String) (r : Reference) : Value :=
  .record side name [("reference", .reference r)]

namespace Shape.ServedBy

variable {p : Program} {s : Shape} {side home : Side} {seen qualifier : Option String} {name : String}
  (h : s.ServedBy (p.items home) qualifier name)

include h

theorem method_construction :
    p.method? home name (some .fromReference) "from_reference" = some Shape.construction := by
  simp [Program.method?, h.construction, Shape.construction]

theorem method_accessor {m : Member} (hm : m ∈ s.members) :
    ∃ t, m.referenceType qualifier = .ok t ∧
      p.method? home name none m.identifier = some (Slot.accessor ⟨m, t⟩) := by
  obtain ⟨slots, hs, hmethods⟩ := h.accessors
  have hmembers := member_of_slotsAfter hs
  rw [← hmembers] at hm
  obtain ⟨⟨m, t⟩, hslot, rfl⟩ := List.mem_map.mp hm
  obtain ⟨_, ht⟩ := slotsAfter_typed hs _ hslot
  refine ⟨t, ht, ?_⟩
  have hnodup : ((Code.methodsOf (p.items home) name none).map Code.MethodDecl.name).Nodup := by
    have hidentifiers := nodup_of_slots hs
    rw [← hmembers] at hidentifiers
    rw [hmethods]
    simpa [Function.comp_def, Slot.accessor, Code.getter, Slot.identifier] using hidentifiers
  have hmem : Slot.accessor ⟨m, t⟩ ∈ Code.methodsOf (p.items home) name none := by
    rw [hmethods]
    exact List.mem_map_of_mem hslot
  have hname : (Slot.accessor ⟨m, t⟩).name = m.identifier := rfl
  rw [← hname]
  exact Program.method?_eq_some hnodup hmem

theorem builds (hr : p.resolve? side seen = some home) : Builds p side (.named seen name) := by
  refine .record hr h.method_construction rfl rfl rfl rfl (.construct ?_ fun value f hvalue hf => ?_)
  · rw [h.fields]
    rfl
  · rw [h.fields, List.mem_singleton] at hf
    subst hf
    obtain ⟨_, rfl⟩ : _ ∧ value = .var "reference" := by simpa using hvalue
    exact .var rfl

theorem fromReference_eq (hr : p.resolve? side seen = some home) (depth : Nat) (r : Reference) :
    (p.calls (depth + 1)).fromReference side (.named seen name) r = some (attributeValue home name r) := by
  simp [Program.calls, Program.fromReference?, hr, h.method_construction, Shape.construction,
    Value.ofBody?, Value.ofExpr?, Value.ofFields?, attributeValue]

theorem moves_accessor {m : Member} (hm : m ∈ s.members) (hr : p.resolve? side seen = some home) {t : Ty}
    (ht : m.referenceType qualifier = .ok t) (hb : Builds p home t) :
    p.Moves (.accessor m.identifier) (side, .named seen name) (home, t) := by
  obtain ⟨u, hu, hmethod⟩ := h.method_accessor hm
  obtain rfl : t = u := by simpa [ht] using hu
  have hfield : Shape.referenceField ∈ Code.fieldsOf (p.items home) name := by simp [h.fields]
  have hself : HasType p ⟨home, name, true, []⟩ (.selfField "reference") .reference :=
    .field (f := Shape.referenceField) (.self rfl) hfield
  exact .accessor hr hmethod rfl rfl rfl rfl (.fromReference (.traverse hself) hb)

theorem move_accessor {m : Member} (hm : m ∈ s.members) {t : Ty} (ht : m.referenceType qualifier = .ok t)
    (depth : Nat) (r : Reference) :
    p.move? depth (.accessor m.identifier) (attributeValue home name r) =
      (p.calls depth).fromReference home t (r.step (m.step.toStep m.name)) := by
  obtain ⟨u, hu, hmethod⟩ := h.method_accessor hm
  obtain rfl : t = u := by simpa [ht] using hu
  simp [Program.move?, attributeValue, hmethod, Slot.accessor, Code.getter, Value.ofBody?, Value.ofExpr?,
    Expr.selfField, Value.field?, Value.reference?]

end Shape.ServedBy

/-! ### Elements of collections -/

inductive Nesting.Allows : Nesting → Choice → Prop
  | index (position : Nat) : Allows .list (.index position)
  | splatList : Allows .list .splat
  | splatSet : Allows .set .splat
  | key (k : String) : Allows .map (.key k)

theorem Nesting.exists_allowed {path : List Nesting} (h : .single ∉ path) :
    ∃ choices, List.Forall₂ Nesting.Allows path choices := by
  induction path with
  | nil => exact ⟨[], .nil⟩
  | cons nesting rest ih =>
      simp only [List.mem_cons, not_or] at h
      obtain ⟨choices, hc⟩ := ih h.2
      cases nesting with
      | single => exact absurd rfl h.1
      | list => exact ⟨_, .cons (.index 0) hc⟩
      | set => exact ⟨_, .cons .splatSet hc⟩
      | map => exact ⟨_, .cons (.key "") hc⟩

theorem Program.fromReference_typed (p : Program) (depth : Nat) (side : Side) {t : Ty}
    (h : t.isTypedReference = true) (r : Reference) :
    (p.calls (depth + 1)).fromReference side t r = some (.typed side ⟨t, r⟩) := by
  cases t with
  | named => cases h
  | _ => simp [calls, fromReference?, h]

section

variable {p : Program} {side : Side} {item : Ty}

theorem builds_nestReference (h : Builds p side item) (path : List Nesting) :
    Builds p side (nestReference item path) := by
  induction path with
  | nil => exact h
  | cons nesting rest ih =>
      cases nesting with
      | single => exact ih
      | list | set | map => exact .typed rfl

theorem follows_choices (h : Builds p side item) {path : List Nesting} {choices : List Choice}
    (hc : List.Forall₂ Nesting.Allows path choices) :
    p.Follows (choices.map .choose) (side, nestReference item path) (side, item) := by
  induction hc with
  | nil => rfl
  | @cons nesting c path choices hallow _ ih =>
      have hb := builds_nestReference h path
      cases hallow with
      | index position => exact ⟨_, .index hb, ih⟩
      | splatList => exact ⟨_, .splatList hb, ih⟩
      | splatSet => exact ⟨_, .splatSet hb, ih⟩
      | key k => exact ⟨_, .key hb, ih⟩

theorem run_choices (depth : Nat) {path : List Nesting} {choices : List Choice}
    (hc : List.Forall₂ Nesting.Allows path choices) (r : Reference) :
    ((p.calls (depth + 1)).fromReference side (nestReference item path) r).bind
        (p.run? (depth + 1) (choices.map .choose)) =
      (p.calls (depth + 1)).fromReference side item ⟨r.root, r.steps ++ choices.map Choice.step⟩ := by
  induction hc generalizing r with
  | nil => simp [Program.run?, nestReference]
  | @cons nesting c path choices hallow _ ih =>
      have hmove : ((p.calls (depth + 1)).fromReference side (nestReference item (nesting :: path)) r).bind
          (p.move? (depth + 1) (.choose c)) =
            (p.calls (depth + 1)).fromReference side (nestReference item path) (r.step c.step) := by
        cases hallow <;> rw [nestReference, p.fromReference_typed depth side rfl r] <;> rfl
      have hnext := ih (r.step c.step)
      rw [← hmove] at hnext
      simpa [Program.run?, Option.bind_assoc, Reference.step] using hnext

end

/-! ### Routes -/

abbrev Visit := Node × List Choice

def Visit.moves (v : Visit) : List Move := .accessor (Naming.memberName v.1.name) :: v.2.map .choose

def Visit.steps (v : Visit) : List Reference.Step := .block v.1.name :: v.2.map Choice.step

def Graph.Admits (g : Graph) : List Node → List Visit → Prop
  | _, [] => True
  | starts, (n, choices) :: rest =>
      n ∈ starts ∧ List.Forall₂ Nesting.Allows n.traits.nesting choices ∧
        Admits g (g.childrenOf n) rest

def Graph.shapeAt (g : Graph) (s : Shape) : List Visit → Shape
  | [] => s
  | (n, _) :: rest => shapeAt g (Shape.ofNode g n) rest

inductive Stands (p : Program) (s : Shape) : Side × Ty → (Reference → Value) → Prop
  | intro {side home : Side} {seen qualifier : Option String} {name : String}
      (hr : p.resolve? side seen = some home) (hs : s.ServedBy (p.items home) qualifier name)
      (hc : s.children ≠ [] → p.resolve? home qualifier = some .nested) :
      Stands p s (side, .named seen name) (attributeValue home name)

section

variable {p : Program} {g : Graph} {s : Shape} {position : Side × Ty} {value : Reference → Value}

theorem Stands.visit (h : Stands p s position value) {n : Node} {choices : List Choice}
    (hserved : (Shape.ofNode g n).ServedBy (p.items .nested) none n.triad.attributes) (hn : n ∈ s.children)
    (hc : List.Forall₂ Nesting.Allows n.traits.nesting choices) :
    ∃ position' value', p.Follows (Visit.moves (n, choices)) position position' ∧
      (∀ depth r, p.run? (depth + 1) (Visit.moves (n, choices)) (value r) =
        some (value' ⟨r.root, r.steps ++ Visit.steps (n, choices)⟩)) ∧
      Stands p (Shape.ofNode g n) position' value' := by
  obtain @⟨side, home, seen, qualifier, name, hr, hs, hqualifier⟩ := h
  have hnested : p.resolve? home qualifier = some .nested := hqualifier (List.ne_nil_of_mem hn)
  have hm : Member.child n ∈ s.members := List.mem_append_right _ (List.mem_map_of_mem hn)
  have hbuilds : Builds p home (.named qualifier n.triad.attributes) := hserved.builds hnested
  have hmove := hs.moves_accessor hm hr rfl (builds_nestReference hbuilds n.traits.nesting)
  have hfollows : p.Follows (Visit.moves (n, choices)) (side, .named seen name)
      (home, .named qualifier n.triad.attributes) := ⟨_, hmove, follows_choices hbuilds hc⟩
  refine ⟨_, _, hfollows, fun depth r => ?_, .intro hnested hserved fun _ => rfl⟩
  -- The accessor gives the collections around the record, and the choices take them off one by one.
  have haccessor := hs.move_accessor hm rfl (depth + 1) r
  have hchoices := @run_choices p home (.named qualifier n.triad.attributes) depth _ _ hc
    (r.step (.block n.name))
  have hrecord := hserved.fromReference_eq hnested depth ⟨r.root, r.steps ++ Visit.steps (n, choices)⟩
  calc p.run? (depth + 1) (Visit.moves (n, choices)) (attributeValue home name r)
    _ = ((p.calls (depth + 1)).fromReference home
          (nestReference (.named qualifier n.triad.attributes) n.traits.nesting)
          (r.step (.block n.name))).bind (p.run? (depth + 1) (choices.map .choose)) :=
        congrArg (·.bind (p.run? (depth + 1) (choices.map .choose))) haccessor
    _ = (p.calls (depth + 1)).fromReference home (.named qualifier n.triad.attributes)
          ⟨r.root, r.steps ++ Visit.steps (n, choices)⟩ := by
        rw [hchoices]
        simp [Reference.step, Visit.steps]
    _ = some (attributeValue .nested n.triad.attributes ⟨r.root, r.steps ++ Visit.steps (n, choices)⟩) :=
        hrecord

theorem Stands.route (hserved : ∀ n ∈ g.nodes,
      (Shape.ofNode g n).ServedBy (p.items .nested) none n.triad.attributes) {route : List Visit} :
    ∀ {s : Shape} {position : Side × Ty} {value : Reference → Value}, Stands p s position value →
      (∀ n ∈ s.children, n ∈ g.nodes) → g.Admits s.children route →
      ∃ position' value', p.Follows (route.flatMap Visit.moves) position position' ∧
        (∀ depth r, p.run? (depth + 1) (route.flatMap Visit.moves) (value r) =
          some (value' ⟨r.root, r.steps ++ route.flatMap Visit.steps⟩)) ∧
        Stands p (g.shapeAt s route) position' value' := by
  induction route with
  | nil =>
      intro s position value h _ _
      exact ⟨position, value, rfl, fun _ r => by simp [Program.run?], h⟩
  | cons visit rest ih =>
      intro s position value h hnodes hroute
      obtain ⟨n, choices⟩ := visit
      obtain ⟨hn, hc, hrest⟩ := hroute
      obtain ⟨middle, _, hfollows, hrun, hstands⟩ := h.visit (hserved n (hnodes n hn)) hn hc
      obtain ⟨last, value', hfollows', hrun', hstands'⟩ :=
        ih hstands (fun c hc => Graph.mem_of_mem_nodesAt hc) hrest
      refine ⟨last, value', hfollows.append hfollows', fun depth r => ?_, hstands'⟩
      rw [List.flatMap_cons, Program.run?_append, hrun, Option.bind_some, hrun', List.flatMap_cons,
        List.append_assoc]

theorem Stands.leaf (h : Stands p s position value) {l : Leaf} (hl : l ∈ s.leaves) :
    ∃ side t, l.type.referenceType = .ok t ∧
      p.Follows [.accessor (Naming.memberName l.name)] position (side, t) ∧
      ∀ depth r, p.run? (depth + 1) [.accessor (Naming.memberName l.name)] (value r) =
        some (.typed side ⟨t, r.step (.attribute l.name)⟩) := by
  obtain @⟨side, home, seen, qualifier, name, hr, hs, _⟩ := h
  have hm : Member.leaf l ∈ s.members := List.mem_append_left _ (List.mem_map_of_mem hl)
  obtain ⟨t, ht, _⟩ := hs.method_accessor hm
  have htyped := ValueType.isTypedReference_of_referenceType ht
  have hmove := hs.moves_accessor hm hr ht (.typed htyped)
  refine ⟨home, t, ht, ⟨_, hmove, rfl⟩, fun depth r => ?_⟩
  have haccessor := hs.move_accessor hm ht (depth + 1) r
  rw [p.fromReference_typed depth home htyped] at haccessor
  exact congrArg (·.bind some) haccessor

end

namespace Graph

variable {g : Graph}

theorem PreOrderForest.path_shapeAt (hf : g.PreOrderForest) {route : List Visit} :
    ∀ {s : Shape}, (∀ n ∈ s.children, n ∈ g.nodes ∧ n.ancestors = s.path) → g.Admits s.children route →
      (g.shapeAt s route).path = s.path ++ route.map (·.1.name) := by
  induction route with
  | nil => exact fun _ _ => by simp [shapeAt]
  | cons visit rest ih =>
      intro s hs hroute
      obtain ⟨n, choices⟩ := visit
      obtain ⟨hn, _, hrest⟩ := hroute
      obtain ⟨hnode, hancestors⟩ := hs n hn
      have hbelow := @ih (Shape.ofNode g n)
        (fun c hc => ⟨mem_of_mem_nodesAt hc, hf.childAncestors n hnode c hc⟩) hrest
      rw [shapeAt, hbelow, List.map_cons, Shape.ofNode, Node.path, hancestors]
      simp

theorem exists_admitted (hg : g.Promoted) {i k : Nat} (h : Reaches g.nodes i k) :
    ∀ {positions : List Nat}, i ∈ positions → ∀ {n : Node}, g.nodes[k]? = some n → ∀ s : Shape,
      ∃ route, g.Admits (g.nodesAt positions) route ∧ g.shapeAt s route = Shape.ofNode g n := by
  induction h with
  | @self i m hm =>
      intro positions hi n hn s
      obtain rfl : m = n := by simpa [hm] using hn
      obtain ⟨choices, hc⟩ := Nesting.exists_allowed (hg.nodes m (List.mem_of_getElem? hm)).nesting
      exact ⟨[(m, choices)], ⟨List.mem_filterMap.mpr ⟨i, hi, hm⟩, hc, trivial⟩, rfl⟩
  | @descend i j k m hm hj _ ih =>
      intro positions hi n hn s
      obtain ⟨choices, hc⟩ := Nesting.exists_allowed (hg.nodes m (List.mem_of_getElem? hm)).nesting
      obtain ⟨route, hroute, hend⟩ := ih hj hn (Shape.ofNode g m)
      exact ⟨(m, choices) :: route, ⟨List.mem_filterMap.mpr ⟨i, hi, hm⟩, hc, hroute⟩, hend⟩

end Graph

/-! ### From an entity to its attributes -/

namespace Entity

def root (e : Entity) (localName : String) : Reference.Root :=
  match e.kind with
  | .dataSource => .dataSource e.typeName localName
  | _ => .resource e.typeName localName

def rootFunction (e : Entity) : String :=
  match e.kind with
  | .dataSource => "data_source"
  | _ => "resource"

def referenceMethod (e : Entity) : Code.MethodDecl :=
  Code.getter "reference" .reference
    (.call .reference (some e.rootFunction) [.str e.typeName, .borrow (.selfField "name")])

theorem rootFunction_cases (e : Entity) : e.rootFunction = "resource" ∨ e.rootFunction = "data_source" := by
  unfold rootFunction
  split <;> simp

theorem root?_rootFunction (e : Entity) (localName : String) :
    Value.root? e.rootFunction [.text e.typeName, .text localName] =
      some (.reference ⟨e.root localName, []⟩) := by
  unfold rootFunction root
  split <;> rfl

theorem primary_methods {e : Entity} (hk : e.kind ≠ .provider) :
    (Code.methodsOf e.primaryItems e.names.record none).filter (·.name = "attributes") =
        [Primary.attributesMethod e] ∧
      Code.methodsOf e.primaryItems e.names.record (some .referencable) = [e.referenceMethod] ∧
      Primary.localNameField ∈ Code.fieldsOf e.primaryItems e.names.record := by
  simp only [primaryItems, referenceMethod, rootFunction]
  cases hkind : e.kind with
  | provider => exact absurd hkind hk
  | resource =>
      simp [Code.methodsOf, Code.fieldsOf, Primary.resourceItems, Primary.implementation, Primary.record,
        Primary.referencable, Primary.supportType, Primary.namedConstructor, Primary.attributesMethod,
        Primary.documented, Primary.stateMethods, Code.getter, Ty.reference]
  | dataSource =>
      simp [Code.methodsOf, Code.fieldsOf, Primary.dataSourceItems, Primary.implementation, Primary.record,
        Primary.referencable, Primary.supportType, Primary.namedConstructor, Primary.attributesMethod,
        Primary.documented, Code.getter, Ty.reference]

section

variable {e : Entity} {g : Graph} {mount : ModulePath} {b : Bindings}

theorem resolve?_nested (h : e.bindings mount g = .ok b) (hn : g.nodes ≠ []) :
    (e.program mount b).resolve? .own (some e.names.nested) = some .nested := by
  obtain ⟨_, _, hfile⟩ := bindings_spec h
  obtain ⟨_, _, _, _, _, _, huses⟩ := entityFile_spec hfile
  rw [if_neg hn] at huses
  simp [Program.resolve?, Program.uses, Program.file?, program, huses, nestedModule, ModulePath.join]

theorem servedBy_program (hk : e.kind ≠ .provider) (h : e.bindings mount g = .ok b) :
    (Shape.ofRoot g).ServedBy ((e.program mount b).items .own) (some e.names.nested) e.names.attributes ∧
      ∀ n ∈ g.nodes,
        (Shape.ofNode g n).ServedBy ((e.program mount b).items .nested) none n.triad.attributes := by
  have hk : e.isConfigurationOnly = false := by simpa [isConfigurationOnly] using hk
  obtain ⟨hsome, hnested, hfile⟩ := bindings_spec h
  refine ⟨servedBy_entityFile hk hfile, fun n hn => ?_⟩
  obtain ⟨f, hf⟩ := Option.isSome_iff_exists.mp (hsome.mpr (List.ne_nil_of_mem hn))
  have hitems : (e.program mount b).items .nested = f.items := by
    simp [Program.items, Program.file?, program, hf]
  rw [hitems]
  exact servedBy_nestedItems hk (hnested f hf).2 hn

theorem primary_program (h : e.bindings mount g = .ok b) (trait : Option SupportItem) :
    Code.methodsOf ((e.program mount b).items .own) e.names.record trait =
        Code.methodsOf e.primaryItems e.names.record trait ∧
      Code.fieldsOf ((e.program mount b).items .own) e.names.record =
        Code.fieldsOf e.primaryItems e.names.record := by
  obtain ⟨_, _, hfile⟩ := bindings_spec h
  obtain ⟨_, _, _, records, hr, hitems, _⟩ := entityFile_spec hfile
  have hothers : ∀ item ∈ records, item.owner? ≠ some e.names.record := by
    intro item hi howner
    obtain ⟨role, hrole, hholds⟩ := (holds_recordItems hr).1 item hi
    have hname := Option.some.inj (hholds.owner.symm.trans howner)
    exact (List.nodup_cons.mp e.rootNames_nodup).1 (hname ▸ List.mem_map_of_mem hrole)
  have hown : (e.program mount b).items .own = e.primaryItems ++ records := hitems
  rw [hown, Code.methodsOf_append, Code.fieldsOf_append, Code.methodsOf_eq_nil hothers,
    Code.fieldsOf_eq_nil hothers, List.append_nil, List.append_nil]
  exact ⟨rfl, rfl⟩

theorem stands_attributes (hk : e.kind ≠ .provider) (h : e.bindings mount g = .ok b) :
    (e.program mount b).Moves (.accessor "attributes") (.own, .named none e.names.record)
        (.own, .named none e.names.attributes) ∧
      (∀ localName fields depth, fields.lookup "name" = some (.text localName) →
        (e.program mount b).move? (depth + 1) (.accessor "attributes") (.record .own e.names.record fields) =
          some (attributeValue .own e.names.attributes ⟨e.root localName, []⟩)) ∧
      Stands (e.program mount b) (Shape.ofRoot g) (.own, .named none e.names.attributes)
        (attributeValue .own e.names.attributes) := by
  have hserved := (servedBy_program hk h).1
  obtain ⟨hattributes, hreference, hfield⟩ := primary_methods hk
  have hcall : (e.program mount b).method? .own e.names.record none "attributes" =
      some (Primary.attributesMethod e) := by
    rw [Program.method?, (primary_program h none).1, hattributes]
  have hroot : (e.program mount b).method? .own e.names.record (some .referencable) "reference" =
      some e.referenceMethod := by
    rw [Program.method?, (primary_program h (some .referencable)).1, hreference]
    simp [referenceMethod, Code.getter]
  refine ⟨?_, fun localName fields depth hl => ?_, .intro rfl hserved fun hc => ?_⟩
  · have hname : HasType (e.program mount b) ⟨.own, e.names.record, true, []⟩ (.selfField "name") .string :=
      .field (f := Primary.localNameField) (.self rfl) ((primary_program h none).2 ▸ hfield)
    have hself : HasType (e.program mount b) ⟨.own, e.names.record, true, []⟩ .selfReference .reference :=
      .selfReference rfl hroot rfl rfl rfl rfl
        (.root e.rootFunction_cases .str (.borrow hname) ⟨rfl, rfl⟩)
    exact .accessor rfl hcall rfl rfl rfl rfl (.fromReference hself (hserved.builds rfl))
  · have hself : ((e.program mount b).calls (depth + 1)).reference (.record .own e.names.record fields) =
        some ⟨e.root localName, []⟩ := by
      simp [Program.calls, Program.reference?, hroot, referenceMethod, Code.getter, Value.ofBody?,
        Value.ofExpr?, Value.ofExprs?, Expr.selfField, Value.field?, hl, root?_rootFunction,
        Value.reference?]
    have hown : (e.program mount b).resolve? .own none = some .own := rfl
    have hrecord := hserved.fromReference_eq hown depth ⟨e.root localName, []⟩
    simpa [Program.move?, hcall, Primary.attributesMethod, Primary.documented, Code.getter, Value.ofBody?,
      Value.ofExpr?, hself, Value.reference?, Primary.named] using hrecord
  · obtain ⟨n, hn⟩ := List.exists_mem_of_ne_nil _ hc
    exact resolve?_nested h (List.ne_nil_of_mem (Graph.mem_of_mem_nodesAt hn))

def movesTo (route : List Visit) (l : Leaf) : List Move :=
  .accessor "attributes" :: (route.flatMap Visit.moves ++ [.accessor (Naming.memberName l.name)])

/-- There is a way to every node. Whatever way is taken and whatever elements are chosen on it, the calls
have the type of a reference to the leaf at the end, and give the reference that has the names of the way and
the choices of each node behind the name of the node. -/
theorem run_movesTo {g₀ : Graph} (hk : e.kind ≠ .provider) (hb : Graph.ofBlock e.block = .ok g₀)
    (hd : g₀.disambiguated = .ok g) (h : e.bindings mount g = .ok b) :
    (∀ n ∈ g.nodes, ∃ route, g.Admits g.topChildren route ∧
      g.shapeAt (Shape.ofRoot g) route = Shape.ofNode g n) ∧
    ∀ route, g.Admits g.topChildren route →
      route.map (·.1.name) = (g.shapeAt (Shape.ofRoot g) route).path ∧
      ∀ l ∈ (g.shapeAt (Shape.ofRoot g) route).leaves, ∃ side t, l.type.referenceType = .ok t ∧
        (e.program mount b).Follows (movesTo route l) (.own, .named none e.names.record) (side, t) ∧
        ∀ localName fields depth, fields.lookup "name" = some (.text localName) →
          (e.program mount b).run? (depth + 1) (movesTo route l) (.record .own e.names.record fields) =
            some (.typed side
              ⟨t, ⟨e.root localName, route.flatMap Visit.steps ++ [.attribute l.name]⟩⟩) := by
  obtain ⟨hpromoted, hforest⟩ := Graph.promoted_of_disambiguated hb hd
  obtain ⟨hmoves, hmove, hstands⟩ := stands_attributes hk h
  have hserved := (servedBy_program hk h).2
  have htop : ∀ n ∈ (Shape.ofRoot g).children, n ∈ g.nodes := fun n hn => Graph.mem_of_mem_nodesAt hn
  refine ⟨fun n hn => ?_, fun route hroute => ⟨?_, fun l hl => ?_⟩⟩
  · obtain ⟨k, hk⟩ := List.mem_iff_getElem?.mp hn
    obtain ⟨i, hi, hreaches⟩ := hforest.covered k (List.getElem?_eq_some_iff.mp hk).1
    exact Graph.exists_admitted hpromoted hreaches hi hk (Shape.ofRoot g)
  · have hstarts : ∀ n ∈ (Shape.ofRoot g).children, n ∈ g.nodes ∧ n.ancestors = (Shape.ofRoot g).path :=
      fun n hn => ⟨htop n hn, hforest.topAncestors n hn⟩
    exact (hforest.path_shapeAt hstarts hroute).symm
  · obtain ⟨position, value, hfollows, hrun, hend⟩ := hstands.route hserved htop hroute
    obtain ⟨side, t, ht, hleaf, hleafRun⟩ := hend.leaf hl
    refine ⟨side, t, ht, ⟨_, hmoves, hfollows.append hleaf⟩, fun localName fields depth hf => ?_⟩
    rw [movesTo, Program.run?, hmove localName fields depth hf, Option.bind_some, Program.run?_append, hrun,
      Option.bind_some, hleafRun]
    rfl

end

def gateway : Entity :=
  .ofDataSource ⟨"aws", "hashicorp/aws", "5.0.0"⟩ "aws_gateway"
    ⟨[], [("listener",
      ⟨"list",
        ⟨[("certs",
          ⟨some (.list [.text "map", .list [.text "object", .object [("arn", .text "string")]]]), none, none,
            false, false, true, false, false⟩)], [], none, false⟩, 0, 0⟩)], none, false⟩

def gatewayListener : Node :=
  ⟨"listener", [], "listener", 0, [], [1], ⟨true, false, [.list], 0, 0, .none⟩⟩

def gatewayCerts : Node :=
  ⟨"certs", ["listener"], "certs", 0, [⟨"arn", .string, false, false, .none⟩], [],
    ⟨false, false, [.map], 0, 0, .none⟩⟩

def gatewayGraph : Graph := ⟨[], [0], [gatewayListener, gatewayCerts]⟩

def gatewayRoute : List Visit := [(gatewayListener, [.splat]), (gatewayCerts, [.key "web"])]

theorem run_movesTo_gateway :
    ∃ b side, Graph.ofBlock gateway.block = .ok gatewayGraph ∧
      gatewayGraph.disambiguated = .ok gatewayGraph ∧ gateway.bindings .standard gatewayGraph = .ok b ∧
      (gateway.program .standard b).run? 1
          (movesTo gatewayRoute ⟨"arn", .string, false, false, .none⟩)
          (.record .own gateway.names.record [("name", .text "main")]) =
        some (.typed side ⟨.support .stringRef [], ⟨.dataSource "aws_gateway" "main",
          [.block "listener", .splat, .block "certs", .key "web", .attribute "arn"]⟩⟩) := by
  have hb : Graph.ofBlock gateway.block = .ok gatewayGraph := rfl
  have hd : gatewayGraph.disambiguated = .ok gatewayGraph :=
    Graph.disambiguated_of_settled rfl (by decide +kernel)
  have hok : (gateway.bindings .standard gatewayGraph).toBool = true := by decide +kernel
  obtain ⟨b, h⟩ := exists_of_toBool hok
  have hroute : gatewayGraph.Admits gatewayGraph.topChildren gatewayRoute :=
    ⟨List.mem_cons_self, .cons .splatList .nil, List.mem_cons_self, .cons (.key "web") .nil, trivial⟩
  obtain ⟨side, t, ht, _, hrun⟩ := ((gateway.run_movesTo (by decide) hb hd h).2 gatewayRoute hroute).2
    ⟨"arn", .string, false, false, .none⟩ List.mem_cons_self
  cases ht
  have hsteps : gatewayRoute.flatMap Visit.steps ++ [.attribute "arn"] =
      [.block "listener", .splat, .block "certs", .key "web", .attribute "arn"] := rfl
  have hresult := hrun "main" [("name", .text "main")] 0 rfl
  rw [hsteps] at hresult
  exact ⟨b, side, hb, hd, h, hresult⟩

end Entity

end ProviderBindings
