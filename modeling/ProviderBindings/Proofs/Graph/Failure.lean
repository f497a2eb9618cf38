import ProviderBindings.Graph
import ProviderBindings.Proofs.Graph.Unfolding

/-!
When a block has no graph. Something that is declared can have a fault of its own, and the error is that of
the first one with a fault: in a level attributes come before blocks and both are in key order, and whatever
is declared comes before its members. The path of the error consists of the names on the way there.
-/

namespace ProviderBindings

namespace Schema

inductive Fault where
  | type (source : TypeError)
  | nesting (mode : String)
  deriving DecidableEq, Repr

def Fault.error (path : String) : Fault → GraphError
  | .type source => .unsupportedType path source
  | .nesting mode => .unsupportedNesting path mode

def Declared.fault? : Declared → Option Fault
  | .ofAttribute a =>
      match a.nested, a.type with
      | some nested, _ =>
          if attributeNesting? nested.nestingMode = none then some (.nesting nested.nestingMode) else none
      | none, none => some (.type (.malformed "<missing>"))
      | none, some expression =>
          match ValueType.ofJson? expression with
          | .ok _ => none
          | .error source => some (.type source)
  | .ofField _ => none
  | .ofBlock b => if blockNesting? b.nestingMode = none then some (.nesting b.nestingMode) else none

/-- A name in a level, where an attribute and a block can have the same one. -/
structure Label where
  isBlock : Bool
  name : String
  deriving DecidableEq, Repr

def Label.Before (a b : Label) : Prop :=
  (a.isBlock = true → b.isBlock = true) ∧ (a.isBlock = b.isBlock → a.name < b.name)

theorem Label.Before.asymm {a b : Label} (h : a.Before b) : ¬ b.Before a := by
  intro h'
  have hsame : a.isBlock = b.isBlock := Bool.eq_iff_iff.mpr ⟨h.1, h'.1⟩
  exact Std.lt_irrefl (Std.lt_trans (h.2 hsame) (h'.2 hsame.symm))

inductive Level.Declares : Level → List Label → Declared → Prop
  | here {level : Level} {name : String} {d : Declared} (h : (name, d) ∈ level) :
      Declares level [⟨d.isBlock, name⟩] d
  | deeper {level : Level} {name : String} {d found : Declared} {place : List Label} (h : (name, d) ∈ level)
      (hb : Declares d.members place found) : Declares level (⟨d.isBlock, name⟩ :: place) found

/-- Depth-first order is the lexicographic order of places. -/
structure Level.FirstFault (level : Level) (place : List Label) (fault : Fault) : Prop where
  found : ∃ d, level.Declares place d ∧ d.fault? = some fault
  first : ∀ place' d' fault', level.Declares place' d' → d'.fault? = some fault' →
    (place' = place ∧ fault' = fault) ∨ List.Lex Label.Before place place'

namespace Level

theorem FirstFault.unique {level : Level} {place place' : List Label} {fault fault' : Fault}
    (h : level.FirstFault place fault) (h' : level.FirstFault place' fault') :
    place = place' ∧ fault = fault' := by
  obtain ⟨d, hd, hf⟩ := h.found
  obtain ⟨d', hd', hf'⟩ := h'.found
  rcases h'.first place d fault hd hf with hsame | hlt
  · exact hsame
  · rcases h.first place' d' fault' hd' hf' with ⟨rfl, rfl⟩ | hgt
    · exact ⟨rfl, rfl⟩
    · exact absurd hgt (List.lex_asymm (fun h => h.asymm) hlt)

theorem Declares.mono {level level' : Level} {place : List Label} {d : Declared} (h : level.Declares place d)
    (hsub : level ⊆ level') : level'.Declares place d := by
  cases h with
  | here h => exact .here (hsub h)
  | deeper h hb => exact .deeper (hsub h) hb

theorem Declares.exists_label {level : Level} {place : List Label} {d : Declared}
    (h : level.Declares place d) :
    ∃ p ∈ level, ∃ rest, place = ⟨p.2.isBlock, p.1⟩ :: rest := by
  cases h with
  | here h => exact ⟨_, h, [], rfl⟩
  | deeper h _ => exact ⟨_, h, _, rfl⟩

theorem declares_append {level level' : Level} {place : List Label} {d : Declared} :
    Declares (level ++ level') place d ↔ level.Declares place d ∨ level'.Declares place d := by
  constructor
  · intro h
    cases h with
    | here h => exact (List.mem_append.mp h).imp .here .here
    | deeper h hb => exact (List.mem_append.mp h).imp (.deeper · hb) (.deeper · hb)
  · rintro (h | h)
    · exact h.mono (List.subset_append_left _ _)
    · exact h.mono (List.subset_append_right _ _)

theorem declares_singleton {name : String} {d found : Declared} {place : List Label} :
    Declares [(name, d)] place found ↔ (place = [⟨d.isBlock, name⟩] ∧ found = d) ∨
      ∃ rest, place = ⟨d.isBlock, name⟩ :: rest ∧ d.members.Declares rest found := by
  constructor
  · intro h
    cases h with
    | here h =>
        cases List.mem_singleton.mp h
        exact .inl ⟨rfl, rfl⟩
    | deeper h hb =>
        cases List.mem_singleton.mp h
        exact .inr ⟨_, rfl, hb⟩
  · rintro (⟨rfl, rfl⟩ | ⟨rest, rfl, h⟩)
    · exact .here (List.mem_singleton_self _)
    · exact .deeper (List.mem_singleton_self _) h

section

variable {level level' : Level} {name : String} {d : Declared} {place : List Label} {fault : Fault}

theorem FirstFault.append_left (h : level.FirstFault place fault)
    (hb : ∀ p ∈ level, ∀ q ∈ level', Label.Before ⟨p.2.isBlock, p.1⟩ ⟨q.2.isBlock, q.1⟩) :
    FirstFault (level ++ level') place fault := by
  obtain ⟨⟨d, hd, hfault⟩, hfirst⟩ := h
  refine ⟨⟨d, declares_append.mpr (.inl hd), hfault⟩, fun place' d' fault' hd' hfault' => ?_⟩
  rcases declares_append.mp hd' with hd' | hd'
  · exact hfirst place' d' fault' hd' hfault'
  · obtain ⟨p, hp, rest, rfl⟩ := hd.exists_label
    obtain ⟨q, hq, rest', rfl⟩ := hd'.exists_label
    exact .inr (.rel (hb p hp q hq))

theorem FirstFault.append_right (h : level'.FirstFault place fault)
    (hclean : ∀ place d, level.Declares place d → d.fault? = none) :
    FirstFault (level ++ level') place fault := by
  obtain ⟨⟨d, hd, hfault⟩, hfirst⟩ := h
  refine ⟨⟨d, declares_append.mpr (.inr hd), hfault⟩, fun place' d' fault' hd' hfault' => ?_⟩
  rcases declares_append.mp hd' with hd' | hd'
  · rw [hclean place' d' hd'] at hfault'
    cases hfault'
  · exact hfirst place' d' fault' hd' hfault'

theorem FirstFault.own (h : d.fault? = some fault) :
    FirstFault [(name, d)] [⟨d.isBlock, name⟩] fault := by
  refine ⟨⟨d, .here (List.mem_singleton_self _), h⟩, fun place' d' fault' hd' hfault' => ?_⟩
  rcases declares_singleton.mp hd' with ⟨rfl, rfl⟩ | ⟨rest, rfl, hrest⟩
  · rw [h, Option.some.injEq] at hfault'
    exact .inl ⟨rfl, hfault'.symm⟩
  · obtain ⟨_, _, _, rfl⟩ := hrest.exists_label
    exact .inr (.cons .nil)

theorem FirstFault.below (h : d.members.FirstFault place fault) (hown : d.fault? = none) :
    FirstFault [(name, d)] (⟨d.isBlock, name⟩ :: place) fault := by
  obtain ⟨⟨found, hd, hfault⟩, hfirst⟩ := h
  refine ⟨⟨found, .deeper (List.mem_singleton_self _) hd, hfault⟩, fun place' d' fault' hd' hfault' => ?_⟩
  rcases declares_singleton.mp hd' with ⟨rfl, rfl⟩ | ⟨rest, rfl, hrest⟩
  · rw [hown] at hfault'
    cases hfault'
  · refine (hfirst rest d' fault' hrest hfault').imp (fun h => ?_) .cons
    exact ⟨congrArg _ h.1, h.2⟩

end

theorem fault?_of_ofType {t : ValueType} {place : List Label} {d : Declared}
    (h : (Level.ofType t).Declares place d) : d.fault? = none := by
  generalize hlevel : Level.ofType t = level at h
  induction h generalizing t with
  | here h =>
      rw [← hlevel] at h
      obtain ⟨p, _, hp⟩ := List.mem_map.mp h
      cases hp
      rfl
  | deeper h _ ih =>
      rw [← hlevel] at h
      obtain ⟨p, _, hp⟩ := List.mem_map.mp h
      cases hp
      exact ih rfl

end Level

end Schema

namespace Members

open Schema (Declared Label Level Fault)

/-! ### Checks -/

def placePath (ancestors : List String) : List Label → String
  | [] => ""
  | [label] => dottedPath ancestors label.name
  | label :: rest => placePath (ancestors ++ [label.name]) rest

theorem placePath_cons (ancestors : List String) (label : Label) {rest : List Label} (h : rest ≠ []) :
    placePath ancestors (label :: rest) = placePath (ancestors ++ [label.name]) rest := by
  cases rest with
  | nil => exact absurd rfl h
  | cons next rest => rfl

structure Checks {α : Type} (ancestors : List String) (level : Level) (x : Except GraphError α) : Prop where
  reports : ∀ e, x = .error e →
    ∃ place fault, level.FirstFault place fault ∧ e = fault.error (placePath ancestors place)
  sound : ∀ a, x = .ok a → ∀ place d, level.Declares place d → d.fault? = none

namespace Checks

variable {α β : Type} {ancestors : List String} {level level' : Level} {x : Except GraphError α}
  {f : α → Except GraphError β}

theorem ok {a : α} (h : ∀ place d, level.Declares place d → d.fault? = none) :
    Checks ancestors level (.ok a : Except GraphError α) := ⟨nofun, fun _ _ => h⟩

theorem bind_ok (h : Checks ancestors level x) (g : α → β) :
    Checks ancestors level (x >>= fun a => .ok (g a)) := by
  cases x with
  | error e =>
      refine ⟨fun e' he => ?_, nofun⟩
      cases he
      exact h.reports e rfl
  | ok a => exact .ok (h.sound a rfl)

theorem append (hx : Checks ancestors level x) (hf : ∀ a, x = .ok a → Checks ancestors level' (f a))
    (hb : ∀ p ∈ level, ∀ q ∈ level', Label.Before ⟨p.2.isBlock, p.1⟩ ⟨q.2.isBlock, q.1⟩) :
    Checks ancestors (level ++ level') (x >>= f) := by
  cases x with
  | error e =>
      refine ⟨fun e' he => ?_, nofun⟩
      cases he
      obtain ⟨place, fault, hfirst, he⟩ := hx.reports e rfl
      exact ⟨place, fault, hfirst.append_left hb, he⟩
  | ok a =>
      have hrest := hf a rfl
      refine ⟨fun e he => ?_, fun b hb place d hd => ?_⟩
      · obtain ⟨place, fault, hfirst, he⟩ := hrest.reports e he
        exact ⟨place, fault, hfirst.append_right (hx.sound a rfl), he⟩
      · exact (Level.declares_append.mp hd).elim (hx.sound a rfl place d) (hrest.sound b hb place d)

theorem member {name : String} {d : Declared}
    (herror : ∀ e, x = .error e →
      ∃ fault, d.fault? = some fault ∧ e = fault.error (dottedPath ancestors name))
    (hok : ∀ a, x = .ok a → d.fault? = none)
    (hf : ∀ a, x = .ok a → Checks (ancestors ++ [name]) d.members (f a)) :
    Checks ancestors [(name, d)] (x >>= f) := by
  cases x with
  | error e =>
      refine ⟨fun e' he => ?_, nofun⟩
      cases he
      obtain ⟨fault, hfault, he⟩ := herror e rfl
      exact ⟨_, fault, .own hfault, he⟩
  | ok a =>
      have hown := hok a rfl
      have hmembers := hf a rfl
      refine ⟨fun e he => ?_, fun b hb place d' hd' => ?_⟩
      · obtain ⟨place, fault, hfirst, he⟩ := hmembers.reports e he
        refine ⟨⟨d.isBlock, name⟩ :: place, fault, hfirst.below hown, ?_⟩
        obtain ⟨d', hd', _⟩ := hfirst.found
        obtain ⟨_, _, _, rfl⟩ := hd'.exists_label
        rw [placePath_cons _ _ (List.cons_ne_nil _ _), he]
      · rcases Level.declares_singleton.mp hd' with ⟨-, rfl⟩ | ⟨rest, -, hrest⟩
        · exact hown
        · exact hmembers.sound b hb rest d' hrest

theorem nesting {name mode : String} {d : Declared} {found : Option (List Nesting)}
    {f : List Nesting → Except GraphError β}
    (hd : d.fault? = if found = none then some (.nesting mode) else none)
    (hf : ∀ nesting, Checks (ancestors ++ [name]) d.members (f nesting)) :
    Checks ancestors [(name, d)] (Schema.nestingOr (dottedPath ancestors name) mode found >>= f) := by
  refine member (fun e he => ?_) (fun nesting hn => ?_) fun nesting _ => hf nesting
  · cases found with
    | none =>
        cases he
        exact ⟨_, hd, rfl⟩
    | some nesting => cases he
  · rw [nestingOr_eq_ok_iff] at hn
    simp [hd, hn]

end Checks

/-! ### The visit of a block -/

theorem before_of_ordered {α : Type} (declare : α → Declared) {isBlock : Bool}
    (hb : ∀ a, (declare a).isBlock = isBlock) {name : String} {a : α} {rest : Table α}
    (h : Table.Ordered ((name, a) :: rest)) :
    ∀ p ∈ [(name, declare a)], ∀ q ∈ (Table.mapValues declare rest : Level),
      Label.Before ⟨p.2.isBlock, p.1⟩ ⟨q.2.isBlock, q.1⟩ := by
  intro p hp
  rw [List.mem_singleton.mp hp]
  exact (List.pairwise_cons.mp (Level.keyOrdered_mapValues declare isBlock hb h)).1

mutual
theorem checks_ofAttribute (ancestors : List String) (name : String) :
    ∀ a : Schema.Attribute, a.KeyOrdered →
      Checks ancestors [(name, .ofAttribute a)] (ofAttribute ancestors name a)
  | ⟨_, some nested, _, _, _, _, _, _⟩, h => checks_ofNested ancestors name _ _ _ nested h rfl
  | ⟨type, none, _, _, _, _, _, _⟩, _ => by
      rw [ofAttribute]
      refine .member (fun e he => ?_) (fun t ht => ?_) fun t ht => .ok fun place d hd => ?_
      · cases type with
        | none =>
            cases he
            exact ⟨_, rfl, rfl⟩
        | some expression =>
            simp only [decodedType] at he
            cases hdecoded : ValueType.ofJson? expression with
            | ok t => simp [hdecoded] at he
            | error source =>
                simp only [hdecoded, Except.error.injEq] at he
                refine ⟨.type source, ?_, he.symm⟩
                simp [Declared.fault?, hdecoded]
      · obtain ⟨expression, rfl, hdecoded⟩ := decodedType_eq_ok_iff.mp ht
        simp [Declared.fault?, hdecoded]
      · obtain ⟨expression, rfl, hdecoded⟩ := decodedType_eq_ok_iff.mp ht
        have hfield : (Level.ofType t).Declares place d := by
          simpa [Declared.members, Declared.type?, hdecoded, Except.toOption] using hd
        exact Level.fault?_of_ofType hfield

theorem checks_ofNested (ancestors : List String) (name : String) (isArgument isRequired : Bool)
    (docs : Docs) :
    ∀ (nested : Schema.NestedType) {a : Schema.Attribute}, nested.KeyOrdered → a.nested = some nested →
      Checks ancestors [(name, .ofAttribute a)] (ofNested ancestors name isArgument isRequired docs nested)
  | ⟨attributes, mode, minItems, maxItems⟩, a, h, ha => by
      rw [ofNested]
      refine .nesting (by simp [Declared.fault?, ha]) fun nesting => ?_
      have hinner := checks_ofAttributes (ancestors ++ [name]) attributes h
      have hmembers : (Declared.ofAttribute a).members = Table.mapValues .ofAttribute attributes := by
        simp [Declared.members, ha]
      rw [hmembers]
      exact hinner.bind_ok _

theorem checks_ofAttributes (ancestors : List String) :
    ∀ attributes : List (String × Schema.Attribute),
      Table.Ordered attributes ∧ Schema.attributesKeyOrdered attributes →
        Checks ancestors (Table.mapValues .ofAttribute attributes) (ofAttributes ancestors attributes)
  | [], _ => .ok fun _ _ hd => by
      obtain ⟨_, hp, _⟩ := hd.exists_label
      cases hp
  | (name, a) :: rest, ⟨ho, ha, hrest⟩ => by
      rw [ofAttributes]
      have hfirst := checks_ofAttribute ancestors name a ha
      have hothers := checks_ofAttributes ancestors rest ⟨ho.of_cons, hrest⟩
      exact hfirst.append (fun _ _ => hothers.bind_ok _)
        (before_of_ordered .ofAttribute (fun _ => rfl) ho)
end

mutual
theorem checks_ofBlock (ancestors : List String) :
    ∀ b : Schema.Block, b.KeyOrdered → Checks ancestors (Level.ofBlock b) (ofBlock ancestors b)
  | ⟨attributes, blockTypes, _, _⟩, ⟨ha, hb⟩ => by
      rw [ofBlock]
      have hattributes := checks_ofAttributes ancestors attributes ha
      have hblocks := checks_ofBlockTypes ancestors blockTypes hb
      refine hattributes.append (fun _ _ => hblocks.bind_ok _) fun p hp q hq => ?_
      obtain ⟨_, _, rfl⟩ := List.mem_map.mp hp
      obtain ⟨_, _, rfl⟩ := List.mem_map.mp hq
      exact ⟨fun _ => rfl, nofun⟩

theorem checks_ofBlockType (ancestors : List String) (name : String) :
    ∀ b : Schema.BlockType, b.KeyOrdered →
      Checks ancestors [(name, .ofBlock b)] (ofBlockType ancestors name b)
  | ⟨mode, ⟨attributes, blockTypes, description, deprecated⟩, minItems, maxItems⟩, h => by
      rw [ofBlockType]
      refine .nesting rfl fun nesting => ?_
      have hinner := checks_ofBlock (ancestors ++ [name]) ⟨attributes, blockTypes, description, deprecated⟩ h
      exact hinner.bind_ok _

theorem checks_ofBlockTypes (ancestors : List String) :
    ∀ blockTypes : List (String × Schema.BlockType),
      Table.Ordered blockTypes ∧ Schema.blockTypesKeyOrdered blockTypes →
        Checks ancestors (Table.mapValues .ofBlock blockTypes) (ofBlockTypes ancestors blockTypes)
  | [], _ => .ok fun _ _ hd => by
      obtain ⟨_, hp, _⟩ := hd.exists_label
      cases hp
  | (name, b) :: rest, ⟨ho, hb, hrest⟩ => by
      rw [ofBlockTypes]
      have hfirst := checks_ofBlockType ancestors name b hb
      have hothers := checks_ofBlockTypes ancestors rest ⟨ho.of_cons, hrest⟩
      exact hfirst.append (fun _ _ => hothers.bind_ok _) (before_of_ordered .ofBlock (fun _ => rfl) ho)
end

end Members

/-! ### Paths -/

/-- Names joined by dots, except that a name right below an empty one stands alone at the root. -/
def shownPath : List String → String
  | ["", name] => name
  | names => ".".intercalate names

theorem shownPath_of_ne {names : List String} (h : ∀ name, names ≠ ["", name]) :
    shownPath names = ".".intercalate names := by
  unfold shownPath
  split
  · exact absurd rfl (h _)
  · rfl

theorem dottedPath_eq_shownPath (ancestors : List String) (name : String) :
    dottedPath ancestors name = shownPath (ancestors ++ [name]) := by
  match ancestors with
  | [] => simp [dottedPath, shownPath, String.intercalate_nil, String.intercalate_singleton]
  | [a] =>
      by_cases ha : a = ""
      · simp [ha, dottedPath, shownPath, String.intercalate_singleton]
      · have hne : ∀ other, [a, name] ≠ ["", other] := by simp [ha]
        rw [List.singleton_append, shownPath_of_ne hne, String.intercalate_cons_of_ne_nil (by simp)]
        simp [dottedPath, String.intercalate_singleton, ha]
  | a :: b :: rest =>
      have hne : ∀ other, a :: b :: rest ++ [name] ≠ ["", other] := by simp
      rw [shownPath_of_ne hne, String.intercalate_append_of_ne_nil (by simp) (by simp)]
      simp [dottedPath, String.intercalate_cons_of_ne_nil, String.intercalate_singleton]

theorem Members.placePath_eq_shownPath {place : List Schema.Label} (h : place ≠ [])
    (ancestors : List String) :
    placePath ancestors place = shownPath (ancestors ++ place.map Schema.Label.name) := by
  induction place generalizing ancestors with
  | nil => exact absurd rfl h
  | cons label rest ih =>
      cases rest with
      | nil => exact dottedPath_eq_shownPath ancestors label.name
      | cons next rest =>
          rw [placePath_cons _ _ (List.cons_ne_nil _ _), ih (List.cons_ne_nil _ _)]
          simp

namespace Graph

open Schema (Level Label)

structure FailsAtFirst (write : List String → String) (block : Schema.Block) : Prop where
  fails_iff : (∃ e, ofBlock block = .error e) ↔
    ∃ place d, (Level.ofBlock block).Declares place d ∧ d.fault?.isSome = true
  reports : ∀ e, ofBlock block = .error e →
    ∃ place fault, (Level.ofBlock block).FirstFault place fault ∧
      e = fault.error (write (place.map Label.name))

theorem failsAtFirst_shownPath {block : Schema.Block} (h : block.KeyOrdered) :
    FailsAtFirst shownPath block := by
  have hchecks := Members.checks_ofBlock [] block h
  have hreports : ∀ e, ofBlock block = .error e → ∃ place fault,
      (Level.ofBlock block).FirstFault place fault ∧ e = fault.error (shownPath (place.map Label.name)) := by
    intro e he
    cases hm : Members.ofBlock [] block with
    | ok m => simp [ofBlock, hm, Except.map] at he
    | error e' =>
        obtain rfl : e' = e := by simpa [ofBlock, hm, Except.map] using he
        obtain ⟨place, fault, hfirst, he⟩ := hchecks.reports e' hm
        obtain ⟨d, hd, _⟩ := hfirst.found
        obtain ⟨_, _, _, rfl⟩ := hd.exists_label
        rw [Members.placePath_eq_shownPath (List.cons_ne_nil _ _), List.nil_append] at he
        exact ⟨_, fault, hfirst, he⟩
  refine ⟨⟨fun ⟨e, he⟩ => ?_, fun ⟨place, d, hd, hfault⟩ => ?_⟩, hreports⟩
  · obtain ⟨place, fault, ⟨⟨d, hd, hfault⟩, _⟩, _⟩ := hreports e he
    exact ⟨place, d, hd, by simp [hfault]⟩
  · cases hm : Members.ofBlock [] block with
    | error e => exact ⟨e, by simp [ofBlock, hm, Except.map]⟩
    | ok m =>
        rw [hchecks.sound m hm place d hd] at hfault
        cases hfault

theorem error_injective {path path' : String} {fault : Schema.Fault}
    (h : fault.error path = fault.error path') : path = path' := by
  cases fault <;> simpa [Schema.Fault.error] using h

/-- The error of a block without a graph is that of the first fault, and its path is made of the names on the
way there. These are joined by dots unless the fault is right below an empty name at the root. -/
theorem failsAtFirst_iff {block : Schema.Block} (h : block.KeyOrdered) :
    FailsAtFirst shownPath block ∧ (FailsAtFirst ".".intercalate block ↔
      ∀ place fault, (Level.ofBlock block).FirstFault place fault →
        ∀ name, place.map Label.name ≠ ["", name]) := by
  have hshown := failsAtFirst_shownPath h
  refine ⟨hshown, fun hjoined place fault hfirst name hnames => ?_, fun hnames => ⟨hshown.fails_iff, ?_⟩⟩
  · obtain ⟨d, hd, hfault⟩ := hfirst.found
    obtain ⟨e, he⟩ := hshown.fails_iff.mpr ⟨place, d, hd, by simp [hfault]⟩
    obtain ⟨place₁, fault₁, hfirst₁, he₁⟩ := hshown.reports e he
    obtain ⟨place₂, fault₂, hfirst₂, he₂⟩ := hjoined.reports e he
    obtain ⟨rfl, rfl⟩ := hfirst.unique hfirst₁
    obtain ⟨rfl, rfl⟩ := hfirst.unique hfirst₂
    have hpath := error_injective (he₁.symm.trans he₂)
    rw [hnames, shownPath, String.intercalate_cons_of_ne_nil (by simp), String.intercalate_singleton] at hpath
    have hlength := congrArg String.length hpath
    simp at hlength
  · intro e he
    obtain ⟨place, fault, hfirst, he⟩ := hshown.reports e he
    exact ⟨place, fault, hfirst, by rw [he, shownPath_of_ne (hnames place fault hfirst)]⟩

def attributeOfType (expression : Json) : Schema.Attribute :=
  ⟨some expression, none, none, true, false, false, false, false⟩

def tower : Schema.Block :=
  ⟨[("alpha",
      ⟨none, some ⟨[("beta", attributeOfType (.text "string")),
          ("gamma", attributeOfType (.list [.text "list"]))], "map", none, none⟩,
        none, true, false, false, false, false⟩),
    ("delta", attributeOfType (.text "dynamic"))],
    [("alpha", ⟨"tuple", .empty, 0, 0⟩)], none, false⟩

theorem failsAtFirst_tower :
    tower.KeyOrdered ∧ FailsAtFirst ".".intercalate tower ∧
      ofBlock tower = .error (.unsupportedType "alpha.gamma" (.malformed "[\"list\"]")) := by
  have hfields : Table.Ordered
      [("beta", attributeOfType (.text "string")), ("gamma", attributeOfType (.list [.text "list"]))] := by
    unfold Table.Ordered
    decide
  have hattributes : Table.Ordered tower.attributes := by
    unfold Table.Ordered
    decide
  have hordered : tower.KeyOrdered :=
    ⟨⟨hattributes, ⟨hfields, trivial, trivial, trivial⟩, trivial, trivial⟩, List.pairwise_singleton _ _,
      ⟨⟨.nil, trivial⟩, .nil, trivial⟩, trivial⟩
  refine ⟨hordered, (failsAtFirst_iff hordered).2.mpr fun place fault hfirst name hnames => ?_, rfl⟩
  obtain ⟨d, hd, _⟩ := hfirst.found
  obtain ⟨p, hp, rest, rfl⟩ := hd.exists_label
  have hnamed : ∀ p ∈ Level.ofBlock tower, p.1 ≠ "" := by
    simp [Level.ofBlock, tower, Table.mapValues]
  exact hnamed p hp (List.cons.inj hnames).1

def nameless : Schema.Block :=
  ⟨[], [("", ⟨"single", ⟨[("x", attributeOfType (.text "dynamic"))], [], none, false⟩, 0, 0⟩)], none, false⟩

/-- The error is the one of an attribute `x` at the root, and the dotted path would be `.x`. -/
theorem not_failsAtFirst_nameless :
    nameless.KeyOrdered ∧ ofBlock nameless = .error (.unsupportedType "x" (.unsupported "dynamic")) ∧
      ofBlock ⟨[("x", attributeOfType (.text "dynamic"))], [], none, false⟩ = ofBlock nameless ∧
      ¬ FailsAtFirst ".".intercalate nameless := by
  have hattributes : Table.Ordered [("x", attributeOfType (.text "dynamic"))] := List.pairwise_singleton _ _
  have hordered : nameless.KeyOrdered :=
    ⟨⟨.nil, trivial⟩, List.pairwise_singleton _ _,
      ⟨⟨hattributes, trivial, trivial⟩, .nil, trivial⟩, trivial⟩
  have herror : ofBlock nameless = .error (.unsupportedType "x" (.unsupported "dynamic")) := rfl
  refine ⟨hordered, herror, rfl, fun h => ?_⟩
  obtain ⟨place, fault, hfirst, he⟩ := h.reports _ herror
  obtain ⟨d, hd, _⟩ := hfirst.found
  obtain ⟨p, hp, rest, rfl⟩ := hd.exists_label
  have hname : p.1 = "" := by
    rw [List.mem_singleton.mp hp]
  cases fault with
  | nesting mode => cases he
  | type source =>
      -- A path that begins with an empty name is empty or begins with a dot.
      obtain ⟨hpath, -⟩ : "x" = ".".intercalate ("" :: rest.map Label.name) ∧ _ := by
        simpa [Schema.Fault.error, hname] using he
      cases rest with
      | nil => simp [String.intercalate_singleton] at hpath
      | cons next rest =>
          rw [List.map_cons, String.intercalate_cons_of_ne_nil (by simp)] at hpath
          simpa using congrArg (fun s : String => s.toList.head?) hpath

end Graph

end ProviderBindings
