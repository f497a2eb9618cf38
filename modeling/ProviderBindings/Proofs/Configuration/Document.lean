import Mathlib.Data.List.Induction
import ProviderBindings.Configuration.Document
import ProviderBindings.Proofs.Success
import ProviderBindings.Proofs.Table

/-!
Documents that are assembled by calls, some of which fail. A call that fails leaves the document as it was;
what stands at an address is what the last successful call there has put, and this decides the whole document.
-/

namespace ProviderBindings

def Json.at? : List String → Json → Option Json
  | [], v => some v
  | key :: rest, v => (v.member? key).bind (Json.at? rest)

theorem Json.member?_object (key : String) (members : List (String × Json)) :
    (Json.object members).member? key = Table.get? key members := rfl

theorem Json.at?_singleton (key : String) (v : Json) : v.at? [key] = v.member? key := by
  rw [at?]
  exact Option.bind_fun_some _

/-! ### Blocks -/

namespace Blocks

def block? (type name : String) (blocks : Blocks) : Option Json :=
  (Table.get? type blocks).bind (Table.get? name)

structure WellFormed (blocks : Blocks) : Prop where
  types : Table.Ordered blocks
  names : ∀ p ∈ blocks, Table.Ordered p.2 ∧ p.2 ≠ []

theorem wellFormed_nil : WellFormed [] := ⟨.nil, by simp⟩

theorem block?_put (type name : String) (body : Json) (blocks : Blocks) (type' name' : String) :
    block? type' name' (put type name body blocks) =
      if type' = type ∧ name' = name then some body else block? type' name' blocks := by
  rw [block?, put, Table.get?_insert]
  by_cases ht : type' = type
  · subst ht
    rw [if_pos rfl, Option.bind_some, Table.get?_insert, block?]
    by_cases hn : name' = name
    · simp [hn]
    · cases Table.get? type' blocks <;> simp [hn, Table.get?]
  · simp [ht, block?]

theorem WellFormed.put {blocks : Blocks} (h : blocks.WellFormed) (type name : String) (body : Json) :
    WellFormed (Blocks.put type name body blocks) := by
  have hinner : Table.Ordered ((Table.get? type blocks).getD []) := by
    cases hget : Table.get? type blocks with
    | none => exact .nil
    | some inner => exact (h.names _ (Table.mem_of_get? hget)).1
  refine ⟨Table.ordered_insert type _ h.types, fun p hp => ?_⟩
  rcases Table.mem_of_mem_insert hp with rfl | hp
  · refine ⟨Table.ordered_insert name body hinner, Table.ne_nil_iff.mpr ⟨name, ?_⟩⟩
    rw [Table.get?_insert_self]
    rfl
  · exact h.names p hp

theorem ne_nil_iff {blocks : Blocks} (h : blocks.WellFormed) :
    blocks ≠ [] ↔ ∃ type name, (block? type name blocks).isSome = true := by
  rw [Table.ne_nil_iff]
  refine exists_congr fun type => ?_
  cases hget : Table.get? type blocks with
  | none => simp [block?, hget]
  | some inner =>
      have hinner := Table.ne_nil_iff.mp (h.names _ (Table.mem_of_get? hget)).2
      simpa [block?, hget] using hinner

theorem get?_of_block? {a b : Blocks} (ha : a.WellFormed) (hb : b.WellFormed)
    (h : ∀ type name, block? type name a = block? type name b) {type : String} {inner : Table Json}
    (hget : Table.get? type a = some inner) : Table.get? type b = some inner := by
  have hinner : ∀ name, Table.get? name inner = block? type name b := by
    intro name
    rw [← h, block?, hget, Option.bind_some]
  have hownA := ha.names _ (Table.mem_of_get? hget)
  cases hother : Table.get? type b with
  | none =>
      obtain ⟨name, hname⟩ := Table.ne_nil_iff.mp hownA.2
      rw [hinner, block?, hother] at hname
      cases hname
  | some other =>
      have hownB := hb.names _ (Table.mem_of_get? hother)
      refine congrArg some (Table.ext_of_get? hownB.1 hownA.1 fun name => ?_)
      rw [hinner, block?, hother, Option.bind_some]

theorem ext_of_block? {a b : Blocks} (ha : a.WellFormed) (hb : b.WellFormed)
    (h : ∀ type name, block? type name a = block? type name b) : a = b := by
  refine Table.ext_of_get? ha.types hb.types fun type => Option.ext fun inner => ?_
  exact ⟨get?_of_block? ha hb h, get?_of_block? hb ha fun type name => (h type name).symm⟩

theorem at?_toJson (type name : String) (blocks : Blocks) :
    Json.at? [type, name] blocks.toJson = block? type name blocks := by
  rw [toJson, Json.at?, Json.member?, Table.get?_mapValues, block?]
  cases Table.get? type blocks with
  | none => rfl
  | some inner => simp [Json.at?, Json.member?]

end Blocks

namespace ConfigurationDocument

/-! ### Addresses -/

inductive Address where
  | provider (name : String)
  | resource (type name : String)
  | dataSource (type name : String)
  deriving DecidableEq, Repr

namespace Address

def path : Address → List String
  | .provider name => ["provider", name]
  | .resource type name => ["resource", type, name]
  | .dataSource type name => ["data", type, name]

def sections : Address → List String
  | .provider _ => ["provider", "terraform"]
  | .resource _ _ => ["resource"]
  | .dataSource _ _ => ["data"]

end Address

theorem Address.exists_iff {P : Address → Prop} :
    (∃ a, P a) ↔ (∃ name, P (.provider name)) ∨ (∃ type name, P (.resource type name)) ∨
      ∃ type name, P (.dataSource type name) := by
  constructor
  · rintro ⟨name | ⟨type, name⟩ | ⟨type, name⟩, h⟩
    · exact .inl ⟨name, h⟩
    · exact .inr (.inl ⟨type, name, h⟩)
    · exact .inr (.inr ⟨type, name, h⟩)
  · rintro (⟨_, h⟩ | ⟨_, _, h⟩ | ⟨_, _, h⟩) <;> exact ⟨_, h⟩

def block? (d : ConfigurationDocument) : Address → Option Json
  | .provider name => Table.get? name d.providers
  | .resource type name => Blocks.block? type name d.resources
  | .dataSource type name => Blocks.block? type name d.dataSources

structure WellFormed (d : ConfigurationDocument) : Prop where
  required : Table.Ordered d.required
  providers : Table.Ordered d.providers
  resources : Blocks.WellFormed d.resources
  dataSources : Blocks.WellFormed d.dataSources

theorem wellFormed_empty : empty.WellFormed := ⟨.nil, .nil, Blocks.wellFormed_nil, Blocks.wellFormed_nil⟩

theorem ext_of_block? {d d' : ConfigurationDocument} (h : d.WellFormed) (h' : d'.WellFormed)
    (hr : ∀ name, Table.get? name d.required = Table.get? name d'.required)
    (hb : ∀ a, d.block? a = d'.block? a) : d = d' := by
  obtain ⟨required, providers, resources, dataSources⟩ := d
  obtain ⟨required', providers', resources', dataSources'⟩ := d'
  have hrequired : required = required' := Table.ext_of_get? h.required h'.required hr
  have hproviders : providers = providers' :=
    Table.ext_of_get? h.providers h'.providers fun name => hb (.provider name)
  have hresources : resources = resources' :=
    Blocks.ext_of_block? h.resources h'.resources fun type name => hb (.resource type name)
  have hdataSources : dataSources = dataSources' :=
    Blocks.ext_of_block? h.dataSources h'.dataSources fun type name => hb (.dataSource type name)
  rw [hrequired, hproviders, hresources, hdataSources]

/-! ### Calls -/

inductive Call where
  | provider (name : String) (requirement : Requirement) (body : Except ConfigurationError Json)
  | resource (type name : String) (dependencies : DependsOn) (lifecycle : Option Lifecycle)
      (body : Except ConfigurationError Json)
  | dataSource (type name : String) (body : Except ConfigurationError Json)

namespace Call

def address : Call → Address
  | .provider name _ _ => .provider name
  | .resource type name _ _ _ => .resource type name
  | .dataSource type name _ => .dataSource type name

def body : Call → Except ConfigurationError Json
  | .provider _ _ body => body
  | .resource _ _ _ _ body => body
  | .dataSource _ _ body => body

def succeeds (c : Call) : Bool := c.body.toBool

def requirement? : Call → Option Requirement
  | .provider _ requirement _ => some requirement
  | _ => none

def block? : Call → Option Json
  | .resource _ _ dependencies lifecycle body => body.toOption.map (withMeta dependencies lifecycle)
  | c => c.body.toOption

def add (d : ConfigurationDocument) : Call → Except ConfigurationError ConfigurationDocument
  | .provider name requirement body => d.addProvider name requirement body
  | .resource type name dependencies lifecycle body => d.addResource type name dependencies lifecycle body
  | .dataSource type name body => d.addDataSource type name body

/-- The call as it changes a document in place, where what was changed before a failure would stay. -/
def perform : Call → ExceptT ConfigurationError (StateM ConfigurationDocument) Unit
  | .provider name requirement body => do
      let body ← MonadExcept.ofExcept body
      modify fun d => { d with required := Table.insert name requirement d.required }
      modify fun d => { d with providers := Table.insert name body d.providers }
  | .resource type name dependencies lifecycle body => do
      let body ← MonadExcept.ofExcept body
      modify fun d => { d with resources := d.resources.put type name (withMeta dependencies lifecycle body) }
  | .dataSource type name body => do
      let body ← MonadExcept.ofExcept body
      modify fun d => { d with dataSources := d.dataSources.put type name body }

def performOn (d : ConfigurationDocument) (c : Call) :
    Except ConfigurationError Unit × ConfigurationDocument :=
  c.perform.run.run d

theorem performOn_cases (d : ConfigurationDocument) (c : Call) :
    (c.succeeds = false ∧ ∃ e, c.performOn d = (.error e, d)) ∨
      (c.succeeds = true ∧ ∃ d', c.performOn d = (.ok (), d') ∧ c.add d = .ok d') := by
  cases c with
  | provider _ _ body | resource _ _ _ _ body | dataSource _ _ body =>
      cases body with
      | error e => exact .inl ⟨rfl, e, rfl⟩
      | ok body => exact .inr ⟨rfl, _, rfl, rfl⟩

section

variable {d d' : ConfigurationDocument} {c : Call} (h : c.add d = .ok d')

include h

theorem block?_of_add (a : Address) : d'.block? a = if c.address = a then c.block? else d.block? a := by
  cases c with
  | provider name requirement body =>
      obtain ⟨body, rfl, rfl⟩ := map_eq_ok_iff.mp h
      cases a <;> simp [ConfigurationDocument.block?, Table.get?_insert, address, Call.block?, Call.body,
        Except.toOption, eq_comm]
  | resource type name dependencies lifecycle body =>
      obtain ⟨body, rfl, rfl⟩ := map_eq_ok_iff.mp h
      cases a <;> simp [ConfigurationDocument.block?, Blocks.block?_put, address, Call.block?,
        Except.toOption, eq_comm]
  | dataSource type name body =>
      obtain ⟨body, rfl, rfl⟩ := map_eq_ok_iff.mp h
      cases a <;> simp [ConfigurationDocument.block?, Blocks.block?_put, address, Call.block?, Call.body,
        Except.toOption, eq_comm]

theorem required_of_add (name : String) : Table.get? name d'.required =
    if c.address = .provider name then c.requirement? else Table.get? name d.required := by
  cases c with
  | provider name' requirement body =>
      obtain ⟨body, rfl, rfl⟩ := map_eq_ok_iff.mp h
      simp [Table.get?_insert, address, requirement?, eq_comm]
  | resource | dataSource =>
      obtain ⟨body, rfl, rfl⟩ := map_eq_ok_iff.mp h
      simp [address]

theorem wellFormed_of_add (hd : d.WellFormed) : d'.WellFormed := by
  obtain ⟨hrequired, hproviders, hresources, hdataSources⟩ := hd
  cases c with
  | provider name requirement body =>
      obtain ⟨body, rfl, rfl⟩ := map_eq_ok_iff.mp h
      exact ⟨Table.ordered_insert name _ hrequired, Table.ordered_insert name _ hproviders, hresources,
        hdataSources⟩
  | resource type name dependencies lifecycle body =>
      obtain ⟨body, rfl, rfl⟩ := map_eq_ok_iff.mp h
      exact ⟨hrequired, hproviders, hresources.put type name _, hdataSources⟩
  | dataSource type name body =>
      obtain ⟨body, rfl, rfl⟩ := map_eq_ok_iff.mp h
      exact ⟨hrequired, hproviders, hresources, hdataSources.put type name _⟩

end

theorem block?_performOn (d : ConfigurationDocument) (c : Call) (a : Address) :
    (c.performOn d).2.block? a = if c.succeeds = true ∧ c.address = a then c.block? else d.block? a := by
  rcases performOn_cases d c with ⟨hfails, e, hd⟩ | ⟨hsucceeds, d', hd, hadd⟩
  · simp [hd, hfails]
  · simp [hd, hsucceeds, block?_of_add hadd]

theorem required_performOn (d : ConfigurationDocument) (c : Call) (name : String) :
    Table.get? name (c.performOn d).2.required =
      if c.succeeds = true ∧ c.address = .provider name then c.requirement?
      else Table.get? name d.required := by
  rcases performOn_cases d c with ⟨hfails, e, hd⟩ | ⟨hsucceeds, d', hd, hadd⟩
  · simp [hd, hfails]
  · simp [hd, hsucceeds, required_of_add hadd]

theorem wellFormed_performOn {d : ConfigurationDocument} (h : d.WellFormed) (c : Call) :
    (c.performOn d).2.WellFormed := by
  rcases performOn_cases d c with ⟨_, e, hd⟩ | ⟨_, d', hd, hadd⟩
  · rwa [hd]
  · rw [hd]
    exact wellFormed_of_add hadd h

theorem isSome_block? {c : Call} (h : c.succeeds = true) : c.block?.isSome = true := by
  cases c with
  | provider _ _ body | resource _ _ _ _ body | dataSource _ _ body =>
      cases body with
      | error e => cases h
      | ok body => rfl

theorem isSome_requirement? {c : Call} {name : String} (h : c.address = .provider name) :
    c.requirement?.isSome = true := by
  cases c <;> first | rfl | cases h

end Call

/-! ### Runs -/

def last? (a : Address) (calls : List Call) : Option Call :=
  (calls.filter fun c => c.succeeds && c.address == a).getLast?

def document (calls : List Call) : ConfigurationDocument :=
  calls.foldl (fun d c => (c.performOn d).2) empty

theorem document_concat (calls : List Call) (c : Call) :
    document (calls ++ [c]) = (c.performOn (document calls)).2 := by
  simp [document]

theorem last?_concat (a : Address) (calls : List Call) (c : Call) :
    last? a (calls ++ [c]) = if c.succeeds = true ∧ c.address = a then some c else last? a calls := by
  rw [last?, List.filter_append]
  split
  · rename_i h
    simp [h]
  · rename_i h
    simp [h, last?]

theorem of_last? {a : Address} {calls : List Call} {c : Call} (h : last? a calls = some c) :
    c.succeeds = true ∧ c.address = a := by
  have hmem := List.mem_of_getLast? h
  simpa using (List.mem_filter.mp hmem).2

theorem wellFormed_document (calls : List Call) : (document calls).WellFormed := by
  induction calls using List.reverseRecOn with
  | nil => exact wellFormed_empty
  | append_singleton calls c ih =>
      rw [document_concat]
      exact c.wellFormed_performOn ih

theorem block?_document (calls : List Call) (a : Address) :
    (document calls).block? a = (last? a calls).bind Call.block? := by
  induction calls using List.reverseRecOn with
  | nil => cases a <;> rfl
  | append_singleton calls c ih =>
      rw [document_concat, Call.block?_performOn, last?_concat, ih]
      split <;> rfl

theorem required_document (calls : List Call) (name : String) :
    Table.get? name (document calls).required = (last? (.provider name) calls).bind Call.requirement? := by
  induction calls using List.reverseRecOn with
  | nil => rfl
  | append_singleton calls c ih =>
      rw [document_concat, Call.required_performOn, last?_concat, ih]
      split <;> rfl

theorem document_eq_of_last? {calls calls' : List Call} (h : ∀ a, last? a calls = last? a calls') :
    document calls = document calls' := by
  refine ext_of_block? (wellFormed_document calls) (wellFormed_document calls') (fun name => ?_) fun a => ?_
  · rw [required_document, required_document, h]
  · rw [block?_document, block?_document, h]

theorem last?_swap {before between after : List Call} {c c' : Call} (hne : c.address ≠ c'.address)
    (hb : ∀ x ∈ between, x.succeeds = true → x.address ≠ c.address ∧ x.address ≠ c'.address) (a : Address) :
    last? a (before ++ c :: (between ++ c' :: after)) =
      last? a (before ++ c' :: (between ++ c :: after)) := by
  have hnone (h : c.address = a ∨ c'.address = a) :
      between.filter (fun x => x.succeeds && x.address == a) = [] := by
    refine List.filter_eq_nil_iff.mpr fun x hx hkept => ?_
    obtain ⟨hs, ha⟩ : x.succeeds = true ∧ x.address = a := by simpa using hkept
    obtain ⟨hc, hc'⟩ := hb x hx hs
    exact h.elim (fun h => hc (ha.trans h.symm)) fun h => hc' (ha.trans h.symm)
  -- At most one of the two is at the address `a`, and then nothing between them is.
  simp only [last?, List.filter_append, List.filter_cons]
  by_cases hc : c.address = a
  · have hc' : c'.address ≠ a := fun h => hne (hc.trans h.symm)
    simp [hnone (.inl hc), hc']
  · by_cases hc' : c'.address = a
    · simp [hnone (.inr hc'), hc]
    · simp [hc, hc']

/-! ### Sections -/

theorem get?_part (key name : String) (isEmpty : Bool) (value : Json) (rest : List (String × Json)) :
    Table.get? key (part name isEmpty value ++ rest) =
      if key = name ∧ isEmpty = false then some value else Table.get? key rest := by
  cases isEmpty with
  | true => simp [part]
  | false => simp [part, Table.get?]

theorem member?_toJson (d : ConfigurationDocument) (key : String) :
    d.toJson.member? key =
      if key = "data" ∧ d.dataSources.isEmpty = false then some d.dataSources.toJson
      else if key = "provider" ∧ d.providers.isEmpty = false then some (.object d.providers)
      else if key = "resource" ∧ d.resources.isEmpty = false then some d.resources.toJson
      else if key = "terraform" ∧ d.required.isEmpty = false then
        some (.object [("required_providers", .object (Table.mapValues Requirement.toJson d.required))])
      else none := by
  rw [toJson, Json.member?, List.append_assoc, List.append_assoc, get?_part, get?_part, get?_part,
    ← List.append_nil (part "terraform" _ _), get?_part, Table.get?]

theorem at?_toJson (d : ConfigurationDocument) (a : Address) : d.toJson.at? a.path = d.block? a := by
  cases a with
  | provider name =>
      rw [Address.path, Json.at?, member?_toJson]
      cases h : d.providers <;> simp [Json.at?, Json.member?_object, block?, h, Table.get?]
  | resource type name =>
      rw [Address.path, Json.at?, member?_toJson, block?, ← Blocks.at?_toJson]
      cases h : d.resources <;>
        simp [Json.at?, Json.member?_object, Blocks.toJson, Table.mapValues, Table.get?]
  | dataSource type name =>
      rw [Address.path, Json.at?, member?_toJson, block?, ← Blocks.at?_toJson]
      cases h : d.dataSources <;>
        simp [Json.at?, Json.member?_object, Blocks.toJson, Table.mapValues, Table.get?]

theorem at?_required (d : ConfigurationDocument) (name : String) :
    d.toJson.at? ["terraform", "required_providers", name] =
      (Table.get? name d.required).map Requirement.toJson := by
  rw [Json.at?, member?_toJson]
  simp only [String.reduceEq, false_and, if_false, true_and]
  cases h : d.required with
  | nil => rfl
  | cons p rest =>
      rw [if_pos List.isEmpty_cons, Option.bind_some, Json.at?, Json.member?_object, Table.get?, if_pos rfl,
        Option.bind_some, Json.at?_singleton, Json.member?_object, Table.get?_mapValues]

section

variable (calls : List Call)

theorem isSome_block?_document (a : Address) :
    ((document calls).block? a).isSome = (last? a calls).isSome := by
  rw [block?_document]
  cases h : last? a calls with
  | none => rfl
  | some c => exact Call.isSome_block? (of_last? h).1

theorem isSome_required_document (name : String) :
    (Table.get? name (document calls).required).isSome = (last? (.provider name) calls).isSome := by
  rw [required_document]
  cases h : last? (.provider name) calls with
  | none => rfl
  | some c => exact Call.isSome_requirement? (of_last? h).2

theorem isSome_member?_document (key : String) :
    ((document calls).toJson.member? key).isSome = true ↔
      ∃ a : Address, key ∈ a.sections ∧ (last? a calls).isSome = true := by
  obtain ⟨-, -, hresources, hdataSources⟩ := wellFormed_document calls
  have hdata : (document calls).dataSources.isEmpty = false ↔
      ∃ type name, (last? (.dataSource type name) calls).isSome = true := by
    rw [List.isEmpty_eq_false_iff, Blocks.ne_nil_iff hdataSources]
    exact exists₂_congr fun type name => by rw [← isSome_block?_document]; rfl
  have hresource : (document calls).resources.isEmpty = false ↔
      ∃ type name, (last? (.resource type name) calls).isSome = true := by
    rw [List.isEmpty_eq_false_iff, Blocks.ne_nil_iff hresources]
    exact exists₂_congr fun type name => by rw [← isSome_block?_document]; rfl
  have hprovider : (document calls).providers.isEmpty = false ↔
      ∃ name, (last? (.provider name) calls).isSome = true := by
    rw [List.isEmpty_eq_false_iff, Table.ne_nil_iff]
    exact exists_congr fun name => by rw [← isSome_block?_document]; rfl
  have hterraform : (document calls).required.isEmpty = false ↔
      ∃ name, (last? (.provider name) calls).isSome = true := by
    rw [List.isEmpty_eq_false_iff, Table.ne_nil_iff]
    exact exists_congr fun name => by rw [isSome_required_document]
  rw [member?_toJson, Address.exists_iff]
  simp only [Address.sections, List.mem_cons, List.not_mem_nil, or_false, exists_and_left, ← hdata,
    ← hresource, ← hprovider]
  have hpaired := hterraform.trans hprovider.symm
  by_cases hd : key = "data"
  · simp [hd]
  by_cases hp : key = "provider"
  · simp [hp]
  by_cases hr : key = "resource"
  · simp [hr]
  by_cases ht : key = "terraform"
  · simp [ht, hpaired]
  · simp [hd, hp, hr, ht]

end

/-! ### Resources -/

structure Extends (dependencies : DependsOn) (lifecycle : Option Lifecycle) (arguments members : Table Json) :
    Prop where
  dependsOn : Table.get? "depends_on" members =
    if dependencies.isEmpty then Table.get? "depends_on" arguments else some dependencies.toJson
  lifecycle : Table.get? "lifecycle" members =
    match lifecycle with
    | some l => some (.object (Table.ofList l.members))
    | none => Table.get? "lifecycle" arguments
  others : ∀ key, key ≠ "depends_on" → key ≠ "lifecycle" → Table.get? key members = Table.get? key arguments

theorem withMeta_object (dependencies : DependsOn) (lifecycle : Option Lifecycle) (arguments : Table Json) :
    ∃ members, withMeta dependencies lifecycle (.object arguments) = .object members ∧
      Extends dependencies lifecycle arguments members := by
  cases hd : dependencies.isEmpty <;> cases lifecycle
  all_goals
    simp only [withMeta, hd, withMember, Bool.false_eq_true, if_true, if_false, Json.object.injEq,
      exists_eq_left']
    constructor
  all_goals simp +contextual [Table.get?_insert, hd]

structure Assembles (calls : List Call) (configuration : Json) : Prop where
  blocks : ∀ a : Address, configuration.at? a.path = (last? a calls).bind Call.block?
  requirements : ∀ name, configuration.at? ["terraform", "required_providers", name] =
    ((last? (.provider name) calls).bind Call.requirement?).map Requirement.toJson
  paired : ∀ name, (configuration.at? ["terraform", "required_providers", name]).isSome =
    (configuration.at? ["provider", name]).isSome
  sections : ∀ key, (configuration.member? key).isSome = true ↔
    ∃ a : Address, key ∈ a.sections ∧ (last? a calls).isSome = true
  resources : ∀ type name dependencies lifecycle arguments,
    last? (.resource type name) calls =
        some (.resource type name dependencies lifecycle (.ok (.object arguments))) →
      ∃ members, configuration.at? ["resource", type, name] = some (.object members) ∧
        Extends dependencies lifecycle arguments members

theorem assembles_document (calls : List Call) : Assembles calls (document calls).toJson where
  blocks a := by rw [at?_toJson, block?_document]
  requirements name := by rw [at?_required, required_document]
  paired name := by
    have hprovider := at?_toJson (document calls) (.provider name)
    rw [Address.path] at hprovider
    rw [at?_required, Option.isSome_map, isSome_required_document, hprovider, isSome_block?_document]
  sections := isSome_member?_document calls
  resources type name dependencies lifecycle arguments h := by
    have hresource := at?_toJson (document calls) (.resource type name)
    rw [Address.path, block?_document, h] at hresource
    obtain ⟨members, hmembers, hextends⟩ := withMeta_object dependencies lifecycle arguments
    exact ⟨members, hresource.trans (congrArg some hmembers), hextends⟩

theorem document_of_last_calls :
    (∀ d (c : Call), (c.succeeds = false ∧ ∃ e, c.performOn d = (.error e, d)) ∨
      (c.succeeds = true ∧ ∃ d', c.performOn d = (.ok (), d') ∧ c.add d = .ok d')) ∧
    (∀ calls, Assembles calls (document calls).toJson) ∧
    (∀ calls calls', (∀ a, last? a calls = last? a calls') →
      (document calls).toJson = (document calls').toJson) ∧
    ∀ before between after (c c' : Call), c.address ≠ c'.address →
      (∀ x ∈ between, x.succeeds = true → x.address ≠ c.address ∧ x.address ≠ c'.address) →
        (document (before ++ c :: (between ++ c' :: after))).toJson =
          (document (before ++ c' :: (between ++ c :: after))).toJson := by
  refine ⟨Call.performOn_cases, assembles_document, fun calls calls' h => ?_, ?_⟩
  · rw [document_eq_of_last? h]
  · intro before between after c c' hne hb
    rw [document_eq_of_last? (last?_swap hne hb)]

def network : Call :=
  .resource "aws_vpc" "main" .empty none (.ok (.object [("cidr_block", .text "10.0.0.0/16")]))

def brokenNetwork : Call := .resource "aws_vpc" "main" .empty none (.error .keyNotText)

def server : Call :=
  .resource "aws_instance" "web" (.ofList [.resource "aws_vpc" "main"]) (some .empty)
    (.ok (.object [("ami", .text "ami-123")]))

theorem document_server :
    (∃ e, brokenNetwork.performOn (document [network]) = (.error e, document [network])) ∧
      (document [network, brokenNetwork, server]).toJson =
        (document [server, brokenNetwork, network]).toJson ∧
      ∃ members, (document [network, brokenNetwork, server]).toJson.at? ["resource", "aws_instance", "web"] =
          some (.object members) ∧
        Table.get? "depends_on" members = some (Json.texts ["aws_vpc.main"]) ∧
        Table.get? "lifecycle" members = some (.object []) ∧
        Table.get? "ami" members = some (.text "ami-123") := by
  obtain ⟨hperform, hassembles, -, hswap⟩ := document_of_last_calls
  refine ⟨?_, ?_, ?_⟩
  · rcases hperform (document [network]) brokenNetwork with ⟨-, hfailed⟩ | ⟨hok, -⟩
    · exact hfailed
    · cases hok
  · refine hswap [] [brokenNetwork] [] network server (by decide) fun x hx hs => ?_
    rw [List.mem_singleton.mp hx] at hs
    cases hs
  · have hlast : last? (.resource "aws_instance" "web") [network, brokenNetwork, server] = some server := rfl
    obtain ⟨members, hmembers, hextends⟩ := (hassembles _).resources _ _ _ _ _ hlast
    exact ⟨members, hmembers, hextends.dependsOn, hextends.lifecycle,
      hextends.others "ami" (by decide) (by decide)⟩

end ConfigurationDocument

end ProviderBindings
