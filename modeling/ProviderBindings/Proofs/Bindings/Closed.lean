import ProviderBindings.Proofs.Bindings.RecordMention
import ProviderBindings.Proofs.Disambiguation.Resolvability
import ProviderBindings.Proofs.Graph.Layout

/-!
The files of an entity are closed: every record that they mention is declared once where it is looked for,
and records of nodes mention those of their own children only.
-/

namespace ProviderBindings

open Code (Item File declared Mention)
open Naming (RecordTriad recordTriad)
open Disambiguation (settle collisions settle_of_moved settle_of_settled round_eq_settled_iff)

def Bindings.files (b : Bindings) : List File := b.file :: b.nested.toList

theorem Bindings.mem_files {b : Bindings} {f : File} : f ∈ b.files ↔ f = b.file ∨ f ∈ b.nested := by
  simp [files]

def Code.DeclaredOnce (items : List Item) (name : String) : Prop := (declared items).count name = 1

def Code.Mentions (items : List Item) (a b : String) : Prop :=
  ∃ item ∈ items, item.owner? = some a ∧ (none, b) ∈ item.mentions

open Code (DeclaredOnce Mentions)

/-- `mount` is where the output is mounted, and `g` the graph that the bindings are made from. -/
structure Bindings.Closed (b : Bindings) (e : Entity) (mount : ModulePath) (g : Graph) : Prop where
  nested_isSome : b.nested.isSome ↔ g.nodes ≠ []
  uses_eq : b.file.uses =
    if g.nodes = [] then [] else [mount.segments ++ [e.names.directory, e.names.nested]]
  nested_uses : ∀ f ∈ b.nested, f.uses = []
  owners : ∀ f ∈ b.files, ∀ item ∈ f.items, ∀ name,
    item.owner? = some name → DeclaredOnce f.items name
  unqualified : ∀ f ∈ b.files, ∀ item ∈ f.items, ∀ name,
    (none, name) ∈ item.mentions → DeclaredOnce f.items name
  qualified : ∀ f ∈ b.files, ∀ item ∈ f.items, ∀ qualifier name,
    (some qualifier, name) ∈ item.mentions →
      ∃ path nested, b.file.uses = [path] ∧ path.getLast? = some qualifier ∧ b.nested = some nested ∧
        DeclaredOnce nested.items name
  children : ∀ f ∈ b.nested, ∀ item ∈ f.items,
    ∃ (i : Nat) (n : Node), g.nodes[i]? = some n ∧ ∃ role ∈ e.roles,
      item.owner? = some (n.triad.get role) ∧
        ∀ m ∈ item.mentions, ∃ j ∈ n.children, i < j ∧
          ∃ c : Node, g.nodes[j]? = some c ∧ m = (none, c.triad.get role)
  acyclic : ∀ f ∈ b.files, ∀ name, ¬ Relation.TransGen (Mentions f.items) name name

theorem Code.declaredOnce_of_mem {items : List Item} (hd : (declared items).Nodup) {name : String}
    (h : name ∈ declared items) : DeclaredOnce items name := by
  have hle := List.nodup_iff_count.mp hd name
  have hpos := List.count_pos_iff.mpr h
  unfold DeclaredOnce
  omega

theorem acyclic_of_trans {α : Type} {r s : α → α → Prop} (h : ∀ a b, r a b → s a b)
    (ht : ∀ a b c, s a b → s b c → s a c) (hi : ∀ a, ¬ s a a) (a : α) : ¬ Relation.TransGen r a a := by
  have hall {a b : α} (hab : Relation.TransGen r a b) : s a b := by
    induction hab with
    | single hab => exact h _ _ hab
    | tail _ hbc ih => exact ht _ _ _ ih (h _ _ hbc)
  exact fun hcycle => hi a (hall hcycle)

/-! ### The records of nodes -/

namespace Entity

variable {e : Entity} {g : Graph}

theorem nestedItems_spec {nodes : List Node} :
    ∀ {taken : List String} {items : List Item}, e.nestedItems g taken nodes = .ok items →
      declared items = nodes.flatMap e.recordNames ∧
      (∀ item ∈ items, ∃ n ∈ nodes, ∃ role ∈ e.roles, (Shape.ofNode g n).Holds none n.triad role item) ∧
      (∀ n ∈ nodes, ∀ name ∈ e.recordNames n, name ∉ taken) ∧
      nodes.Pairwise fun a b => ∀ name ∈ e.recordNames a, name ∉ e.recordNames b := by
  induction nodes with
  | nil =>
      intro taken items h
      cases h
      simp
  | cons n rest ih =>
      intro taken items h
      simp only [nestedItems] at h
      split at h
      · cases h
      · rename_i hfind
        obtain ⟨own, ho, h⟩ := bind_eq_ok_iff.mp h
        obtain ⟨others, hr, h⟩ := bind_eq_ok_iff.mp h
        cases h
        obtain ⟨hdeclared, hholds, hfree, hpairwise⟩ := ih hr
        obtain ⟨hown, hownNames⟩ := holds_recordItems ho
        have hnew : ∀ name ∈ e.recordNames n, name ∉ taken := by
          simpa [List.find?_eq_none] using hfind
        refine ⟨?_, fun item hi => ?_, fun m hm name hname => ?_, ?_⟩
        · rw [Code.declared_append, hownNames, hdeclared, List.flatMap_cons, recordNames_eq]
        · rcases List.mem_append.mp hi with hi | hi
          · exact ⟨n, by simp, hown item hi⟩
          · obtain ⟨m, hm, hrole⟩ := hholds item hi
            exact ⟨m, List.mem_cons_of_mem _ hm, hrole⟩
        · rcases List.mem_cons.mp hm with rfl | hm
          · exact hnew name hname
          · exact fun ht => hfree m hm name hname (List.mem_append_right _ ht)
        · refine List.Pairwise.cons (fun m hm name hname hm' => ?_) hpairwise
          exact hfree m hm name hm' (List.mem_append_left _ hname)

theorem ne_append {s t : String} (h : t ≠ "") : s ≠ s ++ t := by
  intro he
  have hlength := congrArg String.length he
  rw [String.length_append] at hlength
  exact h (String.length_eq_zero_iff.mp (by omega))

theorem recordNames_nodup (e : Entity) (n : Node) : (e.recordNames n).Nodup := by
  rw [recordNames]
  split
  · simp
  · simp [Node.triad, recordTriad, RecordTriad.toList, ne_append]

def triad (e : Entity) : RecordTriad := ⟨e.names.args, e.names.attributes, e.names.state⟩

theorem primaryItems_owner (e : Entity) :
    declared e.primaryItems = [e.names.record] ∧
      ∀ item ∈ e.primaryItems, item.owner? = some e.names.record := by
  rw [primaryItems]
  split <;> exact ⟨rfl, by simp [Primary.providerItems, Primary.resourceItems, Primary.dataSourceItems,
    Primary.record, Primary.implementation, Primary.referencable, Item.owner?]⟩

theorem primaryItems_mentions (e : Entity) :
    ∀ item ∈ e.primaryItems, ∀ x ∈ item.mentions, ∃ role ∈ e.roles, x = (none, e.triad.get role) := by
  intro item hi x hx
  have hmem : x ∈ e.primaryItems.flatMap Item.mentions := List.mem_flatMap.mpr ⟨item, hi, hx⟩
  rw [primaryItems] at hmem
  rw [roles, isConfigurationOnly]
  split at hmem
  · rename_i hk
    have hall : (Primary.providerItems e).flatMap Item.mentions =
        [(none, e.triad.args), (none, e.triad.args)] := rfl
    rw [hall] at hmem
    simpa [hk, RecordTriad.get] using hmem
  · rename_i hk
    have hall : (Primary.resourceItems e).flatMap Item.mentions =
        [(none, e.triad.args), (none, e.triad.state), (none, e.triad.args), (none, e.triad.attributes),
          (none, e.triad.attributes), (none, e.triad.state), (none, e.triad.state)] := rfl
    rw [hall] at hmem
    simp only [List.mem_cons, List.not_mem_nil, or_false] at hmem
    simp only [hk, RecordTriad.get, reduceCtorEq, decide_false, Bool.false_eq_true, if_false,
      List.mem_cons, List.not_mem_nil, or_false, exists_eq_or_imp, exists_eq_left]
    grind
  · rename_i hk
    have hall : (Primary.dataSourceItems e).flatMap Item.mentions =
        [(none, e.triad.args), (none, e.triad.args), (none, e.triad.attributes),
          (none, e.triad.attributes)] := rfl
    rw [hall] at hmem
    simp only [List.mem_cons, List.not_mem_nil, or_false] at hmem
    simp only [hk, RecordTriad.get, reduceCtorEq, decide_false, Bool.false_eq_true, if_false,
      List.mem_cons, List.not_mem_nil, or_false, exists_eq_or_imp, exists_eq_left]
    grind

/-! ### Order of the records of nodes -/

def Later (e : Entity) (nodes : List Node) (a b : String) : Prop :=
  ∃ (i j : Nat) (m n : Node), nodes[i]? = some m ∧ nodes[j]? = some n ∧
    a ∈ e.recordNames m ∧ b ∈ e.recordNames n ∧ i < j

variable {nodes : List Node}
  (hp : nodes.Pairwise fun a b => ∀ name ∈ e.recordNames a, name ∉ e.recordNames b)

include hp in
theorem position_eq {i j : Nat} {m n : Node} {name : String} (hm : nodes[i]? = some m)
    (hn : nodes[j]? = some n) (ha : name ∈ e.recordNames m) (hb : name ∈ e.recordNames n) : i = j := by
  have hall := List.pairwise_iff_getElem.mp hp
  obtain ⟨hi, rfl⟩ := List.getElem?_eq_some_iff.mp hm
  obtain ⟨hj, rfl⟩ := List.getElem?_eq_some_iff.mp hn
  rcases Nat.lt_trichotomy i j with hlt | heq | hgt
  · exact absurd hb (hall i j hi hj hlt name ha)
  · exact heq
  · exact absurd ha (hall j i hj hi hgt name hb)

include hp in
theorem Later.trans {a b c : String} (hab : e.Later nodes a b) (hbc : e.Later nodes b c) :
    e.Later nodes a c := by
  obtain ⟨i, j, m, n, hm, hn, ha, hb, hij⟩ := hab
  obtain ⟨j', k, n', o, hn', ho, hb', hc, hjk⟩ := hbc
  have hj := position_eq hp hn hn' hb hb'
  exact ⟨i, k, m, o, hm, ho, ha, hc, by omega⟩

include hp in
theorem Later.irrefl {a : String} : ¬ e.Later nodes a a := by
  rintro ⟨i, j, m, n, hm, hn, ha, hb, hlt⟩
  have hij := position_eq hp hm hn ha hb
  omega

include hp in
theorem acyclic_of_later {items : List Item} (h : ∀ a b, Mentions items a b → e.Later nodes a b)
    (name : String) : ¬ Relation.TransGen (Mentions items) name name :=
  acyclic_of_trans h (fun _ _ _ hab hbc => hab.trans hp hbc) (fun _ => Later.irrefl hp) name

/-! ### Both files -/

theorem entityFile_spec {mount : ModulePath} {file : File} (h : e.entityFile mount g = .ok file) :
    ∃ argsDoc attributesDoc stateDoc records,
      e.recordItems (Shape.ofRoot g) (some e.names.nested) e.triad argsDoc attributesDoc stateDoc =
        .ok records ∧
      file.items = e.primaryItems ++ records ∧
      file.uses =
        if g.nodes = [] then [] else [mount.segments ++ [e.names.directory, e.names.nested]] := by
  obtain ⟨records, hr, h⟩ := bind_eq_ok_iff.mp h
  cases h
  refine ⟨_, _, _, records, hr, rfl, ?_⟩
  simp [nestedModule, ModulePath.join]

theorem bindings_spec {mount : ModulePath} {b : Bindings} (h : e.bindings mount g = .ok b) :
    (b.nested.isSome ↔ g.nodes ≠ []) ∧
      (∀ f ∈ b.nested, f.uses = [] ∧ e.nestedItems g [] g.nodes = .ok f.items) ∧
        e.entityFile mount g = .ok b.file := by
  rw [bindings] at h
  split at h
  · rename_i hempty
    obtain ⟨nested, hn, h⟩ := bind_eq_ok_iff.mp h
    obtain ⟨file, hf, h⟩ := bind_eq_ok_iff.mp h
    cases hn
    cases h
    refine ⟨?_, by simp, hf⟩
    simpa using hempty
  · rename_i hempty
    obtain ⟨nested, hn, h⟩ := bind_eq_ok_iff.mp h
    obtain ⟨file, hf, h⟩ := bind_eq_ok_iff.mp h
    cases h
    obtain ⟨f, hf', rfl⟩ := map_eq_ok_iff.mp hn
    obtain ⟨items, hi, rfl⟩ := map_eq_ok_iff.mp hf'
    refine ⟨?_, ?_, hf⟩
    · simpa using hempty
    · rintro f ⟨⟩
      exact ⟨rfl, hi⟩

/-! ### The file of the nodes -/

theorem declared_nestedItems_nodup {items : List Item} (h : e.nestedItems g [] nodes = .ok items) :
    (declared items).Nodup := by
  obtain ⟨hdeclared, _, _, hpairwise⟩ := nestedItems_spec h
  rw [hdeclared]
  refine List.pairwise_flatMap.mpr ⟨fun n _ => recordNames_nodup e n, hpairwise.imp ?_⟩
  intro a b hab x hx y hy hxy
  exact hab x hx (hxy ▸ hy)

theorem declaredOnce_nestedItems {items : List Item} (h : e.nestedItems g [] nodes = .ok items)
    {n : Node} (hn : n ∈ nodes) {role : RecordRole} (hr : role ∈ e.roles) :
    DeclaredOnce items (n.triad.get role) := by
  refine Code.declaredOnce_of_mem (declared_nestedItems_nodup h) ?_
  rw [(nestedItems_spec h).1]
  exact List.mem_flatMap.mpr ⟨n, hn, get_mem_recordNames hr n⟩

theorem children_of_nestedItems {items : List Item} (hl : ChildrenLater 0 g.nodes)
    (h : e.nestedItems g [] g.nodes = .ok items) :
    ∀ item ∈ items, ∃ (i : Nat) (n : Node), g.nodes[i]? = some n ∧ ∃ role ∈ e.roles,
      item.owner? = some (n.triad.get role) ∧
        ∀ m ∈ item.mentions, ∃ j ∈ n.children, i < j ∧
          ∃ c : Node, g.nodes[j]? = some c ∧ m = (none, c.triad.get role) := by
  intro item hi
  obtain ⟨n, hn, role, hrole, hholds⟩ := (nestedItems_spec h).2.1 item hi
  obtain ⟨i, hni⟩ := List.mem_iff_getElem?.mp hn
  refine ⟨i, n, hni, role, hrole, hholds.owner, fun m hm => ?_⟩
  obtain ⟨c, hc, rfl⟩ := hholds.children m hm
  obtain ⟨j, hj, hcj⟩ := List.mem_filterMap.mp hc
  have hlt := (hl i n hni j hj).1
  exact ⟨j, hj, by omega, c, hcj, rfl⟩

theorem later_of_mentions {items : List Item} (hl : ChildrenLater 0 g.nodes)
    (h : e.nestedItems g [] g.nodes = .ok items) :
    ∀ a b, Mentions items a b → e.Later g.nodes a b := by
  rintro a b ⟨item, hi, howner, hm⟩
  obtain ⟨i, n, hn, role, hrole, hown, hchildren⟩ := children_of_nestedItems hl h item hi
  obtain ⟨j, _, hlt, c, hc, hname⟩ := hchildren _ hm
  obtain rfl : n.triad.get role = a := by simpa [hown] using howner
  obtain rfl : b = c.triad.get role := by simpa using hname
  exact ⟨i, j, n, c, hn, hc, get_mem_recordNames hrole n, get_mem_recordNames hrole c, hlt⟩

/-! ### The file of the entity -/

theorem rootNames_nodup (e : Entity) : (e.names.record :: e.roles.map e.triad.get).Nodup := by
  rw [roles]
  split <;> simp [triad, RecordTriad.get, names, ne_append]

theorem declared_entityFile {records : List Item} (h : declared records = e.roles.map e.triad.get) :
    declared (e.primaryItems ++ records) = e.names.record :: e.roles.map e.triad.get := by
  rw [Code.declared_append, (primaryItems_owner e).1, h]
  rfl

section

variable {mount : ModulePath} {file : File}

theorem declaredOnce_entityFile (h : e.entityFile mount g = .ok file) :
    ∀ name ∈ e.names.record :: e.roles.map e.triad.get, DeclaredOnce file.items name := by
  obtain ⟨_, _, _, records, hr, hitems, _⟩ := entityFile_spec h
  have hdeclared := declared_entityFile (holds_recordItems hr).2
  rw [hitems, ← hdeclared]
  refine fun name hname => Code.declaredOnce_of_mem ?_ hname
  rw [hdeclared]
  exact rootNames_nodup e

theorem owner_entityFile (h : e.entityFile mount g = .ok file) :
    ∀ item ∈ file.items, ∃ name ∈ e.names.record :: e.roles.map e.triad.get,
      item.owner? = some name := by
  obtain ⟨_, _, _, records, hr, hitems, _⟩ := entityFile_spec h
  intro item hi
  rw [hitems] at hi
  rcases List.mem_append.mp hi with hi | hi
  · exact ⟨e.names.record, by simp, (primaryItems_owner e).2 item hi⟩
  · obtain ⟨role, hrole, hh⟩ := (holds_recordItems hr).1 item hi
    exact ⟨e.triad.get role, List.mem_cons_of_mem _ (List.mem_map_of_mem hrole), hh.owner⟩

theorem mention_entityFile (h : e.entityFile mount g = .ok file) :
    ∀ item ∈ file.items, ∀ m ∈ item.mentions, ∃ role ∈ e.roles,
      m = (none, e.triad.get role) ∨
        ∃ c ∈ g.topChildren, m = (some e.names.nested, c.triad.get role) := by
  obtain ⟨_, _, _, records, hr, hitems, _⟩ := entityFile_spec h
  intro item hi m hm
  rw [hitems] at hi
  rcases List.mem_append.mp hi with hi | hi
  · obtain ⟨role, hrole, hname⟩ := primaryItems_mentions e item hi m hm
    exact ⟨role, hrole, .inl hname⟩
  · obtain ⟨role, hrole, hh⟩ := (holds_recordItems hr).1 item hi
    exact ⟨role, hrole, .inr (hh.children m hm)⟩

theorem mentions_entityFile (h : e.entityFile mount g = .ok file) {a b : String}
    (hab : Mentions file.items a b) : a = e.names.record ∧ b ≠ e.names.record := by
  obtain ⟨_, _, _, records, hr, hitems, _⟩ := entityFile_spec h
  obtain ⟨item, hi, howner, hm⟩ := hab
  rw [hitems] at hi
  rcases List.mem_append.mp hi with hi | hi
  · obtain ⟨role, hrole, hb⟩ := primaryItems_mentions e item hi _ hm
    have hown := (primaryItems_owner e).2 item hi
    refine ⟨by simpa [hown] using howner.symm, ?_⟩
    rintro rfl
    have hnot := (List.nodup_cons.mp (rootNames_nodup e)).1
    exact hnot (List.mem_map.mpr ⟨role, hrole, by simpa using hb.symm⟩)
  · obtain ⟨role, _, hh⟩ := (holds_recordItems hr).1 item hi
    obtain ⟨c, _, hc⟩ := hh.children _ hm
    simp at hc

theorem acyclic_entityFile (h : e.entityFile mount g = .ok file) (name : String) :
    ¬ Relation.TransGen (Mentions file.items) name name := by
  have hstep : ∀ a b, Mentions file.items a b → a = e.names.record ∧ b ≠ e.names.record :=
    fun a b hab => mentions_entityFile h hab
  refine acyclic_of_trans hstep (fun a b c hab hbc => ?_) (fun a haa => haa.2 haa.1) name
  exact absurd hbc.1 hab.2

end

theorem childrenLater_of_disambiguated {g₀ : Graph} (hb : Graph.ofBlock e.block = .ok g₀)
    (hd : g₀.disambiguated = .ok g) : ChildrenLater 0 g.nodes := by
  have hnodes := congrArg Graph.nodes (Graph.unqualified_of_disambiguated hd)
  have hchildren := congrArg (List.map Node.children) hnodes.symm
  simp only [Graph.unqualified, List.map_map] at hchildren
  exact (Graph.childrenLater_ofBlock hb).congr hchildren

theorem bindings_closed {mount : ModulePath} {g₀ : Graph} {b : Bindings}
    (hb : Graph.ofBlock e.block = .ok g₀) (hd : g₀.disambiguated = .ok g)
    (h : e.bindings mount g = .ok b) : b.Closed e mount g := by
  have hl := childrenLater_of_disambiguated hb hd
  obtain ⟨hsome, hnested, hfile⟩ := bindings_spec h
  obtain ⟨_, _, _, _, _, _, huses⟩ := entityFile_spec hfile
  have hroot := declaredOnce_entityFile hfile
  have hnode : ∀ f ∈ b.nested, ∀ n ∈ g.nodes, ∀ role ∈ e.roles,
      DeclaredOnce f.items (n.triad.get role) :=
    fun f hf n hn role hrole => declaredOnce_nestedItems (hnested f hf).2 hn hrole
  have hchildren : ∀ f ∈ b.nested, _ := fun f hf => children_of_nestedItems hl (hnested f hf).2
  refine ⟨hsome, huses, fun f hf => (hnested f hf).1, ?_, ?_, ?_, hchildren, ?_⟩
  · intro f hf item hi name howner
    rcases Bindings.mem_files.mp hf with rfl | hf
    · obtain ⟨own, hown, heq⟩ := owner_entityFile hfile item hi
      obtain rfl : own = name := by simpa [heq] using howner
      exact hroot own hown
    · obtain ⟨i, n, hn, role, hrole, heq, _⟩ := hchildren f hf item hi
      obtain rfl : n.triad.get role = name := by simpa [heq] using howner
      exact hnode f hf n (List.mem_of_getElem? hn) role hrole
  · intro f hf item hi name hm
    rcases Bindings.mem_files.mp hf with rfl | hf
    · obtain ⟨role, hrole, hname | ⟨c, _, hname⟩⟩ := mention_entityFile hfile item hi _ hm
      · obtain rfl : name = e.triad.get role := by simpa using hname
        exact hroot _ (List.mem_cons_of_mem _ (List.mem_map_of_mem hrole))
      · simp at hname
    · obtain ⟨i, n, _, role, hrole, _, hbelow⟩ := hchildren f hf item hi
      obtain ⟨j, _, _, c, hc, hname⟩ := hbelow _ hm
      obtain rfl : name = c.triad.get role := by simpa using hname
      exact hnode f hf c (List.mem_of_getElem? hc) role hrole
  · intro f hf item hi qualifier name hm
    rcases Bindings.mem_files.mp hf with rfl | hf
    · obtain ⟨role, hrole, hname | ⟨c, hc, hname⟩⟩ := mention_entityFile hfile item hi _ hm
      · simp at hname
      · obtain ⟨rfl, rfl⟩ : qualifier = e.names.nested ∧ name = c.triad.get role := by simpa using hname
        obtain ⟨j, _, hj⟩ := List.mem_filterMap.mp hc
        have hmem : c ∈ g.nodes := List.mem_of_getElem? hj
        have hne : g.nodes ≠ [] := List.ne_nil_of_mem hmem
        obtain ⟨nested, hsome⟩ := Option.isSome_iff_exists.mp (hsome.mpr hne)
        rw [if_neg hne] at huses
        exact ⟨_, nested, huses, by simp, hsome, hnode nested hsome c hmem role hrole⟩
    · obtain ⟨i, n, _, role, _, _, hbelow⟩ := hchildren f hf item hi
      obtain ⟨j, _, _, c, _, hname⟩ := hbelow _ hm
      simp at hname
  · intro f hf
    rcases Bindings.mem_files.mp hf with rfl | hf
    · exact acyclic_entityFile hfile
    · have hi := (hnested f hf).2
      exact acyclic_of_later (nestedItems_spec hi).2.2.2 (later_of_mentions hl hi)

/-- A resource whose blocks `rule` and `rule_state` would both give a record `RuleState`. -/
def forwarder : Entity :=
  .ofResource ⟨"aws", "hashicorp/aws", "5.0.0"⟩ "aws_forwarder"
    ⟨[], [("rule", ⟨"list", ⟨[], [("header", ⟨"single", .empty, 0, 0⟩)], none, false⟩, 0, 0⟩),
      ("rule_state", ⟨"single", .empty, 0, 0⟩)], none, false⟩

def forwarderGraph (last : String) : Graph :=
  ⟨[], [0, 2],
    [⟨"rule", [], "rule", 0, [], [1], ⟨true, false, [.list], 0, 0, .none⟩⟩,
      ⟨"header", ["rule"], "header", 0, [], [], ⟨true, false, [], 0, 0, .none⟩⟩,
      ⟨"rule_state", [], last, 0, [], [], ⟨true, false, [], 0, 0, .none⟩⟩]⟩

theorem disambiguated_forwarderGraph :
    (forwarderGraph "rule_state").disambiguated = .ok (forwarderGraph "rule_state_block") := by
  have hround : Disambiguation.round (forwarderGraph "rule_state").nodes =
      .moved (forwarderGraph "rule_state_block").nodes := by
    have hcollisions : collisions (forwarderGraph "rule_state").nodes = [[0, 2]] := by decide +kernel
    rw [Disambiguation.round, hcollisions]
    rfl
  have hsettled : Disambiguation.round (forwarderGraph "rule_state_block").nodes = .settled :=
    round_eq_settled_iff.mpr (by decide +kernel)
  have hsettle : settle (forwarderGraph "rule_state").nodes =
      ((forwarderGraph "rule_state_block").nodes, none) := by
    rw [settle_of_moved hround, settle_of_settled hsettled]
  have hunqualified : (forwarderGraph "rule_state").nodes.map Node.unqualified =
      (forwarderGraph "rule_state").nodes := rfl
  refine Graph.disambiguated_eq_ok_iff.mpr ?_
  rw [hunqualified, hsettle]
  exact ⟨rfl, rfl⟩

theorem bindings_closed_forwarder :
    ∃ g₀ g b, Graph.ofBlock forwarder.block = .ok g₀ ∧ g₀.disambiguated = .ok g ∧
      forwarder.bindings .standard g = .ok b ∧ b.nested.isSome ∧ b.Closed forwarder .standard g := by
  have hb : Graph.ofBlock forwarder.block = .ok (forwarderGraph "rule_state") := rfl
  have hd := disambiguated_forwarderGraph
  cases h : forwarder.bindings .standard (forwarderGraph "rule_state_block") with
  | error x =>
      have hok : (forwarder.bindings .standard (forwarderGraph "rule_state_block")).toBool = true := by
        decide +kernel
      rw [h] at hok
      cases hok
  | ok b =>
      have hclosed := forwarder.bindings_closed hb hd h
      have hsome : b.nested.isSome := hclosed.nested_isSome.mpr (by simp [forwarderGraph])
      exact ⟨_, _, b, hb, hd, h, hsome, hclosed⟩

end Entity

end ProviderBindings
