import ProviderBindings.Proofs.Bindings.Source
import ProviderBindings.Proofs.Bindings.Vocabulary

/-!
The identifiers of an entity. When the names of the provider, of the type and of what the schema declares are
ASCII and have letters or digits, every identifier that the bindings derive from them is accepted and is no
keyword, and neither records nor modules take a reserved name.
-/

namespace ProviderBindings

open Code (declared)
open Naming (IsWordy IsLegal IsCapital IsRecordName recordName moduleName pascalCase reservedTypeNames
  reservedModuleNames isLegal_moduleName isLegal_memberName isCapital_pascalCase isCapital_recordName
  isRecordName_recordTriad)
open Schema (Level)
open Text (isAscii)

structure Entity.IsWordy (e : Entity) : Prop where
  localName : Naming.IsWordy e.spec.localName
  shortName : Naming.IsWordy e.shortName
  declared : (Level.ofBlock e.block).Everywhere Naming.IsWordy

/-- `mount` is where the output is mounted, which comes from no schema. -/
structure Bindings.Legal (b : Bindings) (e : Entity) (mount : ModulePath) : Prop where
  names : ∀ f ∈ b.files, ∀ item ∈ f.items, ∀ name ∈ item.names, IsLegal name
  uses : ∀ f ∈ b.files, ∀ path ∈ f.uses, path = mount.segments ++ [e.names.directory, e.names.nested]
  records : ∀ f ∈ b.files, ∀ name ∈ declared f.items, name ∉ reservedTypeNames
  directory : IsLegal e.names.directory
  nested : IsLegal e.names.nested
  /-- The module of the entity's own file has the whole type name, of which the short name is a part. -/
  unit : (∀ c ∈ e.typeName.toList, isAscii c = true) → IsLegal e.names.unit
  unit_free : ¬ ['r', '#'] <+: e.names.unit.toList →
    e.names.unit ∉ Naming.keywords ∧ e.names.unit ∉ Naming.nonRawKeywords
  modules : ∀ m ∈ [e.names.directory, e.names.unit, e.names.nested], m ∉ reservedModuleNames

namespace Entity

variable {e : Entity}

/-! ### Records -/

theorem isCapital_record (h : e.IsWordy) : IsCapital e.record ∧ e.record ∉ reservedTypeNames := by
  have hprovider : IsCapital "Provider" ∧ "Provider" ∉ reservedTypeNames := by decide
  rw [record]
  cases e.kind with
  | provider => exact hprovider
  | resource => exact ⟨isCapital_recordName h.shortName, Naming.recordName_not_mem_reserved _⟩
  | dataSource =>
      have hpascal := (isCapital_pascalCase h.shortName).plain
      have hdata : IsCapital "Data" := by decide
      exact ⟨hdata.append (Naming.isNameChar_of_isPlainIdentifier hpascal),
        Naming.not_mem_of_lead (by decide) _⟩

theorem isRecordName_names (h : e.IsWordy) :
    IsRecordName e.names.record ∧ ∀ role, IsRecordName (e.triad.get role) := by
  obtain ⟨hcapital, hreserved⟩ := isCapital_record h
  refine ⟨hcapital.isRecordName hreserved, fun role => ?_⟩
  cases role with
  | args => exact hcapital.suffixed (by decide)
  | attributes => exact hcapital.suffixed (by decide)
  | state => exact hcapital.suffixed (by decide)

/-! ### Modules -/

theorem isLegal_nested (h : e.IsWordy) : IsLegal e.names.nested := by
  have hdata : Naming.IsWordy "data_" := by decide
  change IsLegal e.nestedUnit
  rw [nestedUnit]
  cases e.kind with
  | provider => exact isLegal_moduleName (h.localName.append (by decide))
  | resource => exact isLegal_moduleName h.shortName
  | dataSource => exact isLegal_moduleName (hdata.append h.shortName.ascii)

theorem unit_cases (e : Entity) :
    e.names.unit = "provider" ∨ e.names.unit = moduleName ("resource_" ++ e.typeName) ∨
      e.names.unit = moduleName ("data_" ++ e.typeName) := by
  change e.unit = _ ∨ e.unit = _ ∨ e.unit = _
  rw [unit]
  cases e.kind with
  | provider => exact .inl rfl
  | resource => exact .inr (.inl rfl)
  | dataSource => exact .inr (.inr rfl)

theorem isLegal_unit (h : ∀ c ∈ e.typeName.toList, isAscii c = true) : IsLegal e.names.unit := by
  have hresource : Naming.IsWordy "resource_" := by decide
  have hdata : Naming.IsWordy "data_" := by decide
  rcases e.unit_cases with heq | heq | heq
  · rw [heq]
    decide
  · rw [heq]
    exact isLegal_moduleName (hresource.append h)
  · rw [heq]
    exact isLegal_moduleName (hdata.append h)

theorem free_unit (e : Entity) (hraw : ¬ ['r', '#'] <+: e.names.unit.toList) :
    e.names.unit ∉ Naming.keywords ∧ e.names.unit ∉ Naming.nonRawKeywords := by
  rcases e.unit_cases with heq | heq | heq
  · rw [heq]
    decide
  · rw [heq] at hraw ⊢
    exact Naming.free_moduleName _ hraw
  · rw [heq] at hraw ⊢
    exact Naming.free_moduleName _ hraw

theorem modules_unreserved (e : Entity) :
    ∀ m ∈ [e.names.directory, e.names.unit, e.names.nested], m ∉ reservedModuleNames := by
  have hdirectory : e.names.directory ∉ reservedModuleNames := Naming.moduleName_not_mem_reserved _
  have hunit : e.names.unit ∉ reservedModuleNames := by
    rcases e.unit_cases with heq | heq | heq
    · rw [heq]
      decide
    · rw [heq]
      exact Naming.moduleName_not_mem_reserved _
    · rw [heq]
      exact Naming.moduleName_not_mem_reserved _
  have hnested : e.names.nested ∉ reservedModuleNames := by
    change e.nestedUnit ∉ reservedModuleNames
    rw [nestedUnit]
    cases e.kind with
    | provider | resource | dataSource => exact Naming.moduleName_not_mem_reserved _
  simp [hdirectory, hunit, hnested]

/-! ### Both files -/

variable {g₀ g : Graph}

theorem isRecordName_triad (h : e.IsWordy) (hb : Graph.ofBlock e.block = .ok g₀)
    (hd : g₀.disambiguated = .ok g) : ∀ n ∈ g.nodes, ∀ role, IsRecordName (n.triad.get role) := by
  intro n hn role
  have hnamed := Graph.namedBy_of_unqualified (Graph.unqualified_of_disambiguated hd)
    (Graph.namedBy_ofBlock hb h.declared)
  have hword := Node.isWordy_uniqueName (hnamed.nodes n hn) (Graph.isSpelled_of_disambiguated hd n hn)
  refine isRecordName_recordTriad hword _ ?_
  cases role with
  | args => exact List.mem_cons_self
  | attributes => exact List.mem_cons_of_mem _ List.mem_cons_self
  | state => exact List.mem_cons_of_mem _ (List.mem_cons_of_mem _ List.mem_cons_self)

theorem covers_isLegal (h : e.IsWordy) (hb : Graph.ofBlock e.block = .ok g₀)
    (hd : g₀.disambiguated = .ok g) : e.Covers IsLegal g where
  words := by decide
  record := (isRecordName_names h).1.legal
  records role := ((isRecordName_names h).2 role).legal
  nested := isLegal_nested h
  named := by
    have hnamed := Graph.namedBy_ofBlock hb (h.declared.mono fun _ => isLegal_memberName)
    exact Graph.namedBy_of_unqualified (Graph.unqualified_of_disambiguated hd) hnamed
  nodes n hn role := (isRecordName_triad h hb hd n hn role).legal

theorem declared_bindings {mount : ModulePath} {b : Bindings} (hm : e.bindings mount g = .ok b) :
    ∀ f ∈ b.files, ∀ name ∈ declared f.items, name = e.names.record ∨
      ∃ role, name = e.triad.get role ∨ ∃ n ∈ g.nodes, name = n.triad.get role := by
  obtain ⟨_, hnested, hfile⟩ := bindings_spec hm
  intro f hf name hname
  rcases Bindings.mem_files.mp hf with rfl | hf
  · obtain ⟨_, _, _, records, hr, hitems, _⟩ := entityFile_spec hfile
    rw [hitems, declared_entityFile (holds_recordItems hr).2, List.mem_cons, List.mem_map] at hname
    rcases hname with heq | ⟨role, _, heq⟩
    · exact .inl heq
    · exact .inr ⟨role, .inl heq.symm⟩
  · rw [(nestedItems_spec (hnested f hf).2).1, List.mem_flatMap] at hname
    obtain ⟨n, hn, hname⟩ := hname
    rw [recordNames_eq, List.mem_map] at hname
    obtain ⟨role, _, heq⟩ := hname
    exact .inr ⟨role, .inr ⟨n, hn, heq.symm⟩⟩

theorem bindings?_legal {mount : ModulePath} {b : Bindings} (h : e.IsWordy)
    (hb : e.bindings? mount = .ok b) : b.Legal e mount := by
  obtain ⟨g₀, g, hg, hd, hm⟩ := bindings?_eq_ok_iff.mp hb
  obtain ⟨hrecord, hrecords⟩ := isRecordName_names h
  have hnodes := isRecordName_triad h hg hd
  refine ⟨covers_bindings (covers_isLegal h hg hd) hm, ?_, ?_, isLegal_moduleName h.localName,
    isLegal_nested h, isLegal_unit, e.free_unit, e.modules_unreserved⟩
  · obtain ⟨_, hnested, hfile⟩ := bindings_spec hm
    obtain ⟨_, _, _, _, _, _, huses⟩ := entityFile_spec hfile
    intro f hf path hpath
    rcases Bindings.mem_files.mp hf with rfl | hf
    · rw [huses] at hpath
      split at hpath
      · cases hpath
      · exact List.mem_singleton.mp hpath
    · rw [(hnested f hf).1] at hpath
      cases hpath
  · intro f hf name hname
    rcases declared_bindings hm f hf name hname with rfl | ⟨role, rfl | ⟨n, hn, rfl⟩⟩
    · exact hrecord.unreserved
    · exact (hrecords role).unreserved
    · exact (hnodes n hn role).unreserved

def wordingOption : Schema.Block :=
  ⟨[("crate", ⟨some (.text "number"), none, none, true, false, false, false, false⟩)], [], none, false⟩

def wording : Entity :=
  .ofResource ⟨"self", "hashicorp/http", "3.4.5"⟩ "http_type"
    ⟨[("3d", ⟨some (.text "string"), none, none, true, false, false, false, false⟩),
        ("self", ⟨some (.text "bool"), none, none, false, true, false, false, false⟩)],
      [("option", ⟨"list", wordingOption, 0, 0⟩)], none, false⟩

def wordingGraph : Graph :=
  ⟨[⟨"3d", .string, true, true, .none⟩, ⟨"self", .bool, true, false, .none⟩], [0],
    [⟨"option", [], "option", 0, [⟨"crate", .number, true, true, .none⟩], [],
      ⟨true, false, [.list], 0, 0, .none⟩⟩]⟩

theorem isWordy_wording : wording.IsWordy where
  localName := by decide
  shortName := by decide
  declared := by
    refine Schema.Level.everywhere_of_closed (S := fun level =>
      level = Level.ofBlock wording.block ∨ level = Level.ofBlock wordingOption ∨ level = []) (.inl rfl) ?_
    rintro level (rfl | rfl | rfl)
    · exact List.forall_mem_cons.mpr ⟨⟨by decide, .inr (.inr rfl)⟩, List.forall_mem_cons.mpr
        ⟨⟨by decide, .inr (.inr rfl)⟩, List.forall_mem_singleton.mpr ⟨by decide, .inr (.inl rfl)⟩⟩⟩
    · exact List.forall_mem_singleton.mpr ⟨by decide, .inr (.inr rfl)⟩
    · simp

theorem bindings?_legal_wording : wording.IsWordy ∧ wording.names.directory = "self_" ∧
    wording.names.nested = "r#type" ∧
    ∃ b, wording.bindings? .standard = .ok b ∧ b.nested.isSome ∧ b.Legal wording .standard := by
  have hg : Graph.ofBlock wording.block = .ok wordingGraph := rfl
  have hd : wordingGraph.disambiguated = .ok wordingGraph :=
    Graph.disambiguated_of_settled rfl (by decide +kernel)
  obtain ⟨b, hm⟩ : ∃ b, wording.bindings .standard wordingGraph = .ok b :=
    exists_of_toBool (by decide +kernel)
  have hb : wording.bindings? .standard = .ok b := bindings?_eq_ok_iff.mpr ⟨_, _, hg, hd, hm⟩
  have hsome : b.nested.isSome := (bindings_spec hm).1.mpr (by simp [wordingGraph])
  exact ⟨isWordy_wording, by decide +kernel, by decide +kernel, b, hb, hsome,
    bindings?_legal isWordy_wording hb⟩

end Entity

end ProviderBindings
