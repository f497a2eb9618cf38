import ProviderBindings.Proofs.Provider.KeptFiles

/-!
Entities that fail leave no trace in the files of their provider: a schema without them has the same tree, and
of the failures only the one of the provider's own configuration can remain.
-/

namespace ProviderBindings

namespace ProviderTree

variable {mount : ModulePath} {version : String} {t t' : ProviderTree} {entities : List Entity}
  {failures : List EntityFailure}

theorem failures_sublist (h : t.addEntities mount version entities = (t', failures)) :
    (failures.map EntityFailure.entity).Sublist (entities.map Entity.display) := by
  induction entities generalizing t failures with
  | nil =>
      cases h
      exact List.Sublist.slnil
  | cons e rest ih =>
      rw [addEntities] at h
      split at h
      · exact (ih h).cons _
      · rcases hrest : t.addEntities mount version rest with ⟨t₁, others⟩
        rw [hrest] at h
        cases h
        exact (ih hrest).cons_cons _

theorem mem_failures_of_error {e : Entity} {x : EntityError} (hs : e.source? mount version = .error x)
    (he : e ∈ entities) (h : t.addEntities mount version entities = (t', failures)) :
    ⟨e.display, x⟩ ∈ failures := by
  induction entities generalizing t failures with
  | nil => cases he
  | cons a rest ih =>
      rw [addEntities] at h
      rcases List.mem_cons.mp he with rfl | he
      · rw [addEntity, hs] at h
        cases h
        exact List.mem_cons_self
      · split at h
        · exact ih he h
        · rcases hrest : t.addEntities mount version rest with ⟨t₁, others⟩
          rw [hrest] at h
          cases h
          exact List.mem_cons_of_mem _ (ih he hrest)

theorem addEntities_filter {keep : String → Bool} (hd : (entities.map Entity.display).Nodup)
    (h : t.addEntities mount version entities = (t', failures))
    (hk : ∀ e ∈ entities, keep e.display = false → e.display ∈ failures.map EntityFailure.entity) :
    t.addEntities mount version (entities.filter (keep ·.display)) =
      (t', failures.filter (keep ·.entity)) := by
  induction entities generalizing t failures with
  | nil =>
      cases h
      rfl
  | cons e rest ih =>
      rw [List.map_cons, List.nodup_cons] at hd
      rw [addEntities] at h
      split at h
      · rename_i t₁ ht
        have hkept : keep e.display = true := by
          cases hno : keep e.display with
          | true => rfl
          | false => exact absurd ((failures_sublist h).subset (hk e List.mem_cons_self hno)) hd.1
        rw [List.filter_cons, if_pos hkept, addEntities, ht]
        exact ih hd.2 h fun a ha => hk a (List.mem_cons_of_mem _ ha)
      · rename_i x hx
        rcases hrest : t.addEntities mount version rest with ⟨t₁, others⟩
        rw [hrest] at h
        cases h
        have hothers := ih hd.2 hrest fun a ha hno => by
          have hlisted := hk a (List.mem_cons_of_mem _ ha) hno
          rw [List.map_cons, List.mem_cons] at hlisted
          refine hlisted.resolve_left fun heq => hd.1 ?_
          have heq : a.display = e.display := heq
          exact heq ▸ List.mem_map_of_mem ha
        cases hkeep : keep e.display with
        | true =>
            rw [List.filter_cons, if_pos hkeep, addEntities, hx, List.filter_cons, if_pos hkeep]
            simp only [hothers]
        | false =>
            rw [List.filter_cons_of_neg (by simp [hkeep]), hothers,
              List.filter_cons_of_neg (by simp [hkeep])]

end ProviderTree

def Entity.isListed (failures : List EntityFailure) (e : Entity) : Bool :=
  failures.any fun f => f.entity = e.display

namespace ProviderSpec

def withoutFailed (spec : ProviderSpec) (schema : Schema.Provider) (failures : List EntityFailure) :
    Schema.Provider :=
  { schema with
    resources := schema.resources.filter fun r =>
      !(Entity.ofResource spec r.1 r.2.block).isListed failures
    dataSources := schema.dataSources.filter fun d =>
      !(Entity.ofDataSource spec d.1 d.2.block).isListed failures }

variable {spec : ProviderSpec} {schema : Schema.Provider} {mount : ModulePath} {version : String}
  {r : ProviderSource}

def stays (spec : ProviderSpec) (failures : List EntityFailure) (name : String) : Bool :=
  name = (Entity.ofProvider spec .empty).display || !failures.any fun f => f.entity = name

theorem stays_configuration (block : Schema.Block) (failures : List EntityFailure) :
    spec.stays failures (Entity.ofProvider spec block).display = true := by
  simp [stays, Entity.display, Entity.ofProvider]

theorem stays_eq (failures : List EntityFailure) {e : Entity} (hk : e.kind ≠ .provider) :
    spec.stays failures e.display = !e.isListed failures := by
  have hne : e.display ≠ (Entity.ofProvider spec .empty).display := by
    intro heq
    exact hk (Entity.display_inj heq).1
  simp [stays, hne, Entity.isListed]

theorem entities_withoutFailed (failures : List EntityFailure) :
    spec.entities (spec.withoutFailed schema failures) =
      (spec.entities schema).filter (spec.stays failures ·.display) := by
  have hresources : ∀ r ∈ schema.resources,
      (!(Entity.ofResource spec r.1 r.2.block).isListed failures) =
        spec.stays failures (Entity.ofResource spec r.1 r.2.block).display :=
    fun r _ => (stays_eq failures (by simp [Entity.ofResource])).symm
  have hdataSources : ∀ d ∈ schema.dataSources,
      (!(Entity.ofDataSource spec d.1 d.2.block).isListed failures) =
        spec.stays failures (Entity.ofDataSource spec d.1 d.2.block).display :=
    fun d _ => (stays_eq failures (by simp [Entity.ofDataSource])).symm
  simp only [entities, withoutFailed, List.cons_append]
  rw [List.filter_cons, if_pos (stays_configuration _ failures), List.filter_append, List.filter_map,
    List.filter_map, List.filter_congr hresources, List.filter_congr hdataSources]
  rfl

theorem source?_withoutFailed (hr : Table.Ordered schema.resources)
    (hd : Table.Ordered schema.dataSources) (h : spec.source? schema mount version = .ok r) :
    ∃ r', spec.source? (spec.withoutFailed schema r.failures) mount version = .ok r' ∧
      r'.directory = r.directory ∧ r'.tree = r.tree ∧
      r'.failures = r.failures.filter
        (fun f => f.entity = (Entity.ofProvider spec schema.provider.block).display) ∧
      r'.failures.length ≤ 1 := by
  obtain ⟨tree, failures, text, hadd, htext, rfl⟩ := source?_eq_ok_iff.mp h
  have hnodup : ((spec.entities schema).map Entity.display).Nodup := nodup_display hr hd
  have hlisted : ∀ e ∈ spec.entities schema, spec.stays failures e.display = false →
      e.display ∈ failures.map EntityFailure.entity := by
    intro e _ hno
    simp only [stays, Bool.or_eq_false_iff, Bool.not_eq_false', List.any_eq_true, decide_eq_true_eq]
      at hno
    obtain ⟨f, hf, heq⟩ := hno.2
    exact heq ▸ List.mem_map_of_mem hf
  have hkept := ProviderTree.addEntities_filter hnodup hadd hlisted
  rw [← entities_withoutFailed] at hkept
  have hfailures : failures.filter (spec.stays failures ·.entity) = failures.filter
      (fun f => f.entity = (Entity.ofProvider spec schema.provider.block).display) := by
    refine List.filter_congr fun f hf => ?_
    have hany : failures.any (fun g => g.entity = f.entity) = true :=
      List.any_eq_true.mpr ⟨f, hf, by simp⟩
    rw [stays, hany, Bool.not_true, Bool.or_false]
    rfl
  rw [hfailures] at hkept
  refine ⟨_, source?_eq_ok_iff.mpr ⟨tree, _, text, hkept, htext, rfl⟩, rfl, rfl, rfl, ?_⟩
  have hnames := hnodup.sublist (ProviderTree.failures_sublist hadd)
  have hcount := List.nodup_iff_count.mp hnames (Entity.ofProvider spec schema.provider.block).display
  rw [List.count_eq_countP, List.countP_map, List.countP_eq_length_filter] at hcount
  exact hcount

def brokenSchema : Schema.Provider :=
  ⟨.empty, [("http_broken", ⟨0, ⟨[("any", ⟨some (.text "dynamic"), none, none, false, true, false, false,
    false⟩)], [], none, false⟩⟩)], [("http_page", .empty)]⟩

theorem source?_withoutFailed_broken :
    ∃ r r', http.source? brokenSchema .standard "0.1.0" = .ok r ∧
      (∃ f ∈ r.failures, f.entity = "resource `http_broken`") ∧
      (http.withoutFailed brokenSchema r.failures).resources = [] ∧
      http.source? (http.withoutFailed brokenSchema r.failures) .standard "0.1.0" = .ok r' ∧
      r'.tree = r.tree := by
  have hr : Table.Ordered brokenSchema.resources := List.pairwise_singleton _ _
  have hd : Table.Ordered brokenSchema.dataSources := List.pairwise_singleton _ _
  obtain ⟨r, hok⟩ : ∃ r, http.source? brokenSchema .standard "0.1.0" = .ok r :=
    exists_source? hr hd (by decide +kernel)
  obtain ⟨r', hok', _, htree, _⟩ := source?_withoutFailed hr hd hok
  obtain ⟨f, hf, hname⟩ : ∃ f ∈ r.failures, f.entity = "resource `http_broken`" := by
    obtain ⟨tree, failures, text, hadd, _, rfl⟩ := source?_eq_ok_iff.mp hok
    exact ⟨_, ProviderTree.mem_failures_of_error (e := .ofResource http "http_broken" _) rfl
      (List.mem_cons_of_mem _ List.mem_cons_self) hadd, by decide⟩
  refine ⟨r, r', hok, ⟨f, hf, hname⟩, ?_, hok', htree⟩
  have hlisted : ∀ b, (Entity.ofResource http "http_broken" b).isListed r.failures = true :=
    fun b => List.any_eq_true.mpr ⟨f, hf, decide_eq_true hname⟩
  simp [withoutFailed, brokenSchema, hlisted]

end ProviderSpec

end ProviderBindings
