import ProviderBindings.Proofs.Bindings.Source
import ProviderBindings.Proofs.Table
import ProviderBindings.Provider.Source

/-!
What a tree holds after entities have been added one after another: the files of those that were added, which
share no paths, and nothing of those that failed.
-/

namespace ProviderBindings

namespace ProviderTree

variable {owner path : String} {files : List SourceFile} {table : Table OwnedFile}

theorem foldl_put : files.foldl (put owner) table =
    (files.map fun f => (f.path, OwnedFile.mk owner f.contents)).foldl
      (fun t p => Table.insert p.1 p.2 t) table := by
  rw [List.foldl_map]
  rfl

theorem mem_keys_foldl_put :
    path ∈ Table.keys (files.foldl (put owner) table) ↔
      path ∈ Table.keys table ∨ path ∈ files.map SourceFile.path := by
  rw [foldl_put, Table.mem_keys_foldl_insert, Table.keys, Table.keys, List.map_map]
  rfl

theorem get?_foldl_put_of_not_mem (h : path ∉ files.map SourceFile.path) :
    Table.get? path (files.foldl (put owner) table) = Table.get? path table := by
  rw [foldl_put]
  refine Table.get?_foldl_insert_of_not_mem ?_
  rw [Table.keys, List.map_map]
  exact h

theorem get?_foldl_put_of_nodup (hn : (files.map SourceFile.path).Nodup) :
    ∀ f ∈ files, Table.get? f.path (files.foldl (put owner) table) = some ⟨owner, f.contents⟩ := by
  intro f hf
  rw [foldl_put]
  refine Table.get?_foldl_insert_of_nodup ?_ (f.path, OwnedFile.mk owner f.contents)
    (List.mem_map_of_mem hf)
  rw [Table.keys, List.map_map]
  exact hn

variable {t t' : ProviderTree} {modules : List String}

theorem owner?_eq_none_iff : t.owner? path = none ↔ path ≠ t.indexPath ∧ path ∉ Table.keys t.files := by
  rw [owner?]
  split
  · rename_i h
    simp [h]
  · rename_i h
    simp [h, Table.get?_eq_none_iff]

theorem clash?_eq_none_iff : t.clash? owner files = none ↔ ∀ f ∈ files, t.owner? f.path = none := by
  induction files with
  | nil => simp [clash?]
  | cons f rest ih =>
      simp only [clash?]
      split
      · rename_i h
        simp [h]
      · rename_i h
        simp [h, ih]

theorem insert_eq_ok_iff :
    t.insert owner files modules = .ok t' ↔
      (∀ f ∈ files, f.path ≠ t.indexPath ∧ f.path ∉ Table.keys t.files) ∧
        t' = ⟨t.indexPath, files.foldl (put owner) t.files, t.declared ++ modules⟩ := by
  rw [insert]
  split
  · rename_i clash h
    have hnot : ¬ ∀ f ∈ files, t.owner? f.path = none := by
      intro hall
      rw [clash?_eq_none_iff.mpr hall] at h
      cases h
    simp only [owner?_eq_none_iff] at hnot
    simp [hnot]
  · rename_i h
    have hall := clash?_eq_none_iff.mp h
    simp only [owner?_eq_none_iff] at hall
    rw [Except.ok.injEq, eq_comm]
    exact ⟨fun heq => ⟨hall, heq⟩, fun heq => heq.2⟩

end ProviderTree

structure ProviderTree.Holds (mount : ModulePath) (version : String) (t : ProviderTree)
    (kept : List Entity) : Prop where
  sourced : ∀ e ∈ kept, ∃ source, e.source? mount version = .ok source
  disjoint : kept.Pairwise fun a b =>
    ∀ path ∈ a.outputPaths mount version, path ∉ b.outputPaths mount version
  index_free : t.indexPath ∉ Table.keys t.files
  mem_keys : ∀ path, path ∈ Table.keys t.files ↔ ∃ e ∈ kept, path ∈ e.outputPaths mount version
  stored : ∀ e ∈ kept, (e.outputPaths mount version).Nodup →
    ∀ f ∈ e.outputFiles mount version, Table.get? f.path t.files = some ⟨e.display, f.contents⟩
  declared : t.declared = kept.flatMap (·.outputModules mount version)

namespace ProviderTree

variable {mount : ModulePath} {version : String} {t t' : ProviderTree} {kept : List Entity} {e : Entity}

theorem holds_empty (indexPath : String) : (empty indexPath).Holds mount version [] := by
  constructor <;> simp [empty, Table.keys]

theorem addEntity_eq_ok_iff :
    t.addEntity mount version e = .ok t' ↔
      ∃ source, e.source? mount version = .ok source ∧
        t.insert e.display source.files source.modules = .ok t' := by
  rw [addEntity]
  split
  · rename_i h
    simp [h]
  · rename_i source h
    simp only [h, Except.ok.injEq, exists_eq_left']
    split
    · rename_i h
      simp [h]
    · rename_i h
      simp [h]

theorem Holds.addEntity (h : t.Holds mount version kept) (ha : t.addEntity mount version e = .ok t') :
    t'.Holds mount version (kept ++ [e]) ∧ t'.indexPath = t.indexPath := by
  obtain ⟨source, hs, hi⟩ := addEntity_eq_ok_iff.mp ha
  obtain ⟨hfree, rfl⟩ := insert_eq_ok_iff.mp hi
  have hfiles : e.outputFiles mount version = source.files := by rw [Entity.outputFiles, hs]
  have hmodules : e.outputModules mount version = source.modules := by rw [Entity.outputModules, hs]
  have hpaths : e.outputPaths mount version = source.files.map SourceFile.path := by
    rw [Entity.outputPaths, hfiles]
  have hnew : ∀ path ∈ e.outputPaths mount version, path ≠ t.indexPath ∧ path ∉ Table.keys t.files := by
    rw [hpaths]
    intro path hp
    obtain ⟨f, hf, rfl⟩ := List.mem_map.mp hp
    exact hfree f hf
  refine ⟨⟨?_, ?_, ?_, ?_, ?_, ?_⟩, rfl⟩
  · intro a ha
    rcases List.mem_append.mp ha with ha | ha
    · exact h.sourced a ha
    · exact ⟨source, by rw [List.mem_singleton.mp ha, hs]⟩
  · refine List.pairwise_append.mpr ⟨h.disjoint, by simp, fun a hmem b hb path hp hp' => ?_⟩
    rw [List.mem_singleton.mp hb] at hp'
    exact (hnew path hp').2 ((h.mem_keys path).mpr ⟨a, hmem, hp⟩)
  · intro hk
    rcases mem_keys_foldl_put.mp hk with hk | hk
    · exact h.index_free hk
    · rw [← hpaths] at hk
      exact (hnew _ hk).1 rfl
  · intro path
    rw [mem_keys_foldl_put, h.mem_keys, ← hpaths]
    simp [or_and_right, exists_or]
  · intro a ha hn f hf
    rcases List.mem_append.mp ha with ha | ha
    · have hkept := h.stored a ha hn f hf
      have hmem : f.path ∈ Table.keys t.files :=
        (h.mem_keys f.path).mpr ⟨a, ha, List.mem_map_of_mem hf⟩
      rw [get?_foldl_put_of_not_mem, hkept]
      rw [← hpaths]
      exact fun hp => (hnew _ hp).2 hmem
    · obtain rfl := List.mem_singleton.mp ha
      rw [hpaths] at hn
      rw [hfiles] at hf
      exact get?_foldl_put_of_nodup hn f hf
  · rw [h.declared, List.flatMap_append, ← hmodules]
    simp

def unlisted (failures : List EntityFailure) (entities : List Entity) : List Entity :=
  entities.filter fun e => e.display ∉ failures.map EntityFailure.entity

theorem unlisted_cons_failure {failures : List EntityFailure} {entities : List Entity} {x : EntityError}
    (h : e.display ∉ entities.map Entity.display) :
    unlisted (⟨e.display, x⟩ :: failures) (e :: entities) = unlisted failures entities := by
  rw [unlisted, List.filter_cons_of_neg (by simp)]
  refine List.filter_congr fun a ha => ?_
  have hne : a.display ≠ e.display := fun heq => h (heq ▸ List.mem_map_of_mem ha)
  simp [hne]

theorem Holds.addEntities {entities : List Entity} (hd : (entities.map Entity.display).Nodup)
    (h : t.Holds mount version kept) {failures : List EntityFailure}
    (ha : t.addEntities mount version entities = (t', failures)) :
    t'.Holds mount version (kept ++ unlisted failures entities) ∧ t'.indexPath = t.indexPath ∧
      ∀ f ∈ failures, f.entity ∈ entities.map Entity.display := by
  induction entities generalizing t kept failures with
  | nil =>
      cases ha
      simpa [unlisted] using h
  | cons e rest ih =>
      rw [List.map_cons, List.nodup_cons] at hd
      rw [ProviderTree.addEntities] at ha
      split at ha
      · rename_i t₁ ht
        obtain ⟨h₁, hindex₁⟩ := h.addEntity ht
        obtain ⟨h₂, hindex₂, hlisted⟩ := ih hd.2 h₁ ha
        have hkept : e.display ∉ failures.map EntityFailure.entity := by
          intro hmem
          obtain ⟨f, hf, heq⟩ := List.mem_map.mp hmem
          exact hd.1 (heq ▸ hlisted f hf)
        refine ⟨?_, by rw [hindex₂, hindex₁], fun f hf => List.mem_cons_of_mem _ (hlisted f hf)⟩
        rw [unlisted, List.filter_cons_of_pos (by simpa using hkept), ← List.singleton_append,
          ← List.append_assoc]
        exact h₂
      · rename_i x hx
        cases hrest : t.addEntities mount version rest with
        | mk t₁ others =>
            rw [hrest] at ha
            cases ha
            obtain ⟨h₁, hindex, hlisted⟩ := ih hd.2 h hrest
            refine ⟨?_, hindex, fun f hf => ?_⟩
            · rw [unlisted_cons_failure hd.1]
              exact h₁
            · rcases List.mem_cons.mp hf with rfl | hf
              · simp
              · exact List.mem_cons_of_mem _ (hlisted f hf)

theorem Holds.failures_eq_nil {entities : List Entity} (h : t.Holds mount version kept)
    (hs : ∀ e ∈ entities, ∃ source, e.source? mount version = .ok source)
    (hd : (kept ++ entities).Pairwise fun a b =>
      ∀ path ∈ a.outputPaths mount version, path ∉ b.outputPaths mount version)
    (hi : ∀ e ∈ entities, t.indexPath ∉ e.outputPaths mount version) :
    (t.addEntities mount version entities).2 = [] := by
  induction entities generalizing t kept with
  | nil => rfl
  | cons e rest ih =>
      obtain ⟨source, hsource⟩ := hs e (by simp)
      have hpaths : e.outputPaths mount version = source.files.map SourceFile.path := by
        rw [Entity.outputPaths, Entity.outputFiles, hsource]
      have hfree : ∀ f ∈ source.files, f.path ≠ t.indexPath ∧ f.path ∉ Table.keys t.files := by
        intro f hf
        have hmem : f.path ∈ e.outputPaths mount version := hpaths ▸ List.mem_map_of_mem hf
        refine ⟨fun heq => hi e (by simp) (heq ▸ hmem), fun hkey => ?_⟩
        obtain ⟨a, ha, hp⟩ := (h.mem_keys f.path).mp hkey
        exact (List.pairwise_append.mp hd).2.2 a ha e (by simp) f.path hp hmem
      have hinsert : t.insert e.display source.files source.modules = .ok _ :=
        insert_eq_ok_iff.mpr ⟨hfree, rfl⟩
      have hadd := addEntity_eq_ok_iff.mpr ⟨source, hsource, hinsert⟩
      obtain ⟨h₁, hindex⟩ := h.addEntity hadd
      rw [ProviderTree.addEntities, hadd]
      refine ih h₁ (fun a ha => hs a (List.mem_cons_of_mem _ ha)) ?_ fun a ha => ?_
      · rw [List.append_assoc]
        exact hd
      · rw [hindex]
        exact hi a (List.mem_cons_of_mem _ ha)

end ProviderTree

end ProviderBindings
