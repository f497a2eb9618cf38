import ProviderBindings.ProviderSpec
import ProviderBindings.Proofs.Success

/-!
Which lists of specs are accepted, and what is reported of the others: the first spec that is malformed or
repeats a local name, and only if there is none the first provider whose directory is taken.
-/

namespace ProviderBindings

/-! ### Local names -/

theorem readSpecs_eq_ok_iff {earlier specs : List String} {providers : List ProviderSpec} :
    readSpecs earlier specs = .ok providers ↔ specs.mapM ProviderSpec.ofString? = .ok providers ∧
      (providers.map ProviderSpec.localName).Nodup ∧ ∀ p ∈ providers, p.localName ∉ earlier := by
  induction specs generalizing earlier providers with
  | nil =>
      constructor
      · rintro ⟨⟩
        simp [pure, Except.pure]
      · rintro ⟨⟨⟩, -⟩
        rfl
  | cons spec rest ih =>
      rw [readSpecs, List.mapM_cons, bind_eq_ok_iff, bind_eq_ok_iff]
      constructor
      · rintro ⟨p, hp, h⟩
        split at h
        · cases h
        · rename_i hnew
          obtain ⟨others, hothers, hcons⟩ := bind_eq_ok_iff.mp h
          cases hcons
          obtain ⟨hread, hnodup, hearlier⟩ := ih.mp hothers
          have hp' : p.localName ∉ others.map ProviderSpec.localName := fun hmem => by
            obtain ⟨q, hq, heq⟩ := List.mem_map.mp hmem
            exact hearlier q hq (heq ▸ List.mem_cons_self)
          refine ⟨⟨p, hp, bind_eq_ok_iff.mpr ⟨others, hread, rfl⟩⟩, List.nodup_cons.mpr ⟨hp', hnodup⟩, ?_⟩
          intro q hq hmem
          rcases List.mem_cons.mp hq with rfl | hq
          · exact hnew (List.contains_iff_mem.mpr hmem)
          · exact hearlier q hq (List.mem_cons_of_mem _ hmem)
      · rintro ⟨⟨p, hp, h⟩, hnodup, hearlier⟩
        obtain ⟨others, hothers, hcons⟩ := bind_eq_ok_iff.mp h
        cases hcons
        obtain ⟨hp', hnodup⟩ := List.nodup_cons.mp hnodup
        have hnew : ¬ earlier.contains p.localName = true := fun hmem =>
          hearlier p List.mem_cons_self (List.contains_iff_mem.mp hmem)
        refine ⟨p, hp, ?_⟩
        rw [if_neg hnew, bind_eq_ok_iff]
        refine ⟨others, ih.mpr ⟨hothers, hnodup, fun q hq hmem => ?_⟩, rfl⟩
        rcases List.mem_cons.mp hmem with heq | hmem
        · exact hp' (List.mem_map.mpr ⟨q, hq, heq⟩)
        · exact hearlier q (List.mem_cons_of_mem _ hq) hmem

inductive SpecRefused (taken : List String) (spec : String) : ConfigError → Prop
  | malformed {x : ConfigError} (h : ProviderSpec.ofString? spec = .error x) : SpecRefused taken spec x
  | repeated {p : ProviderSpec} (h : ProviderSpec.ofString? spec = .ok p) (ht : p.localName ∈ taken) :
      SpecRefused taken spec (.duplicateLocalName p.localName)

section

variable {earlier before specs rest : List String} {spec : String} {p : ProviderSpec}
  {read : List ProviderSpec} {x : ConfigError}

theorem readSpecs_cons (h : ProviderSpec.ofString? spec = .ok p) :
    readSpecs earlier (spec :: rest) =
      if p.localName ∈ earlier then .error (.duplicateLocalName p.localName)
      else (readSpecs (p.localName :: earlier) rest).map (p :: ·) := by
  rw [readSpecs, h]
  simp only [List.contains_iff_mem, bind, Except.bind]
  split
  · rfl
  · cases readSpecs (p.localName :: earlier) rest <;> rfl

theorem readSpecs_of_refused (h : SpecRefused earlier spec x) :
    readSpecs earlier (spec :: rest) = .error x := by
  cases h with
  | malformed h =>
      rw [readSpecs, h]
      rfl
  | repeated h ht => rw [readSpecs_cons h, if_pos ht]

def takenBy (read : List ProviderSpec) (earlier : List String) : List String :=
  (read.map ProviderSpec.localName).reverse ++ earlier

theorem takenBy_cons (p : ProviderSpec) (read : List ProviderSpec) (earlier : List String) :
    takenBy (p :: read) earlier = takenBy read (p.localName :: earlier) := by
  simp [takenBy]

theorem readSpecs_append (h : readSpecs earlier before = .ok read) :
    readSpecs earlier (before ++ rest) = (readSpecs (takenBy read earlier) rest).map (read ++ ·) := by
  induction before generalizing earlier read with
  | nil =>
      cases h
      exact (congrFun Except.map_id _).symm
  | cons spec before ih =>
      obtain ⟨p, hp, _⟩ := bind_eq_ok_iff.mp h
      rw [readSpecs_cons hp] at h
      rw [List.cons_append, readSpecs_cons hp]
      split at h
      · cases h
      · rename_i hnew
        obtain ⟨others, ho, rfl⟩ := map_eq_ok_iff.mp h
        rw [if_neg hnew, ih ho, takenBy_cons]
        cases readSpecs (takenBy others (p.localName :: earlier)) rest <;> rfl

theorem readSpecs_eq_error_iff : readSpecs earlier specs = .error x ↔
    ∃ before spec after read, specs = before ++ spec :: after ∧ readSpecs earlier before = .ok read ∧
      SpecRefused (takenBy read earlier) spec x := by
  constructor
  · intro h
    induction specs generalizing earlier with
    | nil => cases h
    | cons spec rest ih =>
        cases hp : ProviderSpec.ofString? spec with
        | error e =>
            rw [readSpecs, hp] at h
            cases h
            exact ⟨[], spec, rest, [], rfl, rfl, .malformed hp⟩
        | ok p =>
            rw [readSpecs_cons hp] at h
            split at h
            · rename_i htaken
              cases h
              exact ⟨[], spec, rest, [], rfl, rfl, .repeated hp htaken⟩
            · rename_i hnew
              obtain ⟨before, spec', after, read, rfl, hread, hrefused⟩ := ih (map_eq_error_iff.mp h)
              rw [← takenBy_cons p read earlier] at hrefused
              refine ⟨spec :: before, spec', after, p :: read, rfl, ?_, hrefused⟩
              rw [readSpecs_cons hp, if_neg hnew, hread]
              rfl
  · rintro ⟨before, spec, after, read, rfl, hread, hrefused⟩
    rw [readSpecs_append hread, readSpecs_of_refused hrefused]
    rfl

end

/-! ### Directories -/

section

variable {earlier providers before rest : List ProviderSpec} {x : ConfigError}

theorem checkDirectories_eq_ok_iff : checkDirectories earlier providers = .ok () ↔
    (providers.map ProviderSpec.stem).Nodup ∧ ∀ a ∈ earlier, ∀ b ∈ providers, a.stem ≠ b.stem := by
  induction providers generalizing earlier with
  | nil => simp [checkDirectories]
  | cons p rest ih =>
      simp only [checkDirectories, List.map_cons, List.nodup_cons, List.mem_map, List.mem_cons,
        forall_eq_or_imp]
      split
      · rename_i first hfirst
        have hmem := List.mem_of_find?_eq_some hfirst
        have hstem : first.stem = p.stem := by simpa using List.find?_some hfirst
        exact ⟨nofun, fun h => absurd hstem (h.2 first hmem).1⟩
      · rename_i hnew
        have hne : ∀ a ∈ earlier, a.stem ≠ p.stem := fun a ha => by
          simpa using List.find?_eq_none.mp hnew a ha
        rw [ih]
        constructor
        · rintro ⟨hnodup, hearlier⟩
          refine ⟨⟨?_, hnodup⟩, fun a ha => ⟨hne a ha, hearlier a (List.mem_cons_of_mem p ha)⟩⟩
          rintro ⟨b, hb, heq⟩
          exact hearlier p List.mem_cons_self b hb heq.symm
        · rintro ⟨⟨hp, hnodup⟩, hearlier⟩
          refine ⟨hnodup, fun a ha b hb heq => ?_⟩
          rcases List.mem_cons.mp ha with rfl | ha
          · exact hp ⟨b, hb, heq.symm⟩
          · exact (hearlier a ha).2 b hb heq

theorem checkProviderModules_eq_ok_iff :
    checkProviderModules providers = .ok () ↔ (providers.map ProviderSpec.stem).Nodup := by
  simp [checkProviderModules, checkDirectories_eq_ok_iff]

theorem checkDirectories_append (h : checkDirectories earlier before = .ok ()) :
    checkDirectories earlier (before ++ rest) = checkDirectories (before.reverse ++ earlier) rest := by
  induction before generalizing earlier with
  | nil => rfl
  | cons p before ih =>
      simp only [checkDirectories] at h
      split at h
      · cases h
      · rename_i hnew
        simp [checkDirectories, hnew, ih h]

inductive FirstCollision (providers : List ProviderSpec) : ConfigError → Prop
  | intro {before between after : List ProviderSpec} {first second : ProviderSpec}
      (hsplit : providers = (before ++ first :: between) ++ second :: after)
      (hfree : ((before ++ first :: between).map ProviderSpec.stem).Nodup)
      (hstem : first.stem = second.stem) :
      FirstCollision providers (.moduleCollision first.localName second.localName second.directory)

theorem exists_collision (h : checkDirectories earlier providers = .error x) :
    ∃ before second after first, providers = before ++ second :: after ∧
      checkDirectories earlier before = .ok () ∧
      (before.reverse ++ earlier).find? (·.stem = second.stem) = some first ∧
      x = .moduleCollision first.localName second.localName second.directory := by
  induction providers generalizing earlier with
  | nil => cases h
  | cons p rest ih =>
      simp only [checkDirectories] at h
      split at h
      · rename_i first hfirst
        cases h
        exact ⟨[], p, rest, first, rfl, rfl, hfirst, rfl⟩
      · rename_i hnew
        obtain ⟨before, second, after, first, rfl, hok, hfirst, rfl⟩ := ih h
        exact ⟨p :: before, second, after, first, rfl, by simp [checkDirectories, hnew, hok],
          by simpa using hfirst, rfl⟩

theorem checkProviderModules_eq_error_iff :
    checkProviderModules providers = .error x ↔ FirstCollision providers x := by
  constructor
  · intro h
    obtain ⟨before, second, after, first, rfl, hok, hfirst, rfl⟩ := exists_collision h
    rw [List.append_nil] at hfirst
    have hmem : first ∈ before := List.mem_reverse.mp (List.mem_of_find?_eq_some hfirst)
    obtain ⟨lead, between, rfl⟩ := List.append_of_mem hmem
    exact .intro rfl (checkProviderModules_eq_ok_iff.mp hok) (by simpa using List.find?_some hfirst)
  · rintro ⟨rfl, hfree, hstem⟩
    rename_i before between after first second
    have hok := checkProviderModules_eq_ok_iff.mpr hfree
    have hfound : (before ++ first :: between).reverse.find? (·.stem = second.stem) = some first := by
      -- Nothing behind the first provider of the directory has it too.
      have hothers : ∀ q ∈ between, q.stem ≠ second.stem := by
        intro q hq heq
        rw [List.map_append, List.map_cons] at hfree
        have hnot := (List.nodup_cons.mp (List.nodup_append.mp hfree).2.1).1
        exact hnot (List.mem_map.mpr ⟨q, hq, heq.trans hstem.symm⟩)
      have hnone : between.reverse.find? (·.stem = second.stem) = none := by
        simpa [List.find?_eq_none] using hothers
      simp [List.find?_append, hnone, hstem]
    rw [checkProviderModules, checkDirectories_append hok, List.append_nil, checkDirectories, hfound]

end

/-! ### Lists of specs -/

theorem parseProviderSpecs_eq_ok_iff {specs : List String} {providers : List ProviderSpec} :
    parseProviderSpecs specs = .ok providers ↔ specs.mapM ProviderSpec.ofString? = .ok providers ∧
      (providers.map ProviderSpec.localName).Nodup ∧ (providers.map ProviderSpec.stem).Nodup := by
  rw [parseProviderSpecs, bind_eq_ok_iff]
  constructor
  · rintro ⟨read, hread, h⟩
    obtain ⟨⟨⟩, hmodules, heq⟩ := bind_eq_ok_iff.mp h
    cases heq
    obtain ⟨hmap, hnodup, -⟩ := readSpecs_eq_ok_iff.mp hread
    exact ⟨hmap, hnodup, checkProviderModules_eq_ok_iff.mp hmodules⟩
  · rintro ⟨hmap, hnodup, hstems⟩
    exact ⟨providers, readSpecs_eq_ok_iff.mpr ⟨hmap, hnodup, by simp⟩,
      bind_eq_ok_iff.mpr ⟨(), checkProviderModules_eq_ok_iff.mpr hstems, rfl⟩⟩

theorem nodup_localName_of_stem {providers : List ProviderSpec}
    (h : (providers.map ProviderSpec.stem).Nodup) : (providers.map ProviderSpec.localName).Nodup := by
  refine List.pairwise_map.mpr ((List.pairwise_map.mp h).imp fun {p q} hne heq => hne ?_)
  rw [ProviderSpec.stem, ProviderSpec.stem, ProviderSpec.directory, ProviderSpec.directory, heq]

theorem SpecRefused.mono {taken taken' : List String} {spec : String} {x : ConfigError}
    (h : SpecRefused taken spec x) (ht : ∀ name ∈ taken, name ∈ taken') : SpecRefused taken' spec x := by
  cases h with
  | malformed h => exact .malformed h
  | repeated h hmem => exact .repeated h (ht _ hmem)

theorem mem_takenBy_nil {read : List ProviderSpec} {name : String} :
    name ∈ takenBy read [] ↔ name ∈ read.map ProviderSpec.localName := by
  simp [takenBy]

inductive SpecsRefused (specs : List String) : ConfigError → Prop
  | spec {before after : List String} {spec : String} {read : List ProviderSpec} {x : ConfigError}
      (hsplit : specs = before ++ spec :: after)
      (hread : before.mapM ProviderSpec.ofString? = .ok read)
      (hfree : (read.map ProviderSpec.localName).Nodup)
      (h : SpecRefused (read.map ProviderSpec.localName) spec x) : SpecsRefused specs x
  | directory {providers : List ProviderSpec} {x : ConfigError}
      (hread : specs.mapM ProviderSpec.ofString? = .ok providers)
      (hfree : (providers.map ProviderSpec.localName).Nodup)
      (h : FirstCollision providers x) : SpecsRefused specs x

theorem parseProviderSpecs_eq_error_iff {specs : List String} {x : ConfigError} :
    parseProviderSpecs specs = .error x ↔ SpecsRefused specs x := by
  have hpasses : parseProviderSpecs specs = .error x ↔ readSpecs [] specs = .error x ∨
      ∃ providers, readSpecs [] specs = .ok providers ∧ checkProviderModules providers = .error x := by
    rw [parseProviderSpecs, bind_eq_error_iff]
    simp [bind_eq_error_iff]
  rw [hpasses]
  constructor
  · rintro (hread | ⟨providers, hread, hmodules⟩)
    · obtain ⟨before, spec, after, read, hsplit, hbefore, hrefused⟩ := readSpecs_eq_error_iff.mp hread
      obtain ⟨hmap, hfree, -⟩ := readSpecs_eq_ok_iff.mp hbefore
      exact .spec hsplit hmap hfree (hrefused.mono fun _ => mem_takenBy_nil.mp)
    · obtain ⟨hmap, hfree, -⟩ := readSpecs_eq_ok_iff.mp hread
      exact .directory hmap hfree (checkProviderModules_eq_error_iff.mp hmodules)
  · rintro (⟨hsplit, hmap, hfree, hrefused⟩ | ⟨hmap, hfree, hcollision⟩)
    · rename_i before _ _ read
      have hbefore : readSpecs [] before = .ok read := readSpecs_eq_ok_iff.mpr ⟨hmap, hfree, by simp⟩
      exact .inl (readSpecs_eq_error_iff.mpr
        ⟨_, _, _, _, hsplit, hbefore, hrefused.mono fun _ => mem_takenBy_nil.mpr⟩)
    · exact .inr ⟨_, readSpecs_eq_ok_iff.mpr ⟨hmap, hfree, by simp⟩,
        checkProviderModules_eq_error_iff.mpr hcollision⟩

theorem parseProviderSpecs_accepts_or_refuses (specs : List String) :
    (∀ providers, parseProviderSpecs specs = .ok providers ↔
      specs.mapM ProviderSpec.ofString? = .ok providers ∧ (providers.map ProviderSpec.stem).Nodup) ∧
    ∀ x, parseProviderSpecs specs = .error x ↔ SpecsRefused specs x :=
  ⟨fun _ => parseProviderSpecs_eq_ok_iff.trans
      ⟨fun ⟨hmap, _, hstems⟩ => ⟨hmap, hstems⟩,
        fun ⟨hmap, hstems⟩ => ⟨hmap, nodup_localName_of_stem hstems, hstems⟩⟩,
    fun _ => parseProviderSpecs_eq_error_iff⟩

end ProviderBindings
