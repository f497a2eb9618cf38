import ProviderBindings.Proofs.FileTree.Leaves
import ProviderBindings.Proofs.Output.Writing

/-!
What preparing the output directory comes to. When it succeeds the path leads to a directory, and that is
empty, unless the path is empty or has steps that lead up: where such a path leads can change while the
directories on its way are made.
-/

namespace ProviderBindings

namespace FileTree

variable {t t' t'' : FileTree} {r r' : Route} {p q a : Place} {e : Entry} {steps : List String}

structure WellFormed (t : FileTree) : Prop extends t.Regular where
  above : ∀ {p e}, (p, e) ∈ t.entries → t.isDirectory p.dropLast = true
  working : t.isDirectory t.workingDirectory = true

theorem isDirectory_start (t : FileTree) (h : r.isAbsolute = true) : t.isDirectory (t.start r) = true := by
  rw [start, if_pos h]
  rfl

theorem WellFormed.isDirectory_start (h : t.WellFormed) (r : Route) : t.isDirectory (t.start r) = true := by
  cases habsolute : r.isAbsolute with
  | true => exact FileTree.isDirectory_start t habsolute
  | false =>
      rw [start, habsolute]
      exact h.working

theorem WellFormed.isDirectory_of_prefix (h : t.WellFormed) (ha : t.get? a = some e) (hq : q <+: a)
    (hne : q ≠ a) : t.isDirectory q = true := by
  -- Up from the entry, one directory after another, until `q`.
  generalize hn : a.length = n
  induction n generalizing a e with
  | zero =>
      rw [List.eq_nil_of_length_eq_zero hn, List.prefix_nil] at hq
      exact absurd (hq.trans (List.eq_nil_of_length_eq_zero hn).symm) hne
  | succ n ih =>
      have hroot : a ≠ [] := List.ne_nil_of_length_eq_add_one hn
      have hd : t.isDirectory a.dropLast = true := h.above (h.mem_iff.mpr ⟨hroot, ha⟩)
      rw [← List.dropLast_concat_getLast hroot, List.prefix_concat_iff,
        List.dropLast_concat_getLast hroot] at hq
      have hq := hq.resolve_left hne
      by_cases heq : q = a.dropLast
      · rwa [heq]
      · exact ih (isDirectory_iff.mp hd) hq heq (by simp [hn])

theorem Regular.filter (h : t.Regular) (keep : Place × Entry → Bool) :
    ({ t with entries := t.entries.filter keep } : FileTree).Regular where
  ordered := Table.ordered_filter h.ordered keep
  rootless hroot := h.rootless ((List.filter_sublist.map Prod.fst).subset hroot)

def goal (t : FileTree) (r : Route) : Place := t.start r ++ r.steps.filter (· ≠ ".")

theorem walk_eq_ok (hup : ".." ∉ steps) (h : t.walk q steps = .ok p) :
    p = q ++ steps.filter (· ≠ ".") := by
  induction steps generalizing q with
  | nil =>
      cases h
      simp
  | cons name rest ih =>
      rw [List.mem_cons, not_or] at hup
      obtain ⟨next, henter, hrest⟩ := bind_eq_ok_iff.mp h
      rw [ih hup.2 hrest]
      obtain ⟨-, ⟨rfl, rfl⟩ | ⟨rfl, -⟩ | ⟨hdot, -, -, rfl, -⟩⟩ := enter_eq_ok_iff.mp henter
      · simp
      · exact absurd rfl hup.1
      · simp [hdot]

theorem walk_ne_notFound (hup : ".." ∉ steps)
    (hd : ∀ a, q <+: a → a <+: q ++ steps.filter (· ≠ ".") → t.isDirectory a = true) :
    t.walk q steps ≠ .error .notFound := by
  induction steps generalizing q with
  | nil => simp [walk]
  | cons name rest ih =>
      rw [List.mem_cons, not_or] at hup
      have hhere := hd q (List.prefix_refl q) (List.prefix_append q _)
      by_cases hdot : name = "."
      · have henter : t.enter q name = .ok q := enter_eq_ok_iff.mpr ⟨hhere, .inl ⟨hdot, rfl⟩⟩
        rw [List.filter_cons_of_neg (by simp [hdot])] at hd
        rw [walk, henter]
        exact ih hup.2 hd
      · rw [List.filter_cons_of_pos (by simpa using hdot), List.append_cons] at hd
        have hnext := hd (q ++ [name]) (List.prefix_append q _) (List.prefix_append _ _)
        by_cases hlimit : Route.nameLimit < name.utf8ByteSize
        · have henter : t.enter q name = .error .invalidFilename := by
            rw [enter, hhere, if_neg (by simp), if_neg hdot, if_neg (Ne.symm hup.1), if_pos hlimit]
          rw [walk, henter]
          simp [bind, Except.bind]
        · have henter : t.enter q name = .ok (q ++ [name]) :=
            enter_eq_ok_iff.mpr ⟨hhere, .inr (.inr ⟨hdot, Ne.symm hup.1, Nat.not_lt.mp hlimit, rfl,
              isSome_of_isDirectory hnext⟩)⟩
          rw [walk, henter]
          exact ih hup.2 fun a ha => hd a ((List.prefix_append q _).trans ha)

theorem isAbsolute_of_find (h : t.find r = .ok p) (hsteps : r.steps = []) : r.isAbsolute = true := by
  cases habsolute : r.isAbsolute with
  | true => rfl
  | false =>
      rw [find, hsteps, habsolute] at h
      split at h <;> cases h

theorem leads_of_find (h : t.find r = .ok p) (hd : t.isDirectory p = true) : t.Leads r p := by
  rw [find] at h
  split at h
  · cases h
  · rename_i hsound
    split at h
    · cases h
    · obtain ⟨q, hwalk, hq⟩ := bind_eq_ok_iff.mp h
      split at hq
      · cases hq
      · cases hq
        exact ⟨hsound, hwalk, hd⟩

theorem walk_of_find_notFound (h : t.find r = .error .notFound)
    (hsteps : r.steps = [] → r.isAbsolute = true) :
    t.walk (t.start r) r.steps = .error .notFound := by
  rw [find] at h
  split at h
  · rename_i hfault
    cases h
    exact absurd hfault r.fault?_ne_notFound
  · split at h
    · rename_i hempty
      simp only [Bool.and_eq_true, Bool.not_eq_true', List.isEmpty_iff] at hempty
      cases hempty.2.symm.trans (hsteps hempty.1)
    · cases hwalk : t.walk (t.start r) r.steps with
      | error e =>
          rw [hwalk] at h
          cases h
          rfl
      | ok p =>
          rw [hwalk] at h
          change (if _ then _ else _) = _ at h
          split at h <;> cases h

theorem find_eq_ok_of_isDirectoryAt (h : t.isDirectoryAt r = true) : ∃ p, t.Leads r p := by
  rw [isDirectoryAt] at h
  split at h
  · exact ⟨_, leads_of_find ‹_› h⟩
  · cases h

theorem target_eq_named {name : String} (h : t.target r = .ok (.named q name)) : ∃ front,
    r.fault? = none ∧ r.steps = front ++ [name] ∧ t.walk (t.start r) front = .ok q ∧
      t.isDirectory q = true ∧ name ≠ "." ∧ name ≠ ".." ∧ name.utf8ByteSize ≤ Route.nameLimit := by
  rw [target] at h
  split at h
  · cases h
  · rename_i hsound
    split at h
    · split at h <;> cases h
    · rename_i last hlast
      obtain ⟨front, hfront⟩ := List.getLast?_eq_some_iff.mp hlast
      obtain ⟨q', hwalk, hq⟩ := bind_eq_ok_iff.mp h
      rw [hfront, List.dropLast_concat] at hwalk
      split at hq
      · cases hq
      · rename_i hd
        split at hq
        · cases hq
        · rename_i hdots
          split at hq
          · cases hq
          · rename_i hlimit
            cases hq
            exact ⟨front, hsound, hfront, hwalk, by simpa using hd, fun h => hdots (.inl h),
              fun h => hdots (.inr h), Nat.not_lt.mp hlimit⟩

theorem makeDirectory_eq_ok (h : t.makeDirectory r = .ok t') : ∃ q name,
    t.target r = .ok (.named q name) ∧ t.get? (q ++ [name]) = none ∧
      t' = t.insert (q ++ [name]) .directory := by
  obtain ⟨target, htarget, hmake⟩ := bind_eq_ok_iff.mp h
  cases target with
  | fixed last => cases hmake
  | named q name =>
      dsimp only at hmake
      split at hmake
      · cases hmake
      · rename_i hnone
        cases hmake
        exact ⟨q, name, htarget, by simpa using hnone, rfl⟩

structure Extends (r : Route) (t t' : FileTree) : Prop where
  grows : Grows t t'
  regular : t.Regular → t'.Regular
  onWay : ".." ∉ r.steps → ∀ a, ¬ a <+: t.goal r → t'.get? a = t.get? a

namespace Extends

theorem refl (r : Route) (t : FileTree) : Extends r t t := ⟨Grows.refl t, id, fun _ _ _ => rfl⟩

theorem goal_eq (h : Extends r t t') : t'.goal r' = t.goal r' := by
  rw [goal, goal, h.grows.start_eq]

theorem trans (h : Extends r t t') (h' : Extends r t' t'') : Extends r t t'' where
  grows := h.grows.trans h'.grows
  regular hr := h'.regular (h.regular hr)
  onWay hup a ha := (h'.onWay hup a (h.goal_eq ▸ ha)).trans (h.onWay hup a ha)

theorem mono (h : Extends r' t t') (habsolute : r'.isAbsolute = r.isAbsolute)
    (hsub : r'.steps.filter (· ≠ ".") <+: r.steps.filter (· ≠ ".")) : Extends r t t' where
  grows := h.grows
  regular := h.regular
  onWay hup a ha := by
    refine h.onWay (fun hmem => hup ?_) a fun hgoal => ha (hgoal.trans ?_)
    · have hkept : ".." ∈ r'.steps.filter (· ≠ ".") := List.mem_filter.mpr ⟨hmem, by decide⟩
      exact (List.mem_filter.mp (hsub.subset hkept)).1
    · rw [goal, goal, start, start, habsolute]
      exact (List.prefix_append_right_inj _).mpr hsub

theorem of_makeDirectory (h : t.makeDirectory r = .ok t') : Extends r t t' ∧ ∃ p, t'.Leads r p := by
  obtain ⟨q, name, htarget, -, rfl⟩ := makeDirectory_eq_ok h
  obtain ⟨front, hsound, hsteps, hwalk, hd, hdot, hdots, hlimit⟩ := target_eq_named htarget
  have hgrows : Grows t (t.insert (q ++ [name]) .directory) := Grows.insert (by simp) fun _ => rfl
  have hnew : (t.insert (q ++ [name]) .directory).get? (q ++ [name]) = some .directory :=
    get?_insert_self (by simp)
  refine ⟨⟨hgrows, fun hr => hr.insert (by simp), fun hup a ha => get?_insert_of_ne ?_⟩,
    q ++ [name], hsound, ?_, isDirectory_iff.mpr hnew⟩
  · rintro rfl
    -- The new directory is where the path itself leads.
    have hfront : ".." ∉ front := fun hmem => hup (hsteps ▸ List.mem_append_left _ hmem)
    refine ha ?_
    rw [walk_eq_ok hfront hwalk, goal, hsteps, List.filter_append]
    simp [hdot]
  · rw [hgrows.start_eq, hsteps]
    refine walk_append_eq_ok_iff.mpr ⟨q, hgrows.walk hwalk, ?_⟩
    rw [walk_singleton]
    exact enter_eq_ok_iff.mpr ⟨hgrows.directories q hd, .inr (.inr ⟨hdot, hdots, hlimit, rfl, by
      rw [hnew]
      rfl⟩)⟩

end Extends

structure Makes (r : Route) (t : FileTree) (o : Outcome IoError Unit) : Prop where
  extended : Extends r t o.1
  leads : o.2 = .ok () → ∃ p, o.1.Leads r p

namespace Makes

theorem error (h : Extends r t t') (e : IoError) : Makes r t (t', .error e) :=
  ⟨h, fun hok => by cases hok⟩

theorem made (h : Extends r t t') (hmake : t'.makeDirectory r = .ok t'') : Makes r t (t'', .ok ()) := by
  obtain ⟨hextends, hleads⟩ := Extends.of_makeDirectory hmake
  exact ⟨h.trans hextends, fun _ => hleads⟩

theorem settled (h : Extends r t t') (e : IoError) :
    Makes r t (if t'.isDirectoryAt r then (t', .ok ()) else (t', .error e)) := by
  split
  · exact ⟨h, fun _ => find_eq_ok_of_isDirectoryAt ‹_›⟩
  · exact error h e

theorem below {above : FileTree → Outcome IoError Unit} (h : ∀ t, Extends r t (above t).1) :
    Makes r t (t.makeBelow r above) := by
  rw [makeBelow]
  split
  · exact made (.refl r t) ‹_›
  · have habove := h t
    rcases ha : above t with ⟨t₁, e | ⟨⟩⟩
    · rw [ha] at habove
      exact error habove e
    · rw [ha] at habove
      dsimp only
      split
      · exact made habove ‹_›
      · exact settled habove _
  · exact settled (.refl r t) _

end Makes

theorem extends_makeNames (isAbsolute : Bool) (names : List String) (t : FileTree) :
    Extends ⟨isAbsolute, names.reverse, false⟩ t (t.makeNames isAbsolute names).1 := by
  induction names generalizing t with
  | nil => exact .refl _ t
  | cons last above ih =>
      have habove : ∀ t, Extends ⟨isAbsolute, (last :: above).reverse, false⟩ t
          (t.makeNames isAbsolute above).1 := by
        refine fun t => (ih t).mono rfl ?_
        rw [List.reverse_cons, List.filter_append]
        exact List.prefix_append _ _
      exact (Makes.below habove).extended

theorem names_filter (r : Route) : r.names.filter (· ≠ ".") = r.steps.filter (· ≠ ".") := by
  obtain ⟨isAbsolute, steps, endsOpen⟩ := r
  cases steps with
  | nil => rfl
  | cons first rest =>
      simp only [Route.names]
      split
      · rename_i hfirst
        have hdot : first = "." := by simpa using (Bool.and_eq_true_iff.mp hfirst).2
        rw [List.filter_filter, List.filter_cons_of_neg (by simp [hdot])]
        simp
      · simp [List.filter_cons]

theorem leads_of_steps_eq_nil (hr : r.steps = []) (hd : t.isDirectory (t.start r) = true) :
    t.Leads r (t.start r) where
  sound := by
    refine Route.fault?_eq_none_iff.mpr ⟨by simp [hr], ?_⟩
    rw [Route.width, hr]
    exact Nat.zero_le _
  walk := by
    rw [hr]
    rfl
  directory := hd

theorem makes_makeDirectories (hstart : r.steps = [] → t.isDirectory (t.start r) = true) :
    Makes r t (t.makeDirectories r) := by
  rw [makeDirectories]
  split
  · rename_i hempty
    have hsteps := List.isEmpty_iff.mp hempty
    exact ⟨Extends.refl r t, fun _ => ⟨_, leads_of_steps_eq_nil hsteps (hstart hsteps)⟩⟩
  · refine Makes.below fun t => ?_
    have hmake := extends_makeNames r.isAbsolute r.names.dropLast.reverse t
    rw [List.reverse_reverse] at hmake
    refine hmake.mono rfl ?_
    have hprefix : r.names.dropLast <+: r.names := List.dropLast_prefix _
    rw [← names_filter r]
    exact hprefix.filter _

theorem removeDirectory_eq_ok {t₁ : FileTree} (h : t.removeDirectory r = (t₁, .ok ())) :
    ∃ p, t.find r = .ok p ∧ (t₁ = t.emptied p ∨
      ∃ q name, (t.emptied p).target r = .ok (.named q name) ∧ t₁ = (t.emptied p).removed (q ++ [name])) := by
  rw [removeDirectory] at h
  split at h
  · cases h
  · rename_i p hfind
    refine ⟨p, hfind, ?_⟩
    dsimp only at h
    split at h
    · cases h
      exact .inl rfl
    · cases h
    · rename_i q name htarget
      cases h
      exact .inr ⟨q, name, htarget, rfl⟩
    · cases h
    · cases h
    · cases h

theorem get?_emptied (p : Place) (ha : a ≠ []) :
    (t.emptied p).get? a = if isBelow p a then none else t.get? a := by
  rw [get?_of_ne_root ha, get?_of_ne_root ha, emptied, Table.get?_filter fun a => !isBelow p a]
  cases isBelow p a <;> rfl

theorem get?_removed (p : Place) (ha : a ≠ []) :
    (t.removed p).get? a = if p.isPrefixOf a then none else t.get? a := by
  rw [get?_of_ne_root ha, get?_of_ne_root ha, removed, Table.get?_filter fun a => !p.isPrefixOf a]
  cases p.isPrefixOf a <;> rfl

theorem removed_of_removeDirectory {t₁ : FileTree} (hr : t.Regular) (hfind : t.find r = .ok p)
    (h : t.removeDirectory r = (t₁, .ok ())) : t₁.Regular ∧ t₁.workingDirectory = t.workingDirectory ∧
      ∀ a, isBelow p a = true → t₁.get? a = none := by
  obtain ⟨p', hfind', h⟩ := removeDirectory_eq_ok h
  cases hfind.symm.trans hfind'
  have hempty : ∀ a, isBelow p a = true → (t.emptied p).get? a = none := fun a ha => by
    rw [get?_emptied p (ne_nil_of_isBelow ha), ha]
    rfl
  rcases h with rfl | ⟨q, name, -, rfl⟩
  · exact ⟨hr.filter _, rfl, hempty⟩
  · refine ⟨(hr.filter _).filter _, rfl, fun a ha => ?_⟩
    rw [get?_removed _ (ne_nil_of_isBelow ha), hempty a ha]
    split <;> rfl

end FileTree

theorem Route.isAbsolute_ofText {path : String} (hne : path ≠ "") (hsteps : (Route.ofText path).steps = []) :
    (Route.ofText path).isAbsolute = true := by
  obtain ⟨c, rest, hc⟩ := List.exists_cons_of_ne_nil fun hnil => hne (String.toList_eq_nil_iff.mp hnil)
  by_cases hslash : c = '/'
  · simp [ofText, hc, hslash]
  · have hparts : ∃ first others, parts path.toList = (c :: first) :: others := by
      rw [hc, parts, if_neg hslash]
      cases parts rest with
      | nil => exact ⟨_, _, rfl⟩
      | cons first others => exact ⟨_, _, rfl⟩
    obtain ⟨first, others, hparts⟩ := hparts
    simp [ofText, hparts] at hsteps

namespace Output

open FileTree

variable {directory : String} {force : Bool} {t t' : FileTree} {p : Place}

theorem prepare_eq_ok (h : prepare directory force t = (t', .ok ())) :
    (t.find (.ofText directory) = .error .notFound ∧ t.makeDirectories (.ofText directory) = (t', .ok ())) ∨
    ∃ p, t.find (.ofText directory) = .ok p ∧ t.isDirectory p = true ∧
      (t.inside p = [] ∧ t' = t ∨
        ∃ t₁, t.removeDirectory (.ofText directory) = (t₁, .ok ()) ∧
          t₁.makeDirectories (.ofText directory) = (t', .ok ())) := by
  rw [prepare] at h
  split at h
  · exact .inl ⟨‹_›, failed_eq_ok_iff.mp h⟩
  · cases failed_eq_ok_iff.mp h
  · rename_i p hfind
    refine .inr ⟨p, hfind, ?_⟩
    split at h
    · cases failed_eq_ok_iff.mp h
    · rename_i hd
      refine ⟨by simpa using hd, ?_⟩
      split at h
      · rename_i hempty
        cases h
        exact .inl ⟨by simpa using hempty, rfl⟩
      · split at h
        · cases h
        · split at h
          · cases failed_eq_ok_iff.mp h
          · exact .inr ⟨_, ‹_›, failed_eq_ok_iff.mp h⟩

theorem leads_of_prepare (ht : t.WellFormed) (h : prepare directory force t = (t', .ok ())) :
    t'.Regular ∧ ∃ p, t'.Leads (.ofText directory) p := by
  rcases prepare_eq_ok h with ⟨_, hmake⟩ | ⟨p, hfind, hd, ⟨_, rfl⟩ | ⟨t₁, hremove, hmake⟩⟩
  · have hmakes := makes_makeDirectories fun _ => ht.isDirectory_start (.ofText directory)
    rw [hmake] at hmakes
    exact ⟨hmakes.extended.regular ht.toRegular, hmakes.leads rfl⟩
  · exact ⟨ht.toRegular, p, leads_of_find hfind hd⟩
  · obtain ⟨hregular, _, _⟩ := removed_of_removeDirectory ht.toRegular hfind hremove
    have hmakes := makes_makeDirectories fun hsteps =>
      isDirectory_start t₁ (isAbsolute_of_find hfind hsteps)
    rw [hmake] at hmakes
    exact ⟨hmakes.extended.regular hregular, hmakes.leads rfl⟩

theorem goal_eq_of_leads {r : Route} (hup : ".." ∉ r.steps) (h : t.Leads r p) : p = t.goal r :=
  walk_eq_ok hup h.walk

theorem get?_eq_none_of_notFound (ht : t.WellFormed) {r : Route} (hup : ".." ∉ r.steps)
    (hsteps : r.steps = [] → r.isAbsolute = true) (hfind : t.find r = .error .notFound) {a : Place}
    (ha : isBelow (t.goal r) a = true) : t.get? a = none := by
  obtain ⟨hstarts, hne⟩ := isBelow_iff.mp ha
  cases hget : t.get? a with
  | none => rfl
  | some e =>
      -- An entry below the end of the path would leave nothing missing on the way.
      refine absurd (walk_of_find_notFound hfind hsteps) (walk_ne_notFound hup fun q _ hq => ?_)
      refine ht.isDirectory_of_prefix hget (hq.trans hstarts) ?_
      rintro rfl
      exact hne (hstarts.eq_of_length_le (hq.length_le))

theorem inside_of_prepare (ht : t.WellFormed) (h : prepare directory force t = (t', .ok ()))
    (hl : t'.Leads (.ofText directory) p) (hne : directory ≠ "")
    (hup : ".." ∉ (Route.ofText directory).steps) : t'.inside p = [] := by
  obtain ⟨hregular, _⟩ := leads_of_prepare ht h
  rw [hregular.inside_eq_nil_iff]
  have hp := goal_eq_of_leads hup hl
  -- Making the directories on the way puts nothing inside the last one.
  have hmade : ∀ {t₁ : FileTree}, t₁.makeDirectories (.ofText directory) = (t', .ok ()) →
      (∀ a, isBelow (t₁.goal (.ofText directory)) a = true → t₁.get? a = none) →
        ∀ a, isBelow p a = true → t'.get? a = none := by
    intro t₁ hmake hempty a ha
    have hextends := (makes_makeDirectories fun hsteps =>
      isDirectory_start t₁ (Route.isAbsolute_ofText hne hsteps)).extended
    rw [hmake] at hextends
    rw [hp, hextends.goal_eq] at ha
    obtain ⟨hstarts, hlonger⟩ := isBelow_iff.mp ha
    rw [hextends.onWay hup a fun hback => hlonger (hstarts.eq_of_length_le hback.length_le)]
    exact hempty a ha
  rcases prepare_eq_ok h with ⟨hfind, hmake⟩ | ⟨q, hfind, hd, ⟨hempty, rfl⟩ | ⟨t₁, hremove, hmake⟩⟩
  · exact hmade hmake fun a ha => get?_eq_none_of_notFound ht hup (Route.isAbsolute_ofText hne) hfind ha
  · rw [hl.unique (leads_of_find hfind hd)]
    exact ht.inside_eq_nil_iff.mp hempty
  · obtain ⟨_, hworking, hempty⟩ := removed_of_removeDirectory ht.toRegular hfind hremove
    have hgoal : t₁.goal (.ofText directory) = q := by
      rw [goal_eq_of_leads hup (leads_of_find hfind hd), goal, goal, start, start, hworking]
    exact hmade hmake (hgoal ▸ hempty)

end Output

end ProviderBindings
