import ProviderBindings.Proofs.FileTree.Descent

/-!
Writing into a directory that a path leads to, in the two calls that it takes: making room for a file, which
adds the directory that holds it if that is missing, and putting the file there.
-/

namespace ProviderBindings

open Route (IsName)

namespace FileTree

variable {t t' : FileTree} {r : Route} {here p q : Place} {s f contents : String}

theorem walk_filter_dots {steps : List String} (h : t.walk here steps = .ok p) :
    t.walk here (steps.filter (· ≠ ".")) = .ok p := by
  induction steps generalizing here with
  | nil => exact h
  | cons name rest ih =>
      obtain ⟨next, henter, hrest⟩ := bind_eq_ok_iff.mp h
      by_cases hdot : name = "."
      · subst hdot
        have hnext : next = here := by
          obtain ⟨_, ⟨_, heq⟩ | ⟨habs, _⟩ | ⟨hne, _⟩⟩ := enter_eq_ok_iff.mp henter
          · exact heq
          · exact absurd habs (by decide)
          · exact absurd rfl hne
        rw [List.filter_cons_of_neg (by simp), ← hnext]
        exact ih hrest
      · rw [List.filter_cons_of_pos (by simpa using hdot)]
        exact bind_eq_ok_iff.mpr ⟨next, henter, ih hrest⟩

theorem walk_names (h : t.walk (t.start r) r.steps = .ok p) : t.walk (t.start r) r.names = .ok p := by
  obtain ⟨isAbsolute, steps, endsOpen⟩ := r
  cases steps with
  | nil => exact h
  | cons first rest =>
      simp only [Route.names]
      split
      · rename_i hfirst
        have hdot : first = "." := by simpa using (Bool.and_eq_true_iff.mp hfirst).2
        have hfiltered := walk_filter_dots h
        rwa [hdot, List.filter_cons_of_neg (by simp)] at hfiltered
      · obtain ⟨next, henter, hrest⟩ := bind_eq_ok_iff.mp h
        exact bind_eq_ok_iff.mpr ⟨next, henter, walk_filter_dots hrest⟩

theorem enter_name (hd : t.isDirectory p = true) (hs : IsName s) :
    t.enter p s = if Route.nameLimit < s.utf8ByteSize then .error .invalidFilename
      else if (t.get? (p ++ [s])).isSome then .ok (p ++ [s]) else .error .notFound := by
  rw [enter, hd, if_neg (by simp), if_neg hs.ne_dot, if_neg hs.ne_dots]

theorem target_of_walk {front : List String} {last : String} (hsound : r.fault? = none)
    (hsteps : r.steps = front ++ [last]) (hwalk : t.walk (t.start r) front = .ok p)
    (hd : t.isDirectory p = true) : t.target r = if last = "." ∨ last = ".." then .ok (.fixed last)
      else if Route.nameLimit < last.utf8ByteSize then .error .invalidFilename
      else .ok (.named p last) := by
  rw [target, hsound, hsteps, List.getLast?_concat, List.dropLast_concat, hwalk]
  change (if !t.isDirectory p then _ else _) = _
  rw [hd, if_neg (by simp)]

theorem target_eq {names : List String} (hsound : r.fault? = none) (hsteps : r.steps = names ++ [s])
    (hwalk : t.walk (t.start r) names = .ok p) (hd : t.isDirectory p = true) (hs : IsName s) :
    t.target r = if Route.nameLimit < s.utf8ByteSize then .error .invalidFilename
      else .ok (.named p s) := by
  have hdots : ¬ (s = "." ∨ s = "..") := fun h => h.elim hs.ne_dot hs.ne_dots
  rw [target_of_walk hsound hsteps hwalk hd, if_neg hdots]

abbrev Change := Except IoError (Option (Place × Entry))

def apply (t : FileTree) : Change → Outcome IoError Unit
  | .error e => (t, .error e)
  | .ok none => (t, .ok ())
  | .ok (some (q, e)) => (t.insert q e, .ok ())

theorem apply_eq_ok {change : Change} (h : t.apply change = (t', .ok ())) :
    change = .ok none ∧ t' = t ∨ ∃ a e, change = .ok (some (a, e)) ∧ t' = t.insert a e := by
  rcases change with e | _ | ⟨a, e⟩
  · cases h
  · cases h
    exact .inl ⟨rfl, rfl⟩
  · cases h
    exact .inr ⟨a, e, rfl, rfl⟩

def opening (fault : Option IoError) (p : Place) (s : String) (t : FileTree) : Change :=
  match fault with
  | some e => .error e
  | none =>
      if Route.nameLimit < s.utf8ByteSize then .error .invalidFilename
      else
        match t.get? (p ++ [s]) with
        | none => .ok (some (p ++ [s], .directory))
        | some .directory => .ok none
        | some (.file _ _) => .error .alreadyExists

theorem opening_eq_ok {fault : Option IoError} {c : Option (Place × Entry)}
    (h : opening fault p s t = .ok c) : c = some (p ++ [s], .directory) ∨
      c = none ∧ t.get? (p ++ [s]) = some .directory := by
  cases fault with
  | some e => cases h
  | none =>
      simp only [opening] at h
      split at h
      · cases h
      · split at h
        · cases h
          exact .inl rfl
        · cases h
          exact .inr ⟨rfl, ‹_›⟩
        · cases h

theorem makeBelow_of_ok {above : FileTree → Outcome IoError Unit} (h : t.makeDirectory r = .ok t') :
    t.makeBelow r above = (t', .ok ()) := by
  rw [makeBelow, h]

theorem makeBelow_of_error {above : FileTree → Outcome IoError Unit} {e : IoError} (he : e ≠ .notFound)
    (h : t.makeDirectory r = .error e) :
    t.makeBelow r above = if t.isDirectoryAt r then (t, .ok ()) else (t, .error e) := by
  rw [makeBelow, h]
  split
  · cases ‹Except.error e = Except.ok _›
  · cases ‹Except.error e = Except.error _›
    exact absurd rfl he
  · cases ‹Except.error e = Except.error _›
    rfl

theorem isDirectoryAt_of_walk {names : List String} (hsound : r.fault? = none)
    (hsteps : r.steps = names ++ [s]) (hopen : r.endsOpen = false) (hwalk : t.walk (t.start r) names = .ok p) :
    t.isDirectoryAt r = (t.enter p s).toOption.any t.isDirectory := by
  have hne : r.steps.isEmpty = false := by simp [hsteps]
  have hfind : t.find r = t.enter p s := by
    rw [find, hsound, hne, hsteps, walk_append, hwalk, hopen]
    change (if _ then _ else (t.walk p [s] >>= _)) = _
    rw [walk_singleton]
    cases t.enter p s <;> simp [bind, Except.bind]
  cases hstep : t.enter p s <;> simp [isDirectoryAt, hfind, hstep, Except.toOption]

theorem makeDirectories_name (hl : t.Leads r p) (hs : IsName s) :
    t.makeDirectories ⟨r.isAbsolute, r.names ++ [s], false⟩ =
      t.apply (opening (Route.fault? ⟨r.isAbsolute, r.names ++ [s], false⟩) p s t) := by
  generalize hroute : (⟨r.isAbsolute, r.names ++ [s], false⟩ : Route) = above
  have hstart : t.start above = t.start r := by rw [← hroute]; rfl
  have hsteps : above.steps = r.names ++ [s] := by rw [← hroute]
  have hopen : above.endsOpen = false := by rw [← hroute]
  have hwalk : t.walk (t.start above) r.names = .ok p := hstart ▸ walk_names hl.walk
  have hne : above.steps.isEmpty = false := by simp [hsteps]
  rw [makeDirectories, hne, if_neg (by simp)]
  cases hfault : above.fault? with
  | some e =>
      have hmake : t.makeDirectory above = .error e := by rw [makeDirectory, target, hfault]; rfl
      have hat : t.isDirectoryAt above = false := by rw [isDirectoryAt, find, hfault]
      have he : e ≠ .notFound := by
        rintro rfl
        exact above.fault?_ne_notFound hfault
      rw [makeBelow_of_error he hmake, hat]
      rfl
  | none =>
      have htarget := target_eq hfault hsteps hwalk hl.directory hs
      have hat := isDirectoryAt_of_walk hfault hsteps hopen hwalk
      rw [enter_name hl.directory hs] at hat
      by_cases hlimit : Route.nameLimit < s.utf8ByteSize
      · have hmake : t.makeDirectory above = .error .invalidFilename := by
          rw [makeDirectory, htarget, if_pos hlimit]
          rfl
        rw [makeBelow_of_error (by simp) hmake, hat]
        simp [opening, hlimit, apply, Except.toOption]
      · rw [if_neg hlimit] at htarget hat
        cases hget : t.get? (p ++ [s]) with
        | none =>
            have hmake : t.makeDirectory above = .ok (t.insert (p ++ [s]) .directory) := by
              simp [makeDirectory, htarget, bind, Except.bind, hget]
            rw [makeBelow_of_ok hmake]
            simp [opening, hlimit, hget, apply]
        | some e =>
            have hmake : t.makeDirectory above = .error .alreadyExists := by
              simp [makeDirectory, htarget, bind, Except.bind, hget]
            rw [makeBelow_of_error (by simp) hmake, hat]
            cases e <;> simp [opening, hlimit, hget, apply, Except.toOption, isDirectory]

theorem makeDirectories_names (hl : t.Leads r p) :
    t.makeDirectories ⟨r.isAbsolute, r.names, false⟩ = (t, .ok ()) := by
  generalize hroute : (⟨r.isAbsolute, r.names, false⟩ : Route) = route
  have hsteps : route.steps = r.names := by rw [← hroute]
  have hwalk : t.walk (t.start route) route.steps = .ok p := by
    rw [hsteps, ← hroute]
    exact walk_names hl.walk
  have hsound : route.fault? = none :=
    Route.fault?_of_sublist hl.sound (hsteps ▸ r.names_sublist)
  rw [makeDirectories]
  split
  · rfl
  · rename_i hne
    have hne : route.steps.isEmpty = false := by simpa using hne
    obtain ⟨front, last, hlast⟩ : ∃ front last, route.steps = front ++ [last] :=
      ⟨_, _, (List.dropLast_concat_getLast (by simpa using hne)).symm⟩
    have hat : t.isDirectoryAt route = true := by
      have hopen : route.endsOpen = false := by rw [← hroute]
      have hfind : t.find route = .ok p := by
        rw [find, hsound, hne, hwalk, hopen]
        simp [bind, Except.bind]
      rw [isDirectoryAt, hfind]
      exact hl.directory
    have hmake : t.makeDirectory route = .error .alreadyExists := by
      rw [hlast] at hwalk
      obtain ⟨q, hfront, henter⟩ := walk_append_eq_ok_iff.mp hwalk
      rw [walk_singleton] at henter
      obtain ⟨hd, hcases⟩ := enter_eq_ok_iff.mp henter
      rw [makeDirectory, target_of_walk hsound hlast hfront hd]
      rcases hcases with ⟨hdot, _⟩ | ⟨hdots, _⟩ | ⟨hne, hne', hlimit, rfl, hsome⟩
      · simp [hdot, bind, Except.bind]
      · simp [hdots, bind, Except.bind]
      · simp [hne, hne', Nat.not_lt.mpr hlimit, hsome, bind, Except.bind]
    rw [makeBelow_of_error (by simp) hmake, hat]
    rfl

def delivery (fault : Option IoError) (reached : Except IoError Place) (f contents : String)
    (t : FileTree) : Change :=
  match fault, reached with
  | some e, _ => .error e
  | none, .error e => .error e
  | none, .ok q =>
      if !t.isDirectory q then .error .notADirectory
      else if Route.nameLimit < f.utf8ByteSize then .error .invalidFilename
      else if t.isDirectory (q ++ [f]) then .error .isADirectory
      else .ok (some (q ++ [f], .file contents false))

theorem delivery_eq_ok {fault : Option IoError} {reached : Except IoError Place}
    {c : Option (Place × Entry)} (h : delivery fault reached f contents t = .ok c) :
    ∃ q, reached = .ok q ∧ c = some (q ++ [f], .file contents false) ∧
      ¬ t.isDirectory (q ++ [f]) = true := by
  cases fault with
  | some e => cases h
  | none =>
      cases reached with
      | error e => cases h
      | ok q =>
          simp only [delivery] at h
          split at h
          · cases h
          · split at h
            · cases h
            · split at h
              · cases h
              · cases h
                exact ⟨q, rfl, rfl, ‹_›⟩

theorem replaceFile_below (t : FileTree) (r : Route) {names : List String} (hf : IsName f) :
    (match t.replaceFile (r.below (names ++ [f])) contents with
      | .ok t' => (t', .ok ())
      | .error e => (t, .error e)) =
      t.apply (delivery (r.below (names ++ [f])).fault? (t.walk (t.start r) (r.steps ++ names)) f
        contents t) := by
  have hdots : ¬ (f = "." ∨ f = "..") := fun h => h.elim hf.ne_dot hf.ne_dots
  have hsteps : (r.below (names ++ [f])).steps = (r.steps ++ names) ++ [f] := by simp [Route.below]
  have hopen : (r.below (names ++ [f])).endsOpen = false := rfl
  have hstart : t.start (r.below (names ++ [f])) = t.start r := rfl
  rw [replaceFile, target, hsteps, List.getLast?_concat, List.dropLast_concat, hstart]
  cases (r.below (names ++ [f])).fault? with
  | some e => rfl
  | none =>
      cases t.walk (t.start r) (r.steps ++ names) with
      | error e => rfl
      | ok q =>
          simp only [bind, Except.bind, hdots, if_false, delivery, hopen, Bool.false_eq_true]
          by_cases hd : t.isDirectory q = true
          · by_cases hlimit : Route.nameLimit < f.utf8ByteSize
            · simp [hd, hlimit, apply]
            · by_cases hf : t.isDirectory (q ++ [f]) = true <;> simp [hd, hlimit, hf, apply]
          · simp [hd, apply]

end FileTree

namespace Output

open FileTree (Outcome)

variable {α : Type}

theorem failed_eq (owner path : String) (o : Outcome IoError α) :
    failed owner path o = (o.1, o.2.mapError (.io owner path)) := by
  obtain ⟨t, e | a⟩ := o <;> rfl

theorem failed_eq_ok_iff {owner path : String} {o : Outcome IoError α} {t : FileTree} {a : α} :
    failed owner path o = (t, .ok a) ↔ o = (t, .ok a) := by
  obtain ⟨t', e | a'⟩ := o <;> simp [failed]

end Output

end ProviderBindings
