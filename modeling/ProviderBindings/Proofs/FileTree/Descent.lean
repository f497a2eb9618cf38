import ProviderBindings.Output
import ProviderBindings.Proofs.FileTree.Growth

/-!
The paths of files below the output directory. Such a path has the steps of the directory and then its own,
which are plain names.
-/

namespace ProviderBindings

namespace Route

structure IsName (s : String) : Prop where
  nonempty : s.toList ≠ []
  slashless : '/' ∉ s.toList
  ne_dot : s ≠ "."
  ne_dots : s ≠ ".."

theorem parts_ne_nil (cs : List Char) : parts cs ≠ [] := by
  cases cs with
  | nil => simp [parts]
  | cons c rest =>
      rw [parts]
      split
      · simp
      · cases parts rest <;> simp [addToFirst]

theorem parts_append_slash (a b : List Char) : parts (a ++ '/' :: b) = parts a ++ parts b := by
  induction a with
  | nil => simp [parts]
  | cons c rest ih =>
      rw [List.cons_append, parts, parts]
      split
      · rw [ih, List.cons_append]
      · rw [ih]
        cases hp : parts rest with
        | nil => exact absurd hp (parts_ne_nil rest)
        | cons first others => rfl

theorem parts_of_slashless {cs : List Char} (h : '/' ∉ cs) : parts cs = [cs] := by
  induction cs with
  | nil => rfl
  | cons c rest ih =>
      rw [List.mem_cons, not_or] at h
      rw [parts, if_neg fun heq => h.1 heq.symm, ih h.2]
      rfl

theorem parts_extended (d : String) {s : String} (hs : IsName s) :
    parts (d ++ "/" ++ s).toList = parts d.toList ++ [s.toList] := by
  have hslash : "/".toList = ['/'] := rfl
  rw [String.toList_append, String.toList_append, hslash, List.append_assoc, List.singleton_append,
    parts_append_slash, parts_of_slashless hs.slashless]

theorem ofText_append {d s path : String} (lead : List (List Char)) (hs : IsName s)
    (hparts : parts path.toList = lead ++ [s.toList])
    (hlead : lead.filter (!·.isEmpty) = (parts d.toList).filter (!·.isEmpty))
    (hhead : (path.toList.head? = some '/') = (d.toList.head? = some '/')) :
    ofText path = ⟨(ofText d).isAbsolute, (ofText d).steps ++ [s], false⟩ := by
  have hsingle : [s.toList].filter (!·.isEmpty) = [s.toList] := by simp [hs.nonempty]
  have hlast : decide ((lead ++ [s.toList]).getLast? = some []) = false := by simp [hs.nonempty]
  simp only [ofText, hparts, List.filter_append, hlead, hsingle, List.map_append, List.map_cons,
    List.map_nil, String.ofList_toList, hlast, Bool.and_false, hhead]

theorem ofText_extend (d : String) {s : String} (hs : IsName s) :
    ofText (extend d s) = ⟨(ofText d).isAbsolute, (ofText d).steps ++ [s], false⟩ := by
  obtain ⟨c, rest, hc⟩ := List.exists_cons_of_ne_nil hs.nonempty
  have hslash : c ≠ '/' := fun heq => hs.slashless (hc ▸ heq ▸ List.mem_cons_self)
  rw [extend]
  split
  · rename_i hd
    rcases hd with hempty | hopen
    · have hd : d = "" := by simpa using hempty
      subst hd
      refine ofText_append [] hs ?_ (by simp [parts]) ?_
      · rw [String.toList_append]
        exact parts_of_slashless hs.slashless
      · simp [hc, hslash]
    · obtain ⟨front, hfront⟩ := List.getLast?_eq_some_iff.mp hopen
      refine ofText_append (parts front) hs ?_ ?_ ?_
      · rw [String.toList_append, hfront, List.append_assoc, List.singleton_append,
          parts_append_slash, parts_of_slashless hs.slashless]
      · rw [hfront, parts_append_slash]
        simp [parts]
      · rw [String.toList_append, hfront]
        cases front <;> simp
  · rename_i hd
    have hd : d.toList ≠ [] := by
      intro hnil
      exact hd (.inl (by simpa using hnil))
    refine ofText_append (parts d.toList) hs (parts_extended d hs) rfl ?_
    obtain ⟨c', rest', hc'⟩ := List.exists_cons_of_ne_nil hd
    rw [String.toList_append, String.toList_append, hc']
    simp

def below (r : Route) (names : List String) : Route := ⟨r.isAbsolute, r.steps ++ names, false⟩

theorem ofText_foldl_extend (d : String) {names : List String} (hn : ∀ s ∈ names, IsName s)
    (hne : names ≠ []) : ofText (names.foldl extend d) = (ofText d).below names := by
  induction names generalizing d with
  | nil => exact absurd rfl hne
  | cons s rest ih =>
      have hs := ofText_extend d (hn s List.mem_cons_self)
      rw [List.foldl_cons]
      by_cases hrest : rest = []
      · rw [hrest, List.foldl_nil, hs, below]
      · rw [ih _ (fun s hs => hn s (List.mem_cons_of_mem _ hs)) hrest, hs, below, below,
          List.append_assoc, List.singleton_append]

theorem filter_dots {names : List String} (hn : ∀ s ∈ names, IsName s) :
    names.filter (· ≠ ".") = names :=
  List.filter_eq_self.mpr fun s hs => by simp [(hn s hs).ne_dot]

theorem names_below (r : Route) {names : List String} (hn : ∀ s ∈ names, IsName s) :
    (r.below names).names = r.names ++ names := by
  obtain ⟨isAbsolute, steps, endsOpen⟩ := r
  cases steps with
  | nil =>
      cases names with
      | nil => rfl
      | cons s rest =>
          have hs := (hn s List.mem_cons_self).ne_dot
          have hrest := filter_dots fun s hs => hn s (List.mem_cons_of_mem _ hs)
          simp only [below, Route.names, List.nil_append, hrest]
          simp [hs]
  | cons first rest =>
      simp only [below, Route.names, List.cons_append, List.filter_append, filter_dots hn]
      split <;> rfl

theorem parent?_below (r : Route) {names : List String} {last : String}
    (hn : ∀ s ∈ names ++ [last], IsName s) :
    (r.below (names ++ [last])).parent? = some ⟨r.isAbsolute, r.names ++ names, false⟩ := by
  have hnames := names_below r hn
  have hne : (r.below (names ++ [last])).names.isEmpty = false := by simp [hnames]
  rw [parent?, hne, hnames, ← List.append_assoc, List.dropLast_concat]
  rfl

theorem fault?_eq_none_iff {r : Route} : r.fault? = none ↔
    (∀ s ∈ r.steps, '\x00' ∉ s.toList) ∧ r.width ≤ pathLimit := by
  rw [fault?]
  split
  · rename_i h
    simp only [List.any_eq_true, List.contains_iff_mem] at h
    obtain ⟨s, hs, hnul⟩ := h
    simp only [reduceCtorEq, false_iff, not_and]
    exact fun hall => absurd hnul (hall s hs)
  · rename_i h
    simp only [List.any_eq_true, List.contains_iff_mem, not_exists, not_and] at h
    split
    · rename_i hlimit
      simp only [reduceCtorEq, false_iff, not_and, Nat.not_le]
      exact fun _ => hlimit
    · rename_i hlimit
      simp only [true_iff]
      exact ⟨h, Nat.not_lt.mp hlimit⟩

theorem fault?_ne_notFound (r : Route) : r.fault? ≠ some .notFound := by
  intro h
  rw [fault?] at h
  split at h
  · cases h
  · split at h <;> cases h

theorem foldl_width_le {short long : List String} (hs : short.Sublist long) :
    ∀ {m n : Nat}, m ≤ n → short.foldl (fun n s => n + s.utf8ByteSize + 1) m ≤
      long.foldl (fun n s => n + s.utf8ByteSize + 1) n := by
  induction hs with
  | slnil => exact id
  | cons s _ ih =>
      intro m n h
      exact ih (by dsimp only; omega)
  | cons_cons s _ ih =>
      intro m n h
      exact ih (by dsimp only; omega)

theorem fault?_of_sublist {r r' : Route} (h : r.fault? = none) (hs : r'.steps.Sublist r.steps) :
    r'.fault? = none := by
  obtain ⟨hnul, hwidth⟩ := fault?_eq_none_iff.mp h
  exact fault?_eq_none_iff.mpr ⟨fun s hmem => hnul s (hs.subset hmem),
    Nat.le_trans (foldl_width_le hs (Nat.le_refl 0)) hwidth⟩

theorem names_sublist (r : Route) : r.names.Sublist r.steps := by
  obtain ⟨isAbsolute, steps, endsOpen⟩ := r
  cases steps with
  | nil => exact List.Sublist.slnil
  | cons first rest =>
      simp only [names]
      split
      · exact (List.filter_sublist).cons _
      · exact (List.filter_sublist).cons_cons _

end Route

end ProviderBindings
