import ProviderBindings.Proofs.Output.Confinement

/-!
What successful writes add to a tree: the file at its place, the directory that holds it, and nothing else.
-/

namespace ProviderBindings

open FileTree (Grows Leads Outcome)
open Route (IsName)

abbrev Additions := List (Place × Entry)

structure FileTree.Adds (l : Additions) (t t' : FileTree) : Prop where
  grows : Grows t t'
  regular : t.Regular → t'.Regular
  added : ∀ a e, (a, e) ∈ l → t'.get? a = some e
  kept : ∀ a, a ∉ Table.keys l → t'.get? a = t.get? a

def Additions.Consistent (l : Additions) : Prop := ∀ a e e', (a, e) ∈ l → (a, e') ∈ l → e = e'

theorem Additions.Consistent.mono {l l' : Additions} (h : l.Consistent) (hl : l' ⊆ l) : l'.Consistent :=
  fun a e e' he he' => h a e e' (hl he) (hl he')

namespace FileTree.Adds

variable {t t' t'' : FileTree} {l l' : Additions} {a : Place} {e : Entry}

theorem refl (t : FileTree) : Adds [] t t := ⟨Grows.refl t, id, nofun, fun _ _ => rfl⟩

theorem trans (h : Adds l t t') (h' : Adds l' t' t'') (hc : Additions.Consistent (l ++ l')) :
    Adds (l ++ l') t t'' where
  grows := h.grows.trans h'.grows
  regular hr := h'.regular (h.regular hr)
  added a e hmem := by
    by_cases ha : a ∈ Table.keys l'
    · obtain ⟨⟨_, e'⟩, hlater, rfl⟩ := List.mem_map.mp ha
      rw [h'.added _ _ hlater, hc _ _ _ hmem (List.mem_append_right l hlater)]
    · rcases List.mem_append.mp hmem with hmem | hmem
      · rw [h'.kept a ha]
        exact h.added a e hmem
      · exact absurd (List.mem_map_of_mem hmem) ha
  kept a ha := by
    rw [Table.keys, List.map_append, List.mem_append, not_or] at ha
    exact (h'.kept a ha.2).trans (h.kept a ha.1)

theorem single (ha : a ≠ []) (hd : t.isDirectory a = true → e = .directory) :
    Adds [(a, e)] t (t.insert a e) where
  grows := Grows.insert ha hd
  regular hr := hr.insert ha
  added b e' hmem := by
    cases List.mem_singleton.mp hmem
    exact get?_insert_self ha
  kept b hb := get?_insert_of_ne fun heq => hb (by simp [Table.keys, heq])

end FileTree.Adds

namespace Output

variable {directory owner s name contents path written : String} {p : Place} {t t' : FileTree}

theorem adds_apply_opening {fault : Option IoError}
    (h : t.apply (FileTree.opening fault p s t) = (t', .ok ())) : t.Adds [(p ++ [s], .directory)] t' := by
  rcases FileTree.apply_eq_ok h with ⟨hc, rfl⟩ | ⟨a, e, hc, rfl⟩
  · rcases FileTree.opening_eq_ok hc with heq | ⟨-, hget⟩
    · cases heq
    · refine ⟨Grows.refl t', id, fun a e hmem => ?_, fun _ _ => rfl⟩
      cases List.mem_singleton.mp hmem
      exact hget
  · rcases FileTree.opening_eq_ok hc with heq | ⟨heq, -⟩
    · cases heq
      exact .single (by simp) fun _ => rfl
    · cases heq

theorem adds_apply_delivery {fault : Option IoError} {reached : Except IoError Place} {q : Place}
    (hend : ∀ q', reached = .ok q' → q' = q)
    (h : t.apply (FileTree.delivery fault reached name contents t) = (t', .ok ())) :
    t.Adds [(q ++ [name], .file contents false)] t' := by
  rcases FileTree.apply_eq_ok h with ⟨hc, rfl⟩ | ⟨a, e, hc, rfl⟩
  · obtain ⟨q', -, heq, -⟩ := FileTree.delivery_eq_ok hc
    cases heq
  · obtain ⟨q', hreached, heq, hno⟩ := FileTree.delivery_eq_ok hc
    cases hend q' hreached
    cases heq
    exact .single (by simp) fun hd => absurd hd hno

theorem write_eq_ok {f : SourceFile} (h : write directory owner f t = (t', .ok written)) :
    ∃ t₁, makeRoom directory owner f t = (t₁, .ok ()) ∧ deliver directory owner f t₁ = (t', .ok ()) := by
  rw [write_eq] at h
  rcases hroom : makeRoom directory owner f t with ⟨t₁, e | ⟨⟩⟩
  · rw [hroom] at h
    cases h
  · rw [hroom] at h
    dsimp only at h
    refine ⟨t₁, rfl, ?_⟩
    rcases hdeliver : deliver directory owner f t₁ with ⟨t₂, e | ⟨⟩⟩
    · rw [hdeliver] at h
      cases h
    · rw [hdeliver] at h
      cases h
      rfl

def additions (p : Place) (path contents : String) : Additions :=
  let place := p ++ (Route.parts path.toList).map String.ofList
  [(place.dropLast, .directory), (place, .file contents false)]

theorem additions_pair (hs : IsName s) (hn : IsName name) :
    additions p (s ++ "/" ++ name) contents =
      [(p ++ [s], .directory), (p ++ [s] ++ [name], .file contents false)] := by
  rw [additions, parts_pair hs hn]
  simp

theorem adds_write (hl : t.Leads (.ofText directory) p) (hs : IsName s) (hpath : LiesIn s path)
    (h : write directory owner ⟨path, contents⟩ t = (t', .ok written)) :
    t.Adds (additions p path contents) t' := by
  obtain ⟨name, hn, rfl⟩ := hpath
  obtain ⟨t₁, hroom, hdeliver⟩ := write_eq_ok h
  rw [makeRoom_eq hl hs hn, failed_eq_ok_iff] at hroom
  rw [deliver_eq (isName_pair hs hn) (parts_pair hs hn), failed_eq_ok_iff] at hdeliver
  have hopened := adds_apply_opening hroom
  have hdelivered := adds_apply_delivery
    (fun q hq => FileTree.end_of_walk_name (hl.mono hopened.grows) hs hq) hdeliver
  rw [additions_pair hs hn]
  refine hopened.trans hdelivered fun a e e' he he' => ?_
  simp only [List.singleton_append, List.mem_cons, Prod.mk.injEq, List.not_mem_nil, or_false] at he he'
  rcases he with ⟨rfl, rfl⟩ | ⟨rfl, rfl⟩
  · rcases he' with ⟨_, rfl⟩ | ⟨heq, _⟩
    · rfl
    · simp at heq
  · rcases he' with ⟨heq, _⟩ | ⟨_, rfl⟩
    · simp at heq
    · rfl

theorem parts_indexName : (Route.parts indexName.toList).map String.ofList = [] ++ [indexName] := by
  decide

theorem adds_write_index (hl : t.Leads (.ofText directory) p)
    (h : write directory owner ⟨indexName, contents⟩ t = (t', .ok written)) :
    t.Adds [(p ++ [indexName], .file contents false)] t' := by
  have hnames : ∀ a ∈ [] ++ [indexName], IsName a := by simp [isName_indexName]
  obtain ⟨t₁, hroom, hdeliver⟩ := write_eq_ok h
  rw [makeRoom, parent?_filePath hnames parts_indexName, Option.getD_some, List.append_nil,
    FileTree.makeDirectories_names hl] at hroom
  cases hroom
  rw [deliver_eq hnames parts_indexName, failed_eq_ok_iff] at hdeliver
  refine adds_apply_delivery (fun q hq => ?_) hdeliver
  rw [List.append_nil, hl.walk] at hq
  cases hq
  rfl

end Output

end ProviderBindings
