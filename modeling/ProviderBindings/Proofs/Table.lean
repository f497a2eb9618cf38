import ProviderBindings.Table

/-!
Tables in key order: what they hold is decided by their look-ups alone, and inserting and dropping keys keeps
the order.
-/

namespace ProviderBindings.Table

variable {κ α : Type} {t t' : List (κ × α)} {key : κ} {value : α}

theorem ordered_filter [LT κ] (h : Ordered t) (keep : κ × α → Bool) : Ordered (t.filter keep) :=
  h.sublist (List.filter_sublist.map Prod.fst)

theorem nodup_keys_of_ordered [LE κ] [LT κ] [Std.LawfulOrderLT κ] (h : Ordered t) : (keys t).Nodup := by
  refine List.Pairwise.imp ?_ h
  rintro a b hlt rfl
  exact Std.lt_irrefl hlt

theorem nodup_map_filterMap {β γ : Type} {l : List α} {f : α → Option β} {k : α → γ} {k' : β → γ}
    (h : ∀ a b, f a = some b → k' b = k a) (hl : (l.map k).Nodup) : ((l.filterMap f).map k').Nodup := by
  refine List.pairwise_map.mpr (List.pairwise_filterMap.mpr ?_)
  refine (List.pairwise_map.mp hl).imp fun {a a'} hne b hb b' hb' heq => hne ?_
  rw [← h a b hb, heq, h a' b' hb']

variable [DecidableEq κ]

theorem get?_eq_none_iff : get? key t = none ↔ key ∉ keys t := by
  induction t with
  | nil => simp [get?, keys]
  | cons p rest ih =>
      obtain ⟨k, v⟩ := p
      simp only [keys] at ih
      simp only [get?, keys, List.map_cons, List.mem_cons, not_or]
      split
      · rename_i h
        simp [h]
      · rename_i h
        simp [h, ih]

theorem mem_of_get? (h : get? key t = some value) : (key, value) ∈ t := by
  induction t with
  | nil => cases h
  | cons p rest ih =>
      obtain ⟨k, v⟩ := p
      rw [get?] at h
      split at h
      · rename_i heq
        cases h
        rw [heq]
        exact List.mem_cons_self
      · exact List.mem_cons_of_mem _ (ih h)

theorem get?_filter (keep : κ → Bool) :
    get? key (t.filter fun e => keep e.1) = if keep key then get? key t else none := by
  induction t with
  | nil => simp [get?]
  | cons p rest ih =>
      obtain ⟨k, v⟩ := p
      rw [List.filter_cons]
      cases hk : keep k with
      | true =>
          simp only [if_true, get?, ih]
          split
          · rename_i heq
            rw [heq, hk]
            rfl
          · rfl
      | false =>
          simp only [Bool.false_eq_true, if_false, ih, get?]
          split
          · split
            · rename_i hkey heq
              rw [heq, hk] at hkey
              cases hkey
            · rfl
          · rfl

theorem get?_mapValues {β : Type} (f : α → β) (t : List (κ × α)) (key : κ) :
    get? key (mapValues f t) = (get? key t).map f := by
  induction t with
  | nil => rfl
  | cons p rest ih =>
      simp only [mapValues, List.map_cons, get?] at ih ⊢
      split
      · rfl
      · exact ih

theorem ne_nil_iff : t ≠ [] ↔ ∃ key, (get? key t).isSome = true := by
  cases t with
  | nil => simp [get?]
  | cons p rest =>
      refine iff_of_true (List.cons_ne_nil _ _) ⟨p.1, ?_⟩
      simp [get?]

section

variable [LT κ] [DecidableLT κ]

theorem get?_insert (key : κ) (value : α) (t : List (κ × α)) (other : κ) :
    get? other (insert key value t) = if other = key then some value else get? other t := by
  split
  · rename_i h
    rw [h, get?_insert_self]
  · rename_i h
    exact get?_insert_of_ne h value t

theorem mem_of_mem_insert {p : κ × α} (h : p ∈ insert key value t) : p = (key, value) ∨ p ∈ t := by
  induction t with
  | nil => exact .inl (List.mem_singleton.mp h)
  | cons q rest ih =>
      obtain ⟨k, v⟩ := q
      rw [insert] at h
      split at h
      · exact List.mem_cons.mp h
      · split at h
        · exact (List.mem_cons.mp h).imp_right (List.mem_cons_of_mem _)
        · rcases List.mem_cons.mp h with rfl | h
          · exact .inr List.mem_cons_self
          · exact (ih h).imp_right (List.mem_cons_of_mem _)

variable {pairs : List (κ × α)}

theorem mem_keys_foldl_insert :
    key ∈ keys (pairs.foldl (fun t p => insert p.1 p.2 t) t) ↔ key ∈ keys t ∨ key ∈ keys pairs := by
  induction pairs generalizing t with
  | nil => simp [keys]
  | cons p rest ih =>
      have hcons : key ∈ keys (p :: rest) ↔ key = p.1 ∨ key ∈ keys rest := List.mem_cons
      rw [List.foldl_cons, ih, mem_keys_insert, hcons, or_assoc]
      exact or_left_comm

theorem mem_of_mem_foldl_insert {p : κ × α}
    (h : p ∈ pairs.foldl (fun t p => insert p.1 p.2 t) t) : p ∈ t ∨ p ∈ pairs := by
  induction pairs generalizing t with
  | nil => exact .inl h
  | cons q rest ih =>
      rcases ih h with h | h
      · rcases mem_of_mem_insert h with rfl | h
        · exact .inr List.mem_cons_self
        · exact .inl h
      · exact .inr (List.mem_cons_of_mem _ h)

theorem get?_foldl_insert_of_not_mem (h : key ∉ keys pairs) :
    get? key (pairs.foldl (fun t p => insert p.1 p.2 t) t) = get? key t := by
  induction pairs generalizing t with
  | nil => rfl
  | cons p rest ih =>
      rw [keys, List.map_cons, List.mem_cons, not_or] at h
      rw [List.foldl_cons, ih h.2, get?_insert_of_ne h.1]

theorem get?_foldl_insert_of_nodup (hn : (keys pairs).Nodup) :
    ∀ p ∈ pairs, get? p.1 (pairs.foldl (fun t p => insert p.1 p.2 t) t) = some p.2 := by
  induction pairs generalizing t with
  | nil => simp
  | cons q rest ih =>
      obtain ⟨hq, hrest⟩ := List.nodup_cons.mp hn
      intro p hp
      rw [List.foldl_cons]
      rcases List.mem_cons.mp hp with rfl | hp
      · rw [get?_foldl_insert_of_not_mem hq, get?_insert_self]
      · exact ih hrest p hp

end

variable [LE κ] [LT κ] [Std.LawfulOrderLT κ]

theorem mem_iff_get? (h : Ordered t) : (key, value) ∈ t ↔ get? key t = some value := by
  refine ⟨fun hmem => ?_, mem_of_get?⟩
  induction t with
  | nil => cases hmem
  | cons p rest ih =>
      obtain ⟨k, v⟩ := p
      obtain ⟨hfirst, hrest⟩ := List.pairwise_cons.mp h
      rcases List.mem_cons.mp hmem with heq | hmem
      · cases heq
        simp [get?]
      · have hlt : k < key := hfirst key (List.mem_map_of_mem hmem)
        have hne : key ≠ k := by
          rintro rfl
          exact Std.lt_irrefl hlt
        rw [get?, if_neg hne]
        exact ih hrest hmem

variable [Std.IsLinearOrder κ]

theorem ordered_insert [DecidableLT κ] (key : κ) (value : α) (h : Ordered t) :
    Ordered (insert key value t) := by
  induction t with
  | nil => simp [insert, Ordered, keys]
  | cons p rest ih =>
      obtain ⟨k, v⟩ := p
      obtain ⟨hfirst, hrest⟩ := List.pairwise_cons.mp h
      simp only [insert]
      split
      · rename_i hlt
        refine List.pairwise_cons.mpr ⟨fun k' hk' => ?_, h⟩
        rcases List.mem_cons.mp hk' with rfl | hk'
        · exact hlt
        · exact Std.lt_trans hlt (hfirst k' hk')
      · rename_i hnot
        split
        · rename_i heq
          subst heq
          exact h
        · rename_i hne
          have hlt : k < key := Std.lt_of_le_of_ne (Std.not_lt.mp hnot) fun heq => hne heq.symm
          refine List.pairwise_cons.mpr ⟨fun k' hk' => ?_, ih hrest⟩
          rcases (mem_keys_insert key value rest k').mp hk' with rfl | hk'
          · exact hlt
          · exact hfirst k' hk'

theorem insert_last [DecidableLT κ] {rest : List (κ × α)} (h : Ordered (t ++ (key, value) :: rest)) :
    insert key value t = t ++ [(key, value)] := by
  induction t with
  | nil => rfl
  | cons p others ih =>
      obtain ⟨k, v⟩ := p
      obtain ⟨hfirst, hothers⟩ := List.pairwise_cons.mp h
      have hlt : k < key := hfirst key (by simp)
      have hne : key ≠ k := by
        rintro rfl
        exact Std.lt_irrefl hlt
      rw [insert, if_neg fun hgt => Std.lt_irrefl (Std.lt_trans hlt hgt), if_neg hne, ih hothers]
      rfl

theorem ordered_foldl_insert [DecidableLT κ] (pairs : List (κ × α)) (h : Ordered t) :
    Ordered (pairs.foldl (fun t p => insert p.1 p.2 t) t) := by
  induction pairs generalizing t with
  | nil => exact h
  | cons p rest ih => exact ih (ordered_insert p.1 p.2 h)

theorem ext_of_get? (h : Ordered t) (h' : Ordered t') (heq : ∀ key, get? key t = get? key t') :
    t = t' := by
  have hperm : t.Perm t' := by
    have hnodup {l : List (κ × α)} (hl : Ordered l) : l.Nodup :=
      (List.pairwise_map.mp (nodup_keys_of_ordered hl)).imp fun hne heq => hne (congrArg Prod.fst heq)
    refine (List.perm_ext_iff_of_nodup (hnodup h) (hnodup h')).mpr fun e => ?_
    rw [mem_iff_get? h, mem_iff_get? h', heq]
  refine hperm.eq_of_pairwise (fun a b _ _ hab hba => ?_) (List.pairwise_map.mp h) (List.pairwise_map.mp h')
  exact absurd (Std.lt_trans hab hba) Std.lt_irrefl

end ProviderBindings.Table
