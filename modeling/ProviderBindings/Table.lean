/-!
Tables: values by keys, kept in increasing order of the keys. Most keys are texts, in the order of their
code points, which is also the order of their UTF-8 bytes.
-/

namespace ProviderBindings

abbrev Table (α : Type) := List (String × α)

namespace Table

variable {κ α β : Type}

def keys (t : List (κ × α)) : List κ := t.map Prod.fst

def values (t : List (κ × α)) : List α := t.map Prod.snd

def mapValues (f : α → β) (t : List (κ × α)) : List (κ × β) := t.map fun p => (p.1, f p.2)

def Ordered [LT κ] (t : List (κ × α)) : Prop := (keys t).Pairwise (· < ·)

variable [DecidableEq κ]

def get? (key : κ) : List (κ × α) → Option α
  | [] => none
  | (k, v) :: rest => if key = k then some v else get? key rest

def erase (key : κ) : List (κ × α) → List (κ × α)
  | [] => []
  | (k, v) :: rest => if key = k then rest else (k, v) :: erase key rest

def contains (key : κ) (t : List (κ × α)) : Bool := (get? key t).isSome

variable [LT κ] [DecidableLT κ]

def insert (key : κ) (value : α) : List (κ × α) → List (κ × α)
  | [] => [(key, value)]
  | (k, v) :: rest =>
      if key < k then (key, value) :: (k, v) :: rest
      else if key = k then (key, value) :: rest
      else (k, v) :: insert key value rest

/-- Puts the pairs in one after another, so that the last of several equal keys stays. -/
def ofList (pairs : List (κ × α)) : List (κ × α) :=
  pairs.foldl (fun t p => insert p.1 p.2 t) []

theorem get?_insert_self (key : κ) (value : α) (t : List (κ × α)) :
    get? key (insert key value t) = some value := by
  induction t with
  | nil => simp [insert, get?]
  | cons p rest ih =>
      obtain ⟨k, v⟩ := p
      simp only [insert]
      split
      · simp [get?]
      · split
        · simp [get?]
        · rename_i h
          simp [get?, h, ih]

theorem get?_insert_of_ne {key other : κ} (h : other ≠ key) (value : α) (t : List (κ × α)) :
    get? other (insert key value t) = get? other t := by
  induction t with
  | nil => simp [insert, get?, h]
  | cons p rest ih =>
      obtain ⟨k, v⟩ := p
      simp only [insert]
      split
      · simp [get?, h]
      · split
        · rename_i hk
          subst hk
          simp [get?, h]
        · simp only [get?, ih]

theorem mem_keys_insert (key : κ) (value : α) (t : List (κ × α)) (k : κ) :
    k ∈ keys (insert key value t) ↔ k = key ∨ k ∈ keys t := by
  induction t with
  | nil => simp [insert, keys]
  | cons p rest ih =>
      obtain ⟨k', v⟩ := p
      simp only [keys] at ih
      simp only [insert]
      split
      · simp [keys]
      · split
        · rename_i h
          subst h
          simp [keys]
        · simp only [keys, List.map_cons, List.mem_cons, ih]
          exact or_left_comm

end Table

end ProviderBindings
