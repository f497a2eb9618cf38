import ProviderBindings.Json.Tree
import ProviderBindings.Proofs.Success
import ProviderBindings.Proofs.Table

/-!
JSON values whose objects are tables in key order. The tree of such a value is faultless: it reads as the
value, and a skimmer finds nothing in it.
-/

namespace ProviderBindings.Json

mutual
def KeyOrdered : Json → Prop
  | .list items => itemsKeyOrdered items
  | .object members => Table.Ordered members ∧ membersKeyOrdered members
  | _ => True

def itemsKeyOrdered : List Json → Prop
  | [] => True
  | v :: rest => KeyOrdered v ∧ itemsKeyOrdered rest

def membersKeyOrdered : List (String × Json) → Prop
  | [] => True
  | (_, v) :: rest => KeyOrdered v ∧ membersKeyOrdered rest
end

theorem membersKeyOrdered_iff {members : List (String × Json)} :
    membersKeyOrdered members ↔ ∀ m ∈ members, m.2.KeyOrdered := by
  induction members with
  | nil => simp [membersKeyOrdered]
  | cons m rest ih => simp [membersKeyOrdered, ih]

mutual
def decideKeyOrdered : (v : Json) → Decidable v.KeyOrdered
  | .null | .bool _ | .number _ | .text _ => isTrue trivial
  | .list items => decideItemsKeyOrdered items
  | .object members =>
      have := decideMembersKeyOrdered members
      inferInstanceAs (Decidable ((Table.keys members).Pairwise (· < ·) ∧ membersKeyOrdered members))

def decideItemsKeyOrdered : (items : List Json) → Decidable (itemsKeyOrdered items)
  | [] => isTrue trivial
  | v :: rest =>
      have := decideKeyOrdered v
      have := decideItemsKeyOrdered rest
      inferInstanceAs (Decidable (v.KeyOrdered ∧ itemsKeyOrdered rest))

def decideMembersKeyOrdered : (members : List (String × Json)) → Decidable (membersKeyOrdered members)
  | [] => isTrue trivial
  | (_, v) :: rest =>
      have := decideKeyOrdered v
      have := decideMembersKeyOrdered rest
      inferInstanceAs (Decidable (v.KeyOrdered ∧ membersKeyOrdered rest))
end

instance (v : Json) : Decidable v.KeyOrdered := decideKeyOrdered v

/-! ### Trees -/

mutual
theorem toJson_ofJson : ∀ v : Json, v.KeyOrdered → (Tree.ofJson v).toJson = .ok v
  | .null, _ | .bool _, _ | .number _, _ | .text _, _ => by simp [Tree.ofJson, Tree.toJson, Scalar.toJson]
  | .list items, h => by
      have hitems := jsonOfItems_trees items h
      rw [Tree.ofJson, Tree.toJson, hitems]
      rfl
  | .object members, h => by
      have hmembers := jsonOfMembers_trees members [] h.2 h.1
      rw [Tree.ofJson, Tree.toJson, hmembers]
      rfl

theorem jsonOfItems_trees : ∀ items : List Json, itemsKeyOrdered items →
    jsonOfItems .closed (treesOfItems items) = .ok items
  | [], _ => rfl
  | v :: rest, ⟨hv, hrest⟩ => by
      rw [treesOfItems, jsonOfItems, toJson_ofJson v hv, jsonOfItems_trees rest hrest]
      rfl

-- The members read so far come before those that follow, so that each one is put at the end.
theorem jsonOfMembers_trees : ∀ (members : List (String × Json)) (done : Table Json),
    membersKeyOrdered members → Table.Ordered (done ++ members) →
      jsonOfMembers .closed done (treesOfMembers members) = .ok (done ++ members)
  | [], done, _, _ => by
      rw [List.append_nil]
      rfl
  | (k, v) :: rest, done, ⟨hv, hrest⟩, ho => by
      have hlast : Table.insert k v done = done ++ [(k, v)] := Table.insert_last ho
      have happend : done ++ (k, v) :: rest = (done ++ [(k, v)]) ++ rest := by simp
      rw [happend] at ho ⊢
      rw [treesOfMembers, jsonOfMembers, toJson_ofJson v hv]
      change jsonOfMembers .closed (Table.insert k v done) (treesOfMembers rest) = _
      rw [hlast]
      exact jsonOfMembers_trees rest _ hrest ho
end

mutual
theorem skimmed_ofJson : ∀ v : Json, (Tree.ofJson v).skimmed = none
  | .null | .bool _ | .number _ | .text _ => by simp [Tree.ofJson, Tree.skimmed]
  | .list items => by rw [Tree.ofJson, Tree.skimmed, skimmedItems_trees items]
  | .object members => by rw [Tree.ofJson, Tree.skimmed, skimmedMembers_trees members]

theorem skimmedItems_trees : ∀ items : List Json, skimmedItems .closed (treesOfItems items) = none
  | [] => rfl
  | v :: rest => by
      rw [treesOfItems, skimmedItems, skimmed_ofJson v, skimmedItems_trees rest]
      rfl

theorem skimmedMembers_trees : ∀ members : List (String × Json),
    skimmedMembers .closed (treesOfMembers members) = none
  | [] => rfl
  | (_, v) :: rest => by
      rw [treesOfMembers, skimmedMembers, skimmed_ofJson v, skimmedMembers_trees rest]
      rfl
end

end ProviderBindings.Json
