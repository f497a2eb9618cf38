import ProviderBindings.Json.Tree
import ProviderBindings.Proofs.Success

/-!
Trees apart from the places of their parts. The places are for messages only: a tree reads as the same value
without them, and a skimmer finds the same faults.
-/

namespace ProviderBindings.Json

def Fault.unplaced (f : Fault) : Fault := { f with offset := 0 }

def Close.unplaced : Close → Close
  | .closed => .closed
  | .broken reading skimming => .broken reading.unplaced skimming.unplaced

def Key.unplaced (k : Key) : Key := ⟨k.text.mapError Fault.unplaced, 0⟩

def Opening.unplaced (o : Opening) : Opening := { o with offset := 0 }

mutual
def Tree.unplaced : Tree → Tree
  | .scalar s _ _ => .scalar s 0 0
  | .spoiled fault _ => .spoiled fault.unplaced 0
  | .broken reading skimming _ => .broken reading.unplaced skimming.unplaced 0
  | .list opening items close => .list opening.unplaced (unplacedItems items) close.unplaced
  | .object opening members close => .object opening.unplaced (unplacedMembers members) close.unplaced

def unplacedItems : List Tree → List Tree
  | [] => []
  | t :: rest => t.unplaced :: unplacedItems rest

def unplacedMembers : List (Key × Tree) → List (Key × Tree)
  | [] => []
  | (key, t) :: rest => (key.unplaced, t.unplaced) :: unplacedMembers rest
end

theorem length_unplacedItems (items : List Tree) : (unplacedItems items).length = items.length := by
  induction items with
  | nil => rfl
  | cons t rest ih => simp [unplacedItems, ih]

theorem sameResult_text (k : Key) : SameResult k.unplaced.text k.text := by
  rw [Key.unplaced]
  cases k.text with
  | error f => exact .errors _ _
  | ok text => exact .of_eq rfl

theorem sameResult_close (close : Close) : SameResult close.unplaced.read close.read := by
  cases close with
  | closed => exact .of_eq rfl
  | broken reading skimming => exact .errors _ _

/-! ### Reading -/

mutual
theorem sameResult_toJson : ∀ t : Tree, SameResult t.unplaced.toJson t.toJson
  | .scalar s start stop => by
      rw [Tree.unplaced, Tree.toJson, Tree.toJson]
      exact .of_eq rfl
  | .spoiled fault start => by
      rw [Tree.unplaced, Tree.toJson, Tree.toJson]
      exact .errors _ _
  | .broken reading skimming start => by
      rw [Tree.unplaced, Tree.toJson, Tree.toJson]
      exact .errors _ _
  | .list ⟨offset, tooDeep⟩ items close => by
      rw [Tree.unplaced, Tree.toJson, Tree.toJson]
      cases tooDeep with
      | true => exact .errors _ _
      | false => exact (sameResult_jsonOfItems close items).map Json.list
  | .object ⟨offset, tooDeep⟩ members close => by
      rw [Tree.unplaced, Tree.toJson, Tree.toJson]
      cases tooDeep with
      | true => exact .errors _ _
      | false => exact (sameResult_jsonOfMembers close [] members).map Json.object

theorem sameResult_jsonOfItems (close : Close) : ∀ items : List Tree,
    SameResult (jsonOfItems close.unplaced (unplacedItems items)) (jsonOfItems close items)
  | [] => by
      rw [unplacedItems, jsonOfItems, jsonOfItems]
      exact (sameResult_close close).map _
  | t :: rest => by
      rw [unplacedItems, jsonOfItems, jsonOfItems]
      exact (sameResult_toJson t).bind fun _ => (sameResult_jsonOfItems close rest).bind fun _ => .of_eq rfl

theorem sameResult_jsonOfMembers (close : Close) (done : Table Json) : ∀ members : List (Key × Tree),
    SameResult (jsonOfMembers close.unplaced done (unplacedMembers members))
      (jsonOfMembers close done members)
  | [] => by
      rw [unplacedMembers, jsonOfMembers, jsonOfMembers]
      exact (sameResult_close close).map _
  | (key, t) :: rest => by
      rw [unplacedMembers, jsonOfMembers, jsonOfMembers]
      exact (sameResult_text key).bind fun _ => (sameResult_toJson t).bind fun _ =>
        sameResult_jsonOfMembers close _ rest
end

/-! ### Skimming -/

mutual
theorem skimmed_unplaced : ∀ t : Tree, t.unplaced.skimmed = t.skimmed.map Fault.unplaced
  | .scalar _ _ _ | .spoiled _ _ | .broken _ _ _ => by
      rw [Tree.unplaced, Tree.skimmed, Tree.skimmed]
      rfl
  | .list _ items close => by
      rw [Tree.unplaced, Tree.skimmed, Tree.skimmed, skimmedItems_unplaced]
  | .object _ members close => by
      rw [Tree.unplaced, Tree.skimmed, Tree.skimmed, skimmedMembers_unplaced]

theorem skimmedItems_unplaced (close : Close) : ∀ items : List Tree,
    skimmedItems close.unplaced (unplacedItems items) = (skimmedItems close items).map Fault.unplaced
  | [] => by cases close <;> rfl
  | t :: rest => by
      rw [unplacedItems, skimmedItems, skimmedItems, skimmed_unplaced t, skimmedItems_unplaced close rest]
      cases t.skimmed <;> rfl

theorem skimmedMembers_unplaced (close : Close) : ∀ members : List (Key × Tree),
    skimmedMembers close.unplaced (unplacedMembers members) =
      (skimmedMembers close members).map Fault.unplaced
  | [] => by cases close <;> rfl
  | (_, t) :: rest => by
      rw [unplacedMembers, skimmedMembers, skimmedMembers, skimmed_unplaced t,
        skimmedMembers_unplaced close rest]
      cases t.skimmed <;> rfl
end

end ProviderBindings.Json
