import ProviderBindings.Proofs.Json.Places
import ProviderBindings.Proofs.Wire.Writing

/-!
What a tree is decoded as does not depend on the places of its parts.
-/

namespace ProviderBindings.Wire

open Json (Fault Scalar Close Key Tree Opening unplacedItems unplacedMembers)

variable {env : Environment}

theorem sameResult_fromFault {α : Type} {x y : Except Fault α} (h : SameResult x y) :
    SameResult (fromFault x) (fromFault y) := by
  intro a
  have hok (z : Except Fault α) : fromFault z = .ok a ↔ z = .ok a := by cases z <;> simp [fromFault]
  rw [hok, hok, h]

theorem sameResult_opened (o : Opening) : SameResult (opened o.unplaced) (opened o) := by
  obtain ⟨offset, tooDeep⟩ := o
  cases tooDeep with
  | true => exact .errors _ _
  | false => exact .of_eq rfl

theorem sameResult_scalarOf (shape : Shape) (s : Scalar) (offset offset' : Nat) :
    SameResult (scalarOf shape s offset) (scalarOf shape s offset') := by
  unfold scalarOf
  split
  · exact .of_eq rfl
  · exact .of_eq rfl
  · split
    · exact .errors _ _
    · exact .of_eq rfl
  · exact .of_eq rfl
  · exact .of_eq rfl
  · exact .of_eq rfl
  · exact .errors _ _

theorem isNull_unplaced (t : Tree) : isNull t.unplaced = isNull t := by
  cases t with
  | scalar s start stop => cases s <;> (rw [Tree.unplaced]; rfl)
  | spoiled | broken | list | object => (rw [Tree.unplaced]; rfl)

theorem sameResult_settle {f : Field} {t t' : Tree} {x y : Except Failure Datum}
    (hnull : isNull t = isNull t') (h : SameResult x y) :
    SameResult (settle env f t x) (settle env f t' y) := by
  rw [settle, settle, hnull]
  cases f.presence with
  | plain => exact h
  | lenient =>
      dsimp only
      split
      · exact .of_eq rfl
      · exact h
  | optional =>
      dsimp only
      split
      · exact .of_eq rfl
      · exact h.map Datum.present

theorem sameResult_endOfFields (count : Nat) (next : Option Tree) (close : Close) :
    SameResult (endOfFields count (next.map Tree.unplaced) close.unplaced) (endOfFields count next close) := by
  cases next with
  | some t => exact .errors _ _
  | none =>
      cases close with
      | closed => exact .of_eq rfl
      | broken reading skimming =>
          have hfails (r s : Fault) : ∃ e, endOfFields count none (.broken r s) = .error e := by
            obtain ⟨cause, offset⟩ := r
            cases cause <;> exact ⟨_, rfl⟩
          obtain ⟨e, he⟩ := hfails reading skimming
          obtain ⟨e', he'⟩ := hfails reading.unplaced skimming.unplaced
          rw [Option.map_none, Close.unplaced, he, he']
          exact .errors _ _

mutual
theorem sameResult_decode : ∀ (shape : Shape) (t : Tree),
    SameResult (decode env shape t.unplaced) (decode env shape t)
  | shape, .scalar s start stop => by
      rw [Tree.unplaced, decode, decode]
      exact sameResult_scalarOf shape s _ _
  | shape, .spoiled fault start => by
      rw [Tree.unplaced, decode, decode]
      exact .errors _ _
  | shape, .broken reading skimming start => by
      rw [Tree.unplaced, decode, decode]
      exact .errors _ _
  | shape, .list opening items close => by
      cases shape with
      | list item =>
          rw [Tree.unplaced, decode, decode]
          exact (sameResult_opened opening).bind fun _ =>
            (sameResult_decodeItems item close items).bind fun _ => .of_eq rfl
      | record name =>
          rw [Tree.unplaced, decode, decode, Json.length_unplacedItems]
          exact (sameResult_opened opening).bind fun _ =>
            (sameResult_decodePositions items.length close items (env.fields name)).bind fun _ => .of_eq rfl
      | json =>
          rw [decode_json, decode_json]
          exact (sameResult_fromFault (Json.sameResult_toJson _)).map _
      | text | flag | count | real | table =>
          simp only [Tree.unplaced, decode]
          exact .errors _ _
  | shape, .object opening members close => by
      cases shape with
      | table value =>
          rw [Tree.unplaced, decode, decode]
          exact (sameResult_opened opening).bind fun _ =>
            (sameResult_decodeEntries value close [] members).bind fun _ => .of_eq rfl
      | record name =>
          rw [Tree.unplaced, decode, decode]
          exact (sameResult_opened opening).bind fun _ =>
            (sameResult_decodeFields (env.fields name) close [] members).bind fun _ => .of_eq rfl
      | json =>
          rw [decode_json, decode_json]
          exact (sameResult_fromFault (Json.sameResult_toJson _)).map _
      | text | flag | count | real | list =>
          simp only [Tree.unplaced, decode]
          exact .errors _ _

theorem sameResult_decodeItems (item : Shape) (close : Close) : ∀ items : List Tree,
    SameResult (decodeItems env item close.unplaced (unplacedItems items)) (decodeItems env item close items)
  | [] => by
      rw [unplacedItems, decodeItems, decodeItems]
      exact (sameResult_fromFault (Json.sameResult_close close)).map _
  | t :: rest => by
      rw [unplacedItems, decodeItems, decodeItems]
      exact (sameResult_decode item t).bind fun _ =>
        (sameResult_decodeItems item close rest).bind fun _ => .of_eq rfl

theorem sameResult_decodeEntries (value : Shape) (close : Close) (done : Table Datum) :
    ∀ members : List (Key × Tree),
    SameResult (decodeEntries env value close.unplaced done (unplacedMembers members))
      (decodeEntries env value close done members)
  | [] => by
      rw [unplacedMembers, decodeEntries, decodeEntries]
      exact (sameResult_fromFault (Json.sameResult_close close)).map _
  | (key, t) :: rest => by
      rw [unplacedMembers, decodeEntries, decodeEntries]
      exact (sameResult_fromFault (Json.sameResult_text key)).bind fun _ =>
        (sameResult_decode value t).bind fun _ => sameResult_decodeEntries value close _ rest

theorem sameResult_decodeFields (fields : List Field) (close : Close) (done : List (String × Datum)) :
    ∀ members : List (Key × Tree),
    SameResult (decodeFields env fields close.unplaced done (unplacedMembers members))
      (decodeFields env fields close done members)
  | [] => by
      rw [unplacedMembers, decodeFields, decodeFields]
      exact (sameResult_fromFault (Json.sameResult_close close)).map _
  | (key, t) :: rest => by
      rw [unplacedMembers, decodeFields, decodeFields]
      refine (sameResult_fromFault (Json.sameResult_text key)).bind fun k => ?_
      cases fields.find? (·.key = k) with
      | none =>
          dsimp only
          rw [Json.skimmed_unplaced]
          cases t.skimmed with
          | some fault => exact .errors _ _
          | none => exact sameResult_decodeFields fields close done rest
      | some field =>
          dsimp only
          split
          · exact .errors _ _
          · exact (sameResult_settle (isNull_unplaced t) (sameResult_decode field.shape t)).bind fun _ =>
              sameResult_decodeFields fields close _ rest

theorem sameResult_decodePositions (count : Nat) (close : Close) :
    ∀ (items : List Tree) (fields : List Field),
    SameResult (decodePositions env count close.unplaced (unplacedItems items) fields)
      (decodePositions env count close items fields)
  | [], [] => by
      rw [unplacedItems, decodePositions, decodePositions]
      exact (sameResult_endOfFields count none close).map _
  | [], _ :: _ => by
      rw [unplacedItems, decodePositions, decodePositions]
      exact (sameResult_fromFault (Json.sameResult_close close)).map _
  | t :: rest, [] => by
      rw [unplacedItems, decodePositions, decodePositions]
      exact (sameResult_endOfFields count (some t) close).map _
  | t :: rest, field :: fields => by
      rw [unplacedItems, decodePositions, decodePositions]
      exact (sameResult_settle (isNull_unplaced t) (sameResult_decode field.shape t)).bind fun _ =>
        (sameResult_decodePositions count close rest fields).bind fun _ => .of_eq rfl
end

end ProviderBindings.Wire
