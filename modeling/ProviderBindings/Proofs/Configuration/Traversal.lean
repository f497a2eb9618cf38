import ProviderBindings.Configuration.Reference
import ProviderBindings.Proofs.Json.Quotation

/-!
Traversals are unambiguous. When names consist of letters, digits, underscores and hyphens, and no resource
has the type `data`, then two references with one traversal have the same root and the same steps, blocks
and attributes taken for one.
-/

namespace ProviderBindings

namespace Reference

def isNameChar (c : Char) : Bool := c.isAlphanum || c == '_' || c == '-'

/-- Empty names do no harm: the separators are written all the same. -/
def IsName (name : String) : Prop := ∀ c ∈ name.toList, isNameChar c = true

instance (name : String) : Decidable (IsName name) := List.decidableBAll _ _

/-- A resource of type `data` would be written as a data source. -/
def Root.WellNamed : Root → Prop
  | .resource type name => (IsName type ∧ type ≠ "data") ∧ IsName name
  | .dataSource type name => IsName type ∧ IsName name

def Step.WellNamed : Step → Prop
  | .attribute name => IsName name
  | .block name => IsName name
  | _ => True

structure WellNamed (r : Reference) : Prop where
  root : r.root.WellNamed
  steps : ∀ s ∈ r.steps, s.WellNamed

def Step.asWritten : Step → Step
  | .block name => .attribute name
  | s => s

/-! ### Reading traversals -/

def readName (cs : List Char) : String × List Char :=
  (String.ofList (cs.takeWhile isNameChar), cs.dropWhile isNameChar)

def readRoot? (cs : List Char) : Option (Root × List Char) :=
  match readName cs with
  | (first, '.' :: rest) =>
      match readName rest with
      | (second, rest) =>
          if first = "data" then
            match rest with
            | '.' :: rest => some (.dataSource second (readName rest).1, (readName rest).2)
            | _ => none
          else some (.resource first second, rest)
  | _ => none

def readStep? : List Char → Option (Step × List Char)
  | '.' :: rest => some (.attribute (readName rest).1, (readName rest).2)
  | '[' :: '*' :: ']' :: rest => some (.splat, rest)
  | '[' :: '"' :: rest =>
      match Json.unquote? rest with
      | some (key, ']' :: rest) => some (.key (String.ofList key), rest)
      | _ => none
  | '[' :: rest =>
      match rest.dropWhile Char.isDigit with
      | ']' :: after => some (.index (Nat.ofDigitChars 10 (rest.takeWhile Char.isDigit) 0), after)
      | _ => none
  | _ => none

def EndsName (cs : List Char) : Prop := ∀ c ∈ cs.head?, isNameChar c = false

theorem readName_append {name : String} {rest : List Char} (h : IsName name) (hr : EndsName rest) :
    readName (name.toList ++ rest) = (name, rest) := by
  have hnone : rest.takeWhile isNameChar = [] ∧ rest.dropWhile isNameChar = rest := by
    cases rest with
    | nil => exact ⟨rfl, rfl⟩
    | cons c cs =>
        have hc : isNameChar c = false := hr c rfl
        simp [hc]
  rw [readName, List.takeWhile_append_of_pos h, List.dropWhile_append_of_pos h, hnone.1, hnone.2,
    List.append_nil, String.ofList_toList]

theorem readRoot?_append {root : Root} {rest : List Char} (h : root.WellNamed) (hr : EndsName rest) :
    readRoot? (root.traversal.toList ++ rest) = some (root, rest) := by
  have hdot (cs : List Char) : EndsName ('.' :: cs) := by simp [EndsName, isNameChar]
  cases root with
  | resource type name =>
      obtain ⟨⟨htype, hdata⟩, hname⟩ := h
      have hchars : (Root.resource type name).traversal.toList ++ rest =
          type.toList ++ '.' :: (name.toList ++ rest) := by
        simp [Root.traversal]
      rw [hchars, readRoot?, readName_append htype (hdot _)]
      simp only [readName_append hname hr, if_neg hdata]
  | dataSource type name =>
      obtain ⟨htype, hname⟩ := h
      have hdata : IsName "data" := by decide
      have hchars : (Root.dataSource type name).traversal.toList ++ rest =
          "data".toList ++ '.' :: (type.toList ++ '.' :: (name.toList ++ rest)) := by
        simp [Root.traversal]
      rw [hchars, readRoot?, readName_append hdata (hdot _)]
      simp only [readName_append htype (hdot _), if_true, readName_append hname hr]

theorem readStep?_index (position : Nat) (rest : List Char) :
    readStep? ('[' :: (Nat.toDigits 10 position ++ ']' :: rest)) = some (.index position, rest) := by
  have hdigits : ∀ c ∈ Nat.toDigits 10 position, c.isDigit = true := fun c hc =>
    Nat.isDigit_of_mem_toDigits (by decide) (by decide) hc
  have htake : (Nat.toDigits 10 position ++ ']' :: rest).takeWhile Char.isDigit =
      Nat.toDigits 10 position := by
    simp [List.takeWhile_append_of_pos hdigits]
  have hdrop : (Nat.toDigits 10 position ++ ']' :: rest).dropWhile Char.isDigit = ']' :: rest := by
    simp [List.dropWhile_append_of_pos hdigits]
  -- Neither a digit nor the bracket begins one of the other two steps in brackets.
  have hhead : ∀ c ∈ (Nat.toDigits 10 position ++ ']' :: rest).head?, c ≠ '*' ∧ c ≠ '"' := by
    intro c hc
    cases hcs : Nat.toDigits 10 position with
    | nil => simp_all
    | cons d ds =>
        have hd : d.isDigit = true := hdigits d (by simp [hcs])
        obtain rfl : d = c := by simpa [hcs] using hc
        constructor <;> rintro rfl <;> cases hd
  cases hcs : Nat.toDigits 10 position ++ ']' :: rest with
  | nil => simp at hcs
  | cons c cs =>
      rw [hcs] at htake hdrop hhead
      obtain ⟨hstar, hquote⟩ := hhead c rfl
      rw [readStep?]
      · simp only [htake, hdrop, Nat.ofDigitChars_toDigits (by decide : 1 < 10) (by decide)]
      · simp [hstar]
      · simp [hquote]

theorem readStep?_append {s : Step} {rest : List Char} (h : s.WellNamed) (hr : EndsName rest) :
    readStep? (s.traversal.toList ++ rest) = some (s.asWritten, rest) := by
  match s, h with
  | .attribute name, h | .block name, h =>
      simp [Step.traversal, readStep?, readName_append h hr, Step.asWritten]
  | .index position, _ =>
      have hchars : (Step.index position).traversal.toList ++ rest =
          '[' :: (Nat.toDigits 10 position ++ ']' :: rest) := by
        simp [Step.traversal, Nat.toString_eq_repr, Nat.toList_repr]
      rw [hchars, readStep?_index]
      rfl
  | .key k, _ =>
      have hchars : (Step.key k).traversal.toList ++ rest =
          '[' :: '"' :: (k.toList.flatMap Json.escapedChar ++ '"' :: ']' :: rest) := by
        simp [Step.traversal, Json.quote, Json.quotedChars]
      rw [hchars, readStep?, Json.unquote?_escaped]
      simp [Step.asWritten]
  | .splat, _ => simp [Step.traversal, readStep?, Step.asWritten]

theorem endsName_traversal (steps : List Step) : EndsName (steps.flatMap fun s => s.traversal.toList) := by
  cases steps with
  | nil => simp [EndsName]
  | cons s rest => cases s <;> simp [EndsName, Step.traversal, isNameChar, Char.isAlphanum]

theorem steps_eq_of_traversal {steps steps' : List Step} (h : ∀ s ∈ steps, s.WellNamed)
    (h' : ∀ s ∈ steps', s.WellNamed)
    (heq : (steps.flatMap fun s => s.traversal.toList) = steps'.flatMap fun s => s.traversal.toList) :
    steps.map Step.asWritten = steps'.map Step.asWritten := by
  -- Both are read step by step; the rest of a traversal never goes on with a name.
  have hread {s : Step} (rest : List Step) (hs : s.WellNamed) :
      readStep? ((s :: rest).flatMap fun s => s.traversal.toList) =
        some (s.asWritten, rest.flatMap fun s => s.traversal.toList) := by
    rw [List.flatMap_cons]
    exact readStep?_append hs (endsName_traversal rest)
  induction steps generalizing steps' with
  | nil =>
      cases steps' with
      | nil => rfl
      | cons s' rest' =>
          have hstep := hread rest' (h' s' List.mem_cons_self)
          rw [← heq] at hstep
          cases hstep
  | cons s rest ih =>
      obtain ⟨hs, hrest⟩ := List.forall_mem_cons.mp h
      have hstep := hread rest hs
      cases steps' with
      | nil =>
          rw [heq] at hstep
          cases hstep
      | cons s' rest' =>
          obtain ⟨hs', hrest'⟩ := List.forall_mem_cons.mp h'
          rw [heq, hread rest' hs', Option.some.injEq, Prod.mk.injEq] at hstep
          rw [List.map_cons, List.map_cons, hstep.1, ih hrest hrest' hstep.2.symm]

theorem toList_traversal (r : Reference) :
    r.traversal.toList = r.root.traversal.toList ++ r.steps.flatMap fun s => s.traversal.toList := by
  simp [traversal, List.flatMap_map]

theorem traversal_eq_iff {r r' : Reference} (h : r.WellNamed) (h' : r'.WellNamed) :
    r.traversal = r'.traversal ↔
      r.root = r'.root ∧ r.steps.map Step.asWritten = r'.steps.map Step.asWritten := by
  constructor
  · intro heq
    have hchars := congrArg String.toList heq
    rw [toList_traversal, toList_traversal] at hchars
    have hroot := readRoot?_append h.root (endsName_traversal r.steps)
    rw [hchars, readRoot?_append h'.root (endsName_traversal r'.steps), Option.some.injEq,
      Prod.mk.injEq] at hroot
    exact ⟨hroot.1.symm, steps_eq_of_traversal h.steps h'.steps hroot.2.symm⟩
  · rintro ⟨hroot, hsteps⟩
    have hwritten (s : Step) : s.asWritten.traversal = s.traversal := by cases s <;> rfl
    have hmap (steps : List Step) :
        steps.map Step.traversal = (steps.map Step.asWritten).map Step.traversal := by
      simp [hwritten]
    rw [traversal, traversal, hroot, hmap r.steps, hsteps, ← hmap]

def tagged (keys : List String) : Reference :=
  ⟨.dataSource "aws_ami" "web-1", .attribute "tags" :: keys.map .key⟩

theorem wellNamed_tagged (keys : List String) : (tagged keys).WellNamed where
  root := ⟨by decide, by decide⟩
  steps := by
    have htags : IsName "tags" := by decide
    simp [tagged, Step.WellNamed, htags]

/-- One key that looks like the end of a key and the beginning of another one. -/
theorem traversal_ne_tagged :
    (tagged ["x\"][\"y"]).WellNamed ∧ (tagged ["x", "y"]).WellNamed ∧
      (tagged ["x\"][\"y"]).traversal ≠ (tagged ["x", "y"]).traversal := by
  refine ⟨wellNamed_tagged _, wellNamed_tagged _, fun h => ?_⟩
  have hsteps := ((traversal_eq_iff (wellNamed_tagged _) (wellNamed_tagged _)).mp h).2
  exact absurd hsteps (by decide)

-- A resource must not have the type `data`.
example : ((resource "data" "aws_ami").step (.attribute "web")).traversal =
    (dataSource "aws_ami" "web").traversal := by decide

end Reference

end ProviderBindings
