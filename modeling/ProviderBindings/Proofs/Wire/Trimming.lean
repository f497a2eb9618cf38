import Mathlib.Data.List.Nodup
import Mathlib.Logic.Relation
import ProviderBindings.Proofs.Wire.Places

/-!
Null fields and unknown members make no difference. Records of which no field refuses nulls are decoded alike
from trees that differ in members of these two kinds only, at any depth.
-/

namespace ProviderBindings.Wire

open Json (Close Key Tree Opening)

/-- `Trims env shape t t'` says that `t'` is `t` without one null field or one unknown member of a record,
which may be `t` itself or stand anywhere inside, where `t` is read by the shape. -/
inductive Trims (env : Environment) : Shape → Tree → Tree → Prop where
  | nullField {name : RecordName} {opening : Opening} {close : Close} {before after : List (Key × Tree)}
      {key : Key} {t : Tree} {f : Field} (hf : f ∈ env.fields name) (hkey : key.text = .ok f.key)
      (hnull : isNull t = true) (honly : ∀ m ∈ before ++ after, m.1.text ≠ .ok f.key) :
      Trims env (.record name) (.object opening (before ++ (key, t) :: after) close)
        (.object opening (before ++ after) close)
  | unknownMember {name : RecordName} {opening : Opening} {close : Close} {before after : List (Key × Tree)}
      {key : Key} {t : Tree} {k : String} (hkey : key.text = .ok k) (hk : ∀ f ∈ env.fields name, f.key ≠ k)
      (hvalue : t.skimmed = none) :
      Trims env (.record name) (.object opening (before ++ (key, t) :: after) close)
        (.object opening (before ++ after) close)
  | inField {name : RecordName} {opening : Opening} {close : Close} {before after : List (Key × Tree)}
      {key : Key} {t t' : Tree} {f : Field} (hf : f ∈ env.fields name) (hkey : key.text = .ok f.key)
      (h : Trims env f.shape t t') :
      Trims env (.record name) (.object opening (before ++ (key, t) :: after) close)
        (.object opening (before ++ (key, t') :: after) close)
  | inItem {item : Shape} {opening : Opening} {close : Close} {before after : List Tree} {t t' : Tree}
      (h : Trims env item t t') :
      Trims env (.list item) (.list opening (before ++ t :: after) close)
        (.list opening (before ++ t' :: after) close)
  | inEntry {value : Shape} {opening : Opening} {close : Close} {before after : List (Key × Tree)}
      {key : Key} {t t' : Tree} (h : Trims env value t t') :
      Trims env (.table value) (.object opening (before ++ (key, t) :: after) close)
        (.object opening (before ++ (key, t') :: after) close)
  /-- A record that is written as the list of its fields. -/
  | lastNull {name : RecordName} {opening : Opening} {close : Close} {before : List Tree} {t : Tree}
      (hlength : before.length < (env.fields name).length) (hnull : isNull t = true) :
      Trims env (.record name) (.list opening (before ++ [t]) close) (.list opening before close)
  | inPosition {name : RecordName} {opening : Opening} {close : Close} {before after : List Tree}
      {t t' : Tree} {f : Field} (hf : (env.fields name)[before.length]? = some f)
      (h : Trims env f.shape t t') :
      Trims env (.record name) (.list opening (before ++ t :: after) close)
        (.list opening (before ++ t' :: after) close)

def Environment.Tolerant (env : Environment) : Prop := ∀ name, ∀ f ∈ env.fields name, f.presence ≠ .plain

variable {env : Environment} {fields : List Field} {close : Close} {done : List (String × Datum)}
  {members before after : List (Key × Tree)} {key : Key} {t t' : Tree} {f : Field} {k : String}

/-! ### Reading on -/

theorem decodeFields_cons (hkey : key.text = .ok k) :
    decodeFields env fields close done ((key, t) :: after) =
      match fields.find? (·.key = k) with
      | none =>
          match t.skimmed with
          | some fault => .error (.fault fault)
          | none => decodeFields env fields close done after
      | some field =>
          if (done.lookup k).isSome then .error (.duplicateField k key.stop)
          else
            settle env field t (decode env field.shape t) >>= fun d =>
              decodeFields env fields close ((k, d) :: done) after := by
  rw [decodeFields, hkey]
  rfl

theorem decodeFields_cons_unreadable {fault : Json.Fault} (hkey : key.text = .error fault) :
    decodeFields env fields close done ((key, t) :: after) = .error (.fault fault) := by
  rw [decodeFields, hkey]
  rfl

theorem decodeFields_append (before after : List (Key × Tree)) :
    decodeFields env fields close done (before ++ after) =
      decodeFields env fields .closed done before >>= fun read =>
        decodeFields env fields close read after := by
  induction before generalizing done with
  | nil =>
      rw [decodeFields]
      rfl
  | cons m rest ih =>
      obtain ⟨key, t⟩ := m
      rw [List.cons_append]
      cases hkey : key.text with
      | error fault =>
          rw [decodeFields_cons_unreadable hkey, decodeFields_cons_unreadable hkey]
          rfl
      | ok k =>
          rw [decodeFields_cons hkey, decodeFields_cons hkey]
          cases fields.find? (·.key = k) with
          | none =>
              cases t.skimmed with
              | some fault => rfl
              | none => exact ih
          | some field =>
              dsimp only
              split
              · rfl
              · rw [bind_assoc]
                exact bind_congr fun d => ih

theorem decodeFields_cons_eq_ok_iff {read : List (String × Datum)} :
    decodeFields env fields close done ((key, t) :: after) = .ok read ↔ ∃ k, key.text = .ok k ∧
      (fields.find? (·.key = k) = none ∧ t.skimmed = none ∧
          decodeFields env fields close done after = .ok read ∨
        ∃ f d, fields.find? (·.key = k) = some f ∧ (done.lookup k).isSome = false ∧
          settle env f t (decode env f.shape t) = .ok d ∧
          decodeFields env fields close ((k, d) :: done) after = .ok read) := by
  cases hkey : key.text with
  | error fault => simp [decodeFields_cons_unreadable hkey]
  | ok k =>
      simp only [decodeFields_cons hkey, Except.ok.injEq, exists_eq_left']
      generalize fields.find? (·.key = k) = found
      generalize (done.lookup k).isSome = met
      cases found with
      | none => cases t.skimmed <;> simp
      | some f => cases met <;> simp [bind_eq_ok_iff]

theorem lookup_of_decodeFields {read : List (String × Datum)} (hk : ∀ m ∈ members, m.1.text ≠ .ok k)
    (h : decodeFields env fields close done members = .ok read) : read.lookup k = done.lookup k := by
  induction members generalizing done with
  | nil =>
      rw [decodeFields, map_eq_ok_iff] at h
      obtain ⟨_, -, rfl⟩ := h
      rfl
  | cons m rest ih =>
      obtain ⟨hown, hothers⟩ := List.forall_mem_cons.mp hk
      obtain ⟨k', hkey, ⟨-, -, h⟩ | ⟨_, d, -, -, -, h⟩⟩ := decodeFields_cons_eq_ok_iff.mp h
      · exact ih hothers h
      · have hne : k ≠ k' := by
          rintro rfl
          exact hown hkey
        rw [ih hothers h, List.lookup_cons, beq_eq_false_iff_ne.mpr hne]

/-! ### Fields read and fields left to their defaults -/

/-- Two states of reading that end in one record: they make up the same fields so far, and have met the same
keys of those to come. -/
structure Interchangeable (env : Environment) (fields : List Field) (members : List (Key × Tree))
    (done done' : List (String × Datum)) : Prop where
  values : ∀ f ∈ fields, (done.lookup f.key).getD (f.initial env) = (done'.lookup f.key).getD (f.initial env)
  met : ∀ m ∈ members, ∀ k, m.1.text = .ok k → (done.lookup k).isSome = (done'.lookup k).isSome

namespace Interchangeable

variable {done' : List (String × Datum)}

theorem symm (h : Interchangeable env fields members done done') :
    Interchangeable env fields members done' done :=
  ⟨fun f hf => (h.values f hf).symm, fun m hm k hk => (h.met m hm k hk).symm⟩

theorem tail {m : Key × Tree} (h : Interchangeable env fields (m :: members) done done') :
    Interchangeable env fields members done done' :=
  ⟨h.values, fun m hm => h.met m (List.mem_cons_of_mem _ hm)⟩

theorem cons (h : Interchangeable env fields members done done') (k : String) (d : Datum) :
    Interchangeable env fields members ((k, d) :: done) ((k, d) :: done') where
  values f hf := by
    rw [List.lookup_cons, List.lookup_cons]
    cases f.key == k with
    | true => rfl
    | false => exact h.values f hf
  met m hm k' hk' := by
    rw [List.lookup_cons, List.lookup_cons]
    cases k' == k with
    | true => rfl
    | false => exact h.met m hm k' hk'

theorem of_initial (hd : (fields.map Field.key).Nodup) (hf : f ∈ fields) (hnew : done.lookup f.key = none)
    (honly : ∀ m ∈ members, m.1.text ≠ .ok f.key) :
    Interchangeable env fields members ((f.key, f.initial env) :: done) done where
  values f' hf' := by
    rw [List.lookup_cons]
    cases heq : f'.key == f.key with
    | false => rfl
    | true =>
        rw [List.inj_on_of_nodup_map hd hf' hf (eq_of_beq heq), hnew]
        rfl
  met m hm k hk := by
    have hne : k ≠ f.key := by
      rintro rfl
      exact honly m hm hk
    rw [List.lookup_cons, beq_eq_false_iff_ne.mpr hne]

theorem exists_decodeFields {read : List (String × Datum)}
    (hi : Interchangeable env fields members done done')
    (h : decodeFields env fields close done members = .ok read) :
    ∃ read', decodeFields env fields close done' members = .ok read' ∧
      assemble env fields read' = assemble env fields read := by
  induction members generalizing done done' with
  | nil =>
      rw [decodeFields, map_eq_ok_iff] at h
      obtain ⟨u, hu, rfl⟩ := h
      refine ⟨done', by rw [decodeFields, hu]; rfl, ?_⟩
      rw [assemble, assemble, List.map_congr_left hi.values]
  | cons m rest ih =>
      obtain ⟨k, hkey, ⟨hf, hskimmed, h⟩ | ⟨f, d, hf, hnew, hd, h⟩⟩ := decodeFields_cons_eq_ok_iff.mp h
      · obtain ⟨read', hread', heq⟩ := ih hi.tail h
        exact ⟨read', decodeFields_cons_eq_ok_iff.mpr ⟨k, hkey, .inl ⟨hf, hskimmed, hread'⟩⟩, heq⟩
      · obtain ⟨read', hread', heq⟩ := ih (hi.tail.cons k d) h
        have hnew' := (hi.met _ List.mem_cons_self k hkey).symm.trans hnew
        exact ⟨read', decodeFields_cons_eq_ok_iff.mpr ⟨k, hkey, .inr ⟨f, d, hf, hnew', hd, hread'⟩⟩, heq⟩

theorem sameResult (hi : Interchangeable env fields members done done') :
    SameResult (decodeFields env fields close done members >>= fun read => .ok (assemble env fields read))
      (decodeFields env fields close done' members >>= fun read => .ok (assemble env fields read)) := by
  intro d
  rw [bind_eq_ok_iff, bind_eq_ok_iff]
  constructor
  · rintro ⟨read, hread, h⟩
    obtain ⟨read', hread', heq⟩ := hi.exists_decodeFields hread
    exact ⟨read', hread', heq ▸ h⟩
  · rintro ⟨read', hread', h⟩
    obtain ⟨read, hread, heq⟩ := hi.symm.exists_decodeFields hread'
    exact ⟨read, hread, heq ▸ h⟩

end Interchangeable

theorem sameResult_nullField (hd : (fields.map Field.key).Nodup) (hf : f ∈ fields) (hp : f.presence ≠ .plain)
    (hkey : key.text = .ok f.key) (hnull : isNull t = true)
    (honly : ∀ m ∈ before ++ after, m.1.text ≠ .ok f.key) :
    SameResult (decodeFields env fields close [] (before ++ (key, t) :: after) >>= fun read =>
        .ok (assemble env fields read))
      (decodeFields env fields close [] (before ++ after) >>= fun read => .ok (assemble env fields read)) := by
  rw [List.forall_mem_append] at honly
  rw [decodeFields_append, decodeFields_append, bind_assoc, bind_assoc]
  cases hread : decodeFields env fields .closed [] before with
  | error e => exact .errors _ _
  | ok read =>
      have hnew : read.lookup f.key = none := lookup_of_decodeFields honly.1 hread
      have hfirst : decodeFields env fields close read ((key, t) :: after) =
          decodeFields env fields close ((f.key, f.initial env) :: read) after := by
        rw [decodeFields_cons hkey, find?_key hd hf]
        simp only [hnew, settle_null hp hnull]
        rfl
      change SameResult (decodeFields env fields close read ((key, t) :: after) >>= _)
        (decodeFields env fields close read after >>= _)
      rw [hfirst]
      exact (Interchangeable.of_initial hd hf hnew honly.2).sameResult

theorem decodeFields_unknownMember (hkey : key.text = .ok k) (hk : ∀ f ∈ fields, f.key ≠ k)
    (hvalue : t.skimmed = none) :
    decodeFields env fields close done (before ++ (key, t) :: after) =
      decodeFields env fields close done (before ++ after) := by
  have hf : fields.find? (·.key = k) = none := List.find?_eq_none.mpr fun f hf => by simpa using hk f hf
  rw [decodeFields_append, decodeFields_append]
  refine bind_congr fun read => ?_
  rw [decodeFields_cons hkey]
  simp only [hf, hvalue]

/-! ### Changes inside a part -/

theorem sameResult_inField (hf : fields.find? (·.key = k) = some f) (hkey : key.text = .ok k)
    (hnull : isNull t = isNull t') (h : SameResult (decode env f.shape t) (decode env f.shape t')) :
    SameResult (decodeFields env fields close done (before ++ (key, t) :: after))
      (decodeFields env fields close done (before ++ (key, t') :: after)) := by
  rw [decodeFields_append, decodeFields_append]
  refine SameResult.bind (.of_eq rfl) fun read => ?_
  rw [decodeFields_cons hkey, decodeFields_cons hkey]
  simp only [hf]
  split
  · exact .errors _ _
  · exact (sameResult_settle hnull h).bind fun _ => .of_eq rfl

theorem sameResult_inItem {item : Shape} {before after : List Tree}
    (h : SameResult (decode env item t) (decode env item t')) :
    SameResult (decodeItems env item close (before ++ t :: after))
      (decodeItems env item close (before ++ t' :: after)) := by
  induction before with
  | nil =>
      rw [List.nil_append, List.nil_append, decodeItems, decodeItems]
      exact h.bind fun _ => .of_eq rfl
  | cons first rest ih =>
      rw [List.cons_append, List.cons_append, decodeItems, decodeItems]
      exact SameResult.bind (.of_eq rfl) fun _ => ih.bind fun _ => .of_eq rfl

theorem sameResult_inEntry {value : Shape} {done : Table Datum}
    (h : SameResult (decode env value t) (decode env value t')) :
    SameResult (decodeEntries env value close done (before ++ (key, t) :: after))
      (decodeEntries env value close done (before ++ (key, t') :: after)) := by
  induction before generalizing done with
  | nil =>
      rw [List.nil_append, List.nil_append, decodeEntries, decodeEntries]
      exact SameResult.bind (.of_eq rfl) fun _ => h.bind fun _ => .of_eq rfl
  | cons first rest ih =>
      rw [List.cons_append, List.cons_append, decodeEntries, decodeEntries]
      exact SameResult.bind (.of_eq rfl) fun _ => SameResult.bind (.of_eq rfl) fun _ => ih

theorem sameResult_inPosition {count : Nat} {before after : List Tree} (hf : fields[before.length]? = some f)
    (hnull : isNull t = isNull t') (h : SameResult (decode env f.shape t) (decode env f.shape t')) :
    SameResult (decodePositions env count close (before ++ t :: after) fields)
      (decodePositions env count close (before ++ t' :: after) fields) := by
  induction before generalizing fields with
  | nil =>
      obtain ⟨others, rfl⟩ : ∃ others, fields = f :: others :=
        List.head?_eq_some_iff.mp (List.head?_eq_getElem?.trans hf)
      rw [List.nil_append, List.nil_append, decodePositions, decodePositions]
      exact (sameResult_settle hnull h).bind fun _ => .of_eq rfl
  | cons first rest ih =>
      obtain _ | ⟨own, others⟩ := fields
      · cases hf
      · rw [List.cons_append, List.cons_append, decodePositions, decodePositions]
        exact SameResult.bind (.of_eq rfl) fun _ => (ih hf).bind fun _ => .of_eq rfl

/-! ### Lists of fields -/

theorem sameResult_endOfFields_none (count : Nat) (close : Close) :
    SameResult (endOfFields count none close) (fromFault close.read) := by
  cases close with
  | closed => exact .of_eq rfl
  | broken reading skimming =>
      obtain ⟨cause, offset⟩ := reading
      cases cause <;> exact .errors _ _

theorem sameResult_lastPosition (count count' : Nat) {before : List Tree}
    (hf : fields[before.length]? = some f) (hp : f.presence ≠ .plain) (hnull : isNull t = true) :
    SameResult (decodePositions env count close (before ++ [t]) fields)
      ((decodePositions env count' close before fields).map (· ++ [(f.key, f.initial env)])) := by
  induction before generalizing fields with
  | nil =>
      obtain ⟨others, rfl⟩ : ∃ others, fields = f :: others :=
        List.head?_eq_some_iff.mp (List.head?_eq_getElem?.trans hf)
      have hend : SameResult (decodePositions env count close [] others)
          ((fromFault close.read).map fun _ => []) := by
        cases others with
        | nil =>
            rw [decodePositions]
            exact (sameResult_endOfFields_none count close).map _
        | cons f' others =>
            rw [decodePositions]
            exact .of_eq rfl
      rw [List.nil_append, decodePositions, decodePositions, settle_null hp hnull]
      refine (hend.map fun ds => (f.key, f.initial env) :: ds).trans (.of_eq ?_)
      cases fromFault close.read <;> rfl
  | cons first rest ih =>
      obtain _ | ⟨own, others⟩ := fields
      · cases hf
      · rw [List.cons_append, decodePositions, decodePositions]
        cases settle env own first (decode env own.shape first) with
        | error e => exact .errors _ _
        | ok d =>
            refine ((ih hf).map fun ds => (own.key, d) :: ds).trans (.of_eq ?_)
            cases decodePositions env count' close rest others <;> rfl

theorem assemble_append_initial (hd : (fields.map Field.key).Nodup) (hf : f ∈ fields)
    (read : List (String × Datum)) :
    assemble env fields (read ++ [(f.key, f.initial env)]) = assemble env fields read := by
  rw [assemble, assemble]
  refine congrArg Datum.record (List.map_congr_left fun f' hf' => ?_)
  rw [List.lookup_append]
  cases read.lookup f'.key with
  | some d => rfl
  | none =>
      cases heq : f'.key == f.key with
      | false => simp [List.lookup_cons, heq]
      | true =>
          rw [List.inj_on_of_nodup_map hd hf' hf (eq_of_beq heq)]
          simp

/-! ### Trees -/

variable {shape : Shape}

theorem Trims.isNull (h : Trims env shape t t') : isNull t = isNull t' := by
  cases h <;> rfl

theorem Trims.sameResult (hd : env.Distinct) (hp : env.Tolerant) (h : Trims env shape t t') :
    SameResult (decode env shape t) (decode env shape t') := by
  have hopened (o : Opening) : SameResult (opened o) (opened o) := .of_eq rfl
  induction h with
  | @nullField name opening _ _ _ _ _ f hf hkey hnull honly =>
      rw [decode, decode]
      exact (hopened opening).bind fun _ => sameResult_nullField (hd name) hf (hp name f hf) hkey hnull honly
  | @unknownMember name opening _ _ _ _ _ _ hkey hk hvalue =>
      rw [decode, decode, decodeFields_unknownMember hkey hk hvalue]
      exact .of_eq rfl
  | @inField name opening _ _ _ _ _ _ f hf hkey h ih =>
      rw [decode, decode]
      exact (hopened opening).bind fun _ =>
        (sameResult_inField (find?_key (hd name) hf) hkey h.isNull ih).bind fun _ => .of_eq rfl
  | @inItem item opening _ _ _ _ _ h ih =>
      rw [decode, decode]
      exact (hopened opening).bind fun _ => (sameResult_inItem ih).bind fun _ => .of_eq rfl
  | @inEntry value opening _ _ _ _ _ _ h ih =>
      rw [decode, decode]
      exact (hopened opening).bind fun _ => (sameResult_inEntry ih).bind fun _ => .of_eq rfl
  | @lastNull name opening close before t hlength hnull =>
      have hf := List.getElem?_eq_getElem hlength
      have hmem := List.getElem_mem hlength
      rw [decode, decode]
      refine (hopened opening).bind fun _ =>
        ((sameResult_lastPosition _ before.length hf (hp name _ hmem) hnull).bind fun _ =>
          .of_eq rfl).trans (.of_eq ?_)
      cases decodePositions env before.length close before (env.fields name) with
      | error e => rfl
      | ok read => exact congrArg Except.ok (assemble_append_initial (hd name) hmem read)
  | @inPosition name opening _ before after t t' _ hf h ih =>
      rw [decode, decode]
      have hlength : (before ++ t :: after).length = (before ++ t' :: after).length := by simp
      rw [hlength]
      exact (hopened opening).bind fun _ => (sameResult_inPosition hf h.isNull ih).bind fun _ => .of_eq rfl

def Alike (env : Environment) (shape : Shape) : Tree → Tree → Prop :=
  Relation.EqvGen fun t t' => t.unplaced = t'.unplaced ∨ Trims env shape t t'

theorem Trims.alike (h : Trims env shape t t') : Alike env shape t t' := .rel _ _ (.inr h)

theorem Alike.of_unplaced (h : t.unplaced = t'.unplaced) : Alike env shape t t' := .rel _ _ (.inl h)

theorem Alike.sameResult (hd : env.Distinct) (hp : env.Tolerant) (h : Alike env shape t t') :
    SameResult (decode env shape t) (decode env shape t') := by
  induction h with
  | rel t t' hstep =>
      rcases hstep with hplaces | htrims
      · have hsame : SameResult (decode env shape t.unplaced) (decode env shape t) :=
          sameResult_decode shape t
        rw [hplaces] at hsame
        exact hsame.symm.trans (sameResult_decode shape t')
      · exact htrims.sameResult hd hp
  | refl t => exact .of_eq rfl
  | symm t t' _ ih => exact ih.symm
  | trans t t' t'' _ _ ih ih' => exact ih.trans ih'

/-! ### Texts -/

structure TextsAlike (env : Environment) (shape : Shape) (bytes bytes' : List UInt8) : Prop where
  trees : Alike env shape (Json.read bytes).tree (Json.read bytes').tree
  after : (Json.read bytes).after.isSome = (Json.read bytes').after.isSome

theorem TextsAlike.sameResult {bytes bytes' : List UInt8} (hd : env.Distinct) (hp : env.Tolerant)
    (h : TextsAlike env shape bytes bytes') :
    SameResult (decodeBytes env shape bytes) (decodeBytes env shape bytes') := by
  have hread (bytes : List UInt8) (d : Datum) : decodeBytes env shape bytes = .ok d ↔
      decode env shape (Json.read bytes).tree = .ok d ∧ (Json.read bytes).after.isSome = false := by
    rw [decodeBytes]
    cases decode env shape (Json.read bytes).tree <;> cases (Json.read bytes).after <;> simp
  intro d
  rw [hread, hread, h.after, h.trees.sameResult hd hp]

end ProviderBindings.Wire
