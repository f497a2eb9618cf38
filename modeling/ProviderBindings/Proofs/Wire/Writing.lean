import Mathlib.Data.List.Forall2
import ProviderBindings.Proofs.Json.Tree
import ProviderBindings.Wire.Decode

/-!
Which JSON values write a datum of a shape, and that decoding reads the datum back. An object that writes a
record may leave out fields with their defaults and may have any members besides; an object that writes a
table has the keys of the table and no others.
-/

namespace ProviderBindings.Wire

open Json (Tree treesOfItems treesOfMembers membersKeyOrdered itemsKeyOrdered)

mutual
def Datum.WrittenAs (env : Environment) : Datum → Presence → Shape → Json → Prop
  | .absent, presence, _, v => presence = .optional ∧ v = .null
  | .present d, presence, shape, v => presence = .optional ∧ v ≠ .null ∧ d.WrittenAs env .plain shape v
  | .text s, presence, shape, v => presence ≠ .optional ∧ shape = .text ∧ v = .text s
  | .flag b, presence, shape, v => presence ≠ .optional ∧ shape = .flag ∧ v = .bool b
  | .count n, presence, shape, v => presence ≠ .optional ∧ shape = .count ∧ v = .nat n
  | .real x, presence, shape, v => presence ≠ .optional ∧ shape = .real ∧ v = .number (.real x)
  | .json w, presence, shape, v => presence ≠ .optional ∧ shape = .json ∧ v = w
  | .list items, presence, shape, v =>
      presence ≠ .optional ∧ ∃ item vs, shape = .list item ∧ v = .list vs ∧ itemsWrittenAs env items item vs
  | .table entries, presence, shape, v =>
      presence ≠ .optional ∧ ∃ value members, shape = .table value ∧ v = .object members ∧
        entriesWrittenAs env entries value members
  | .record data, presence, shape, v =>
      presence ≠ .optional ∧ ∃ name members, shape = .record name ∧ v = .object members ∧
        fieldsWrittenAs env data (env.fields name) members

def itemsWrittenAs (env : Environment) : List Datum → Shape → List Json → Prop
  | [], _, [] => True
  | d :: rest, item, v :: others => d.WrittenAs env .plain item v ∧ itemsWrittenAs env rest item others
  | _, _, _ => False

def entriesWrittenAs (env : Environment) : List (String × Datum) → Shape → List (String × Json) → Prop
  | [], _, [] => True
  | (key, d) :: rest, value, (k, v) :: others =>
      key = k ∧ d.WrittenAs env .plain value v ∧ entriesWrittenAs env rest value others
  | _, _, _ => False

def fieldsWrittenAs (env : Environment) : List Datum → List Field → List (String × Json) → Prop
  | [], [], _ => True
  | d :: rest, f :: fields, members =>
      (match Table.get? f.key members with
        | none => d = f.initial env
        | some v => d.WrittenAs env f.presence f.shape v) ∧
        fieldsWrittenAs env rest fields members
  | _, _, _ => False
end

/-! ### Records -/

variable {env : Environment} {members : List (String × Json)} {fields : List Field}

def settled (env : Environment) (f : Field) (v : Json) : Except Failure Datum :=
  settle env f (Tree.ofJson v) (decode env f.shape (Tree.ofJson v))

def FieldReads (env : Environment) (members : List (String × Json)) (d : Datum) (f : Field) : Prop :=
  match Table.get? f.key members with
  | none => d = f.initial env
  | some v => settled env f v = .ok d

section

variable {key : String} {v : Json} {done : List (String × Datum)}

theorem decodeFields_unknown (hf : fields.find? (·.key = key) = none) :
    decodeFields env fields .closed done (treesOfMembers ((key, v) :: members)) =
      decodeFields env fields .closed done (treesOfMembers members) := by
  rw [treesOfMembers, decodeFields]
  simp only [fromFault, bind, Except.bind, hf, Json.skimmed_ofJson]

theorem decodeFields_known {f : Field} {d : Datum} (hf : fields.find? (·.key = key) = some f)
    (hnew : done.lookup key = none) (hd : settled env f v = .ok d) :
    decodeFields env fields .closed done (treesOfMembers ((key, v) :: members)) =
      decodeFields env fields .closed ((key, d) :: done) (treesOfMembers members) := by
  rw [settled] at hd
  rw [treesOfMembers, decodeFields]
  simp only [fromFault, bind, Except.bind, hf, hnew, hd, Option.isSome_none, Bool.false_eq_true, if_false]

end

theorem decodeFields_members (hn : (Table.keys members).Nodup)
    (hs : ∀ m ∈ members, ∀ f, fields.find? (·.key = m.1) = some f → ∃ d, settled env f m.2 = .ok d) :
    ∀ {done : List (String × Datum)}, (∀ k ∈ Table.keys members, done.lookup k = none) →
      ∃ read, decodeFields env fields .closed done (treesOfMembers members) = .ok read ∧
        (∀ m ∈ members, ∀ f, fields.find? (·.key = m.1) = some f → ∀ d, settled env f m.2 = .ok d →
          read.lookup m.1 = some d) ∧
        ∀ k, k ∉ Table.keys members → read.lookup k = done.lookup k := by
  induction members with
  | nil =>
      intro done _
      exact ⟨done, rfl, by simp, fun _ _ => rfl⟩
  | cons m rest ih =>
      obtain ⟨k, v⟩ := m
      obtain ⟨hk, hrest⟩ := List.nodup_cons.mp hn
      obtain ⟨hown, hothers⟩ := List.forall_mem_cons.mp hs
      intro done hdone
      obtain ⟨hnew, hlater⟩ := List.forall_mem_cons.mp hdone
      cases hf : fields.find? (·.key = k) with
      | none =>
          obtain ⟨read, hread, hfound, hkept⟩ := ih hrest hothers hlater
          refine ⟨read, (decodeFields_unknown hf).trans hread,
            List.forall_mem_cons.mpr ⟨fun f h => ?_, hfound⟩, fun k' hk' => ?_⟩
          · rw [hf] at h
            cases h
          · exact hkept k' fun hmem => hk' (List.mem_cons_of_mem _ hmem)
      | some field =>
          obtain ⟨d, hd⟩ := hown field hf
          have hagain : ∀ k' ∈ Table.keys rest, ((k, d) :: done).lookup k' = none := by
            intro k' hk'
            have hne : k' ≠ k := fun heq => hk (heq ▸ hk')
            rw [List.lookup_cons, beq_eq_false_iff_ne.mpr hne]
            exact hlater k' hk'
          obtain ⟨read, hread, hfound, hkept⟩ := ih hrest hothers hagain
          refine ⟨read, (decodeFields_known hf hnew hd).trans hread,
            List.forall_mem_cons.mpr ⟨fun f h d' hd' => ?_, hfound⟩, fun k' hk' => ?_⟩
          · obtain rfl : field = f := Option.some.inj (hf.symm.trans h)
            obtain rfl : d = d' := Except.ok.inj (hd.symm.trans hd')
            rw [hkept k hk]
            simp
          · have hnot := fun hmem => hk' (List.mem_cons_of_mem k hmem)
            have hne : k' ≠ k := fun heq => hk' (heq ▸ List.mem_cons_self)
            rw [hkept k' hnot, List.lookup_cons, beq_eq_false_iff_ne.mpr hne]

def Environment.Distinct (env : Environment) : Prop :=
  ∀ name, ((env.fields name).map Field.key).Nodup

theorem find?_key (hn : (fields.map Field.key).Nodup) {f : Field} (hf : f ∈ fields) :
    fields.find? (·.key = f.key) = some f := by
  induction fields with
  | nil => cases hf
  | cons f' rest ih =>
      obtain ⟨hfirst, hrest⟩ := List.nodup_cons.mp hn
      rcases List.mem_cons.mp hf with rfl | hf
      · simp
      · have hne : f'.key ≠ f.key := fun heq => hfirst (heq ▸ List.mem_map_of_mem hf)
        rw [List.find?_cons_of_neg (by simpa using hne)]
        exact ih hrest hf

theorem assemble_of_reads {data : List Datum} {read : List (String × Datum)}
    (h : List.Forall₂ (FieldReads env members) data fields)
    (hread : ∀ f ∈ fields, ∀ d, FieldReads env members d f → (read.lookup f.key).getD (f.initial env) = d) :
    assemble env fields read = .record data := by
  have hall : fields.map (fun f => (read.lookup f.key).getD (f.initial env)) = data := by
    induction h with
    | nil => rfl
    | cons hd _ ih =>
        obtain ⟨hown, hothers⟩ := List.forall_mem_cons.mp hread
        rw [List.map_cons, hown _ hd, ih hothers]
  rw [assemble, hall]

theorem decode_object (henv : env.Distinct) {name : RecordName} {data : List Datum}
    (ho : Table.Ordered members) (h : List.Forall₂ (FieldReads env members) data (env.fields name)) :
    decode env (.record name) (Tree.ofJson (.object members)) = .ok (.record data) := by
  have hsettles : ∀ m ∈ members, ∀ f, (env.fields name).find? (·.key = m.1) = some f →
      ∃ d, settled env f m.2 = .ok d := by
    intro m hm f hf
    obtain ⟨i, hi, rfl⟩ := List.getElem_of_mem (List.mem_of_find?_eq_some hf)
    have hd := h.get (h.length_eq ▸ hi) hi
    have hkey : (env.fields name)[i].key = m.1 := by simpa using List.find?_some hf
    rw [List.get_eq_getElem, List.get_eq_getElem, FieldReads, hkey, (Table.mem_iff_get? ho).mp hm] at hd
    exact ⟨_, hd⟩
  obtain ⟨read, hread, hfound, hkept⟩ :=
    @decodeFields_members env members (env.fields name) (Table.nodup_keys_of_ordered ho) hsettles [] (by simp)
  have hassemble : assemble env (env.fields name) read = .record data := by
    refine assemble_of_reads h fun f hf d hd => ?_
    rw [FieldReads] at hd
    cases hget : Table.get? f.key members with
    | none =>
        rw [hget] at hd
        rw [hkept f.key (Table.get?_eq_none_iff.mp hget)]
        exact hd.symm
    | some v =>
        rw [hget] at hd
        rw [hfound (f.key, v) (Table.mem_of_get? hget) f (find?_key (henv name) hf) d hd]
        rfl
  rw [Tree.ofJson, decode]
  simp only [opened, Json.Opening.fault?, hread, hassemble, bind, Except.bind, Bool.false_eq_true, if_false]

/-! ### Reading back -/

theorem isNull_ofJson {v : Json} : isNull (Tree.ofJson v) = true ↔ v = .null := by
  cases v <;> simp [Tree.ofJson, isNull]

theorem settled_of_decoded {f : Field} {v : Json} {d : Datum} (hp : f.presence ≠ .optional)
    (hd : decode env f.shape (Tree.ofJson v) = .ok d) (hnull : v = .null → d = f.initial env) :
    settled env f v = .ok d := by
  rw [settled, settle]
  cases hpresence : f.presence with
  | plain => exact hd
  | optional => exact absurd hpresence hp
  | lenient =>
      dsimp only
      split
      · rename_i hv
        rw [hnull (isNull_ofJson.mp hv), Field.initial, hpresence]
      · exact hd

theorem decode_json (t : Tree) : decode env .json t = (fromFault t.toJson).map .json := by
  cases t with
  | scalar s start stop => cases s <;> rfl
  | spoiled fault start => rfl
  | broken reading skimming start => rfl
  | list opening items close => rfl
  | object opening members close => rfl

theorem keys_of_written : ∀ {entries : List (String × Datum)} {value : Shape}
    {members : List (String × Json)}, entriesWrittenAs env entries value members →
      Table.keys entries = Table.keys members
  | [], _, [], _ => rfl
  | (_, _) :: _, _, (_, _) :: _, ⟨hkey, _, hrest⟩ => congrArg₂ List.cons hkey (keys_of_written hrest)

mutual
theorem settled_of_written (henv : env.Distinct) : ∀ (d : Datum) {f : Field} {v : Json},
    d.WrittenAs env f.presence f.shape v → v.KeyOrdered → settled env f v = .ok d
  | .absent, f, _, ⟨hp, rfl⟩, _ => by
      rw [settled, settle, hp]
      rfl
  | .present d, f, v, ⟨hp, hv, hd⟩, ho => by
      have hplain : settled env ⟨f.key, f.shape, .plain⟩ v = .ok d := settled_of_written henv d hd ho
      have hdecoded : decode env f.shape (Tree.ofJson v) = .ok d := hplain
      rw [settled, settle, hp, hdecoded]
      exact if_neg fun h => hv (isNull_ofJson.mp h)
  | .text s, ⟨key, _, presence⟩, _, ⟨hp, rfl, rfl⟩, _ => settled_of_decoded hp rfl nofun
  | .flag b, ⟨key, _, presence⟩, _, ⟨hp, rfl, rfl⟩, _ => settled_of_decoded hp rfl nofun
  | .count n, ⟨key, _, presence⟩, _, ⟨hp, rfl, rfl⟩, _ => by
      refine settled_of_decoded hp ?_ nofun
      simp [Json.nat, Tree.ofJson, decode, scalarOf]
  | .real x, ⟨key, _, presence⟩, _, ⟨hp, rfl, rfl⟩, _ => settled_of_decoded hp rfl nofun
  | .json w, ⟨key, _, presence⟩, _, ⟨hp, rfl, rfl⟩, ho => by
      refine settled_of_decoded hp ?_ ?_
      · rw [decode_json, Json.toJson_ofJson _ ho]
        rfl
      · rintro rfl
        cases presence with
        | plain => simp [Field.initial, Shape.initial]
        | lenient => simp [Field.initial, Shape.initial]
        | optional => exact absurd rfl hp
  | .list items, f, _, ⟨hp, item, vs, hshape, rfl, hitems⟩, ho => by
      refine settled_of_decoded hp ?_ nofun
      rw [hshape, Tree.ofJson, decode, decodeItems_of_written henv items hitems ho]
      rfl
  | .table entries, f, _, ⟨hp, value, members, hshape, rfl, hentries⟩, ho => by
      refine settled_of_decoded hp ?_ nofun
      have hordered : Table.Ordered ([] ++ entries) := by
        rw [Table.Ordered, List.nil_append, keys_of_written hentries]
        exact ho.1
      rw [hshape, Tree.ofJson, decode, decodeEntries_of_written henv entries [] hentries ho.2 hordered]
      rfl
  | .record data, f, _, ⟨hp, name, members, hshape, rfl, hfields⟩, ho => by
      refine settled_of_decoded hp ?_ nofun
      rw [hshape]
      exact decode_object henv ho.1 (fields_of_written henv data hfields ho.2)

theorem decodeItems_of_written (henv : env.Distinct) : ∀ (items : List Datum) {item : Shape} {vs : List Json},
    itemsWrittenAs env items item vs → itemsKeyOrdered vs →
      decodeItems env item .closed (treesOfItems vs) = .ok items
  | [], _, [], _, _ => rfl
  | d :: rest, item, v :: others, ⟨hd, hrest⟩, ⟨hv, ho⟩ => by
      have hfirst : decode env item (Tree.ofJson v) = .ok d :=
        @settled_of_written henv d ⟨"", item, .plain⟩ v hd hv
      rw [treesOfItems, decodeItems, hfirst, decodeItems_of_written henv rest hrest ho]
      rfl

theorem decodeEntries_of_written (henv : env.Distinct) : ∀ (entries done : List (String × Datum))
    {value : Shape} {members : List (String × Json)}, entriesWrittenAs env entries value members →
    membersKeyOrdered members → Table.Ordered (done ++ entries) →
      decodeEntries env value .closed done (treesOfMembers members) = .ok (done ++ entries)
  | [], done, _, [], _, _, _ => by
      rw [List.append_nil]
      rfl
  | (key, d) :: rest, done, value, (k, v) :: others, ⟨hkey, hd, hrest⟩, ⟨hv, ho⟩, hordered => by
      have hfirst : decode env value (Tree.ofJson v) = .ok d :=
        @settled_of_written henv d ⟨"", value, .plain⟩ v hd hv
      have happend : done ++ (key, d) :: rest = (done ++ [(key, d)]) ++ rest := by simp
      have hlast : Table.insert key d done = done ++ [(key, d)] := Table.insert_last hordered
      rw [happend] at hordered ⊢
      rw [treesOfMembers, decodeEntries, hfirst, ← hkey]
      change decodeEntries env value .closed (Table.insert key d done) (treesOfMembers others) = _
      rw [hlast]
      exact decodeEntries_of_written henv rest _ hrest ho hordered

theorem fields_of_written (henv : env.Distinct) : ∀ (data : List Datum) {fields : List Field}
    {members : List (String × Json)}, fieldsWrittenAs env data fields members →
    membersKeyOrdered members → List.Forall₂ (FieldReads env members) data fields
  | [], [], _, _, _ => .nil
  | d :: rest, f :: fields, members, ⟨hd, hrest⟩, ho => by
      refine .cons ?_ (fields_of_written henv rest hrest ho)
      rw [FieldReads]
      cases hget : Table.get? f.key members with
      | none =>
          rw [hget] at hd
          exact hd
      | some v =>
          rw [hget] at hd
          have hv := Json.membersKeyOrdered_iff.mp ho _ (Table.mem_of_get? hget)
          exact settled_of_written henv d hd hv
end

/-! ### Writing -/

structure Written (env : Environment) (d : Datum) (presence : Presence) (shape : Shape)
    (v : Json) : Prop where
  writtenAs : d.WrittenAs env presence shape v
  keyOrdered : v.KeyOrdered

theorem decodeValue_of_written (henv : env.Distinct) {d : Datum} {shape : Shape} {v : Json}
    (h : Written env d .plain shape v) : decodeValue env shape v = .ok d :=
  @settled_of_written env henv d ⟨"", shape, .plain⟩ v h.writtenAs h.keyOrdered

theorem written_text (s : String) : Written env (.text s) .plain .text (.text s) :=
  ⟨⟨nofun, rfl, rfl⟩, trivial⟩

theorem written_flag (b : Bool) : Written env (.flag b) .plain .flag (.bool b) := ⟨⟨nofun, rfl, rfl⟩, trivial⟩

theorem written_count (n : Nat) : Written env (.count n) .plain .count (.nat n) :=
  ⟨⟨nofun, rfl, rfl⟩, trivial⟩

def Datum.ofOption {α : Type} (f : α → Datum) : Option α → Datum
  | none => .absent
  | some a => .present (f a)

theorem written_ofOption {α : Type} {f : α → Datum} {g : α → Json} {shape : Shape} {o : Option α}
    (h : ∀ a ∈ o, g a ≠ .null ∧ Written env (f a) .plain shape (g a)) :
    Written env (Datum.ofOption f o) .optional shape (Json.ofOption g o) := by
  cases o with
  | none => exact ⟨⟨rfl, rfl⟩, trivial⟩
  | some a =>
      obtain ⟨hne, hwritten, hordered⟩ := h a rfl
      exact ⟨⟨rfl, hne, hwritten⟩, hordered⟩

theorem written_mapValues {α : Type} {f : α → Datum} {g : α → Json} {value : Shape} {t : Table α}
    (ho : Table.Ordered t) (h : ∀ p ∈ t, Written env (f p.2) .plain value (g p.2)) :
    Written env (.table (Table.mapValues f t)) .plain (.table value) (.object (Table.mapValues g t)) := by
  have hentries : entriesWrittenAs env (Table.mapValues f t) value (Table.mapValues g t) := by
    clear ho
    induction t with
    | nil => trivial
    | cons p rest ih =>
        obtain ⟨hown, hothers⟩ := List.forall_mem_cons.mp h
        exact ⟨rfl, hown.writtenAs, ih hothers⟩
  have hkeys : Table.keys (Table.mapValues g t) = Table.keys t := by
    simp [Table.keys, Table.mapValues, Function.comp_def]
  refine ⟨⟨by simp, _, _, rfl, rfl, hentries⟩, ?_, Json.membersKeyOrdered_iff.mpr fun m hm => ?_⟩
  · rw [Table.Ordered, hkeys]
    exact ho
  · obtain ⟨p, hp, rfl⟩ := List.mem_map.mp hm
    exact (h p hp).keyOrdered

def pairsWritten (env : Environment) : List Datum → List Field → List (String × Json) → Prop
  | [], [], [] => True
  | d :: rest, f :: fields, (key, v) :: pairs =>
      (key = f.key ∧ Written env d f.presence f.shape v) ∧ pairsWritten env rest fields pairs
  | _, _, _ => False

theorem keys_of_pairs : ∀ {data : List Datum} {fields : List Field} {pairs : List (String × Json)},
    pairsWritten env data fields pairs → Table.keys pairs = fields.map Field.key
  | [], [], [], _ => rfl
  | _ :: _, _ :: _, (_, _) :: _, ⟨⟨hkey, _⟩, hrest⟩ => congrArg₂ List.cons hkey (keys_of_pairs hrest)

theorem keyOrdered_of_pairs : ∀ {data : List Datum} {fields : List Field} {pairs : List (String × Json)},
    pairsWritten env data fields pairs → ∀ p ∈ pairs, p.2.KeyOrdered
  | [], [], [], _ => by simp
  | _ :: _, _ :: _, (_, _) :: _, ⟨⟨_, hd⟩, hrest⟩ =>
      List.forall_mem_cons.mpr ⟨hd.keyOrdered, keyOrdered_of_pairs hrest⟩

theorem fields_of_pairs : ∀ {data : List Datum} {fields : List Field} {pairs : List (String × Json)},
    pairsWritten env data fields pairs → (∀ p ∈ pairs, Table.get? p.1 members = some p.2) →
      fieldsWrittenAs env data fields members
  | [], [], [], _, _ => trivial
  | _ :: _, f :: _, (key, v) :: _, ⟨⟨hkey, hd⟩, hrest⟩, hget => by
      obtain ⟨hown, hothers⟩ := List.forall_mem_cons.mp hget
      refine ⟨?_, fields_of_pairs hrest hothers⟩
      rw [← hkey, hown]
      exact hd.writtenAs

theorem written_of_pairs (henv : env.Distinct) {name : RecordName} {data : List Datum}
    {pairs : List (String × Json)} (h : pairsWritten env data (env.fields name) pairs) :
    Written env (.record data) .plain (.record name) (.object (Table.ofList pairs)) := by
  have hget : ∀ p ∈ pairs, Table.get? p.1 (Table.ofList pairs) = some p.2 := by
    refine Table.get?_foldl_insert_of_nodup ?_
    rw [keys_of_pairs h]
    exact henv name
  refine ⟨⟨nofun, name, _, rfl, rfl, fields_of_pairs h hget⟩, Table.ordered_foldl_insert pairs .nil, ?_⟩
  refine Json.membersKeyOrdered_iff.mpr fun m hm => ?_
  exact keyOrdered_of_pairs h m ((Table.mem_of_mem_foldl_insert hm).resolve_left (by simp))

/-! ### Members besides the fields, and fields left out -/

theorem fieldsWrittenAs_of_get? {members' : List (String × Json)} :
    ∀ {data : List Datum} {fields : List Field}, fieldsWrittenAs env data fields members →
    (∀ p ∈ data.zip fields, Table.get? p.2.key members' = Table.get? p.2.key members ∨
      Table.get? p.2.key members' = none ∧ p.1 = p.2.initial env) →
    fieldsWrittenAs env data fields members'
  | [], [], _, _ => trivial
  | d :: rest, f :: fields, ⟨hd, hrest⟩, h => by
      obtain ⟨hown, hothers⟩ := List.forall_mem_cons.mp h
      refine ⟨?_, fieldsWrittenAs_of_get? hrest hothers⟩
      rcases hown with hsame | ⟨hnone, hinitial⟩
      · rw [hsame]
        exact hd
      · rw [hnone]
        exact hinitial

section

variable {data : List Datum} {presence : Presence} {name : RecordName}

theorem Written.insert (h : Written env (.record data) presence (.record name) (.object members))
    {key : String} {v : Json} (hkey : ∀ f ∈ env.fields name, f.key ≠ key) (hv : v.KeyOrdered) :
    Written env (.record data) presence (.record name) (.object (Table.insert key v members)) := by
  obtain ⟨⟨hp, name', members', hshape, hmembers, hfields⟩, ho, hvalues⟩ := h
  cases hshape
  cases hmembers
  refine ⟨⟨hp, name, _, rfl, rfl, fieldsWrittenAs_of_get? hfields fun p hp => .inl ?_⟩,
    Table.ordered_insert key v ho, Json.membersKeyOrdered_iff.mpr fun m hm => ?_⟩
  · exact Table.get?_insert_of_ne (hkey p.2 (List.of_mem_zip hp).2) v members
  · rcases Table.mem_of_mem_insert hm with rfl | hm
    · exact hv
    · exact Json.membersKeyOrdered_iff.mp hvalues m hm

theorem Written.filter (h : Written env (.record data) presence (.record name) (.object members))
    {keep : String → Bool}
    (hdrop : ∀ p ∈ data.zip (env.fields name), keep p.2.key = false → p.1 = p.2.initial env) :
    Written env (.record data) presence (.record name) (.object (members.filter fun m => keep m.1)) := by
  obtain ⟨⟨hp, name', members', hshape, hmembers, hfields⟩, ho, hvalues⟩ := h
  cases hshape
  cases hmembers
  refine ⟨⟨hp, name, _, rfl, rfl, fieldsWrittenAs_of_get? hfields fun p hp => ?_⟩,
    Table.ordered_filter ho _, Json.membersKeyOrdered_iff.mpr fun m hm => ?_⟩
  · rw [Table.get?_filter keep]
    cases hkeep : keep p.2.key with
    | true => exact .inl rfl
    | false => exact .inr ⟨rfl, hdrop p hp hkeep⟩
  · exact Json.membersKeyOrdered_iff.mp hvalues m (List.mem_of_mem_filter hm)

end

end ProviderBindings.Wire
