import ProviderBindings.Proofs.Json.Tree
import ProviderBindings.Proofs.Schema.Level

/-!
The type expressions of JSON: which values express which types. The decoder accepts those values, at
whatever depth they deviate from the rest, and gives the type that they express.
-/

namespace ProviderBindings.ValueType

mutual
/-- The optional names of an object come in any order and any number of times, and need not be there when
there are none. -/
inductive Expresses : Json → ValueType → Prop
  | bool : Expresses (.text "bool") .bool
  | string : Expresses (.text "string") .string
  | number : Expresses (.text "number") .number
  | list {v : Json} {t : ValueType} (h : Expresses v t) : Expresses (.list [.text "list", v]) (.list t)
  | set {v : Json} {t : ValueType} (h : Expresses v t) : Expresses (.list [.text "set", v]) (.set t)
  | map {v : Json} {t : ValueType} (h : Expresses v t) : Expresses (.list [.text "map", v]) (.map t)
  | object {members : List (String × Json)} {fields : List (String × ValueType)}
      (h : FieldsExpress members fields) :
      Expresses (.list [.text "object", .object members]) (.object fields [])
  | objectWith {members : List (String × Json)} {fields : List (String × ValueType)}
      {names optional : List String} (h : FieldsExpress members fields)
      (ho : ∀ n, n ∈ optional ↔ n ∈ names) :
      Expresses (.list [.text "object", .object members, .texts names]) (.object fields optional)

inductive FieldsExpress : List (String × Json) → List (String × ValueType) → Prop
  | nil : FieldsExpress [] []
  | cons {v : Json} {t : ValueType} {members : List (String × Json)} {fields : List (String × ValueType)}
      (name : String) (h : Expresses v t) (hrest : FieldsExpress members fields) :
      FieldsExpress ((name, v) :: members) ((name, t) :: fields)
end

mutual
def OptionalOrdered : ValueType → Prop
  | .list element => OptionalOrdered element
  | .set element => OptionalOrdered element
  | .map element => OptionalOrdered element
  | .object fields optional => optional.Pairwise (· < ·) ∧ fieldsOptionalOrdered fields
  | _ => True

def fieldsOptionalOrdered : List (String × ValueType) → Prop
  | [] => True
  | (_, t) :: rest => OptionalOrdered t ∧ fieldsOptionalOrdered rest
end

structure Canonical (t : ValueType) : Prop where
  keyOrdered : t.KeyOrdered
  optionalOrdered : t.OptionalOrdered

/-! ### Optional names -/

theorem keys_insert {α : Type} (name : String) (a : α) (t : Table α) :
    Table.keys (Table.insert name a t) = insertName name (Table.keys t) := by
  induction t with
  | nil => rfl
  | cons p rest ih =>
      obtain ⟨k, v⟩ := p
      simp only [Table.keys, List.map_cons] at ih ⊢
      simp only [Table.insert, insertName]
      split
      · rfl
      · split
        · rename_i h
          rw [h]
          rfl
        · rw [List.map_cons, ih]

theorem insertName_eq (name : String) (names : List String) :
    insertName name names = Table.keys (Table.insert name () (names.map fun n => (n, ()))) := by
  rw [keys_insert]
  simp [Table.keys, Function.comp_def]

theorem mem_insertName {name n : String} {names : List String} :
    n ∈ insertName name names ↔ n = name ∨ n ∈ names := by
  rw [insertName_eq, Table.mem_keys_insert]
  simp [Table.keys, Function.comp_def]

theorem pairwise_insertName (name : String) {names : List String} (h : names.Pairwise (· < ·)) :
    (insertName name names).Pairwise (· < ·) := by
  rw [insertName_eq]
  refine Table.ordered_insert name () ?_
  simpa [Table.Ordered, Table.keys, Function.comp_def] using h

theorem texts_of_namesOf {items : List Json} : ∀ {done result : List String},
    namesOf done items = .ok result → done.Pairwise (· < ·) →
      ∃ names : List String, items = names.map .text ∧ result.Pairwise (· < ·) ∧
        ∀ n, n ∈ result ↔ n ∈ done ∨ n ∈ names := by
  induction items with
  | nil =>
      rintro done _ ⟨⟩ hd
      exact ⟨[], rfl, hd, by simp⟩
  | cons item rest ih =>
      intro done result h hd
      cases item with
      | text name =>
          obtain ⟨names, rfl, hp, hmem⟩ := ih h (pairwise_insertName name hd)
          refine ⟨name :: names, rfl, hp, fun n => ?_⟩
          rw [hmem, mem_insertName, List.mem_cons, or_assoc]
          exact or_left_comm
      | _ => cases h

theorem exists_namesOf (names : List String) : ∀ done : List String,
    ∃ result, namesOf done (names.map .text) = .ok result := by
  induction names with
  | nil => exact fun done => ⟨done, rfl⟩
  | cons name rest ih => exact fun done => ih (insertName name done)

theorem eq_of_mem_iff {names optional : List String} (hn : names.Pairwise (· < ·))
    (ho : optional.Pairwise (· < ·)) (h : ∀ n, n ∈ names ↔ n ∈ optional) : names = optional := by
  have hnodup {l : List String} (hl : l.Pairwise (· < ·)) : l.Nodup := hl.imp Std.ne_of_lt
  refine ((List.perm_ext_iff_of_nodup (hnodup hn) (hnodup ho)).mpr h).eq_of_pairwise ?_ hn ho
  exact fun a b _ _ hab hba => absurd (Std.lt_trans hab hba) Std.lt_irrefl

theorem namesOf_texts {names optional : List String} (ho : optional.Pairwise (· < ·))
    (h : ∀ n, n ∈ optional ↔ n ∈ names) : namesOf [] (names.map .text) = .ok optional := by
  obtain ⟨result, hresult⟩ := exists_namesOf names []
  obtain ⟨others, heq, hp, hmem⟩ := texts_of_namesOf hresult .nil
  have hothers : others = names := ((List.map_inj_right fun _ _ => Json.text.inj).mp heq).symm
  rw [hresult, eq_of_mem_iff hp ho fun n => by simp [hmem, h, hothers]]

/-! ### Decoding -/

theorem insert_last_of_keys {α β : Type} {done : Table α} {name : String} (a : α) {b : β} {rest : Table β}
    (h : (Table.keys done ++ Table.keys ((name, b) :: rest)).Pairwise (· < ·)) :
    Table.insert name a done = done ++ [(name, a)] := by
  have hsub : (Table.keys (done ++ [(name, a)])).Sublist
      (Table.keys done ++ Table.keys ((name, b) :: rest)) := by
    simp [Table.keys]
  exact Table.insert_last (h.sublist hsub)

theorem keys_snoc {α β : Type} (done : Table α) (name : String) (a : α) (b : β) (rest : Table β) :
    Table.keys (done ++ [(name, a)]) ++ Table.keys rest =
      Table.keys done ++ Table.keys ((name, b) :: rest) := by
  simp [Table.keys]

theorem expresses_of_ofJson {v : Json} : ∀ {t : ValueType}, ofJson? v = .ok t → v.KeyOrdered →
    Expresses v t ∧ t.OptionalOrdered := by
  -- Members come in key order, so that the field of each one is put behind those of the members before.
  induction v using ofJson?.induct_unfolding _
    (fun done members result => Json.membersKeyOrdered members →
      (Table.keys done ++ Table.keys members).Pairwise (· < ·) → ∀ types, result = .ok types →
        ∃ fields, types = done ++ fields ∧ FieldsExpress members fields ∧ fieldsOptionalOrdered fields) with
  | case1 =>
      rintro t ⟨⟩ _
      exact ⟨.bool, trivial⟩
  | case2 =>
      rintro t ⟨⟩ _
      exact ⟨.string, trivial⟩
  | case3 =>
      rintro t ⟨⟩ _
      exact ⟨.number, trivial⟩
  | case4 | case10 | case11 | case12 => simp
  | case5 element ih =>
      intro t h hv
      obtain ⟨u, hu, rfl⟩ := map_eq_ok_iff.mp h
      have hu := ih hu hv.2.1
      exact ⟨.list hu.1, hu.2⟩
  | case6 element ih =>
      intro t h hv
      obtain ⟨u, hu, rfl⟩ := map_eq_ok_iff.mp h
      have hu := ih hu hv.2.1
      exact ⟨.set hu.1, hu.2⟩
  | case7 element ih =>
      intro t h hv
      obtain ⟨u, hu, rfl⟩ := map_eq_ok_iff.mp h
      have hu := ih hu hv.2.1
      exact ⟨.map hu.1, hu.2⟩
  | case8 members ih =>
      intro t h hv
      obtain ⟨types, ht, h⟩ := bind_eq_ok_iff.mp h
      cases h
      obtain ⟨hordered, hmembers⟩ := hv.2.1
      obtain ⟨fields, rfl, hf, hopt⟩ := ih hmembers hordered types ht
      exact ⟨.object hf, .nil, hopt⟩
  | case9 members optional ih =>
      intro t h hv
      obtain ⟨types, ht, h⟩ := bind_eq_ok_iff.mp h
      obtain ⟨result, hr, h⟩ := bind_eq_ok_iff.mp h
      cases h
      obtain ⟨hordered, hmembers⟩ := hv.2.1
      obtain ⟨fields, rfl, hf, hopt⟩ := ih hmembers hordered types ht
      obtain ⟨names, rfl, hp, hmem⟩ := texts_of_namesOf hr .nil
      exact ⟨.objectWith hf (by simpa using hmem), hp, hopt⟩
  | case13 done hm hp types h =>
      cases h
      exact ⟨[], (List.append_nil _).symm, .nil, trivial⟩
  | case14 done name v rest ihv ihrest hm hp types h =>
      obtain ⟨hv, hrest⟩ := hm
      obtain ⟨t, ht, h⟩ := bind_eq_ok_iff.mp h
      obtain ⟨he, hopt⟩ := ihv ht hv
      have hlast := insert_last_of_keys t hp
      have ihrest := ihrest t hrest
      rw [hlast, keys_snoc done name t v rest] at ihrest
      rw [hlast] at h
      obtain ⟨fields, rfl, hf, hfields⟩ := ihrest hp types h
      exact ⟨(name, t) :: fields, by simp, .cons name he hf, hopt, hfields⟩

mutual
theorem ofJson_of_expresses : ∀ {v : Json} {t : ValueType}, Expresses v t → v.KeyOrdered →
    t.OptionalOrdered → ofJson? v = .ok t
  | _, _, .bool, _, _ | _, _, .string, _, _ | _, _, .number, _, _ => by simp [ofJson?]
  | _, _, .list h, hv, ht => by
      rw [ofJson?, ofJson_of_expresses h hv.2.1 ht]
      rfl
  | _, _, .set h, hv, ht => by
      rw [ofJson?, ofJson_of_expresses h hv.2.1 ht]
      rfl
  | _, _, .map h, hv, ht => by
      rw [ofJson?, ofJson_of_expresses h hv.2.1 ht]
      rfl
  | _, _, .object h, hv, ht => by
      rw [ofJson?, fieldsOfJson_of_express h [] hv.2.1.2 ht.2 hv.2.1.1]
      rfl
  | _, _, .objectWith h ho, hv, ht => by
      rw [Json.texts, ofJson?, fieldsOfJson_of_express h [] hv.2.1.2 ht.2 hv.2.1.1]
      simp only [bind, Except.bind, namesOf_texts ht.1 ho, List.nil_append]

theorem fieldsOfJson_of_express : ∀ {members : List (String × Json)} {fields : List (String × ValueType)},
    FieldsExpress members fields → ∀ done : Table ValueType, Json.membersKeyOrdered members →
      fieldsOptionalOrdered fields → (Table.keys done ++ Table.keys members).Pairwise (· < ·) →
        fieldsOfJson? done members = .ok (done ++ fields)
  | _, _, .nil, done, _, _, _ => by
      rw [List.append_nil]
      rfl
  | _, _, @FieldsExpress.cons v t members fields name h hrest, done, ⟨hv, hm⟩, ⟨ht, hf⟩, hp => by
      have hp' := hp
      rw [← keys_snoc done name t v members] at hp'
      rw [fieldsOfJson?, ofJson_of_expresses h hv ht]
      change fieldsOfJson? (Table.insert name t done) members = _
      rw [insert_last_of_keys t hp, fieldsOfJson_of_express hrest _ hm hf hp']
      simp
end

/-! ### Encoding -/

theorem keys_fieldsToJson (fields : List (String × ValueType)) :
    Table.keys (fieldsToJson fields) = Table.keys fields := by
  induction fields with
  | nil => rfl
  | cons p rest ih => exact congrArg (p.1 :: ·) ih

theorem keyOrdered_texts (names : List String) : (Json.texts names).KeyOrdered := by
  induction names with
  | nil => trivial
  | cons name rest ih => exact ⟨trivial, ih⟩

mutual
theorem keyOrdered_toJson : ∀ t : ValueType, t.KeyOrdered → t.toJson.KeyOrdered
  | .bool, _ | .string, _ | .number, _ => trivial
  | .list element, h | .set element, h | .map element, h => ⟨trivial, keyOrdered_toJson element h, trivial⟩
  | .object fields optional, h => by
      have hordered : Table.Ordered (fieldsToJson fields) := by
        rw [Table.Ordered, keys_fieldsToJson]
        exact h.1
      have hmembers := membersKeyOrdered_fieldsToJson fields h.2
      exact ⟨trivial, ⟨hordered, hmembers⟩, keyOrdered_texts optional, trivial⟩

theorem membersKeyOrdered_fieldsToJson : ∀ fields : List (String × ValueType),
    fieldsKeyOrdered fields → Json.membersKeyOrdered (fieldsToJson fields)
  | [], _ => trivial
  | (_, t) :: rest, ⟨ht, hrest⟩ => ⟨keyOrdered_toJson t ht, membersKeyOrdered_fieldsToJson rest hrest⟩
end

mutual
theorem expresses_toJson : ∀ t : ValueType, Expresses t.toJson t
  | .bool => .bool
  | .string => .string
  | .number => .number
  | .list element => .list (expresses_toJson element)
  | .set element => .set (expresses_toJson element)
  | .map element => .map (expresses_toJson element)
  | .object fields _ => .objectWith (express_fieldsToJson fields) fun _ => Iff.rfl

theorem express_fieldsToJson : ∀ fields : List (String × ValueType),
    FieldsExpress (fieldsToJson fields) fields
  | [] => .nil
  | (name, t) :: rest => .cons name (expresses_toJson t) (express_fieldsToJson rest)
end

theorem ofJson_exact :
    (∀ t : ValueType, t.Canonical → ofJson? t.toJson = .ok t) ∧
      ∀ v : Json, v.KeyOrdered →
        (∀ t, ofJson? v = .ok t ↔ t.Canonical ∧ Expresses v t) ∧
          ((¬ ∃ t, t.Canonical ∧ Expresses v t) → ∃ e, ofJson? v = .error e) := by
  have hexact (v : Json) (hv : v.KeyOrdered) (t : ValueType) :
      ofJson? v = .ok t ↔ t.Canonical ∧ Expresses v t := by
    refine ⟨fun h => ?_, fun ⟨ht, h⟩ => ofJson_of_expresses h hv ht.optionalOrdered⟩
    obtain ⟨he, ho⟩ := expresses_of_ofJson h hv
    exact ⟨⟨keyOrdered_of_ofJson h, ho⟩, he⟩
  refine ⟨fun t ht => ?_, fun v hv => ⟨hexact v hv, fun hno => ?_⟩⟩
  · exact (hexact _ (keyOrdered_toJson t ht.keyOrdered) t).mpr ⟨ht, expresses_toJson t⟩
  · cases h : ofJson? v with
    | error e => exact ⟨e, rfl⟩
    | ok t => exact absurd ⟨t, (hexact v hv t).mp h⟩ hno

def portsByZone : ValueType := .map (.object [("port", .number), ("tls", .bool)] ["tls"])

def portsByZoneJson (names : List String) : Json :=
  .list [.text "map", .list [.text "object",
    .object [("port", .text "number"), ("tls", .text "bool")], .texts names]]

theorem ofJson_exact_ports :
    ofJson? portsByZone.toJson = .ok portsByZone ∧
      ofJson? (portsByZoneJson ["tls", "tls"]) = .ok portsByZone ∧
      ∃ e, ofJson? (.list [.text "set", .list [.text "list", .text "string", .text "bool"]]) = .error e := by
  have hnames : ["port", "tls"].Pairwise (· < ·) := by decide
  have ht : portsByZone.Canonical :=
    ⟨⟨hnames, trivial, trivial, trivial⟩, List.pairwise_singleton _ _, trivial, trivial, trivial⟩
  have hfields : FieldsExpress [("port", .text "number"), ("tls", .text "bool")]
      [("port", .number), ("tls", .bool)] := .cons _ .number (.cons _ .bool .nil)
  have he : Expresses (portsByZoneJson ["tls", "tls"]) portsByZone := .map (.objectWith hfields (by simp))
  refine ⟨ofJson_exact.1 portsByZone ht, ?_, ?_⟩
  · exact ((ofJson_exact.2 _ (by decide)).1 portsByZone).mpr ⟨ht, he⟩
  · refine (ofJson_exact.2 _ (by decide)).2 ?_
    rintro ⟨t, _, h⟩
    generalize hw : Json.list [.text "set", .list [.text "list", .text "string", .text "bool"]] = w at h
    cases h with
    | @set v t h =>
        obtain rfl : Json.list [.text "list", .text "string", .text "bool"] = v := by simpa using hw
        generalize hv : Json.list [.text "list", .text "string", .text "bool"] = v at h
        cases h <;> simp at hv
    | _ => simp at hw

end ProviderBindings.ValueType
