import ProviderBindings.Configuration.Reference
import ProviderBindings.Proofs.Json.Quotation

/-!
What the keys of references denote where configurations are read. Quoted texts there are templates and have
fewer escapes than JSON, in whose form keys are written: a key is read back unless it holds a backspace, a form
feed or the beginning of a template.
-/

namespace ProviderBindings

/-! ### Quoted texts -/

namespace QuotedText

def hexDigit? (c : Char) : Option Nat :=
  if '0' ≤ c && c ≤ '9' then some (c.toNat - 48)
  else if 'a' ≤ c && c ≤ 'f' then some (c.toNat - 87)
  else if 'A' ≤ c && c ≤ 'F' then some (c.toNat - 55)
  else none

def codePoint? (digits : List Char) : Option Char := do
  let values ← digits.mapM hexDigit?
  let n := values.foldl (fun n d => 16 * n + d) 0
  if n.isValidChar then some (Char.ofNat n) else none

/-- Reads a quoted text behind its opening quote. A dollar or per cent sign before a brace begins a template,
which denotes no text, but two of the signs before a brace are one sign and the brace. -/
def denotedChars? : List Char → Option (List Char)
  | ['"'] => some []
  | '\\' :: 'n' :: rest => (denotedChars? rest).map ('\n' :: ·)
  | '\\' :: 'r' :: rest => (denotedChars? rest).map ('\r' :: ·)
  | '\\' :: 't' :: rest => (denotedChars? rest).map ('\t' :: ·)
  | '\\' :: '"' :: rest => (denotedChars? rest).map ('"' :: ·)
  | '\\' :: '\\' :: rest => (denotedChars? rest).map ('\\' :: ·)
  | '\\' :: 'u' :: a :: b :: c :: d :: rest => do
      let first ← codePoint? [a, b, c, d]
      let others ← denotedChars? rest
      some (first :: others)
  | '\\' :: 'U' :: a :: b :: c :: d :: e :: f :: g :: h :: rest => do
      let first ← codePoint? [a, b, c, d, e, f, g, h]
      let others ← denotedChars? rest
      some (first :: others)
  | '$' :: '$' :: '\x7b' :: rest => (denotedChars? rest).map ('$' :: '\x7b' :: ·)
  | '%' :: '%' :: '\x7b' :: rest => (denotedChars? rest).map ('%' :: '\x7b' :: ·)
  | '$' :: '\x7b' :: _ => none
  | '%' :: '\x7b' :: _ => none
  | c :: rest =>
      if c = '"' ∨ c = '\\' ∨ c = '\n' ∨ c = '\r' then none else (denotedChars? rest).map (c :: ·)
  | [] => none

def denoted? (literal : String) : Option String :=
  match literal.toList with
  | '"' :: rest => (denotedChars? rest).map String.ofList
  | _ => none

/-- What is read in place of a text that was written with the escapes of JSON. -/
def takenFor? : List Char → Option (List Char)
  | '$' :: '$' :: '\x7b' :: rest => (takenFor? rest).map ('$' :: '\x7b' :: ·)
  | '%' :: '%' :: '\x7b' :: rest => (takenFor? rest).map ('%' :: '\x7b' :: ·)
  | '$' :: '\x7b' :: _ => none
  | '%' :: '\x7b' :: _ => none
  | c :: rest => if c = '\x08' ∨ c = '\x0c' then none else (takenFor? rest).map (c :: ·)
  | [] => some []

section

variable {c : Char} {rest : List Char}

theorem denotedChars?_of_plain (h : ∀ d ∈ ['"', '\\', '\n', '\r', '$', '%'], c ≠ d) (rest : List Char) :
    denotedChars? (c :: rest) = (denotedChars? rest).map (c :: ·) := by
  simp only [List.forall_mem_cons] at h
  obtain ⟨hquote, hbackslash, hnewline, hreturn, hdollar, hpercent, -⟩ := h
  rw [denotedChars?] <;> simp [*]

theorem denotedChars?_of_sign (h : c = '$' ∨ c = '%') (hbrace : ∀ cs, rest ≠ '\x7b' :: cs)
    (hsign : ∀ cs, rest ≠ c :: '\x7b' :: cs) :
    denotedChars? (c :: rest) = (denotedChars? rest).map (c :: ·) := by
  rcases h with rfl | rfl <;> rw [denotedChars?] <;> simp [*]

theorem denotedChars?_of_control (h : c.toNat < 32) (rest : List Char) :
    denotedChars? (Json.escapedChar c ++ rest) =
      if c = '\x08' ∨ c = '\x0c' then none else (denotedChars? rest).map (c :: ·) := by
  obtain ⟨n, hn, rfl⟩ : ∃ n < 32, c = Char.ofNat n := ⟨c.toNat, h, (Char.ofNat_toNat c).symm⟩
  -- Line breaks and tabs have escapes of their own, the others four digits.
  have hdigits (first : Char) (o : Option (List Char)) :
      (do let others ← o; some (first :: others)) = o.map (first :: ·) := by cases o <;> rfl
  interval_cases n <;> first | rfl | exact hdigits _ _

/-! ### Texts with the escapes of JSON -/

def escaped (cs : List Char) : List Char := cs.flatMap Json.escapedChar ++ ['"']

theorem escaped_cons (c : Char) (cs : List Char) : escaped (c :: cs) = Json.escapedChar c ++ escaped cs := by
  simp [escaped]

theorem of_escaped_eq_cons {cs out : List Char} (hquote : c ≠ '"') (hbackslash : c ≠ '\\')
    (h : escaped cs = c :: out) : ∃ cs', cs = c :: cs' ∧ escaped cs' = out := by
  cases cs with
  | nil =>
      obtain ⟨rfl, -⟩ := List.cons.inj h
      exact absurd rfl hquote
  | cons d cs =>
      rw [escaped_cons] at h
      by_cases hplain : Json.escapedChar d = [d]
      · rw [hplain] at h
        obtain ⟨rfl, rfl⟩ := List.cons.inj h
        exact ⟨cs, rfl, rfl⟩
      · obtain ⟨out', heq⟩ : ∃ out', Json.escapedChar d = '\\' :: out' := by
          revert hplain
          unfold Json.escapedChar
          repeat' split
          all_goals simp
        rw [heq] at h
        exact absurd (List.cons.inj h).1.symm hbackslash

theorem denotedChars?_escaped (cs : List Char) : denotedChars? (escaped cs) = takenFor? cs := by
  fun_induction takenFor? cs with
  | case1 rest ih | case2 rest ih =>
      rw [← ih]
      rfl
  | case3 rest | case4 rest => rfl
  | case5 c rest h1 h2 h3 h4 hcontrol =>
      rw [escaped_cons, denotedChars?_of_control, if_pos hcontrol]
      rcases hcontrol with rfl | rfl <;> decide
  | case6 c rest h1 h2 h3 h4 hcontrol ih =>
      rw [escaped_cons, ← ih]
      by_cases hlow : c.toNat < 32
      · rw [denotedChars?_of_control hlow, if_neg hcontrol]
      by_cases hquote : c = '"'
      · subst hquote
        rfl
      by_cases hbackslash : c = '\\'
      · subst hbackslash
        rfl
      rw [Json.escapedChar_of_plain hquote hbackslash hlow, List.singleton_append]
      by_cases hsign : c = '$' ∨ c = '%'
      · have hbrace {cs out : List Char} (h : escaped cs = '\x7b' :: out) : ∃ cs', cs = '\x7b' :: cs' :=
          (of_escaped_eq_cons (by decide) (by decide) h).imp fun _ => And.left
        refine denotedChars?_of_sign hsign (fun out h => ?_) fun out h => ?_
        · obtain ⟨cs, rfl⟩ := hbrace h
          rcases hsign with rfl | rfl
          · exact h3 cs rfl rfl
          · exact h4 cs rfl rfl
        · obtain ⟨cs, hcs, h⟩ := of_escaped_eq_cons hquote hbackslash h
          obtain ⟨cs, rfl⟩ := hbrace h
          rcases hsign with rfl | rfl
          · exact h1 cs rfl hcs
          · exact h2 cs rfl hcs
      · rw [not_or] at hsign
        have hne : ∀ d : Char, d.toNat < 32 → c ≠ d := by
          rintro d hd rfl
          exact hlow hd
        refine denotedChars?_of_plain ?_ _
        simp [hquote, hbackslash, hsign, hne '\n' (by decide), hne '\r' (by decide)]
  | case7 => rfl

/-! ### Texts that are read back -/

theorem length_le_of_takenFor? {cs ds : List Char} (h : takenFor? cs = some ds) : ds.length ≤ cs.length := by
  fun_induction takenFor? cs generalizing ds with
  | case1 rest ih | case2 rest ih =>
      obtain ⟨others, hothers, rfl⟩ := Option.map_eq_some_iff.mp h
      have hle := ih hothers
      simp only [List.length_cons]
      omega
  | case3 | case4 | case5 => cases h
  | case6 c rest _ _ _ _ _ ih =>
      obtain ⟨others, hothers, rfl⟩ := Option.map_eq_some_iff.mp h
      exact Nat.succ_le_succ (ih hothers)
  | case7 => exact Nat.le_of_eq (by cases h; rfl)

structure Faithful (cs : List Char) : Prop where
  backspace : '\x08' ∉ cs
  formFeed : '\x0c' ∉ cs
  dollar : ¬ ['$', '\x7b'] <:+: cs
  percent : ¬ ['%', '\x7b'] <:+: cs

theorem faithful_cons_iff (hdollar : ∀ cs, c = '$' → rest ≠ '\x7b' :: cs)
    (hpercent : ∀ cs, c = '%' → rest ≠ '\x7b' :: cs) (hcontrol : ¬ (c = '\x08' ∨ c = '\x0c')) :
    Faithful (c :: rest) ↔ Faithful rest := by
  have hpair {d : Char} (h : ∀ cs, c = d → rest ≠ '\x7b' :: cs) :
      [d, '\x7b'] <:+: c :: rest ↔ [d, '\x7b'] <:+: rest := by
    rw [List.infix_cons_iff, or_iff_right]
    rintro ⟨cs, hcs⟩
    obtain ⟨rfl, rfl⟩ := List.cons.inj hcs
    exact h cs rfl rfl
  have hmem {d : Char} (h : c ≠ d) : d ∈ c :: rest ↔ d ∈ rest := by
    rw [List.mem_cons, or_iff_right h.symm]
  rw [not_or] at hcontrol
  constructor
  · rintro ⟨h1, h2, h3, h4⟩
    exact ⟨mt (hmem hcontrol.1).mpr h1, mt (hmem hcontrol.2).mpr h2, mt (hpair hdollar).mpr h3,
      mt (hpair hpercent).mpr h4⟩
  · rintro ⟨h1, h2, h3, h4⟩
    exact ⟨mt (hmem hcontrol.1).mp h1, mt (hmem hcontrol.2).mp h2, mt (hpair hdollar).mp h3,
      mt (hpair hpercent).mp h4⟩

theorem takenFor?_doubled_ne (d : Char) (rest : List Char) :
    (takenFor? rest).map (d :: '\x7b' :: ·) ≠ some (d :: d :: '\x7b' :: rest) := by
  intro h
  obtain ⟨others, hothers, heq⟩ := Option.map_eq_some_iff.mp h
  have hle := length_le_of_takenFor? hothers
  have hlength := congrArg List.length heq
  simp only [List.length_cons] at hlength
  omega

theorem takenFor?_eq_self_iff (cs : List Char) : takenFor? cs = some cs ↔ Faithful cs := by
  fun_induction takenFor? cs with
  | case1 rest => exact iff_of_false (takenFor?_doubled_ne _ _) fun h => h.dollar ⟨['$'], rest, rfl⟩
  | case2 rest => exact iff_of_false (takenFor?_doubled_ne _ _) fun h => h.percent ⟨['%'], rest, rfl⟩
  | case3 rest => exact iff_of_false nofun fun h => h.dollar ⟨[], rest, rfl⟩
  | case4 rest => exact iff_of_false nofun fun h => h.percent ⟨[], rest, rfl⟩
  | case5 c rest _ _ _ _ hcontrol =>
      refine iff_of_false nofun fun h => ?_
      rcases hcontrol with rfl | rfl
      · exact h.backspace List.mem_cons_self
      · exact h.formFeed List.mem_cons_self
  | case6 c rest _ _ h3 h4 hcontrol ih =>
      rw [faithful_cons_iff h3 h4 hcontrol, ← ih]
      simp
  | case7 => exact iff_of_true rfl ⟨by simp, by simp, by simp, by simp⟩

end

end QuotedText

/-! ### Keys -/

namespace Reference

def DenotesKey (k : String) : Prop :=
  ∀ r : Reference, ∃ literal, (r.step (.key k)).traversal = r.traversal ++ "[" ++ literal ++ "]" ∧
    QuotedText.denoted? literal = some k

theorem traversal_key (r : Reference) (k : String) :
    (r.step (.key k)).traversal = r.traversal ++ "[" ++ Json.quote k ++ "]" := by
  simp [traversal, step, Step.traversal, String.append_assoc, String.join_append]

theorem denotesKey_iff_quote (k : String) :
    DenotesKey k ↔ QuotedText.denoted? (Json.quote k) = some k := by
  constructor
  · intro h
    obtain ⟨literal, htraversal, hdenoted⟩ := h (resource "" "")
    rw [traversal_key, String.append_left_inj, String.append_right_inj] at htraversal
    rwa [htraversal]
  · exact fun h r => ⟨Json.quote k, traversal_key r k, h⟩

theorem denoted?_quote (k : String) :
    QuotedText.denoted? (Json.quote k) = (QuotedText.takenFor? k.toList).map String.ofList := by
  rw [← QuotedText.denotedChars?_escaped]
  simp [QuotedText.denoted?, Json.quote, Json.quotedChars, QuotedText.escaped]

theorem denotesKey_iff (k : String) :
    (∀ r : Reference, ∃ literal, (r.step (.key k)).traversal = r.traversal ++ "[" ++ literal ++ "]" ∧
      QuotedText.denoted? literal = (QuotedText.takenFor? k.toList).map String.ofList) ∧
    (DenotesKey k ↔ QuotedText.Faithful k.toList) := by
  refine ⟨fun r => ⟨Json.quote k, traversal_key r k, denoted?_quote k⟩, ?_⟩
  rw [denotesKey_iff_quote, denoted?_quote, ← QuotedText.takenFor?_eq_self_iff, Option.map_eq_some_iff]
  constructor
  · rintro ⟨cs, hcs, rfl⟩
    rwa [String.toList_ofList] at hcs ⊢
  · exact fun h => ⟨k.toList, h, String.ofList_toList⟩

example : QuotedText.denoted? (Json.quote "$$\x7bx\x7d") = some "$\x7bx\x7d" := by decide +kernel

theorem not_denotesKey_template : ¬ DenotesKey "\x08$\x7bx\x7d" := by
  rw [denotesKey_iff_quote, denoted?_quote]
  decide

end Reference

end ProviderBindings
