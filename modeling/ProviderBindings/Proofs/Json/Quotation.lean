import Mathlib.Tactic.IntervalCases
import ProviderBindings.Json.Printer

/-!
Quoted texts are read back: every character has an escape of its own, and none of them begins with the quote
that ends the text, so that the end is found whatever stands behind it.
-/

namespace ProviderBindings.Json

def hexValue (c : Char) : Nat := if c.isDigit then c.toNat - 48 else c.toNat - 87

def unescapedChar (c : Char) : Char :=
  if c = 'b' then '\x08'
  else if c = 'f' then '\x0c'
  else if c = 'n' then '\n'
  else if c = 'r' then '\r'
  else if c = 't' then '\t'
  else c

def unquote? : List Char → Option (List Char × List Char)
  | '"' :: rest => some ([], rest)
  | '\\' :: 'u' :: '0' :: '0' :: high :: low :: rest =>
      (unquote? rest).map fun p => (Char.ofNat (16 * hexValue high + hexValue low) :: p.1, p.2)
  | '\\' :: c :: rest => (unquote? rest).map fun p => (unescapedChar c :: p.1, p.2)
  | c :: rest => (unquote? rest).map fun p => (c :: p.1, p.2)
  | [] => none

theorem escapedChar_of_plain {c : Char} (hquote : c ≠ '"') (hbackslash : c ≠ '\\')
    (hcontrol : ¬ c.toNat < 32) : escapedChar c = [c] := by
  have hne : ∀ d : Char, d.toNat < 32 → c ≠ d := by
    rintro d hd rfl
    exact hcontrol hd
  simp [escapedChar, hquote, hbackslash, hcontrol, hne '\x08' (by decide), hne '\x0c' (by decide),
    hne '\n' (by decide), hne '\r' (by decide), hne '\t' (by decide)]

theorem unquote?_escapedChar (c : Char) (rest : List Char) :
    unquote? (escapedChar c ++ rest) = (unquote? rest).map fun p => (c :: p.1, p.2) := by
  by_cases hcontrol : c.toNat < 32
  · obtain ⟨n, hn, rfl⟩ : ∃ n < 32, c = Char.ofNat n := ⟨c.toNat, hcontrol, (Char.ofNat_toNat c).symm⟩
    interval_cases n <;> rfl
  by_cases hquote : c = '"'
  · subst hquote
    rfl
  by_cases hbackslash : c = '\\'
  · subst hbackslash
    rfl
  rw [escapedChar_of_plain hquote hbackslash hcontrol, List.singleton_append, unquote?]
  · exact hquote
  · simp [hbackslash]
  · simp [hbackslash]

theorem unquote?_escaped (cs rest : List Char) :
    unquote? (cs.flatMap escapedChar ++ '"' :: rest) = some (cs, rest) := by
  induction cs with
  | nil => rfl
  | cons c cs ih => simp [unquote?_escapedChar, ih]

end ProviderBindings.Json
