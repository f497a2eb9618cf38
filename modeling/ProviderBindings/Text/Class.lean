import ProviderBindings.Text.ClassTable
import ProviderBindings.Text.CaseTable

/-!
Character classes and the case mapping of one character. ASCII is decided by its own rules; every other
character is looked up in a table.
-/

namespace ProviderBindings.Text

/-- Membership in a boundary list: an odd number of boundaries lies at or below the code point. -/
def withinBounds : List Nat → Nat → Bool
  | [], _ => false
  | b :: rest, code => if code < b then false else !withinBounds rest code

def isAscii (c : Char) : Bool := c.toNat < 128

def isAlphanumeric (c : Char) : Bool :=
  if isAscii c then c.isAlphanum else withinBounds ClassTable.alphanumeric c.toNat

def isUppercase (c : Char) : Bool :=
  if isAscii c then c.isUpper else withinBounds ClassTable.uppercase c.toNat

def isLowercase (c : Char) : Bool :=
  if isAscii c then c.isLower else withinBounds ClassTable.lowercase c.toNat

def isGraphemeExtend (c : Char) : Bool :=
  !isAscii c && withinBounds ClassTable.graphemeExtend c.toNat

def isPrintable (c : Char) : Bool :=
  if isAscii c then ' '.toNat ≤ c.toNat && c.toNat < 127
  else !withinBounds ClassTable.unprintable c.toNat

def caseImage (sequences : List (Nat × List Nat)) (runs : List CaseRun) (c : Char) : List Char :=
  match sequences.lookup c.toNat with
  | some codes => codes.map Char.ofNat
  | none =>
      match runs.find? (·.covers c.toNat) with
      | some run => [Char.ofNat (run.image c.toNat)]
      | none => [c]

def toUppercase (c : Char) : List Char :=
  if isAscii c then [c.toUpper] else caseImage CaseTable.upperSequences CaseTable.upperRuns c

def toLowercase (c : Char) : List Char :=
  if isAscii c then [c.toLower] else caseImage CaseTable.lowerSequences CaseTable.lowerRuns c

theorem toUppercase_ascii {c : Char} (h : isAscii c = true) : toUppercase c = [c.toUpper] := by
  simp [toUppercase, h]

theorem toLowercase_ascii {c : Char} (h : isAscii c = true) : toLowercase c = [c.toLower] := by
  simp [toLowercase, h]

theorem isAlphanumeric_ascii {c : Char} (h : isAscii c = true) : isAlphanumeric c = c.isAlphanum := by
  simp [isAlphanumeric, h]

end ProviderBindings.Text
