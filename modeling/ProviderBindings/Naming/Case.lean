import ProviderBindings.Text.Class

/-!
Word case of names. The words of a name are separated by `_`, `-`, `.`, blanks and `/`; a character that
is neither a separator nor alphanumeric is left out.
-/

namespace ProviderBindings.Naming

open Text

def isSeparator (c : Char) : Bool :=
  c == '_' || c == '-' || c == '.' || c == ' ' || c == '/'

def guardDigit : List Char → List Char
  | [] => ['_']
  | c :: rest => if c.isDigit then '_' :: c :: rest else c :: rest

/-- The words of a name joined, each with its first character in upper case; the flag says that a word
starts with the next character. -/
def pascalChars : Bool → List Char → List Char
  | _, [] => []
  | wordStart, c :: rest =>
      if isSeparator c then pascalChars true rest
      else if !isAlphanumeric c then pascalChars wordStart rest
      else if wordStart then toUppercase c ++ pascalChars false rest
      else c :: pascalChars false rest

def pascalCase (name : String) : String :=
  String.ofList (guardDigit (pascalChars true name.toList))

inductive Junction where
  | start
  | lower
  | other
  | gap
  deriving DecidableEq, Repr

def Junction.separated : Junction → Junction
  | .start => .start
  | _ => .gap

def Junction.beforeUpper : Junction → List Char
  | .lower | .gap => ['_']
  | _ => []

def Junction.beforeOther : Junction → List Char
  | .gap => ['_']
  | _ => []

/-- The words of a name in lower case joined by `_`; a word also ends between a lower-case character or
digit and an upper-case one. -/
def snakeChars : Junction → List Char → List Char
  | _, [] => []
  | j, c :: rest =>
      if isSeparator c then snakeChars j.separated rest
      else if !isAlphanumeric c then snakeChars j rest
      else if isUppercase c then j.beforeUpper ++ toLowercase c ++ snakeChars .other rest
      else j.beforeOther ++ c :: snakeChars (if isLowercase c || c.isDigit then .lower else .other) rest

def snakeCase (name : String) : String :=
  String.ofList (guardDigit (snakeChars .start name.toList))

theorem guardDigit_ne_nil (cs : List Char) : guardDigit cs ≠ [] := by
  cases cs with
  | nil => simp [guardDigit]
  | cons c rest =>
      simp only [guardDigit]
      split <;> simp

theorem pascalChars_append_separator {c : Char} (h : isSeparator c = true) (b : List Char) :
    ∀ (wordStart : Bool) (a : List Char),
      pascalChars wordStart (a ++ c :: b) = pascalChars wordStart a ++ pascalChars true b := by
  intro wordStart a
  induction a generalizing wordStart with
  | nil => simp [pascalChars, h]
  | cons d rest ih =>
      simp only [List.cons_append, pascalChars, ih]
      split
      · rfl
      · split
        · rfl
        · split <;> simp

end ProviderBindings.Naming
