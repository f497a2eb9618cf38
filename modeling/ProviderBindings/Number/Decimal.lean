import ProviderBindings.Number.Binary64

/-!
Reading decimal numerals: an optional sign, digits with or without a point, and an optional exponent; or
the name of an infinity or of no number, in letters of any case.
-/

namespace ProviderBindings.Binary64

def digitRun : List Char → List Char × List Char
  | [] => ([], [])
  | c :: rest => if c.isDigit then (c :: (digitRun rest).1, (digitRun rest).2) else ([], c :: rest)

def naturalOf (digits : List Char) : Nat := digits.foldl (fun n c => 10 * n + (c.toNat - '0'.toNat)) 0

def signRun : List Char → Bool × List Char
  | '-' :: rest => (true, rest)
  | '+' :: rest => (false, rest)
  | rest => (false, rest)

def exponentOf? : List Char → Option Int
  | [] => some 0
  | c :: rest =>
      if c = 'e' ∨ c = 'E' then
        let (negative, rest) := signRun rest
        match digitRun rest with
        | ([], _) => none
        | (digits, []) => some (if negative then -(naturalOf digits : Int) else naturalOf digits)
        | _ => none
      else none

def ofNumeral? (negative : Bool) (cs : List Char) : Option Binary64 :=
  let (whole, rest) := digitRun cs
  let (fraction, rest) :=
    match rest with
    | '.' :: rest => digitRun rest
    | rest => ([], rest)
  if whole.isEmpty && fraction.isEmpty then none
  else (exponentOf? rest).map fun e =>
    ofDecimal negative (naturalOf (whole ++ fraction)) (e - fraction.length)

def ofText? (s : String) : Option Binary64 :=
  let (negative, body) := signRun s.toList
  let name := String.ofList (body.map Char.toLower)
  if name = "nan" then some nan
  else if name = "inf" ∨ name = "infinity" then some (infinity negative)
  else ofNumeral? negative body

end ProviderBindings.Binary64
