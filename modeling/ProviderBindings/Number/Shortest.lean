import ProviderBindings.Number.Binary64

/-!
The shortest decimal that reads back as a given binary number: of the decimal grids from coarse to fine,
the first with a point in the interval of reals that round to the number; of two such points the nearer,
and of two equally near the one with the even last digit.
-/

namespace ProviderBindings.Binary64

structure Decimal where
  digits : Nat
  exponent : Int
  deriving DecidableEq, Repr

/-- The reals that round to `significand · 2^scale`, as multiples of `2^(scale - 2)`; the ends belong to
them when the significand is even. -/
structure Interval where
  low : Nat
  value : Nat
  high : Nat
  closed : Bool
  deriving DecidableEq, Repr

def interval (significand : Nat) (scale : Int) : Interval where
  low := if significand = Nat.pow 2 52 ∧ scale ≠ -1074 then 4 * significand - 1 else 4 * significand - 2
  value := 4 * significand
  high := 4 * significand + 2
  closed := significand % 2 == 0

/-- All of the interval's bounds and the grid's unit `10^exponent` as multiples of one common unit. -/
structure Scaled where
  low : Nat
  value : Nat
  high : Nat
  closed : Bool
  unit : Nat
  deriving DecidableEq, Repr

def Interval.scaled (i : Interval) (scale exponent : Int) : Scaled :=
  let binary := scale - 2
  let numerator := (if 0 ≤ binary then Nat.pow 2 binary.toNat else 1) *
    (if 0 ≤ exponent then 1 else Nat.pow 10 (-exponent).toNat)
  let unit := (if 0 ≤ binary then 1 else Nat.pow 2 (-binary).toNat) *
    (if 0 ≤ exponent then Nat.pow 10 exponent.toNat else 1)
  ⟨i.low * numerator, i.value * numerator, i.high * numerator, i.closed, unit⟩

def Scaled.holds (s : Scaled) (digits : Nat) : Bool :=
  let point := digits * s.unit
  if s.closed then s.low ≤ point && point ≤ s.high else s.low < point && point < s.high

def Scaled.nearest? (s : Scaled) : Option Nat :=
  let below := s.value / s.unit
  let above := below + 1
  match s.holds below && below != 0, s.holds above with
  | false, false => none
  | true, false => some below
  | false, true => some above
  | true, true =>
      let down := s.value - below * s.unit
      let up := above * s.unit - s.value
      if down < up then some below
      else if up < down then some above
      else some (if below % 2 = 0 then below else above)

def searchGrids (i : Interval) (scale : Int) : Nat → Int → Option Decimal
  | 0, _ => none
  | count + 1, exponent =>
      match (i.scaled scale exponent).nearest? with
      | some digits => some ⟨digits, exponent⟩
      | none => searchGrids i scale count (exponent - 1)

/-- An exponent whose power of ten is above `significand · 2^scale`: 1233 / 4096 is just above the
decimal logarithm of two. -/
def exponentAbove (significand : Nat) (scale : Int) : Int :=
  let magnitude : Int := (significand.log2 : Int) + 1 + scale
  if 0 ≤ magnitude then magnitude * 1234 / 4096 + 1 else magnitude * 1232 / 4096 + 1

def shortest (significand : Nat) (scale : Int) : Decimal :=
  (searchGrids (interval significand scale) scale 40 (exponentAbove significand scale)).getD
    ⟨significand, scale⟩

/-- How a finite number is written: the decimal exponents that are written positionally, and the mark of
the exponent of all others. -/
structure Layout where
  least : Int
  below : Int
  mark : String
  plus : String
  deriving DecidableEq, Repr

def standardLayout : Layout := ⟨-5, 16, "e", "+"⟩

def zeros (n : Nat) : String := String.ofList (List.replicate n '0')

def trimmedDigits (digits : Nat) : List Char :=
  ((Nat.toDigits 10 digits).reverse.dropWhile (· == '0')).reverse

/-- Writes `0.d₁d₂…` shifted so that the leading digit has the weight `10^exponent`. -/
def Layout.write (layout : Layout) (digits : List Char) (exponent : Int) : String :=
  if layout.least ≤ exponent ∧ exponent < layout.below then
    if exponent < 0 then "0." ++ zeros (-exponent - 1).toNat ++ String.ofList digits
    else
      let whole := exponent.toNat + 1
      if digits.length ≤ whole then
        String.ofList digits ++ zeros (whole - digits.length) ++ ".0"
      else String.ofList (digits.take whole) ++ "." ++ String.ofList (digits.drop whole)
  else
    let fraction := if digits.length ≤ 1 then "" else "." ++ String.ofList (digits.drop 1)
    let sign := if exponent < 0 then "-" else layout.plus
    String.ofList (digits.take 1) ++ fraction ++ layout.mark ++ sign ++ toString exponent.natAbs

def write? (layout : Layout) (x : Binary64) : Option String :=
  match x.view with
  | .finite negative significand scale =>
      let sign := if negative then "-" else ""
      if significand = 0 then some (sign ++ "0.0")
      else
        let decimal := shortest significand scale
        let exponent := ((Nat.toDigits 10 decimal.digits).length : Int) - 1 + decimal.exponent
        some (sign ++ layout.write (trimmedDigits decimal.digits) exponent)
  | _ => none

end ProviderBindings.Binary64
