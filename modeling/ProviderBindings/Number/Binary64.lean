/-!
Binary floating-point numbers of 64 bits, by their encoding. Arithmetic is exact on the rational values
and rounds once, to the nearest number, an exact tie going to the even significand.
-/

namespace ProviderBindings

structure Binary64 where
  bits : UInt64
  deriving DecidableEq, Repr, Inhabited

namespace Binary64

/-- What an encoding denotes: a finite number is `±(significand · 2^scale)`. -/
inductive View where
  | nan
  | infinite (negative : Bool)
  | finite (negative : Bool) (significand : Nat) (scale : Int)
  deriving DecidableEq, Repr

def view (x : Binary64) : View :=
  let code : Nat := x.bits.toNat
  let negative := code / Nat.pow 2 63 == 1
  let field : Nat := code / Nat.pow 2 52 % Nat.pow 2 11
  let fraction : Nat := code % Nat.pow 2 52
  if field = 2047 then (if fraction = 0 then .infinite negative else .nan)
  else if field = 0 then .finite negative fraction (-1074)
  else .finite negative (Nat.pow 2 52 + fraction) ((field : Int) - 1075)

def encode (negative : Bool) (magnitude : Nat) : Binary64 :=
  ⟨UInt64.ofNat ((if negative then Nat.pow 2 63 else 0) + magnitude)⟩

def nan : Binary64 := encode false (2047 * Nat.pow 2 52 + Nat.pow 2 51)

def infinity (negative : Bool) : Binary64 := encode negative (2047 * Nat.pow 2 52)

def zero (negative : Bool) : Binary64 := encode negative 0

def roundedQuotient (num den : Nat) : Nat :=
  let whole := num / den
  let twice := 2 * (num % den)
  if twice < den then whole
  else if den < twice then whole + 1
  else whole + whole % 2

/-- The scale at which a positive ratio has a significand of 53 bits, or of fewer at the least scale. -/
def scaleOf (num den : Nat) : Int :=
  let guess : Int := (num.log2 : Int) - (den.log2 : Int) - 52
  let fits : Bool :=
    if 0 ≤ guess then den * Nat.pow 2 (guess.toNat + 52) ≤ num
    else den * Nat.pow 2 52 ≤ num * Nat.pow 2 (-guess).toNat
  max (-1074) (if fits then guess else guess - 1)

def ofRatio (negative : Bool) (num den : Nat) : Binary64 :=
  if num = 0 then zero negative
  else
    let scale := scaleOf num den
    let significand :=
      if 0 ≤ scale then roundedQuotient num (den * Nat.pow 2 scale.toNat)
      else roundedQuotient (num * Nat.pow 2 (-scale).toNat) den
    let magnitude := (scale + 1074).toNat * Nat.pow 2 52 + significand
    if 2047 * Nat.pow 2 52 ≤ magnitude then infinity negative else encode negative magnitude

def ofInt (i : Int) : Binary64 := ofRatio (decide (i < 0)) i.natAbs 1

def ofDecimal (negative : Bool) (digits : Nat) (exponent : Int) : Binary64 :=
  let places : Int := (Nat.toDigits 10 digits).length
  if digits = 0 ∨ places + exponent < -330 then zero negative
  else if 330 < places + exponent then infinity negative
  else if 0 ≤ exponent then ofRatio negative (digits * Nat.pow 10 exponent.toNat) 1
  else ofRatio negative digits (Nat.pow 10 (-exponent).toNat)

def isInfinite (x : Binary64) : Bool :=
  match x.view with
  | .infinite _ => true
  | _ => false

def isZero (x : Binary64) : Bool :=
  match x.view with
  | .finite _ significand _ => significand == 0
  | _ => false

def neg (x : Binary64) : Binary64 := ⟨x.bits ^^^ 0x8000000000000000⟩

def ratio (significand : Nat) (scale : Int) : Nat × Nat :=
  if 0 ≤ scale then (significand * Nat.pow 2 scale.toNat, 1) else (significand, Nat.pow 2 (-scale).toNat)

/-- The number times a power of ten that is itself first rounded to a number. Infinite operands and
infinite powers do not occur here. -/
def timesPower (x : Binary64) (exponent : Nat) : Binary64 :=
  match x.view, (ofDecimal false 1 exponent).view with
  | .finite negative m q, .finite _ m' q' =>
      let (a, b) := ratio m q
      let (c, d) := ratio m' q'
      ofRatio negative (a * c) (b * d)
  | _, _ => x

def overPower (x : Binary64) (exponent : Nat) : Binary64 :=
  match x.view, (ofDecimal false 1 exponent).view with
  | .finite negative m q, .finite _ m' q' =>
      let (a, b) := ratio m q
      let (c, d) := ratio m' q'
      ofRatio negative (a * d) (b * c)
  | _, _ => x

end Binary64

end ProviderBindings
