import ProviderBindings.Json.Tree
import ProviderBindings.Text.Utf8

/-!
Reading JSON text, given as bytes, into a tree. The reader goes on where only a skimmer can, so that the
tree holds what both kinds of reading would meet.
-/

namespace ProviderBindings.Json

/-- What is left of the text, and the number of bytes already passed. -/
structure Cursor where
  rest : List UInt8
  offset : Nat
  deriving Repr

namespace Cursor

def isBlank (b : UInt8) : Bool := b == 0x20 || b == 0x0a || b == 0x09 || b == 0x0d

def isDigit (b : UInt8) : Bool := 0x30 ≤ b && b ≤ 0x39

def drop (c : Cursor) (n : Nat) : Cursor := ⟨c.rest.drop n, c.offset + n⟩

def skipBlanks (c : Cursor) : Cursor :=
  let blanks := (c.rest.takeWhile isBlank).length
  c.drop blanks

def ahead (c : Cursor) : Nat :=
  match c.rest with
  | [] => c.offset
  | _ => c.offset + 1

def faultAhead (c : Cursor) (cause : Cause) : Fault := ⟨cause, c.ahead⟩

def fault (c : Cursor) (cause : Cause) : Fault := ⟨cause, c.offset⟩

def digits (c : Cursor) : List Nat × Cursor :=
  let bytes := c.rest.takeWhile isDigit
  (bytes.map fun b => b.toNat - 0x30, c.drop bytes.length)

end Cursor

/-! ### Literals -/

def readLetters : List UInt8 → Cursor → Except Fault Cursor
  | [], c => .ok c
  | letter :: letters, c =>
      match c.rest with
      | [] => .error (c.fault .endInValue)
      | b :: rest =>
          let next : Cursor := ⟨rest, c.offset + 1⟩
          if b = letter then readLetters letters next else .error (next.fault .expectedLiteral)

/-! ### Numbers -/

def largestNatural : Nat := Nat.pow 2 64 - 1

/-- Appends digits to a significand as long as it fits 64 bits; the digits that do not fit are left. -/
def absorb : Nat → List Nat → Nat × List Nat
  | significand, [] => (significand, [])
  | significand, d :: rest =>
      if largestNatural < significand * 10 + d then (significand, d :: rest)
      else absorb (significand * 10 + d) rest

/-- Scales by a power of ten in steps of at most 308, each of them rounded; none when the result is too
large. -/
def scaledBy (x : Binary64) (exponent : Int) : Option Binary64 :=
  if exponent < -308 then
    if x.isZero then some x else scaledBy (x.overPower 308) (exponent + 308)
  else if exponent < 0 then some (x.overPower (-exponent).toNat)
  else if exponent ≤ 308 then
    let product := x.timesPower exponent.toNat
    if product.isInfinite then none else some product
  else if x.isZero then some x
  else none
termination_by (-exponent).toNat
decreasing_by omega

def realFrom (negative : Bool) (significand : Nat) (exponent : Int) (c : Cursor) :
    Except Fault (Number × Cursor) :=
  match scaledBy (.ofRatio false significand 1) exponent with
  | some x => .ok (.real (if negative then x.neg else x), c)
  | none => .error (c.fault .numberOutOfRange)

def largestExponent : Nat := Nat.pow 2 31 - 1

/-- The value of exponent digits, or the number of digits up to the one that makes it too large. -/
def exponentValue : Nat → Nat → List Nat → Except Nat Nat
  | value, _, [] => .ok value
  | value, seen, d :: rest =>
      if largestExponent < value * 10 + d then .error (seen + 1)
      else exponentValue (value * 10 + d) (seen + 1) rest

def readExponent (negative : Bool) (significand : Nat) (start : Int) (c : Cursor) :
    Except Fault (Number × Cursor) :=
  let (falls, c) :=
    match c.rest with
    | 0x2b :: _ => (false, c.drop 1)
    | 0x2d :: _ => (true, c.drop 1)
    | _ => (false, c)
  match c.rest with
  | [] => .error (c.fault .endInValue)
  | b :: _ =>
      if !Cursor.isDigit b then .error ⟨.invalidNumber, c.offset + 1⟩
      else
        let (digits, after) := c.digits
        match exponentValue 0 0 digits with
        | .ok value => realFrom negative significand (if falls then start - value else start + value) after
        | .error seen =>
            if significand ≠ 0 ∧ !falls then .error ⟨.numberOutOfRange, c.offset + seen⟩
            else .ok (.real (.zero negative), after)

def readScale (negative : Bool) (significand : Nat) (exponent : Int) (c : Cursor) :
    Except Fault (Number × Cursor) :=
  match c.rest with
  | 0x65 :: _ | 0x45 :: _ => readExponent negative significand exponent (c.drop 1)
  | _ => realFrom negative significand exponent c

def readFraction (negative : Bool) (significand : Nat) (exponent : Int) (c : Cursor) :
    Except Fault (Number × Cursor) :=
  let (digits, after) := c.digits
  match digits, c.rest with
  | [], [] => .error (c.faultAhead .endInValue)
  | [], _ => .error (c.faultAhead .invalidNumber)
  | _, _ =>
      let (significand, left) := absorb significand digits
      readScale negative significand (exponent - ((digits.length - left.length : Nat) : Int)) after

/-- An integer keeps its value if it fits 64 bits; minus zero and every other one become reals. -/
def wholeNumber (negative : Bool) (significand : Nat) : Number :=
  if !negative then .integer significand
  else if significand = 0 ∨ Nat.pow 2 63 < significand then .real (Binary64.ofRatio true significand 1)
  else .integer (-(significand : Int))

/-- Reads on after the whole part, of which `dropped` digits did not fit. -/
def readWhole (negative : Bool) (significand dropped : Nat) (c : Cursor) :
    Except Fault (Number × Cursor) :=
  match c.rest with
  | 0x2e :: _ => readFraction negative significand dropped (c.drop 1)
  | 0x65 :: _ | 0x45 :: _ => readExponent negative significand dropped (c.drop 1)
  | _ =>
      if dropped = 0 then .ok (wholeNumber negative significand, c)
      else realFrom negative significand dropped c

def readNumber (negative : Bool) (c : Cursor) : Except Fault (Number × Cursor) :=
  match c.rest with
  | [] => .error (c.fault .endInValue)
  | 0x30 :: rest =>
      match rest with
      | b :: _ => if Cursor.isDigit b then .error ⟨.invalidNumber, c.offset + 2⟩
          else readWhole negative 0 0 (c.drop 1)
      | [] => readWhole negative 0 0 (c.drop 1)
  | b :: _ =>
      if !Cursor.isDigit b then .error ⟨.invalidNumber, c.offset + 1⟩
      else
        let (digits, after) := c.digits
        let (significand, left) := absorb 0 digits
        readWhole negative significand left.length after

def skimExponent (c : Cursor) : Except Fault Cursor :=
  let c :=
    match c.rest with
    | 0x2b :: _ | 0x2d :: _ => c.drop 1
    | _ => c
  match c.rest with
  | [] => .error (c.fault .invalidNumber)
  | b :: _ => if Cursor.isDigit b then .ok c.digits.2 else .error ⟨.invalidNumber, c.offset + 1⟩

def skimScale (c : Cursor) : Except Fault Cursor :=
  match c.rest with
  | 0x65 :: _ | 0x45 :: _ => skimExponent (c.drop 1)
  | _ => .ok c

def skimWhole (c : Cursor) : Except Fault Cursor :=
  match c.rest with
  | 0x2e :: _ =>
      let (digits, after) := (c.drop 1).digits
      if digits.isEmpty then .error (after.faultAhead .invalidNumber) else skimScale after
  | _ => skimScale c

def skimNumber (c : Cursor) : Except Fault Cursor :=
  match c.rest with
  | [] => .error (c.fault .invalidNumber)
  | 0x30 :: b :: _ =>
      if Cursor.isDigit b then .error ⟨.invalidNumber, c.offset + 2⟩ else skimWhole (c.drop 1)
  | b :: _ =>
      if Cursor.isDigit b then skimWhole c.digits.2 else .error ⟨.invalidNumber, c.offset + 1⟩

/-! ### Texts -/

/-- The hexadecimal digits of an escape: how many were passed, and their value unless one is no digit. -/
structure HexRun where
  seen : Nat
  value : Option Nat

def HexRun.empty : HexRun := ⟨0, some 0⟩

def hexValue? (b : UInt8) : Option Nat :=
  if 0x30 ≤ b ∧ b ≤ 0x39 then some (b.toNat - 0x30)
  else if 0x61 ≤ b ∧ b ≤ 0x66 then some (b.toNat - 0x61 + 10)
  else if 0x41 ≤ b ∧ b ≤ 0x46 then some (b.toNat - 0x41 + 10)
  else none

def HexRun.push (run : HexRun) (b : UInt8) : HexRun :=
  ⟨run.seen + 1, do return (← run.value) * 16 + (← hexValue? b)⟩

def simpleEscape? (b : UInt8) : Option UInt8 :=
  if b = 0x22 then some 0x22
  else if b = 0x5c then some 0x5c
  else if b = 0x2f then some 0x2f
  else if b = 0x62 then some 0x08
  else if b = 0x66 then some 0x0c
  else if b = 0x6e then some 0x0a
  else if b = 0x72 then some 0x0d
  else if b = 0x74 then some 0x09
  else none

/-- What the byte after the ones already read of a text may be. A leading surrogate waits for the escape
of its trailing one. -/
inductive TextState where
  | plain
  | escape
  | hex (leading : Option Nat) (run : HexRun)
  | pairBackslash (leading : Nat)
  | pairLetter (leading : Nat)

inductive TextStep where
  | more (bytes : List UInt8) (state : TextState)
  | done
  | fault (cause : Cause)

def utf8Bytes (code : Nat) : List UInt8 := String.utf8EncodeChar (Char.ofNat code)

def unitStep (leading : Option Nat) (unit : Nat) : TextStep :=
  let trailing : Bool := 0xdc00 ≤ unit && unit ≤ 0xdfff
  match leading with
  | none =>
      if trailing then .fault .loneSurrogate
      else if 0xd800 ≤ unit ∧ unit ≤ 0xdbff then .more [] (.pairBackslash unit)
      else .more (utf8Bytes unit) .plain
  | some high =>
      if trailing then .more (utf8Bytes ((high - 0xd800) * 1024 + (unit - 0xdc00) + 0x10000)) .plain
      else .fault .loneSurrogate

def readStep : TextState → UInt8 → TextStep
  | .plain, b =>
      if b = 0x22 then .done
      else if b = 0x5c then .more [] .escape
      else if b < 0x20 then .fault .controlCharacter
      else .more [b] .plain
  | .escape, b =>
      if b = 0x75 then .more [] (.hex none .empty)
      else
        match simpleEscape? b with
        | some e => .more [e] .plain
        | none => .fault .invalidEscape
  | .hex leading run, b =>
      let run := run.push b
      if run.seen < 4 then .more [] (.hex leading run)
      else
        match run.value with
        | some unit => unitStep leading unit
        | none => .fault .invalidEscape
  | .pairBackslash leading, b =>
      if b = 0x5c then .more [] (.pairLetter leading) else .fault .openSurrogatePair
  | .pairLetter leading, b =>
      if b = 0x75 then .more [] (.hex (some leading) .empty) else .fault .openSurrogatePair

/-- Reads a text after its opening quote; `done` holds its bytes so far, the last one first. -/
def readTextBytes (done : List UInt8) : TextState → List UInt8 → Nat → Except Fault (List UInt8 × Cursor)
  | _, [], offset => .error ⟨.endInText, offset⟩
  | state, b :: rest, offset =>
      match readStep state b with
      | .done => .ok (done.reverse, ⟨rest, offset + 1⟩)
      | .fault cause => .error ⟨cause, offset + 1⟩
      | .more bytes state => readTextBytes (bytes.reverse ++ done) state rest (offset + 1)

/-- Reads a text after its opening quote. Bytes that are no UTF-8 text are reported once its end is known,
at the first of them. -/
def readText (c : Cursor) : Except Fault (String × Cursor) := do
  let (bytes, after) ← readTextBytes [] .plain c.rest c.offset
  match String.fromUTF8? ⟨bytes.toArray⟩ with
  | some s => .ok (s, after)
  | none => .error ⟨.invalidCodePoint, c.offset + Text.utf8Start c.rest + 1⟩

def skimTextBytes : TextState → List UInt8 → Nat → Except Fault Cursor
  | _, [], offset => .error ⟨.endInText, offset⟩
  | .plain, b :: rest, offset =>
      if b = 0x22 then .ok ⟨rest, offset + 1⟩
      else if b = 0x5c then skimTextBytes .escape rest (offset + 1)
      else if b < 0x20 then .error ⟨.controlCharacter, offset⟩
      else skimTextBytes .plain rest (offset + 1)
  | .hex leading run, b :: rest, offset =>
      let run := run.push b
      if run.seen < 4 then skimTextBytes (.hex leading run) rest (offset + 1)
      else if run.value.isSome then skimTextBytes .plain rest (offset + 1)
      else .error ⟨.invalidEscape, offset + 1⟩
  | _, b :: rest, offset =>
      if b = 0x75 then skimTextBytes (.hex none .empty) rest (offset + 1)
      else if (simpleEscape? b).isSome then skimTextBytes .plain rest (offset + 1)
      else .error ⟨.invalidEscape, offset + 1⟩

def skimText (c : Cursor) : Except Fault Cursor := skimTextBytes .plain c.rest c.offset

/-! ### Values -/

/-- A value and where the text goes on after it, unless it broke off for a skimmer too. -/
abbrev Found := Tree × Option Cursor

def scalarFound (start : Nat) (reading : Except Fault (Scalar × Cursor)) (skimming : Except Fault Cursor) :
    Found :=
  match reading, skimming with
  | .ok (s, after), _ => (.scalar s start after.offset, some after)
  | .error fault, .ok after => (.spoiled fault start, some after)
  | .error fault, .error skimmed => (.broken fault skimmed start, none)

def literalFound (start : Nat) (value : Scalar) (letters : List UInt8) (c : Cursor) : Found :=
  let read := readLetters letters c
  scalarFound start (read.map fun after => (value, after)) read

def brokenAhead (c : Cursor) (cause : Cause) : Tree :=
  .broken (c.faultAhead cause) (c.faultAhead cause) c.offset

def closeAhead (c : Cursor) (reading skimming : Cause) : Close :=
  .broken (c.faultAhead reading) (c.faultAhead skimming)

def nestingLimit : Nat := 128

def readKey (c : Cursor) : Except Close (Key × Cursor) :=
  match readText c, skimText c with
  | .ok (s, after), _ => .ok (⟨.ok s, after.offset⟩, after)
  | .error fault, .ok after => .ok (⟨.error fault, after.offset⟩, after)
  | .error fault, .error skimmed => .error (.broken fault skimmed)

mutual
/-- Reads the value that comes next, inside `depth` open brackets. The fuel bounds the steps and is
never used up when it is twice the number of bytes. -/
def readValue : Nat → Nat → Cursor → Found
  | 0, _, c => (brokenAhead c .endInValue, none)
  | fuel + 1, depth, c =>
      let c := c.skipBlanks
      match c.rest with
      | [] => (brokenAhead c .endInValue, none)
      | b :: _ =>
          let after := c.drop 1
          if b = 0x6e then literalFound c.offset .null [0x75, 0x6c, 0x6c] after
          else if b = 0x74 then literalFound c.offset (.bool true) [0x72, 0x75, 0x65] after
          else if b = 0x66 then literalFound c.offset (.bool false) [0x61, 0x6c, 0x73, 0x65] after
          else if b = 0x22 then
            scalarFound c.offset ((readText after).map fun p => (.text p.1, p.2)) (skimText after)
          else if b = 0x2d then
            scalarFound c.offset ((readNumber true after).map fun p => (.number p.1, p.2)) (skimNumber after)
          else if Cursor.isDigit b then
            scalarFound c.offset ((readNumber false c).map fun p => (.number p.1, p.2)) (skimNumber c)
          else if b = 0x5b then
            let (items, close, rest) := readItems fuel (depth + 1) true after
            (.list ⟨c.offset, nestingLimit ≤ depth + 1⟩ items close, rest)
          else if b = 0x7b then
            let (members, close, rest) := readMembers fuel (depth + 1) true after
            (.object ⟨c.offset, nestingLimit ≤ depth + 1⟩ members close, rest)
          else (brokenAhead c .expectedValue, none)
termination_by structural fuel => fuel

/-- Reads the items of a list up to its bracket; `first` says that none has been read yet. -/
def readItems : Nat → Nat → Bool → Cursor → List Tree × Close × Option Cursor
  | 0, _, _, c => ([], closeAhead c .endInList .endInList, none)
  | fuel + 1, depth, first, c =>
      let c := c.skipBlanks
      match c.rest with
      | [] => ([], closeAhead c .endInList .endInList, none)
      | b :: _ =>
          if b = 0x5d then ([], .closed, some (c.drop 1))
          else if first then nextItem fuel depth c
          else if b = 0x2c then
            let c := (c.drop 1).skipBlanks
            match c.rest with
            | [] => ([], closeAhead c .endInValue .endInValue, none)
            | 0x5d :: _ => ([], closeAhead c .trailingComma .expectedValue, none)
            | _ => nextItem fuel depth c
          else ([], closeAhead c .expectedListEnd .expectedListEnd, none)
termination_by structural fuel => fuel

def nextItem : Nat → Nat → Cursor → List Tree × Close × Option Cursor
  | 0, _, c => ([], closeAhead c .endInList .endInList, none)
  | fuel + 1, depth, c =>
      match readValue fuel depth c with
      | (item, none) => ([item], .closed, none)
      | (item, some after) =>
          let (items, close, rest) := readItems fuel depth false after
          (item :: items, close, rest)
termination_by structural fuel => fuel

/-- Reads the members of an object up to its brace; `first` says that none has been read yet. -/
def readMembers : Nat → Nat → Bool → Cursor → List (Key × Tree) × Close × Option Cursor
  | 0, _, _, c => ([], closeAhead c .endInObject .endInObject, none)
  | fuel + 1, depth, first, c =>
      let c := c.skipBlanks
      match c.rest with
      | [] => ([], closeAhead c .endInObject .endInObject, none)
      | b :: _ =>
          if b = 0x7d then ([], .closed, some (c.drop 1))
          else if first then
            if b = 0x22 then nextMember fuel depth (c.drop 1)
            else ([], closeAhead c .keyNotText .keyNotText, none)
          else if b = 0x2c then
            let c := (c.drop 1).skipBlanks
            match c.rest with
            | [] => ([], closeAhead c .endInValue .endInObject, none)
            | 0x22 :: _ => nextMember fuel depth (c.drop 1)
            | 0x7d :: _ => ([], closeAhead c .trailingComma .keyNotText, none)
            | _ => ([], closeAhead c .keyNotText .keyNotText, none)
          else ([], closeAhead c .expectedObjectEnd .expectedObjectEnd, none)
termination_by structural fuel => fuel

def nextMember : Nat → Nat → Cursor → List (Key × Tree) × Close × Option Cursor
  | 0, _, c => ([], closeAhead c .endInObject .endInObject, none)
  | fuel + 1, depth, c =>
      match readKey c with
      | .error close => ([], close, none)
      | .ok (key, after) =>
          let colon := after.skipBlanks
          match colon.rest with
          | [] => ([(key, brokenAhead colon .endInObject)], .closed, none)
          | 0x3a :: _ =>
              match readValue fuel depth (colon.drop 1) with
              | (value, none) => ([(key, value)], .closed, none)
              | (value, some after) =>
                  let (members, close, rest) := readMembers fuel depth false after
                  ((key, value) :: members, close, rest)
          | _ => ([(key, brokenAhead colon .expectedColon)], .closed, none)
termination_by structural fuel => fuel
end

structure Reading where
  tree : Tree
  after : Option Fault

def read (bytes : List UInt8) : Reading :=
  match readValue (3 * bytes.length + 3) 0 ⟨bytes, 0⟩ with
  | (tree, none) => ⟨tree, none⟩
  | (tree, some c) =>
      let c := c.skipBlanks
      ⟨tree, if c.rest.isEmpty then none else some (c.faultAhead .trailingCharacters)⟩

def ofBytes? (bytes : List UInt8) : Except Fault Json :=
  let reading := read bytes
  match reading.tree.toJson, reading.after with
  | .ok _, some fault => .error fault
  | result, _ => result

def utf8 (s : String) : List UInt8 := s.toUTF8.data.toList

def ofText? (s : String) : Except Fault Json := ofBytes? (utf8 s)

def lineAndColumn (bytes : List UInt8) (offset : Nat) : Nat × Nat :=
  let before := bytes.take offset
  (1 + before.count 0x0a, (before.reverse.takeWhile (· != 0x0a)).length)

end ProviderBindings.Json
