/-!
Where bytes stop being UTF-8. The bytes of a character are checked one at a time, each against the range
that the bytes before it leave.
-/

namespace ProviderBindings.Text

abbrev Pending := List (UInt8 × UInt8)

def anyTail : UInt8 × UInt8 := (0x80, 0xbf)

/-- What may follow the first byte of a character, none if no character starts with it. -/
def pendingAfter (b : UInt8) : Option Pending :=
  if b < 0x80 then some []
  else if 0xc2 ≤ b ∧ b ≤ 0xdf then some [anyTail]
  else if b = 0xe0 then some [(0xa0, 0xbf), anyTail]
  else if b = 0xed then some [(0x80, 0x9f), anyTail]
  else if 0xe1 ≤ b ∧ b ≤ 0xef then some [anyTail, anyTail]
  else if b = 0xf0 then some [(0x90, 0xbf), anyTail, anyTail]
  else if 0xf1 ≤ b ∧ b ≤ 0xf3 then some [anyTail, anyTail, anyTail]
  else if b = 0xf4 then some [(0x80, 0x8f), anyTail, anyTail]
  else none

/-- The number of bytes that form whole characters; `whole` and `open_` count the bytes of finished
characters and of the one that is not finished. -/
def characterBytes (whole open_ : Nat) : Pending → List UInt8 → Nat
  | _, [] => whole
  | [], b :: rest =>
      match pendingAfter b with
      | none => whole
      | some [] => characterBytes (whole + 1) 0 [] rest
      | some pending => characterBytes whole 1 pending rest
  | (low, high) :: pending, b :: rest =>
      if low ≤ b ∧ b ≤ high then
        if pending.isEmpty then characterBytes (whole + open_ + 1) 0 [] rest
        else characterBytes whole (open_ + 1) pending rest
      else whole

def utf8Start (bytes : List UInt8) : Nat := characterBytes 0 0 [] bytes

end ProviderBindings.Text
