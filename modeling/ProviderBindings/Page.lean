/-!
Text laid out on a page by nested boxes. A box that does not fit on the rest of the line is broken: in a
consistent box every break then becomes a new line, in any other only those after which the text up to the
next break does not fit. A box fits when all of it and the text that follows it up to the next break does.
-/

namespace ProviderBindings.Page

/-- A possible line break: the blanks in its place when it is none, the indentation added when it is one,
and what is then written before and after it. -/
structure Break where
  blanks : Nat
  offset : Int
  before : String
  after : String
  never : Bool
  deriving DecidableEq, Repr

inductive Box where
  | text (content : String)
  | brk (b : Break)
  /-- The contents are indented by `indent` when the box is broken. A box wider than its limit never
  fits. -/
  | group (consistent : Bool) (indent : Int) (limit : Option Nat) (contents : List Box)
  deriving Inhabited

def unbounded : Nat := 65535

def margin : Int := 89

/-- The columns that a new line offers at least, however far it is indented. -/
def leastSpace : Int := 60

def tab : Int := 4

namespace Box

def zeroBreak : Box := .brk ⟨0, 0, "", "", false⟩

def blank : Box := .brk ⟨1, 0, "", "", false⟩

def newline : Box := .brk ⟨unbounded, 0, "", "", false⟩

def neverBreak : Box := .brk ⟨0, 0, "", "", true⟩

def outdented (blanks : Nat) (before : String) : Box := .brk ⟨blanks, -tab, before, "", false⟩

def consistent (indent : Int) (contents : List Box) : Box := .group true indent none contents

def filled (indent : Int) (contents : List Box) : Box := .group false indent none contents

mutual
def width : Box → Nat
  | .text s => s.utf8ByteSize
  | .brk b => b.blanks
  | .group _ _ limit contents =>
      let w := widths contents
      match limit with
      | some l => if l < w then w + unbounded else w
      | none => w

def widths : List Box → Nat
  | [] => 0
  | b :: rest => width b + widths rest
end

def untilBreak (following : Nat) : List Box → Nat
  | [] => following
  | .brk _ :: _ => 0
  | b :: rest => width b + untilBreak following rest

end Box

/-- What has been written, the columns left on the line, and the blanks due before the next text. -/
structure Pen where
  written : String
  space : Int
  due : Nat

namespace Pen

def start : Pen := ⟨"", margin, 0⟩

def indent (p : Pen) : Pen :=
  if p.due = 0 then p else { p with written := p.written ++ "".pushn ' ' p.due, due := 0 }

def write (p : Pen) (s : String) : Pen :=
  let p := p.indent
  { p with written := p.written ++ s, space := p.space - s.utf8ByteSize }

def skip (p : Pen) (blanks : Nat) : Pen :=
  { p with space := p.space - blanks, due := p.due + blanks }

/-- Starts a new line; `column` is the indentation of the enclosing box. -/
def newline (p : Pen) (column : Int) (b : Break) : Pen :=
  let p := if b.before.isEmpty then p else { p.indent with written := p.indent.written ++ b.before }
  let column := column + b.offset
  let p : Pen := ⟨p.written ++ "\n", max (margin - column) leastSpace, column.toNat⟩
  if b.after.isEmpty then p else p.write b.after

end Pen

inductive Frame where
  | flat
  | all
  | some
  deriving DecidableEq, Repr

def Frame.breaks (f : Frame) (size : Nat) (space : Int) (b : Break) : Bool :=
  !b.never &&
    match f with
    | .flat => false
    | .all => true
    | .some => space < size

mutual
/-- Writes a box in a frame whose lines start at `column`; `following` is the width of the text up to the
next break after the box. -/
def writeBox (frame : Frame) (column : Int) (following : Nat) : Box → Pen → Pen
  | .text s, p => p.write s
  | .brk b, p =>
      if frame.breaks (b.blanks + following) p.space b then p.newline column b else p.skip b.blanks
  | .group consistent indent limit contents, p =>
      if p.space < (Box.width (.group consistent indent limit contents) + following : Nat) then
        writeBoxes (if consistent then .all else .some) (column + indent) following contents p
      else writeBoxes .flat column following contents p

def writeBoxes (frame : Frame) (column : Int) (following : Nat) : List Box → Pen → Pen
  | [], p => p
  | b :: rest, p =>
      writeBoxes frame column following rest
        (writeBox frame column (Box.untilBreak following rest) b p)
end

def render (boxes : List Box) : String := (writeBoxes .some 0 0 boxes .start).written

end ProviderBindings.Page
