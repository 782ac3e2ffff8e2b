import RecordTypes.Console.CellTable
import RecordTypes.Console.Emoji

/-! The cells that text takes on a console. Most characters fill one, some two, and some none, for
they are shown on the cell of another. A zero-width joiner merges the next character into the one
before it. -/

namespace RecordTypes

def isControl (c : Char) : Bool := c.toNat < 0x20 || (0x7F ≤ c.toNat && c.toNat < 0xA0)

def charCells (c : Char) : Nat :=
  if isControl c || cellessRanges.contains c.toNat then 0
  else if twoCellRanges.contains c.toNat then 2
  else 1

def joiner : Char := '\u200d'

def isWidened (c : Char) : Bool := widenedRanges.contains c.toNat

/-- The cells of a text after a joiner or not. A request for the look of an emoji concerns `last`,
the last character that has taken a cell, and is heard once. -/
def cellsFrom (joined : Bool) (last : Option Char) : List Char → Nat
  | [] => 0
  | c :: rest =>
    if joined then cellsFrom false last rest
    else if c == joiner then cellsFrom true last rest
    else if c == emojiLook then
      (if last.any isWidened then 1 else 0) + cellsFrom false none rest
    else
      let n := charCells c
      n + cellsFrom false (if n == 0 then last else some c) rest

def cells (s : List Char) : Nat := cellsFrom false none s

end RecordTypes
