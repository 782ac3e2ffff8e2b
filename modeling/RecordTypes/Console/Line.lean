import RecordTypes.Console.Cells
import RecordTypes.Console.Markup

/-! What is printed, as a console shows it: some control characters are dropped and tabs reach to
the next cell whose number is a multiple of eight. -/

namespace RecordTypes

def isDropped (c : Char) : Bool :=
  c == '\x07' || c == '\x08' || c == '\x0b' || c == '\x0c' || c == '\x0d'

def tabStop : Nat := 8

/-- A piece of a line with blanks for the tab after it. The first blank is there in any case. -/
def tabbed (piece : List Char) : List Char :=
  let shown := piece ++ [' ']
  shown ++ List.replicate ((tabStop - cells shown % tabStop) % tabStop) ' '

/-- After each tab a line goes on at a tab stop, so its pieces are independent of each other. -/
def expandTabs (line : List Char) : List Char :=
  let pieces := splitOnChar '\t' line
  pieces.dropLast.flatMap tabbed ++ pieces.getLastD []

def consoleText (s : List Char) : List Char :=
  joinWith ['\n'] ((splitOnChar '\n' (s.filter fun c => !isDropped c)).map expandTabs)

def trimRight (s : List Char) : List Char := (s.reverse.dropWhile isBlank).reverse

def filledLines (s : List Char) : List String :=
  ((splitOnChar '\n' s).map trimRight).filterMap fun line =>
    if line.isEmpty then none else some (String.ofList line)

end RecordTypes
