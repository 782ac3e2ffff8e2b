import RecordTypes.Text.Ranges
import RecordTypes.Text.Runs

/-! White space. `isBlank` is what separates words of running text: the characters of the Unicode
property and the four information separators. `isWhiteSpace` is the property itself. -/

namespace RecordTypes

def blankRanges : Ranges :=
  [(0x9, 0xD), (0x1C, 0x20), (0x85, 0x85), (0xA0, 0xA0), (0x1680, 0x1680), (0x2000, 0x200A),
   (0x2028, 0x2029), (0x202F, 0x202F), (0x205F, 0x205F), (0x3000, 0x3000)]

def isBlank (c : Char) : Bool := blankRanges.contains c.toNat

def isWhiteSpace (c : Char) : Bool := isBlank c && !(0x1C ≤ c.toNat && c.toNat ≤ 0x1F)

def splitBlanks (s : List Char) : List (List Char) := runs (fun c => !isBlank c) s

def trimBlanks (s : List Char) : List Char :=
  ((s.dropWhile isBlank).reverse.dropWhile isBlank).reverse

end RecordTypes
