import RecordTypes.Text.Runs
import RecordTypes.Text.WordChar

/-! The words of a name. A word is a run of letters and numbers; a run is cut again before a capital
that follows a small letter or a digit, and before the last of several capitals when a small letter
follows it. Only ASCII letters and digits make such cuts. -/

namespace RecordTypes

def isSmall (c : Char) : Bool := 'a' ≤ c && c ≤ 'z'

def isCapital (c : Char) : Bool := 'A' ≤ c && c ≤ 'Z'

def isSmallOrDigit (c : Char) : Bool := isSmall c || ('0' ≤ c && c ≤ '9')

def spaceBeforeCapitals : List Char → List Char
  | a :: b :: rest =>
    if isSmallOrDigit a && isCapital b then a :: ' ' :: spaceBeforeCapitals (b :: rest)
    else a :: spaceBeforeCapitals (b :: rest)
  | s => s

def spaceBeforeLastCapital : List Char → List Char
  | a :: b :: c :: rest =>
    if isCapital a && isCapital b && isSmall c then
      a :: ' ' :: spaceBeforeLastCapital (b :: c :: rest)
    else a :: spaceBeforeLastCapital (b :: c :: rest)
  | s => s

def isLetterOrNumber (c : Char) : Bool := isWordChar c && c != '_'

def splitWords (s : List Char) : List (List Char) :=
  runs isLetterOrNumber (spaceBeforeLastCapital (spaceBeforeCapitals s))

end RecordTypes
