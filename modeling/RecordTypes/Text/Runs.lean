/-! Cutting a text into the maximal runs of characters with a property, and replacing short
patterns from left to right without looking again at what was put in. -/

namespace RecordTypes

/-- The run that touches the front of the text, possibly empty, and the later runs, none empty. -/
def openRuns (p : Char → Bool) : List Char → List Char × List (List Char)
  | [] => ([], [])
  | c :: rest =>
    let (front, later) := openRuns p rest
    if p c then (c :: front, later)
    else ([], if front.isEmpty then later else front :: later)

def runs (p : Char → Bool) (s : List Char) : List (List Char) :=
  let (front, later) := openRuns p s
  if front.isEmpty then later else front :: later

def replaceChar (a : Char) (new : List Char) (s : List Char) : List Char :=
  s.flatMap fun c => if c == a then new else [c]

def replacePair (a b : Char) (new : List Char) : List Char → List Char
  | x :: y :: rest =>
    if x == a && y == b then new ++ replacePair a b new rest
    else x :: replacePair a b new (y :: rest)
  | s => s

def replaceTriple (a b c : Char) (new : List Char) : List Char → List Char
  | x :: y :: z :: rest =>
    if x == a && y == b && z == c then new ++ replaceTriple a b c new rest
    else x :: replaceTriple a b c new (y :: z :: rest)
  | s => s

/-- Replaces a pattern that is not empty. -/
def replaceText (pattern new s : List Char) : List Char :=
  match s with
  | [] => []
  | c :: rest =>
    if pattern.isPrefixOf (c :: rest) then
      new ++ replaceText pattern new (rest.drop (pattern.length - 1))
    else c :: replaceText pattern new rest
termination_by s.length
decreasing_by
  · simp only [List.length_drop, List.length_cons]
    omega
  · simp

/-- The pieces of a text between the occurrences of a character, empty pieces kept. -/
def splitOnChar (a : Char) : List Char → List (List Char)
  | [] => [[]]
  | c :: rest =>
    if c == a then [] :: splitOnChar a rest
    else match splitOnChar a rest with
      | piece :: pieces => (c :: piece) :: pieces
      | [] => [[c]]

def joinWith (separator : List Char) (pieces : List (List Char)) : List Char :=
  separator.intercalate pieces

end RecordTypes
