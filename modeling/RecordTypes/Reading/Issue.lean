import RecordTypes.Reading.Place
import RecordTypes.Text.Runs

/-! What can be wrong with a JSON value that should have a certain form. -/

namespace RecordTypes

inductive Fault where
  | missing
  | notModel (model : String)
  | notObject
  | notList
  | notText
  | notOneOf (names : List String)
  | notInteger
  | unreadableInteger
  | fractional
  | notFinite
  | tooLarge
  | below (least : Int)
  | above (greatest : Int)
  | notBoolean
  | unreadableBoolean
  | untaggable
  | untagged
  | unknownTag (tag : Json) (expected : List String)
  | unidentified (index : Nat) (type : String)
  | notTuple
  | tooManyItems (most actual : Nat)
  /-- Descriptors of fields lie too deep in each other. What is said of it is up to the reader. -/
  | refused (words : String)

structure Issue where
  location : Location
  fault : Fault

def inApostrophes (s : String) : String := "'" ++ s ++ "'"

/-- `'a', 'b' or 'c'` -/
def alternatives : List String → String
  | [] => ""
  | [a] => inApostrophes a
  | [a, b] => inApostrophes a ++ " or " ++ inApostrophes b
  | a :: rest => inApostrophes a ++ ", " ++ alternatives rest

def integerText (n : Int) : String := String.ofList (intText n)

/-- The place in a message that is filled with the tags that were expected. -/
def expectedTagsMark : List Char := "\x7bexpected_tags\x7d".toList

/-- The tag is put into the message first, so the mark is filled wherever the tag brings it along
too. -/
def unknownTagMessage (tag : List Char) (expected : List String) : List Char :=
  let tags := ", ".intercalate (expected.map inApostrophes)
  replaceText expectedTagsMark tags.toList <|
    "Input tag '".toList ++ tag ++
      "' found using 'type' does not match any of the expected tags: ".toList ++ expectedTagsMark

def Fault.message : Fault → String
  | .missing => "Field required"
  | .notModel model => "Input should be a valid dictionary or instance of " ++ model
  | .notObject => "Input should be a valid dictionary"
  | .notList => "Input should be a valid list"
  | .notText => "Input should be a valid string"
  | .notOneOf names => "Input should be " ++ alternatives names
  | .notInteger => "Input should be a valid integer"
  | .unreadableInteger =>
    "Input should be a valid integer, unable to parse string as an integer"
  | .fractional => "Input should be a valid integer, got a number with a fractional part"
  | .notFinite => "Input should be a finite number"
  | .tooLarge => "Unable to parse input string as an integer, exceeded maximum size"
  | .below least => "Input should be greater than or equal to " ++ integerText least
  | .above greatest => "Input should be less than or equal to " ++ integerText greatest
  | .notBoolean => "Input should be a valid boolean"
  | .unreadableBoolean => "Input should be a valid boolean, unable to interpret input"
  | .untaggable => "Input should be a valid dictionary or object to extract fields from"
  | .untagged => "Unable to extract tag using discriminator 'type'"
  | .unknownTag tag expected => String.ofList (unknownTagMessage tag.inMessage expected)
  | .unidentified index type =>
    "Value error, field at index " ++ integerText index ++ " (" ++ type ++
      ") is missing an id or a name"
  | .notTuple => "Input should be a valid tuple"
  | .tooManyItems most actual =>
    "Tuple should have at most " ++ integerText most ++ " items after validation, not " ++
      integerText actual
  | .refused words => words

/-- The places of a location joined by points, tags included. -/
def Issue.dotted (issue : Issue) : String :=
  ".".intercalate (issue.location.map fun
    | .key name | .tag name => name
    | .index i => integerText i)

def Issue.dottedLine (issue : Issue) : String := issue.dotted ++ ": " ++ issue.fault.message

structure Mismatch where
  root : String
  raw : Json
  issues : List Issue

def Mismatch.path (m : Mismatch) (issue : Issue) : String := pathOf m.root m.raw issue.location

def Mismatch.paths (m : Mismatch) : List String := m.issues.map m.path

/-- The end of a line that tells the field, if the field has a name. -/
def onField (name : Option String) : String :=
  match name with
  | some s => if s.isEmpty then "" else " (on field '" ++ s ++ "')"
  | none => ""

def Mismatch.line (m : Mismatch) (issue : Issue) : String :=
  "  " ++ m.path issue ++ ": " ++ issue.fault.message ++
    onField (fieldNameAt m.raw issue.location)

def Mismatch.message (m : Mismatch) : String :=
  "Airtable metadata does not match the expected schema:\n" ++
    "\n".intercalate (m.issues.map m.line)

end RecordTypes
