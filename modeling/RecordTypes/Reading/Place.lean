import RecordTypes.Decimal.Whole
import RecordTypes.Json.ToText

/-! Where something stands in a JSON value, and how that is told to people. A location is the way
down from the whole value. The tag that chose between the forms of a value is a part of the location
too, but nothing lies between the value and its tag, so a path leaves the tag out. -/

namespace RecordTypes

inductive Place where
  | key (name : String)
  | index (i : Int)
  | tag (name : String)
  deriving DecidableEq

abbrev Location := List Place

def Members.has (members : Members) (key : String) : Bool := (members.find? key).isSome

/-- Whether a value is the integer, also when written as a fraction or as a truth value. -/
def Json.isInteger (n : Int) : Json → Bool
  | .int k => k == n
  | .bool b => (if b then 1 else 0) == n
  | .float x => wholeValue? x == some n
  | _ => false

/-- Whether the place is the `type` of an object and not the key of one of its members. -/
def Place.isTypeOf : Place → Json → Bool
  | .index i, .obj members => (Members.find? members "type").any (Json.isInteger i)
  | .key name, .obj members | .tag name, .obj members =>
    !Members.has members name && match Members.find? members "type" with
      | some (.str type) => type == name
      | _ => false
  | _, _ => false

def Json.child? : Json → Place → Option Json
  | .obj members, .key name | .obj members, .tag name => Members.find? members name
  | .arr items, .index i => if 0 ≤ i then items[i.toNat]? else none
  | _, _ => none

/-- A negative index counts from the end. -/
def Json.childFromEnd? : Json → Place → Option Json
  | .arr items, .index i => if i < 0 then items.reverse[(-i - 1).toNat]? else none
  | _, _ => none

def extendPath (path : String) : Place → String
  | .index i => path ++ "[" ++ String.ofList (intText i) ++ "]"
  | .key name | .tag name => if path.isEmpty then name else path ++ "." ++ name

def pathFrom (path : String) (raw : Json) : Location → String
  | [] => path
  | place :: rest =>
    if place.isTypeOf raw then pathFrom path raw rest
    else
      let child := raw.child? place <|> raw.childFromEnd? place
      pathFrom (extendPath path place) (child.getD .null) rest

/-- The path of a location, such as `tables[0].fields[3].options`, under the name of the whole. -/
def pathOf (root : String) (raw : Json) (location : Location) : String :=
  let path := pathFrom root raw location
  if path.isEmpty then "<root>" else path

/-- The name of an object that has the look of a field. -/
def Json.fieldName? : Json → Option String
  | .obj members =>
    if Members.has members "type" then
      match Members.find? members "name" with
      | some (.str name) => some name
      | _ => none
    else none
  | _ => none

/-- The name of the innermost field on the way, or the name given if the way meets none. -/
def fieldNameFrom (name : Option String) (raw : Json) : Location → Option String
  | [] => name
  | place :: rest =>
    match raw.child? place with
    | some child => fieldNameFrom (child.fieldName? <|> name) child rest
    | none => fieldNameFrom name raw rest

def fieldNameAt (raw : Json) (location : Location) : Option String :=
  fieldNameFrom none raw location

end RecordTypes
