import RecordTypes.Metadata.Named
import RecordTypes.Reading.Issue

/-! Reading a JSON value as something more definite. A reading that fails tells all that is wrong:
the issues of the parts of a value are put together in order. -/

namespace RecordTypes

inductive Reading (α : Type) where
  | value (a : α)
  | faulty (issues : List Issue)

namespace Reading

variable {α β : Type}

def map (f : α → β) : Reading α → Reading β
  | .value a => .value (f a)
  | .faulty issues => .faulty issues

/-- Both readings are made, whatever the first one says. -/
def apply : Reading (α → β) → Reading α → Reading β
  | .value f, .value a => .value (f a)
  | .value _, .faulty issues => .faulty issues
  | .faulty issues, .value _ => .faulty issues
  | .faulty issues, .faulty more => .faulty (issues ++ more)

instance : Applicative Reading where
  pure := .value
  map := map
  seq f x := apply f (x ())

/-- A second look at a value that has been read. -/
def check (f : α → Reading β) : Reading α → Reading β
  | .value a => f a
  | .faulty issues => .faulty issues

def fault (f : Fault) : Reading α := .faulty [⟨[], f⟩]

def under (place : Place) : Reading α → Reading α
  | .value a => .value a
  | .faulty issues => .faulty (issues.map fun issue => ⟨place :: issue.location, issue.fault⟩)

def toExcept (root : String) (raw : Json) : Reading α → Except Mismatch α
  | .value a => .ok a
  | .faulty issues => .error ⟨root, raw, issues⟩

end Reading

def readItems {α : Type} (read : Json → Reading α) (index : Nat) : List Json → Reading (List α)
  | [] => .value []
  | item :: items =>
    List.cons <$> (read item).under (.index index) <*> readItems read (index + 1) items

def readList {α : Type} (read : Json → Reading α) : Json → Reading (List α)
  | .arr items => readItems read 0 items
  | _ => .fault .notList

def readText : Json → Reading String
  | .str s => .value s
  | _ => .fault .notText

def readName (α : Type) [Named α] : Json → Reading α
  | .str s =>
    match Named.ofName? s with
    | some a => .value a
    | none => .fault (.notOneOf (Named.names α))
  | _ => .fault (.notOneOf (Named.names α))

def readModel {α : Type} (model : String) (read : Members → Reading α) : Json → Reading α
  | .obj members => read members
  | _ => .fault (.notModel model)

/-- A key of several words with small letters and underscores: `timeZone` as `time_zone`. -/
def underscored (key : String) : String :=
  String.ofList (key.toList.flatMap fun c => if c.isUpper then ['_', c.toLower] else [c])

/-- Keys may be spelled in both ways; if both are there the first one counts. -/
def Members.spelled? (members : Members) (key : String) : Option Json :=
  match members.find? key with
  | some raw => some raw
  | none => members.find? (underscored key)

theorem Members.sizeOf_spelled?_lt {members : Members} {key : String} {value : Json}
    (h : members.spelled? key = some value) : sizeOf value < sizeOf members := by
  unfold Members.spelled? at h
  split at h
  · rename_i found
    exact Members.sizeOf_find?_lt (h ▸ found)
  · exact Members.sizeOf_find?_lt h

/-- The spelling in which a key is there. -/
def Members.spelling (members : Members) (key : String) : String :=
  if members.has key then key else underscored key

/-- What is wrong at a key is told at the spelling that was found. -/
def required {α : Type} (key : String) (read : Json → Reading α) (members : Members) : Reading α :=
  match members.spelled? key with
  | some raw => (read raw).under (.key (members.spelling key))
  | none => (Reading.fault .missing).under (.key key)

/-- Nothing is read where the key is absent. -/
def withDefault {α : Type} (key : String) (default : α) (read : Json → Reading α)
    (members : Members) : Reading α :=
  match members.spelled? key with
  | some raw => (read raw).under (.key (members.spelling key))
  | none => .value default

def readOrNull {α : Type} (read : Json → Reading α) : Json → Reading (Option α)
  | .null => .value none
  | raw => some <$> read raw

def optional {α : Type} (key : String) (read : Json → Reading α) : Members → Reading (Option α) :=
  withDefault key none (readOrNull read)

end RecordTypes
