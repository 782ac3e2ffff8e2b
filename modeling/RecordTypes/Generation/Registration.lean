import RecordTypes.Generation.Assembly
import RecordTypes.Reading.Basic

/-! What is added to an assembly, read from JSON: lines, and registrations, each a list of an
identifier and its source. All are counted on from those that the assembly has already. -/

namespace RecordTypes

def readAt (items : List Json) (index : Nat) : Reading String :=
  Reading.under (.index index) <|
    match items[index]? with
    | some raw => readText raw
    | none => .fault .missing

def readRegistration : Json → Reading Registration
  | .arr items =>
    if 2 < items.length then .fault (.tooManyItems 2 items.length)
    else Registration.mk <$> readAt items 0 <*> readAt items 1
  | _ => .fault .notTuple

namespace Assembly

def readLines (a : Assembly) (items : List Json) : Reading (List String) :=
  (readItems readText a.lines.length items).under (.key "lines")

def readRegistrations (a : Assembly) (items : List Json) : Reading (List Registration) :=
  (readItems readRegistration a.registrations.length items).under (.key "identifiers")

def readAddition (a : Assembly) (lines registrations : List Json) :
    Reading (List String × List Registration) :=
  Prod.mk <$> a.readLines lines <*> a.readRegistrations registrations

end Assembly

end RecordTypes
