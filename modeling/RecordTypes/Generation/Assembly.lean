import RecordTypes.Target.Declaration

/-! What has been written so far: lines, the identifiers that they declare, and the tables that they
cover. An identifier that was declared twice is a collision. -/

namespace RecordTypes

structure Collision where
  identifier : String
  sources : List String
  deriving DecidableEq

structure Assembly where
  lines : List String
  registrations : List Registration
  tables : List Table

namespace Assembly

def empty : Assembly := ⟨[], [], []⟩

def add (a : Assembly) (lines : List String) (registrations : List Registration)
    (tables : List Table) : Assembly where
  lines := a.lines ++ lines
  registrations := a.registrations ++ registrations
  tables := a.tables ++ tables

def sourcesOf (a : Assembly) (identifier : String) : List String :=
  (a.registrations.filter fun r => r.identifier == identifier).map fun r => r.source

/-- Each identifier once, in the order of the first declarations. -/
def identifiers (a : Assembly) : List String :=
  (a.registrations.map fun r => r.identifier).eraseDups

def collisions (a : Assembly) : List Collision :=
  (a.identifiers.map fun identifier => ⟨identifier, a.sourcesOf identifier⟩).filter
    fun (collision : Collision) => 1 < collision.sources.length

/-- The lines as one text that ends in a single line feed. -/
def text (a : Assembly) : String :=
  let joined := ("\n".intercalate a.lines).toList
  String.ofList ((joined.reverse.dropWhile (· == '\n')).reverse ++ ['\n'])

/-- The enumerations of a table, its record and, if asked for, the ids of its fields. -/
def addTable (target : Target) (fieldIds : Bool) (a : Assembly) (table : Table) : Assembly :=
  let enumerations := (table.fields.filter Field.hasEnumeration).flatMap
    (target.enumerationLines table)
  let lookups := if fieldIds then target.fieldLookupLines table else []
  a.add (enumerations ++ target.recordLines table ++ lookups) (target.registrations table fieldIds)
    [table]

end Assembly

end RecordTypes
