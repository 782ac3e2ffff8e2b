import RecordTypes.Metadata.Base
import RecordTypes.Reading.Field

/-! Tables and bases read from JSON, and whole documents: the lists that the service answers with
and the file that holds one base with its tables. -/

namespace RecordTypes

def readView : Json → Reading View :=
  readModel "ViewMetadata" fun members =>
    View.mk <$> required "id" readText members <*> required "name" readText members <*>
      required "type" (readName ViewType) members

def isFilled : Option String → Bool
  | some s => !s.isEmpty
  | none => false

/-- The fields of a table are known by an id and a name. -/
def Field.isIdentified (field : Field) : Bool :=
  isFilled field.heading.id && isFilled field.heading.name

def checkIdentified (index : Nat) : List Field → Reading Unit
  | [] => .value ()
  | field :: fields =>
    if field.isIdentified then checkIdentified (index + 1) fields
    else .fault (.unidentified index field.typeName)

def readFields (raw : Json) : Reading (List Field) :=
  (readList readField raw).check fun fields => (checkIdentified 0 fields).map fun _ => fields

def readTable : Json → Reading Table :=
  readModel "TableMetadata" fun members =>
    Table.mk <$> required "id" readText members <*> required "name" readText members <*>
      required "primaryFieldId" readText members <*> optional "description" readText members <*>
      required "fields" readFields members <*> withDefault "views" [] (readList readView) members

def readBase : Json → Reading Base :=
  readModel "BaseMetadata" fun members =>
    Base.mk <$> required "id" readText members <*> required "name" readText members <*>
      required "permissionLevel" (readName Permission) members

def readTables : Members → Reading (List Table) := required "tables" (readList readTable)

def readTableList : Json → Reading (List Table) := readModel "TableListMetadata" readTables

def readBaseList : Json → Reading (List Base) :=
  readModel "BaseListMetadata" (required "bases" (readList readBase))

def readMetadata : Json → Reading Metadata :=
  readModel "MetaFile" fun members =>
    Metadata.mk <$> required "base" readBase members <*> readTables members

def Field.ofJsonWith (guard : Guard) (raw : Json) : Except Mismatch Field :=
  (readFieldWith guard raw).toExcept "field" raw

def Field.ofJson (raw : Json) : Except Mismatch Field := (readField raw).toExcept "field" raw

def Table.listOfJson (raw : Json) : Except Mismatch (List Table) :=
  (readTableList raw).toExcept "" raw

def Base.listOfJson (raw : Json) : Except Mismatch (List Base) := (readBaseList raw).toExcept "" raw

def Metadata.ofJson (raw : Json) : Except Mismatch Metadata := (readMetadata raw).toExcept "" raw

end RecordTypes
