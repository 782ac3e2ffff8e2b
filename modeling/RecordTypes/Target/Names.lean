import RecordTypes.Metadata.Base
import RecordTypes.Naming
import RecordTypes.Text.OneLine
import RecordTypes.Value.Field

/-! The names of what is declared for a table and its fields, and the remarks that go with them. -/

namespace RecordTypes

def pascalName (s : String) : String := String.ofList (pascalCase s.toList)

def oneLineText (s : String) : String := String.ofList (oneLine s.toList)

def Table.typeName (table : Table) : String :=
  let name := pascalName table.name
  if name.isEmpty then "Table" else name

def Table.schemaName (table : Table) : String := table.typeName ++ "Schema"

def Table.fieldLookupName (table : Table) : String := table.typeName ++ "FieldIdMapping"

def Field.propertyName (field : Field) : String :=
  String.ofList (RecordTypes.propertyName field.label.toList)

def enumerationName (tableName : String) (field : Field) : String :=
  pascalName tableName ++ pascalName field.label

def Field.enumeration? (field : Field) (tableName : String) : Option String :=
  if field.hasEnumeration then some (enumerationName tableName field) else none

/-- An absent id is written out as such. -/
def Field.idText (field : Field) : String := field.heading.id.getD "None"

def Field.isPrimary (field : Field) (table : Table) : Bool :=
  field.heading.id == some table.primaryFieldId

/-- A remark on a field: its name and id, and whether it is the primary one or cannot be written. -/
def Field.remark (field : Field) (table : Table) : String :=
  oneLineText field.label ++ " \x60" ++ field.idText ++ "\x60" ++
    (if field.isPrimary table then " - \x60Primary Key\x60" else "") ++
    (if field.isReadOnly then " - \x60Read-Only Field\x60" else "")

def Table.remark (table : Table) : String :=
  oneLineText table.name ++ " \x60" ++ table.id ++ "\x60"

end RecordTypes
