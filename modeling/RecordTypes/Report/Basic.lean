import RecordTypes.Report.Csv
import RecordTypes.Target.Declaration

/-! A report on the tables of a base and one on their fields, with the types of all targets. -/

namespace RecordTypes

def tableColumns : List String := ["Table ID", "Table Name", "Type Name"]

def fieldColumns : List String :=
  ["Table ID", "Table Name", "Field ID", "Field Name", "Property Name", "Airtable Type",
   "Read-Only", "TypeScript Type", "Zod Schema", "Python Type", "Pydantic Type"]

def Table.reportRow (table : Table) : List String := [table.id, table.name, table.typeName]

def truthText (b : Bool) : String := if b then "True" else "False"

def Field.reportRow (table : Table) (field : Field) : List String :=
  [table.id, table.name, field.heading.id.getD "", oneLineText field.label, field.propertyName,
   field.typeName, truthText field.isReadOnly] ++
    Target.all.map fun target => target.fieldExpression table.name field

def tablesReport (tables : List Table) : String :=
  csvText (tableColumns :: tables.map Table.reportRow)

def fieldsReport (tables : List Table) : String :=
  csvText (fieldColumns :: tables.flatMap fun table => table.fields.map (Field.reportRow table))

end RecordTypes
