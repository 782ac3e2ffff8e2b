import RecordTypes.Target.Expression
import RecordTypes.Target.Names
import RecordTypes.Target.Shared

/-! The declarations written for a base: what stands at the top, the enumerations and the record of
each table, and the lookups of ids by name; and with them every identifier they declare. -/

namespace RecordTypes

structure Registration where
  identifier : String
  source : String
  deriving DecidableEq

def fromImports : String := "imports"

def fromShared : String := "shared declarations"

def fromLookups : String := "table mappings"

def Table.source (table : Table) : String := "table '" ++ table.name ++ "'"

def Field.source (field : Field) (table : Table) : String :=
  "field '" ++ table.name ++ "." ++ field.label ++ "'"

def tableIdLookup : String := "AirtableTableIdMapping"

def tableTypeLookup : String := "AirtableTableTypeMapping"

def tableSchemaLookup : String := "AirtableTableSchemaMapping"

structure Row where
  name : String
  property : String
  expression : String
  isReadOnly : Bool
  remark : String

def interfaceRow (row : Row) : List String :=
  [typescriptDialect.docstring 1 row.remark,
   memberLine typescriptDialect row.name row.expression (!row.isReadOnly) row.isReadOnly]

def zodRow (row : Row) : List String :=
  [typescriptDialect.docstring 1 row.remark,
   typescriptDialect.lookupRow false row.name
    (if row.isReadOnly then row.expression else row.expression ++ ".optional()")]

def typedDictRow (row : Row) : List String :=
  [pythonDialect.indented 2 (pythonDialect.comment row.remark),
   pythonDialect.indented 2 (pythonDialect.quoted row.name ++ ": " ++
    (if row.isReadOnly then row.expression else "NotRequired[" ++ row.expression ++ "]") ++ ",")]

def modelRow (row : Row) : List String :=
  let key := pythonDialect.quoted row.name
  [if row.isReadOnly then
    propertyLine pythonDialect row.property row.expression
      ("Field(alias=" ++ key ++ ", frozen=True)")
   else
    propertyLine pythonDialect row.property ("Optional[" ++ row.expression ++ "]")
      ("Field(default=None, alias=" ++ key ++ ")"),
   pythonDialect.docstring 1 row.remark]

namespace Target

def importedNames : Target → List String
  | .interface => ["Array", "Record"]
  | .zod => ["z"]
  | .typedDict => ["Any", "Literal", "NotRequired", "TypedDict"]
  | .model =>
    ["date", "datetime", "timedelta", "Annotated", "Any", "Literal", "Optional", "BaseModel",
     "ConfigDict", "Field"]

def importLines : Target → List String
  | .interface => []
  | .zod => ["import \x7b z \x7d from 'zod'", ""]
  | .typedDict => ["from typing import Any, Literal, NotRequired, TypedDict", "", ""]
  | .model =>
    ["from datetime import date, datetime, timedelta",
     "from typing import Annotated, Any, Literal, Optional", "",
     "from pydantic import BaseModel, ConfigDict, Field", "", ""]

def header (target : Target) (base : Base) : List String :=
  target.dialect.banner ++
    [target.dialect.comment ("Airtable base: " ++ oneLineText base.name ++ " (" ++ base.id ++ ")"),
     ""] ++ target.importLines

def fieldExpression (target : Target) (tableName : String) (field : Field) : String :=
  target.expression (field.enumeration? tableName) field.valueType

/-- Only schemas declare enumerations. -/
def enumerationLines (target : Target) (table : Table) (field : Field) : List String :=
  let name := enumerationName table.name field
  match target with
  | .interface | .typedDict => []
  | .zod =>
    ("export const " ++ name ++ " = z.enum([") ::
      typescriptDialect.quotedItems field.choiceNames ++ ["])", ""]
  | .model =>
    literalLines pythonDialect name field.choiceNames ++
      [pythonDialect.docstring 0 ("Select options for \x60" ++ oneLineText field.label ++ "\x60"),
       ""]

def row (target : Target) (table : Table) (field : Field) : Row where
  name := field.label
  property := field.propertyName
  expression := target.fieldExpression table.name field
  isReadOnly := field.isReadOnly
  remark := field.remark table

def rowLines : Target → Row → List String
  | .interface => interfaceRow
  | .zod => zodRow
  | .typedDict => typedDictRow
  | .model => modelRow

def recordOpening (target : Target) (table : Table) : List String :=
  match target with
  | .interface => ["export interface " ++ table.typeName ++ " \x7b"]
  | .zod => ["export const " ++ table.schemaName ++ " = z.object(\x7b"]
  | .typedDict =>
    [table.typeName ++ " = TypedDict(",
     pythonDialect.indented 1 (pythonDialect.quoted table.typeName ++ ","),
     pythonDialect.indented 1 "\x7b"]
  | .model =>
    ["class " ++ table.typeName ++ "(BaseModel):", pythonDialect.docstring 1 table.remark, "",
     pythonDialect.indented 1 "model_config = ConfigDict(populate_by_name=True)", ""]

def recordClosing (target : Target) (table : Table) : List String :=
  match target with
  | .interface => ["\x7d", ""]
  | .zod =>
    ["\x7d)",
     "export type " ++ table.typeName ++ " = z.infer<typeof " ++ table.schemaName ++ ">", ""]
  | .typedDict =>
    [pythonDialect.indented 1 "\x7d,", ")", pythonDialect.docstring 0 table.remark, "", ""]
  | .model => ["", ""]

def recordLines (target : Target) (table : Table) : List String :=
  target.recordOpening table ++
    table.fields.flatMap (fun field => target.rowLines (target.row table field)) ++
    target.recordClosing table

def fieldLookupLines (target : Target) (table : Table) : List String :=
  target.dialect.lookup table.fieldLookupName "str" "str" true
    (table.fields.map fun field => (field.label, field.heading.id.getD ""))

def tableTypeLines (target : Target) (tables : List Table) : List String :=
  match target with
  | .interface =>
    ("export interface " ++ tableTypeLookup ++ " \x7b") ::
      (tables.map fun table =>
        memberLine typescriptDialect table.id table.typeName false false) ++ ["\x7d", ""]
  | .zod =>
    typescriptDialect.lookup tableSchemaLookup "str" "str" false
      (tables.map fun table => (table.id, table.schemaName))
  | .typedDict =>
    pythonDialect.lookup tableTypeLookup "str" "type" false
      (tables.map fun table => (table.id, table.typeName))
  | .model =>
    pythonDialect.lookup tableTypeLookup "str" "type[BaseModel]" false
      (tables.map fun table => (table.id, table.typeName))

/-- The ids of the tables by their names, and the types of their records by the ids. -/
def tableLookupLines (target : Target) (tables : List Table) : List String :=
  target.dialect.lookup tableIdLookup "str" "str" true
    (tables.map fun table => (table.name, table.id)) ++ target.tableTypeLines tables

def lookupIdentifiers : Target → List String
  | .zod => [tableIdLookup, tableSchemaLookup]
  | _ => [tableIdLookup, tableTypeLookup]

/-- A model has its properties in a namespace of its own, the type. -/
def fieldRegistrations (target : Target) (table : Table) (field : Field) : List Registration :=
  let enumeration := (field.enumeration? table.name).toList
  let identifiers := match target with
    | .interface | .typedDict => []
    | .zod => enumeration
    | .model => enumeration ++ [table.typeName ++ "." ++ field.propertyName]
  identifiers.map fun identifier => ⟨identifier, field.source table⟩

def registrations (target : Target) (table : Table) (fieldIds : Bool) : List Registration :=
  let record := match target with
    | .zod => [table.typeName, table.schemaName]
    | _ => [table.typeName]
  let lookups := if fieldIds then [table.fieldLookupName] else []
  record.map (fun identifier => ⟨identifier, table.source⟩) ++
    table.fields.flatMap (target.fieldRegistrations table) ++
    lookups.map (fun identifier => ⟨identifier, table.source⟩)

end Target

end RecordTypes
