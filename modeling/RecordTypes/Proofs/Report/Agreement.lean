import RecordTypes.Proofs.Metadata.RoundTrip
import RecordTypes.Proofs.Report.Csv
import RecordTypes.Proofs.Target.Block
import RecordTypes.Proofs.Target.Record
import RecordTypes.Report.Basic

/-! The reports against the declarations. What the report on fields says of a field is what is read
from its rows in the records that the targets declare for its table. -/

namespace RecordTypes

namespace Target

/-! ## Properties of models -/

/-- A property of a model as its line has it: its name, and the row that the line is read as. -/
def propertyRow? (line : String) : Option (String × ReadRow) :=
  (model.memberName? line).bind fun name =>
    (model.readRow line.toList).map fun row => (name, row)

def propertyRows (lines : List String) : List (String × ReadRow) := lines.filterMap propertyRow?

theorem propertyRow?_of_readRow {line : String} (h : model.readRow line.toList = none) :
    propertyRow? line = none := by
  simp [propertyRow?, h]

theorem propertyRows_rowLines (row : Row) (hname : IsName row.property.toList)
    (h : IsMarkless row.expression.toList) :
    propertyRows (model.rowLines row) = [(row.property, model.readBack row)] := by
  have hread := readModelRow_of_isMarkless row hname h
  have hremark : propertyRow? (pythonDialect.docstring 1 row.remark) = none :=
    propertyRow?_of_readRow (readModelRow_docstring row.remark)
  have hproperty (type default tail : String) (hdefault : default = "Field(" ++ tail)
      (hline : readModelRow (propertyLine pythonDialect row.property type default).toList =
        some (model.readBack row)) :
      propertyRow? (propertyLine pythonDialect row.property type default) =
        some (row.property, model.readBack row) := by
    have hchars : default.toList = "Field(".toList ++ tail.toList := by
      rw [hdefault, String.toList_append]
    have hmember : model.memberName? (propertyLine pythonDialect row.property type default) =
        some row.property := memberName?_propertyLine hname hchars
    simp [propertyRow?, hmember, readRow, hline]
  cases hreadOnly : row.isReadOnly with
  | true =>
    rw [hreadOnly, if_pos rfl] at hread
    have hline := hproperty _ _
      ("alias=" ++ pythonDialect.quoted row.name ++ ", frozen=True)")
      (by simp [← String.toList_inj]) hread
    simp [propertyRows, rowLines, modelRow, hreadOnly, hline, hremark]
  | false =>
    rw [hreadOnly, if_neg Bool.false_ne_true] at hread
    have hline := hproperty _ _
      ("default=None, alias=" ++ pythonDialect.quoted row.name ++ ")")
      (by simp [← String.toList_inj]) hread
    simp [propertyRows, rowLines, modelRow, hreadOnly, hline, hremark]

theorem propertyRows_append (lines lines' : List String) :
    propertyRows (lines ++ lines') = propertyRows lines ++ propertyRows lines' :=
  List.filterMap_append

theorem propertyRows_rowBlock (table : Table) (fields : List Field) :
    propertyRows (model.rowBlock table fields) =
      fields.map fun field => (field.propertyName, model.readBack (model.row table field)) := by
  induction fields with
  | nil => rfl
  | cons field fields ih =>
    have hmarkless : IsMarkless (model.fieldExpression table.name field).toList :=
      isMarkless_expression (field.isName_enumeration? table.name) field.valueType
    have hrow := propertyRows_rowLines (model.row table field) field.isName_propertyName hmarkless
    have hcons : model.rowBlock table (field :: fields) =
      model.rowLines (model.row table field) ++ model.rowBlock table fields := rfl
    rw [hcons, propertyRows_append, hrow, ih]
    rfl

theorem propertyRows_recordLines (table : Table) :
    propertyRows (model.recordLines table) =
      table.fields.map fun field =>
        (field.propertyName, model.readBack (model.row table field)) := by
  have hopening : propertyRows (model.recordOpening table) = [] :=
    List.filterMap_eq_nil_iff.mpr fun line hline =>
      propertyRow?_of_readRow (model.readRow_recordOpening table line hline)
  have hclosing : propertyRows (model.recordClosing table) = [] :=
    List.filterMap_eq_nil_iff.mpr fun line hline =>
      propertyRow?_of_readRow (model.readRow_recordClosing table line hline)
  rw [recordLines_eq, propertyRows_append, propertyRows_append, hopening, hclosing,
    propertyRows_rowBlock, List.nil_append, List.append_nil]

end Target

/-! ## Rows of the report on fields -/

structure FieldCells where
  tableId : String
  tableName : String
  fieldId : String
  fieldName : String
  property : String
  type : String
  readOnly : String
  expressions : List String

def FieldCells.row (cells : FieldCells) : List String :=
  [cells.tableId, cells.tableName, cells.fieldId, cells.fieldName, cells.property, cells.type,
   cells.readOnly] ++ cells.expressions

/-- Cells that tell of the field at an index what its table and itself are called, and what its rows
say in the records of the table: that of the model its property and whether it is read-only, and
that of each target its type. -/
structure Table.Reports (table : Table) (index : Nat) (field : Field) (cells : FieldCells) :
    Prop where
  tableId : cells.tableId = table.id
  tableName : cells.tableName = table.name
  fieldId : field.heading.id = some cells.fieldId
  fieldName : ∃ name, field.heading.name = some name ∧ cells.fieldName = oneLineText name
  type : cells.type = field.typeName
  property : ∃ row isReadOnly,
    (Target.propertyRows (Target.model.recordLines table))[index]? = some (cells.property, row) ∧
      row.isReadOnly = some isReadOnly ∧ cells.readOnly = truthText isReadOnly
  expressions : List.Forall₂ (fun (target : Target) expression => ∃ row,
    (target.readRows (target.recordLines table))[index]? = some row ∧
      field.heading.name = some row.key ∧ row.expression = expression) Target.all cells.expressions

def Field.cells (table : Table) (field : Field) : FieldCells where
  tableId := table.id
  tableName := table.name
  fieldId := field.heading.id.getD ""
  fieldName := oneLineText field.label
  property := field.propertyName
  type := field.typeName
  readOnly := truthText field.isReadOnly
  expressions := Target.all.map fun target => target.fieldExpression table.name field

theorem Field.id_eq_getD {field : Field} (h : field.isIdentified = true) :
    field.heading.id = some (field.heading.id.getD "") := by
  cases hid : field.heading.id with
  | none => simp [isIdentified, isFilled, hid] at h
  | some id => rfl

theorem Table.reports_cells {table : Table} {index : Nat} {field : Field}
    (hfield : table.fields[index]? = some field) (h : field.isIdentified = true) :
    table.Reports index field (field.cells table) where
  tableId := rfl
  tableName := rfl
  fieldId := Field.id_eq_getD h
  fieldName := ⟨field.label, Field.name_eq_label h, rfl⟩
  type := rfl
  property := by
    refine ⟨Target.model.readBack (Target.model.row table field), field.isReadOnly, ?_, rfl, rfl⟩
    rw [Target.propertyRows_recordLines, List.getElem?_map, hfield]
    rfl
  expressions := by
    rw [Field.cells, List.forall₂_map_right_iff, List.forall₂_same]
    intro target _
    refine ⟨target.readBack (target.row table field), ?_, Field.name_eq_label h, rfl⟩
    rw [Target.readRows_recordLines, List.getElem?_map, hfield]
    rfl

/-- The reports on tables that were read are read back with a row for each table and, table by
table, a row for each field, which agrees with the records that are declared for the table. -/
theorem reports_of_readTable {tables : List Table}
    (h : ∀ table ∈ tables, ∃ raw, readTable raw = .value table) :
    readCsv (tablesReport tables) =
      some (tableColumns :: tables.map fun table => [table.id, table.name, table.typeName]) ∧
    ∃ cells : List (List FieldCells),
      readCsv (fieldsReport tables) = some (fieldColumns :: cells.flatten.map FieldCells.row) ∧
      List.Forall₂ (fun table rows => rows.length = table.fields.length ∧
        ∀ index field, table.fields[index]? = some field →
          ∃ row, rows[index]? = some row ∧ table.Reports index field row) tables cells := by
  refine ⟨readCsv_csvText ?_, tables.map fun table => table.fields.map (Field.cells table), ?_, ?_⟩
  · simp [tableColumns, Table.reportRow]
  · have hrows : tables.flatMap (fun table => table.fields.map (Field.reportRow table)) =
        (tables.map fun table => table.fields.map (Field.cells table)).flatten.map
          FieldCells.row := by
      rw [← List.flatMap_def, List.map_flatMap]
      simp only [List.map_map]
      rfl
    rw [fieldsReport, hrows]
    refine readCsv_csvText (List.forall_mem_cons.mpr ⟨by simp [fieldColumns], ?_⟩)
    intro row hrow
    obtain ⟨cells, -, rfl⟩ := List.mem_map.mp hrow
    simp [FieldCells.row]
  · rw [List.forall₂_map_right_iff, List.forall₂_same]
    intro table htable
    refine ⟨List.length_map _, fun index field hfield => ?_⟩
    obtain ⟨raw, hraw⟩ := h table htable
    have hidentified := isIdentified_of_readTable hraw field (List.mem_of_getElem? hfield)
    refine ⟨field.cells table, ?_, Table.reports_cells hfield hidentified⟩
    rw [List.getElem?_map, hfield]
    rfl

theorem Table.map_fieldId {table : Table} {rows : List FieldCells}
    (hlength : rows.length = table.fields.length)
    (h : ∀ index field, table.fields[index]? = some field →
      ∃ row, rows[index]? = some row ∧ table.Reports index field row) :
    rows.map (fun row => some row.fieldId) = table.fields.map fun field => field.heading.id := by
  refine List.ext_getElem (by simp [hlength]) fun index hrow hfield => ?_
  rw [List.length_map] at hrow hfield
  obtain ⟨row, hfound, hreports⟩ := h index _ (List.getElem?_eq_getElem hfield)
  obtain ⟨hindex, rfl⟩ := List.getElem?_eq_some_iff.mp hfound
  rw [List.getElem_map, List.getElem_map, hreports.fieldId]

/-- Two tables, the first with several fields. -/
theorem reports_guests :
    (∀ table ∈ [guests, scoresTable], ∃ raw, readTable raw = .value table) ∧
    readCsv (tablesReport [guests, scoresTable]) =
      some [tableColumns, ["tblGuests", "Guests", "Guests"], ["tblScores", "Scores", "Scores"]] ∧
    ∃ ofGuests ofScores : List FieldCells,
      readCsv (fieldsReport [guests, scoresTable]) =
        some (fieldColumns :: (ofGuests ++ ofScores).map FieldCells.row) ∧
      ofGuests.map FieldCells.fieldId = ["fldWho", "fldSeat", "fldMeal", "fldShare"] ∧
      ofScores.map FieldCells.fieldId = ["fldScore"] ∧
      ∀ index field, guests.fields[index]? = some field →
        ∃ row, ofGuests[index]? = some row ∧ guests.Reports index field row := by
  have hread : ∀ table ∈ [guests, scoresTable], ∃ raw, readTable raw = .value table :=
    List.forall_mem_cons.mpr ⟨⟨_, readTable_guests⟩,
      List.forall_mem_singleton.mpr ⟨_, readTable_score⟩⟩
  obtain ⟨htables, cells, hcsv, hcells⟩ := reports_of_readTable hread
  have hnames : ([guests, scoresTable].map fun table => [table.id, table.name, table.typeName]) =
      [["tblGuests", "Guests", "Guests"], ["tblScores", "Scores", "Scores"]] := by decide +kernel
  rw [hnames] at htables
  have hids {rows : List FieldCells} {ids : List String}
      (h : rows.map (fun row => some row.fieldId) = ids.map some) :
      rows.map FieldCells.fieldId = ids := by
    refine List.map_injective_iff.mpr (fun _ _ => Option.some.inj) ?_
    rwa [List.map_map]
  obtain _ | ⟨⟨hlength, hguests⟩, _ | ⟨⟨hlength', hscores⟩, _ | _⟩⟩ := hcells
  refine ⟨hread, htables, _, _, ?_, hids (Table.map_fieldId hlength hguests),
    hids (Table.map_fieldId hlength' hscores), hguests⟩
  simpa using hcsv

end RecordTypes
