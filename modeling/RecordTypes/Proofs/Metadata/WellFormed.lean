import RecordTypes.Proofs.Metadata.RoundTrip
import RecordTypes.Proofs.Reading.Lead

/-! What accepted metadata is like, told by names and bounds alone. Each descriptor, a field or the
result of one at any depth, has a type of the service and options in the form of that type, and it
is read from the place where the document describes it. -/

namespace RecordTypes

/-! ## Types and their options -/

def fieldTypeNames : List String :=
  ["autoNumber", "barcode", "button", "checkbox", "count", "createdBy", "createdTime", "currency",
   "date", "dateTime", "duration", "email", "externalSyncSource", "formula", "lastModifiedBy",
   "lastModifiedTime", "multilineText", "multipleAttachments", "multipleCollaborators",
   "multipleLookupValues", "multipleRecordLinks", "multipleSelects", "number", "percent",
   "phoneNumber", "rating", "richText", "rollup", "singleCollaborator", "singleLineText",
   "singleSelect", "url"]

/-- The types whose options may hold anything. -/
def freeTypeNames : List String :=
  ["autoNumber", "barcode", "button", "checkbox", "count", "createdBy", "email", "lastModifiedBy",
   "multilineText", "multipleAttachments", "multipleCollaborators", "multipleRecordLinks",
   "phoneNumber", "richText", "singleCollaborator", "singleLineText", "url"]

def isDateStyle (style : String) : Bool :=
  ["local", "friendly", "us", "european", "iso"].contains style

def isClockStyle (style : String) : Bool := ["12hour", "24hour"].contains style

def isDurationFormat (format : String) : Bool :=
  ["h:mm", "h:mm:ss", "h:mm:ss.S", "h:mm:ss.SS", "h:mm:ss.SSS"].contains format

def isRatingIcon (icon : String) : Bool :=
  ["star", "heart", "thumbsUp", "flag", "dot"].contains icon

def isRatingColor (color : String) : Bool :=
  ["yellowBright", "orangeBright", "redBright", "pinkBright", "purpleBright", "blueBright",
   "cyanBright", "tealBright", "greenBright", "grayBright"].contains color

def formatJson (name format : String) : Json := .obj [("name", .str name), ("format", .str format)]

def resultJson : Option Field → Json
  | some result => result.toJson
  | none => .null

/-- The options that belong to a type, and the result that is described in them, if one is. -/
inductive OptionsFit : String → Json → Option Field → Prop where
  | absent {name : String} (hname : name ∈ freeTypeNames) : OptionsFit name .null none
  | free {name : String} {members : Members} (hname : name ∈ freeTypeNames) :
      OptionsFit name (.obj members) none
  | precision {name : String} {precision : Nat} (hname : name ∈ ["number", "currency", "percent"])
      (hle : precision ≤ 8) : OptionsFit name (.obj [("precision", .int precision)]) none
  | date {style format : String} (hstyle : isDateStyle style = true) :
      OptionsFit "date" (.obj [("dateFormat", formatJson style format)]) none
  | dateTime {style format clock clockFormat timeZone : String} (hstyle : isDateStyle style = true)
      (hclock : isClockStyle clock = true) :
      OptionsFit "dateTime" (.obj [("dateFormat", formatJson style format),
        ("timeFormat", formatJson clock clockFormat), ("timeZone", .str timeZone)]) none
  | moment {name : String} (result : Option Field)
      (hname : name ∈ ["createdTime", "lastModifiedTime"])
      (hresult : ∀ r ∈ result, r.typeName ∈ ["date", "dateTime"]) :
      OptionsFit name (.obj [("result", resultJson result)]) result
  | computed {name : String} (result : Option Field)
      (hname : name ∈ ["formula", "rollup", "multipleLookupValues"]) :
      OptionsFit name (.obj [("result", resultJson result)]) result
  | choices {name : String} {choices : List Choice}
      (hname : name ∈ ["singleSelect", "multipleSelects", "externalSyncSource"]) :
      OptionsFit name (.obj [("choices", .arr (choices.map Choice.toJson))]) none
  | duration {format : String} (hformat : isDurationFormat format = true) :
      OptionsFit "duration" (.obj [("durationFormat", .str format)]) none
  | rating {max : Nat} {icon color : String} (hleast : 1 ≤ max) (hgreatest : max ≤ 10)
      (hicon : isRatingIcon icon = true) (hcolor : isRatingColor color = true) :
      OptionsFit "rating"
        (.obj [("max", .int max), ("icon", .str icon), ("color", .str color)]) none

theorem isDateStyle_name (style : DateStyle) : isDateStyle (Named.name style) = true := by
  cases style <;> decide

theorem FieldType.name_mem_fieldTypeNames (type : FieldType) :
    Named.name type ∈ fieldTypeNames := by
  cases type with
  | basic type => cases type <;> decide
  | number type => cases type <;> decide
  | temporal type => cases type <;> decide
  | timestamp type => cases type <;> decide
  | computed type => cases type <;> decide
  | choice type => cases type <;> decide
  | duration => decide
  | rating => decide

theorem BasicType.name_mem_freeTypeNames (type : BasicType) :
    Named.name type ∈ freeTypeNames := by
  cases type <;> decide

theorem ComputedType.name_mem (type : ComputedType) :
    Named.name type ∈ ["formula", "rollup", "multipleLookupValues"] := by
  cases type <;> decide

theorem Shape.optionsFit {guard : Guard} {shape : Shape} (h : shape.FitsIn guard)
    (heading : Heading) :
    OptionsFit (Named.name shape.type) shape.optionsJson (Field.plain heading shape).result? := by
  cases shape with
  | basic type options =>
    cases options with
    | none => exact .absent type.name_mem_freeTypeNames
    | some members => exact .free type.name_mem_freeTypeNames
  | number type precision =>
    have hname : Named.name type ∈ ["number", "currency", "percent"] := by cases type <;> decide
    exact .precision hname h
  | temporal format =>
    cases format with
    | date format => exact .date (isDateStyle_name format.style)
    | dateTime format time timeZone =>
      have hclock : isClockStyle (Named.name time.style) = true := by cases time.style <;> decide
      exact .dateTime (isDateStyle_name format.style) hclock
  | timestamp type result =>
    have hname : Named.name type ∈ ["createdTime", "lastModifiedTime"] := by
      cases type <;> decide
    cases result with
    | none => exact .moment none hname (by simp)
    | some t =>
      have htemporal : Named.name t.format.type ∈ ["date", "dateTime"] := by
        cases t.format.type <;> decide
      refine .moment (some (.plain t.heading (.temporal t.format))) hname ?_
      rintro _ ⟨⟩
      exact htemporal
  | unresolved type => exact .computed none type.name_mem
  | choice type choices =>
    have hname : Named.name type ∈ ["singleSelect", "multipleSelects", "externalSyncSource"] := by
      cases type <;> decide
    exact .choices hname
  | duration format =>
    have hformat : isDurationFormat (Named.name format) = true := by cases format <;> decide
    exact .duration hformat
  | rating max icon color =>
    have hicon : isRatingIcon (Named.name icon) = true := by cases icon <;> decide
    have hcolor : isRatingColor (Named.name color) = true := by cases color <;> decide
    exact .rating h.1 h.2 hicon hcolor

theorem Field.exists_optionsFit {guard : Guard} {field : Field} (h : field.FitsIn guard) :
    ∃ options, field.toJson.child? (.key "options") = some options ∧
      OptionsFit field.typeName options field.result? := by
  cases field with
  | plain heading shape => exact ⟨shape.optionsJson, rfl, Shape.optionsFit h.2 heading⟩
  | computed heading type result =>
    exact ⟨.obj [("result", result.toJson)], rfl, .computed (some result) type.name_mem⟩

/-! ## Where a descriptor is read from -/

/-- The descriptor of the result in the options of a descriptor. -/
def Json.result? (raw : Json) : Option Json :=
  (raw.child? (.key "options")).bind (·.child? (.key "result"))

def Json.resultAt? : Nat → Json → Option Json
  | 0, raw => some raw
  | n + 1, raw => raw.result?.bind (resultAt? n)

theorem child?_type_of_read {guard : Guard} {raw : Json} {field : Field}
    (h : readFieldWith guard raw = .value field) :
    raw.child? (.key "type") = some (.str field.typeName) := by
  obtain ⟨members, rfl, hfrom⟩ := readFieldWith_eq_value_iff.mp h
  cases hfrom with
  | computed hform hopens hheading hraw hresult => exact formOf_eq_ok hform
  | unresolved hform hopens hheading hraw => exact formOf_eq_ok hform
  | plain hform hplain hopens hheading hshape =>
    rw [Field.typeName, Field.type, type_of_readShape hshape]
    exact formOf_eq_ok hform

theorem readFieldWith_of_readTemporal {guard : Guard} {raw : Json} {t : Temporal}
    (h : readTemporal guard raw = .value t) :
    readFieldWith guard raw = .value (.plain t.heading (.temporal t.format)) := by
  obtain ⟨members, rfl, hform, hopens, hheading, hformat⟩ := readTemporal_eq_value h
  -- The type has the same name among all types of fields as among the temporal ones.
  have hfield : formOf FieldType members = .ok (.temporal t.format.type) := by
    have hname : Named.ofName? (Named.name t.format.type) =
        some (FieldType.temporal t.format.type) :=
      LawfulNamed.ofName?_name (FieldType.temporal t.format.type)
    simp only [formOf, formOf_eq_ok hform, hname]
  refine FieldFrom.readFieldWith_eq (.plain hfield (by simp) hopens hheading ?_)
  rw [readShape, hformat]
  rfl

theorem result?_of_spelled? {members inner : Members} {raw : Json}
    (hoptions : members.spelled? "options" = some (.obj inner))
    (hresult : inner.spelled? "result" = some raw) : (Json.obj members).result? = some raw := by
  have hinner := Members.find?_of_spelled? (by decide) hoptions
  have hraw := Members.find?_of_spelled? (by decide) hresult
  simp only [Json.result?, Json.child?, hinner, hraw, Option.bind_some]

theorem result?_of_rawResult {members : Members} {raw : Json}
    (h : rawResult members = .value (some raw)) : (Json.obj members).result? = some raw := by
  obtain hnone | ⟨options, hoptions, hread⟩ := withDefault_eq_value h
  · cases hnone
  cases options with
  | obj inner =>
    obtain ⟨found, hfound, hvalue⟩ := optional_eq_some hread
    cases hvalue
    exact result?_of_spelled? hoptions hfound
  | _ => cases hread

theorem exists_result?_of_readShape {guard : Guard} {members : Members} {type : TimestampType}
    {t : Temporal}
    (h : readShape guard members (.timestamp type) = .value (.timestamp type (some t))) :
    ∃ inner, (Json.obj members).result? = some inner ∧
      readTemporal guard.below inner = .value t := by
  obtain ⟨result, hresult, hshape⟩ := Reading.map_eq_value h
  cases hshape
  obtain hnone | ⟨options, hoptions, hread⟩ := withDefault_eq_value hresult
  · cases hnone
  cases options with
  | obj inner =>
    obtain ⟨found, hfound, htemporal⟩ := optional_eq_some hread
    exact ⟨found, result?_of_spelled? hoptions hfound, htemporal⟩
  | _ => cases hread

theorem readFieldWith_result {guard : Guard} {raw : Json} {field result : Field}
    (h : readFieldWith guard raw = .value field) (hresult : field.result? = some result) :
    ∃ inner, raw.result? = some inner ∧ readFieldWith guard.below inner = .value result := by
  obtain ⟨members, rfl, hfrom⟩ := readFieldWith_eq_value_iff.mp h
  cases hfrom with
  | computed hform hopens hheading hraw hread =>
    cases hresult
    exact ⟨_, result?_of_rawResult hraw, hread⟩
  | unresolved hform hopens hheading hraw => cases hresult
  | @plain type _ shape hform hplain hopens hheading hshape =>
    -- of all these shapes that of a timestamp alone describes a result
    have htype := type_of_readShape hshape
    subst htype
    cases shape with
    | timestamp type t =>
      cases t with
      | none => cases hresult
      | some t =>
        cases hresult
        obtain ⟨inner, hinner, hread⟩ := exists_result?_of_readShape hshape
        exact ⟨inner, hinner, readFieldWith_of_readTemporal hread⟩
    | _ => cases hresult

theorem readFieldWith_resultAt {guard : Guard} {n : Nat} {raw : Json} {field result : Field}
    (h : readFieldWith guard raw = .value field) (hresult : field.resultAt? n = some result) :
    ∃ (inner : Json) (reached : Guard), raw.resultAt? n = some inner ∧
      readFieldWith reached inner = .value result := by
  induction n generalizing guard raw field with
  | zero =>
    cases hresult
    exact ⟨raw, guard, rfl, h⟩
  | succ n ih =>
    obtain ⟨next, hnext, hresult⟩ := Option.bind_eq_some_iff.mp hresult
    obtain ⟨below, hbelow, hread⟩ := readFieldWith_result h hnext
    obtain ⟨inner, reached, hinner, hlast⟩ := ih hread hresult
    refine ⟨inner, reached, ?_, hlast⟩
    rw [Json.resultAt?, hbelow]
    exact hinner

/-! ## Fields, tables and documents -/

/-- A field or a result, and the descriptor in the document that it was read from. -/
structure FitsDescriptor (raw : Json) (field : Field) : Prop where
  known : field.typeName ∈ fieldTypeNames
  told : raw.child? (.key "type") = some (.str field.typeName)
  fits : ∃ options, field.toJson.child? (.key "options") = some options ∧
    OptionsFit field.typeName options field.result?

/-- A field of a table with the id and the name that the document gives it, none of them empty,
and with a descriptor for the field and for each result on the way down. -/
structure IsFieldOf (raw : Json) (field : Field) : Prop where
  read : Field.ofJson raw = .ok field
  identity : ∃ id name, id ≠ "" ∧ name ≠ "" ∧
    field.heading.id = some id ∧ raw.child? (.key "id") = some (.str id) ∧
    field.heading.name = some name ∧ raw.child? (.key "name") = some (.str name)
  descriptors : ∀ n result, field.resultAt? n = some result →
    ∃ inner, raw.resultAt? n = some inner ∧ FitsDescriptor inner result

def IsTableOf (raw : Json) (table : Table) : Prop :=
  ∃ rawFields, raw.child? (.key "fields") = some (.arr rawFields) ∧
    List.Forall₂ IsFieldOf rawFields table.fields

def AreTablesOf (raw : Json) (tables : List Table) : Prop :=
  ∃ rawTables, raw.child? (.key "tables") = some (.arr rawTables) ∧
    List.Forall₂ IsTableOf rawTables tables

theorem fitsDescriptor_of_read {guard : Guard} {raw : Json} {field : Field}
    (h : readFieldWith guard raw = .value field) : FitsDescriptor raw field where
  known := FieldType.name_mem_fieldTypeNames field.type
  told := child?_type_of_read h
  fits := Field.exists_optionsFit (Field.fitsIn_of_read h)

theorem readHeading_eq_value {members : Members} {heading : Heading}
    (h : readHeading members = .value heading) :
    optional "id" readText members = .value heading.id ∧
      optional "name" readText members = .value heading.name := by
  obtain ⟨ofDescription, description, hofDescription, -, rfl⟩ := Reading.seq_eq_value h
  obtain ⟨ofName, name, hofName, hname, rfl⟩ := Reading.seq_eq_value hofDescription
  obtain ⟨id, hid, rfl⟩ := Reading.map_eq_value hofName
  exact ⟨hid, hname⟩

theorem readHeading_of_read {guard : Guard} {members : Members} {field : Field}
    (h : readFieldWith guard (.obj members) = .value field) :
    readHeading members = .value field.heading := by
  obtain ⟨found, hfound, hfrom⟩ := readFieldWith_eq_value_iff.mp h
  cases hfound
  cases hfrom with
  | computed hform hopens hheading hraw hresult => exact hheading
  | unresolved hform hopens hheading hraw => exact hheading
  | plain hform hplain hopens hheading hshape => exact hheading

theorem find?_of_optional_text {members : Members} {key text : String}
    (hkey : underscored key = key) (h : optional key readText members = .value (some text)) :
    members.find? key = some (.str text) := by
  obtain ⟨raw, hraw, hread⟩ := optional_eq_some h
  have hfind := Members.find?_of_spelled? hkey hraw
  cases raw with
  | str s =>
    cases hread
    exact hfind
  | _ => cases hread

theorem isFieldOf_of_read {raw : Json} {field : Field} (h : readField raw = .value field)
    (hidentity : field.HasIdentity) : IsFieldOf raw field := by
  obtain ⟨id, name, hid, hidFilled, hname, hnameFilled⟩ := hidentity
  obtain ⟨members, rfl, -⟩ := readFieldWith_eq_value_iff.mp h
  obtain ⟨hreadId, hreadName⟩ := readHeading_eq_value (readHeading_of_read h)
  rw [hid] at hreadId
  rw [hname] at hreadName
  refine ⟨Reading.toExcept_eq_ok_iff.mpr h, ⟨id, name, hidFilled, hnameFilled, hid, ?_, hname, ?_⟩,
    fun n result hresult => ?_⟩
  · exact find?_of_optional_text (by decide) hreadId
  · exact find?_of_optional_text (by decide) hreadName
  · obtain ⟨inner, reached, hinner, hread⟩ := readFieldWith_resultAt h hresult
    exact ⟨inner, hinner, fitsDescriptor_of_read hread⟩

theorem isTableOf_of_read {raw : Json} {table : Table} (h : readTable raw = .value table) :
    IsTableOf raw table := by
  have hfits := Table.fits_of_readTable h
  obtain ⟨members, rfl, -, -, -, -, hfields, -⟩ := readTable_eq_value h
  obtain ⟨rawFields, hraw, hread⟩ := required_eq_value hfields
  obtain ⟨fields, hlist, hcheck⟩ := Reading.check_eq_value hread
  obtain ⟨⟨⟩, -, hsame⟩ := Reading.map_eq_value hcheck
  rw [hsame] at hlist
  cases rawFields with
  | arr items =>
    refine ⟨items, Members.find?_of_spelled? (by decide) hraw, ?_⟩
    have hitems := readItems_eq_value_iff.mp hlist
    have hboth := (List.forall₂_and_left table.fields items).mpr
      ⟨fun field hfield => (hfits field hfield).2, hitems.flip⟩
    exact hboth.flip.imp fun _ _ hfield => isFieldOf_of_read hfield.2 hfield.1
  | _ => cases hlist

theorem areTablesOf_of_read {members : Members} {tables : List Table}
    (h : readTables members = .value tables) : AreTablesOf (.obj members) tables := by
  obtain ⟨rawTables, hfind, hread⟩ := exists_items_of_required (by decide) h
  exact ⟨rawTables, hfind, hread.imp fun _ _ => isTableOf_of_read⟩

/-- Whatever document is accepted, its tables and fields are read from where they stand in it, and
each field and each result, however deep it lies, is of a known type with options that fit. -/
theorem accepted_metadata_is_well_formed :
    (∀ raw tables, Table.listOfJson raw = .ok tables → AreTablesOf raw tables) ∧
      ∀ raw metadata, Metadata.ofJson raw = .ok metadata → AreTablesOf raw metadata.tables := by
  constructor
  · intro raw tables h
    have hread := Reading.toExcept_eq_ok_iff.mp h
    cases raw with
    | obj members => exact areTablesOf_of_read hread
    | _ => cases hread
  · intro raw metadata h
    have hread := Reading.toExcept_eq_ok_iff.mp h
    cases raw with
    | obj members =>
      obtain ⟨ofTables, tables, hofTables, htables, rfl⟩ := Reading.seq_eq_value hread
      obtain ⟨base, -, rfl⟩ := Reading.map_eq_value hofTables
      exact areTablesOf_of_read htables
    | _ => cases hread

def starsJson : Json :=
  .obj [("id", .str "fldStars"), ("name", .str "Stars"), ("type", .str "rating"),
    ("options", .obj [("max", .str " 05"), ("icon", .str "star"), ("color", .str "redBright")])]

def editedResultJson : Json :=
  .obj [("type", .str "lastModifiedTime"), ("options", .obj [("result",
    .obj [("type", .str "date"), ("options", .obj [("date_format",
      .obj [("name", .str "iso"), ("format", .str "YYYY-MM-DD")])])])])]

def editedJson : Json :=
  .obj [("id", .str "fldEdited"), ("name", .str "Edited"), ("type", .str "multipleLookupValues"),
    ("options", .obj [("result", editedResultJson)])]

def reviewsJson : Json :=
  .obj [("id", .str "tblReviews"), ("name", .str "Reviews"), ("primaryFieldId", .str "fldStars"),
    ("fields", .arr [starsJson, editedJson])]

def shopJson : Json :=
  .obj [("base", .obj [("id", .str "appShop"), ("name", .str "Shop"),
      ("permissionLevel", .str "read")]),
    ("tables", .arr [reviewsJson])]

def starsColumn : Field := .plain ⟨some "fldStars", some "Stars", none⟩ (.rating 5 .star .red)

def editedDate : Temporal := ⟨⟨none, none, none⟩, .date ⟨.iso, "YYYY-MM-DD"⟩⟩

def editedColumn : Field :=
  .computed ⟨some "fldEdited", some "Edited", none⟩ .lookup
    (.plain ⟨none, none, none⟩ (.timestamp .lastModifiedTime (some editedDate)))

def reviewsTable : Table :=
  ⟨"tblReviews", "Reviews", "fldStars", none, [starsColumn, editedColumn], []⟩

theorem readTable_reviews : readTable reviewsJson = .value reviewsTable := by
  have hstars : readField starsJson = .value starsColumn :=
    FieldFrom.readFieldWith_eq (.plain rfl (by simp) rfl rfl rfl)
  have hresult : readFieldWith Guard.standard.below editedResultJson = .value
      (.plain ⟨none, none, none⟩ (.timestamp .lastModifiedTime (some editedDate))) :=
    FieldFrom.readFieldWith_eq (.plain rfl (by simp) rfl rfl rfl)
  have hedited : readField editedJson = .value editedColumn :=
    FieldFrom.readFieldWith_eq (.computed rfl rfl rfl rfl hresult)
  have hfields :
      readFields (.arr [starsJson, editedJson]) = .value [starsColumn, editedColumn] := by
    simp only [readFields, readList, readItems, hstars, hedited]
    rfl
  change _ <*> (readFields (.arr [starsJson, editedJson])).under (.key "fields") <*> _ = _
  rw [hfields]
  rfl

/-- A number in a text, a key in its other spelling and a date two results deep. -/
theorem well_formed_reviews :
    Table.listOfJson (.obj [("tables", .arr [reviewsJson])]) = .ok [reviewsTable] ∧
    AreTablesOf (.obj [("tables", .arr [reviewsJson])]) [reviewsTable] ∧
    Metadata.ofJson shopJson = .ok ⟨⟨"appShop", "Shop", .read⟩, [reviewsTable]⟩ ∧
    AreTablesOf shopJson [reviewsTable] ∧
    editedColumn.resultAt? 2 = some (.plain editedDate.heading (.temporal editedDate.format)) := by
  have hlist : Table.listOfJson (.obj [("tables", .arr [reviewsJson])]) = .ok [reviewsTable] := by
    refine Reading.toExcept_eq_ok_iff.mpr ?_
    change (List.cons <$> (readTable reviewsJson).under _ <*> _).under _ = _
    rw [readTable_reviews]
    rfl
  have hdocument :
      Metadata.ofJson shopJson = .ok ⟨⟨"appShop", "Shop", .read⟩, [reviewsTable]⟩ := by
    refine Reading.toExcept_eq_ok_iff.mpr ?_
    change _ <*> (List.cons <$> (readTable reviewsJson).under _ <*> _).under _ = _
    rw [readTable_reviews]
    rfl
  obtain ⟨hlists, hdocuments⟩ := accepted_metadata_is_well_formed
  exact ⟨hlist, hlists _ _ hlist, hdocument, hdocuments _ _ hdocument, rfl⟩

end RecordTypes
