import RecordTypes.Metadata.Base

/-! Metadata written as JSON, every member spelled out: what is absent is `null`. -/

namespace RecordTypes

def textOrNull : Option String → Json
  | some s => .str s
  | none => .null

def nameJson {α : Type} [Named α] (a : α) : Json := .str (Named.name a)

def Heading.toMembers (heading : Heading) : Members :=
  [("id", textOrNull heading.id), ("name", textOrNull heading.name),
   ("description", textOrNull heading.description)]

def fieldJson (heading : Heading) (type : FieldType) (options : Json) : Json :=
  .obj (heading.toMembers ++ [("type", nameJson type), ("options", options)])

def Choice.toJson (choice : Choice) : Json :=
  .obj [("id", .str choice.id), ("name", .str choice.name), ("color", textOrNull choice.color)]

def DateFormat.toJson (f : DateFormat) : Json :=
  .obj [("name", nameJson f.style), ("format", .str f.format)]

def TimeFormat.toJson (f : TimeFormat) : Json :=
  .obj [("name", nameJson f.style), ("format", .str f.format)]

def TemporalFormat.toJson : TemporalFormat → Json
  | .date format => .obj [("dateFormat", format.toJson)]
  | .dateTime format time timeZone =>
    .obj [("dateFormat", format.toJson), ("timeFormat", time.toJson), ("timeZone", .str timeZone)]

def Temporal.toJson (temporal : Temporal) : Json :=
  fieldJson temporal.heading (.temporal temporal.format.type) temporal.format.toJson

def Shape.optionsJson : Shape → Json
  | .basic _ (some options) => .obj options
  | .basic _ none => .null
  | .number _ precision => .obj [("precision", .int precision)]
  | .temporal format => format.toJson
  | .timestamp _ (some result) => .obj [("result", result.toJson)]
  | .timestamp _ none | .unresolved _ => .obj [("result", .null)]
  | .choice _ choices => .obj [("choices", .arr (choices.map Choice.toJson))]
  | .duration format => .obj [("durationFormat", nameJson format)]
  | .rating max icon color =>
    .obj [("max", .int max), ("icon", nameJson icon), ("color", nameJson color)]

def Field.toJson : Field → Json
  | .plain heading shape => fieldJson heading shape.type shape.optionsJson
  | .computed heading type result =>
    fieldJson heading (.computed type) (.obj [("result", result.toJson)])

def View.toJson (view : View) : Json :=
  .obj [("id", .str view.id), ("name", .str view.name), ("type", nameJson view.type)]

def Table.toJson (table : Table) : Json :=
  .obj [("id", .str table.id), ("name", .str table.name),
    ("primaryFieldId", .str table.primaryFieldId), ("description", textOrNull table.description),
    ("fields", .arr (table.fields.map Field.toJson)),
    ("views", .arr (table.views.map View.toJson))]

def Base.toJson (base : Base) : Json :=
  .obj [("id", .str base.id), ("name", .str base.name),
    ("permissionLevel", nameJson base.permission)]

def Metadata.toJson (metadata : Metadata) : Json :=
  .obj [("base", metadata.base.toJson), ("tables", .arr (metadata.tables.map Table.toJson))]

end RecordTypes
