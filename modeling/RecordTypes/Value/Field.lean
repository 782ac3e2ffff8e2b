import RecordTypes.Metadata.Field
import RecordTypes.Value.Basic

/-! What the cells of a field hold, by its type and options. Formulas and rollups hold what their
result does. A lookup is judged by the result reported for the field itself; the linked table is not
consulted. -/

namespace RecordTypes

/-- The names of the choices, each once, in order. -/
def distinctNames (choices : List Choice) : List String :=
  (choices.map fun choice => choice.name).eraseDups

/-- Without choices to select from, a selection is any text. -/
def selected (choices : List Choice) : Scalar :=
  match distinctNames choices with
  | [] => .text
  | names => .oneOf names

def Shape.valueType : Shape → ValueType
  | .number _ precision => .one (.number (if precision == 0 then .whole else .real))
  | .choice .singleSelect choices => .one (selected choices)
  | .choice .multipleSelects choices => .many (selected choices)
  | .rating max _ _ => .one (.number (.stars max))
  | shape => shape.type.valueType

/-- What a lookup holds whose result is this field. The result of a formula or rollup is looked at
in its place, once. -/
def Field.gathered : Field → ValueType
  | .plain _ (.unresolved .formula) | .plain _ (.unresolved .rollup) => .mixed
  | .plain _ shape => shape.valueType.gathered
  | .computed _ .lookup _ => .many .text
  | .computed _ _ (.plain _ shape) => shape.valueType.gathered
  | .computed _ _ (.computed ..) => .many .text

def Field.valueType : Field → ValueType
  | .plain _ shape => shape.valueType
  | .computed _ .lookup result => result.gathered
  | .computed _ _ result => result.valueType

def Field.choiceNames : Field → List String
  | .plain _ (.choice .singleSelect choices) | .plain _ (.choice .multipleSelects choices) =>
    distinctNames choices
  | _ => []

def Field.hasEnumeration (field : Field) : Bool := !field.choiceNames.isEmpty

def Field.isInteger : Field → Bool
  | .plain _ (.number _ precision) => precision == 0
  | _ => false

inductive Element where
  | numeric
  | boolean
  | attachment
  | string
  | unknown
  deriving DecidableEq

instance : Named Element where
  all := [.numeric, .boolean, .attachment, .string, .unknown]
  name
    | .numeric => "numeric"
    | .boolean => "boolean"
    | .attachment => "attachment"
    | .string => "string"
    | .unknown => "unknown"

def ValueType.element : ValueType → Element
  | .many (.number _) => .numeric
  | .many .boolean => .boolean
  | .many .attachment => .attachment
  | .mixed => .unknown
  | _ => .string

def Field.element (field : Field) : Element :=
  match field.result? with
  | some result => result.gathered.element
  | none => .unknown

end RecordTypes
