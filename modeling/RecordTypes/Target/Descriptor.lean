import RecordTypes.Target.Declaration

/-! Fields of which only names and the names of types are known, and perhaps some of their options.
A type may have no meaning here, and the options that some types need need not be there. -/

namespace RecordTypes

/-- The options that decide what cells hold, as far as they are given. -/
structure StatedOptions where
  precision : Option Nat
  max : Option Nat
  choices : Option (List Choice)

def StatedOptions.none : StatedOptions := ⟨.none, .none, .none⟩

/-- Options that hold nothing but a result are options too. -/
inductive Descriptor where
  | bare (name : Option String) (type : String)
  | stating (name : Option String) (type : String) (options : StatedOptions)
  | holding (name : Option String) (type : String) (result : Descriptor)

structure UnrecognizedType where
  label : String
  type : String

def UnrecognizedType.message (u : UnrecognizedType) : String :=
  "Unrecognized field type: " ++ u.type ++ " (on field '" ++ u.label ++ "')"

inductive DescriptorFault where
  | unrecognized (u : UnrecognizedType)
  | lacksOption (option : String) (hasOptions : Bool)

namespace Descriptor

def name : Descriptor → Option String
  | .bare name _ | .stating name _ _ | .holding name _ _ => name

def type : Descriptor → String
  | .bare _ type | .stating _ type _ | .holding _ type _ => type

def label (d : Descriptor) : String := labelOf d.name

def result? : Descriptor → Option Descriptor
  | .bare .. | .stating .. => none
  | .holding _ _ result => some result

def options : Descriptor → StatedOptions
  | .stating _ _ options => options
  | .bare .. | .holding .. => .none

def hasOptions : Descriptor → Bool
  | .bare .. => false
  | .stating .. | .holding .. => true

end Descriptor

/-- The option without which values of a type cannot be written. -/
def Target.neededOption? (target : Target) : FieldType → Option String
  | .number _ => if target == .interface then none else some "precision"
  | .rating => if target.mode == .schemas then some "max" else none
  | .choice .singleSelect | .choice .multipleSelects => some "choices"
  | _ => none

/-- What cells of a type hold by the option that decides it, if that is given. -/
def StatedOptions.valueType? (options : StatedOptions) : FieldType → Option ValueType
  | .number _ => options.precision.map fun precision =>
    .one (.number (if precision == 0 then .whole else .real))
  | .rating => options.max.map fun max => .one (.number (.stars max))
  | .choice .singleSelect => options.choices.map fun choices => .one (selected choices)
  | .choice .multipleSelects => options.choices.map fun choices => .many (selected choices)
  | _ => .none

namespace Descriptor

/-- What cells hold whose type has no results to go by. -/
def plainValue (target : Target) (d : Descriptor) (type : FieldType) :
    Except DescriptorFault ValueType :=
  match d.options.valueType? type with
  | some value => .ok value
  | none =>
    match target.neededOption? type with
    | some option => .error (.lacksOption option d.hasOptions)
    | none => .ok type.valueType

/-- What a lookup is judged by whose result is this field. The result of a formula or rollup is
looked at in its place, once. -/
def evidence? (d : Descriptor) : Option Descriptor :=
  match (Named.ofName? d.type : Option ComputedType) with
  | some type => if type.isSingle then d.result? else some d
  | none => some d

/-- What a lookup holds that is judged by this field. Only of numbers more is asked than their type,
and a type without meaning is listed as text. -/
def judged (target : Target) (d : Descriptor) : Except DescriptorFault ValueType :=
  match (Named.ofName? d.type : Option FieldType) with
  | none => .ok (.many .text)
  | some type =>
    if type.isNumeric then (d.plainValue target type).map ValueType.gathered
    else .ok type.valueType.gathered

/-- What a lookup holds whose result is this field. -/
def gathered (target : Target) (d : Descriptor) : Except DescriptorFault ValueType :=
  match d.evidence? with
  | none => .ok .mixed
  | some evidence => evidence.judged target

def unrecognized (d : Descriptor) : DescriptorFault := .unrecognized ⟨d.label, d.type⟩

def valueType (target : Target) : Descriptor → Except DescriptorFault ValueType
  | d@(.bare _ type) | d@(.stating _ type _) =>
    match (Named.ofName? type : Option FieldType) with
    | some known => d.plainValue target known
    | none => .error d.unrecognized
  | d@(.holding _ type result) =>
    match (Named.ofName? type : Option FieldType) with
    | some (.computed .lookup) => result.gathered target
    | some (.computed _) => result.valueType target
    | some known => d.plainValue target known
    | none => .error d.unrecognized

/-- The name of the enumeration that is declared for a selection among choices. -/
def enumeration? (d : Descriptor) (tableName : String) : Option String :=
  match (Named.ofName? d.type : Option FieldType), d.options.choices with
  | some (.choice .singleSelect), some choices | some (.choice .multipleSelects), some choices =>
    if (distinctNames choices).isEmpty then none
    else some (pascalName tableName ++ pascalName d.label)
  | _, _ => none

def expression (target : Target) (tableName : String) (d : Descriptor) :
    Except DescriptorFault String :=
  (d.valueType target).map (target.expression (d.enumeration? tableName))

end Descriptor

def Shape.stated : Shape → StatedOptions
  | .number _ precision => { StatedOptions.none with precision := precision }
  | .rating max _ _ => { StatedOptions.none with max := max }
  | .choice _ choices => { StatedOptions.none with choices := choices }
  | _ => .none

/-- A field with what is known of it apart from its being well-formed. -/
def Field.descriptor : Field → Descriptor
  | .plain heading (.timestamp type (some result)) =>
    .holding heading.name (Named.name type)
      (.stating result.heading.name (Named.name result.format.type) .none)
  | .plain heading shape => .stating heading.name (Named.name shape.type) shape.stated
  | .computed heading type result => .holding heading.name (Named.name type) result.descriptor

/-- A computed field around another one. -/
structure Wrapper where
  name : Option String
  type : ComputedType

/-- The field as the result of the innermost wrapper, which comes last. -/
def Descriptor.wrapped (d : Descriptor) (wrappers : List Wrapper) : Descriptor :=
  wrappers.foldr (fun wrapper inner => .holding wrapper.name (Named.name wrapper.type) inner) d

end RecordTypes
