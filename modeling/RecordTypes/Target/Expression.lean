import RecordTypes.Target.Basic
import RecordTypes.Value.Basic

/-! Types of values as expressions of the four targets. Where values are validated, a selection goes
by the name of its declared enumeration, if it has one. -/

namespace RecordTypes

def alternativesText (d : Dialect) (separator : String) (names : List String) : String :=
  separator.intercalate (names.map d.quoted)

def Number.zod : Number → String
  | .real | .span => "z.number()"
  | .whole => "z.number().int()"
  | .serial => "z.number().int().positive()"
  | .tally => "z.number().int().nonnegative()"
  | .stars max => "z.number().int().min(0).max(" ++ String.ofList (Nat.toDigits 10 max) ++ ")"

def Number.typedDict : Number → String
  | .real | .span => "float"
  | _ => "int"

def Number.model : Number → String
  | .real => "float"
  | .whole => "int"
  | .serial => "Annotated[int, Field(gt=0)]"
  | .tally => "Annotated[int, Field(ge=0)]"
  | .stars max =>
    "Annotated[int, Field(ge=0, le=" ++ String.ofList (Nat.toDigits 10 max) ++ ")]"
  | .span => "timedelta"

def Scalar.interface : Scalar → String
  | .boolean => "boolean"
  | .text | .email | .date | .instant => "string"
  | .number _ => "number"
  | .oneOf names => alternativesText typescriptDialect " | " names
  | .collaborator => "IAirtableCollaborator"
  | .attachment => "IAirtableAttachment"
  | .barcode => "\x7b text: string; type: string \x7d"
  | .button => "\x7b label: string; url?: string \x7d"
  | .anything => "unknown"

def Scalar.zod (enumeration? : Option String) : Scalar → String
  | .boolean => "z.boolean()"
  | .text => "z.string()"
  | .email => "z.string().email()"
  | .number n => n.zod
  | .date | .instant => "z.coerce.date()"
  | .oneOf names =>
    enumeration?.getD ("z.enum([" ++ alternativesText typescriptDialect ", " names ++ "])")
  | .collaborator => "AirtableCollaboratorSchema"
  | .attachment => "AirtableAttachmentSchema"
  | .barcode => "z.object(\x7b text: z.string(), type: z.string() \x7d)"
  | .button => "z.object(\x7b label: z.string(), url: z.string().optional() \x7d)"
  | .anything => "z.unknown()"

def literalText (names : List String) : String :=
  "Literal[" ++ alternativesText pythonDialect ", " names ++ "]"

def Scalar.typedDict : Scalar → String
  | .boolean => "bool"
  | .text | .email | .date | .instant => "str"
  | .number n => n.typedDict
  | .oneOf names => literalText names
  | .collaborator => "AirtableCollaborator"
  | .attachment => "AirtableAttachment"
  | .barcode => "AirtableBarcode"
  | .button => "AirtableButton"
  | .anything => "Any"

def Scalar.model (enumeration? : Option String) : Scalar → String
  | .boolean => "bool"
  | .text => "str"
  | .email => "AirtableEmail"
  | .number n => n.model
  | .date => "date"
  | .instant => "datetime"
  | .oneOf names => enumeration?.getD (literalText names)
  | .collaborator => "AirtableCollaborator"
  | .attachment => "AirtableAttachment"
  | .barcode => "AirtableBarcode"
  | .button => "AirtableButton"
  | .anything => "Any"

namespace Target

def scalar (target : Target) (enumeration? : Option String) (s : Scalar) : String :=
  match target with
  | .interface => s.interface
  | .zod => s.zod enumeration?
  | .typedDict => s.typedDict
  | .model => s.model enumeration?

def list (element : String) : Target → String
  | .interface => "Array<" ++ element ++ ">"
  | .zod => "z.array(" ++ element ++ ")"
  | .typedDict | .model => "list[" ++ element ++ "]"

def mixedList : Target → String
  | .interface => "Array<string | boolean | number | Record<string, unknown>>"
  | .zod =>
    "z.union([z.array(z.string()), z.array(z.boolean()), z.array(z.number()), " ++
      "z.array(z.record(z.unknown()))])"
  | .typedDict | .model => "list[str | bool | int | float | dict[str, Any]]"

def expression (target : Target) (enumeration? : Option String) : ValueType → String
  | .one s => target.scalar enumeration? s
  | .many s => target.list (target.scalar enumeration? s)
  | .mixed => target.mixedList

end Target

end RecordTypes
