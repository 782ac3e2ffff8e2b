import RecordTypes.Metadata.Base

/-! The types that the declared type of a field is made from, and the shapes of values that several
tables share. -/

namespace RecordTypes

/-- The type of a field and those of the results that decide what its cells hold. -/
def Field.referencedTypes : Field → List FieldType
  | .plain _ shape => [shape.type]
  | .computed _ .lookup result =>
    if result.type == .basic .multipleAttachments then
      [.computed .lookup, .basic .multipleAttachments]
    else [.computed .lookup]
  | .computed _ type result => .computed type :: result.referencedTypes

/-- Shapes of values that get a declaration of their own. -/
inductive SharedShape where
  | attachment
  | collaborator
  | barcode
  | button
  | email
  deriving DecidableEq

instance : Named SharedShape where
  all := [.attachment, .collaborator, .barcode, .button, .email]
  name
    | .attachment => "attachment"
    | .collaborator => "collaborator"
    | .barcode => "barcode"
    | .button => "button"
    | .email => "email"

def SharedShape.types : SharedShape → List FieldType
  | .attachment => [.basic .multipleAttachments]
  | .collaborator =>
    [.basic .singleCollaborator, .basic .multipleCollaborators, .basic .lastModifiedBy,
     .basic .createdBy]
  | .barcode => [.basic .barcode]
  | .button => [.basic .button]
  | .email => [.basic .email]

def Field.references (field : Field) (shape : SharedShape) : Bool :=
  field.referencedTypes.any fun type => shape.types.contains type

def anyReferences (fields : List Field) (shape : SharedShape) : Bool :=
  fields.any fun field => field.references shape

end RecordTypes
