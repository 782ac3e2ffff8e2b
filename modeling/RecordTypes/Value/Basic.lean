import RecordTypes.Metadata.FieldType

/-! What the cells of a field hold. A cell holds one scalar, or a list of scalars of one kind, or a
list of which nothing more is known. -/

namespace RecordTypes

/-- Numbers by what is known of them: whole numbers, those counted up for each record, those that
count records, ratings up to a maximum, and numbers of seconds. -/
inductive Number where
  | real
  | whole
  | serial
  | tally
  | stars (max : Nat)
  | span
  deriving DecidableEq

inductive Scalar where
  | boolean
  | text
  | email
  | number (n : Number)
  | date
  | instant
  | oneOf (names : List String)
  | collaborator
  | attachment
  | barcode
  | button
  | anything
  deriving DecidableEq

inductive ValueType where
  | one (s : Scalar)
  | many (s : Scalar)
  | mixed
  deriving DecidableEq

/-- What a lookup holds that finds such values: the kind of a list survives only for attachments,
numbers and truth values, and all else is listed as text. -/
def ValueType.gathered : ValueType → ValueType
  | .one (.number n) => .many (.number n)
  | .one .boolean => .many .boolean
  | .many .attachment => .many .attachment
  | _ => .many .text

def BasicType.valueType : BasicType → ValueType
  | .checkbox => .one .boolean
  | .singleLineText | .multilineText | .richText | .phoneNumber | .url => .one .text
  | .email => .one .email
  | .count => .one (.number .tally)
  | .autoNumber => .one (.number .serial)
  | .singleCollaborator | .createdBy | .lastModifiedBy => .one .collaborator
  | .multipleCollaborators => .many .collaborator
  | .multipleAttachments => .many .attachment
  | .multipleRecordLinks => .many .text
  | .barcode => .one .barcode
  | .button => .one .button

/-- What the cells hold as far as the type alone tells, without its options. -/
def FieldType.valueType : FieldType → ValueType
  | .basic type => type.valueType
  | .number _ => .one (.number .real)
  | .temporal .date => .one .date
  | .temporal .dateTime | .timestamp _ => .one .instant
  | .computed .formula | .computed .rollup => .one .text
  | .computed .lookup => .mixed
  | .choice .singleSelect => .one .text
  | .choice .multipleSelects => .many .text
  | .choice .externalSyncSource => .one .anything
  | .duration => .one (.number .span)
  | .rating => .one (.number .whole)

end RecordTypes
