import RecordTypes.Metadata.Named

/-! The types a field can have, in the families that share a form of options. -/

namespace RecordTypes

/-- Types whose options say nothing about the values. -/
inductive BasicType where
  | autoNumber
  | barcode
  | button
  | checkbox
  | count
  | createdBy
  | email
  | lastModifiedBy
  | multilineText
  | multipleAttachments
  | multipleCollaborators
  | multipleRecordLinks
  | phoneNumber
  | richText
  | singleCollaborator
  | singleLineText
  | url
  deriving DecidableEq

instance : Named BasicType where
  all := [.autoNumber, .barcode, .button, .checkbox, .count, .createdBy, .email, .lastModifiedBy,
    .multilineText, .multipleAttachments, .multipleCollaborators, .multipleRecordLinks,
    .phoneNumber, .richText, .singleCollaborator, .singleLineText, .url]
  name
    | .autoNumber => "autoNumber"
    | .barcode => "barcode"
    | .button => "button"
    | .checkbox => "checkbox"
    | .count => "count"
    | .createdBy => "createdBy"
    | .email => "email"
    | .lastModifiedBy => "lastModifiedBy"
    | .multilineText => "multilineText"
    | .multipleAttachments => "multipleAttachments"
    | .multipleCollaborators => "multipleCollaborators"
    | .multipleRecordLinks => "multipleRecordLinks"
    | .phoneNumber => "phoneNumber"
    | .richText => "richText"
    | .singleCollaborator => "singleCollaborator"
    | .singleLineText => "singleLineText"
    | .url => "url"

/-- Numbers shown with a chosen number of decimals. -/
inductive NumberType where
  | number
  | currency
  | percent
  deriving DecidableEq

instance : Named NumberType where
  all := [.number, .currency, .percent]
  name
    | .number => "number"
    | .currency => "currency"
    | .percent => "percent"

inductive TemporalType where
  | date
  | dateTime
  deriving DecidableEq

instance : Named TemporalType where
  all := [.date, .dateTime]
  name
    | .date => "date"
    | .dateTime => "dateTime"

/-- Moments that the service keeps itself. -/
inductive TimestampType where
  | createdTime
  | lastModifiedTime
  deriving DecidableEq

instance : Named TimestampType where
  all := [.createdTime, .lastModifiedTime]
  name
    | .createdTime => "createdTime"
    | .lastModifiedTime => "lastModifiedTime"

/-- Types whose values are computed and described by a result. -/
inductive ComputedType where
  | formula
  | rollup
  | lookup
  deriving DecidableEq

instance : Named ComputedType where
  all := [.formula, .rollup, .lookup]
  name
    | .formula => "formula"
    | .rollup => "rollup"
    | .lookup => "multipleLookupValues"

inductive ChoiceType where
  | singleSelect
  | multipleSelects
  | externalSyncSource
  deriving DecidableEq

instance : Named ChoiceType where
  all := [.singleSelect, .multipleSelects, .externalSyncSource]
  name
    | .singleSelect => "singleSelect"
    | .multipleSelects => "multipleSelects"
    | .externalSyncSource => "externalSyncSource"

inductive FieldType where
  | basic (type : BasicType)
  | number (type : NumberType)
  | temporal (type : TemporalType)
  | timestamp (type : TimestampType)
  | computed (type : ComputedType)
  | choice (type : ChoiceType)
  | duration
  | rating
  deriving DecidableEq

instance : Named FieldType where
  all := (Named.all.map .basic) ++ (Named.all.map .number) ++ (Named.all.map .temporal) ++
    (Named.all.map .timestamp) ++ (Named.all.map .computed) ++ (Named.all.map .choice) ++
    [.duration, .rating]
  name
    | .basic type => Named.name type
    | .number type => Named.name type
    | .temporal type => Named.name type
    | .timestamp type => Named.name type
    | .computed type => Named.name type
    | .choice type => Named.name type
    | .duration => "duration"
    | .rating => "rating"

/-- Whether values are set by the service alone, so that no client can write them. -/
def FieldType.isReadOnly : FieldType → Bool
  | .basic .autoNumber | .basic .button | .basic .count | .basic .createdBy
  | .basic .lastModifiedBy | .timestamp _ | .computed _ | .choice .externalSyncSource => true
  | _ => false

def FieldType.isNumeric : FieldType → Bool
  | .basic .autoNumber | .basic .count | .number _ | .duration | .rating => true
  | _ => false

/-- Whether the values are those of a single result, not a list of them. -/
def ComputedType.isSingle : ComputedType → Bool
  | .formula | .rollup => true
  | .lookup => false

end RecordTypes
