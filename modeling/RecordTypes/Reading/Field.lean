import RecordTypes.Metadata.Field
import RecordTypes.Reading.Guard
import RecordTypes.Reading.Number

/-! Fields read from JSON. The `type` of a field decides the form of its options, and the options of
a computed field may hold another field, its result. A guard tells how deep results may lie. -/

namespace RecordTypes

def readHeading (members : Members) : Reading Heading :=
  Heading.mk <$> optional "id" readText members <*> optional "name" readText members <*>
    optional "description" readText members

def readChoice : Json → Reading Choice :=
  readModel "ChoiceMetadata" fun members =>
    Choice.mk <$> required "id" readText members <*> required "name" readText members <*>
      optional "color" readText members

def readDateFormat : Json → Reading DateFormat :=
  readModel "DateFormat" fun members =>
    DateFormat.mk <$> required "name" (readName DateStyle) members <*>
      required "format" readText members

def readTimeFormat : Json → Reading TimeFormat :=
  readModel "TimeFormat" fun members =>
    TimeFormat.mk <$> required "name" (readName ClockStyle) members <*>
      required "format" readText members

def readTemporalFormat : TemporalType → Json → Reading TemporalFormat
  | .date =>
    readModel "DateOptions" fun members =>
      TemporalFormat.date <$> required "dateFormat" readDateFormat members
  | .dateTime =>
    readModel "DateTimeOptions" fun members =>
      TemporalFormat.dateTime <$> required "dateFormat" readDateFormat members <*>
        required "timeFormat" readTimeFormat members <*> required "timeZone" readText members

def readPrecision : Json → Reading Nat :=
  readModel "PrecisionOptions" (required "precision" (readWithin 0 8))

def readChoices : Json → Reading (List Choice) :=
  readModel "ChoiceOptions" (withDefault "choices" [] (readList readChoice))

def readDurationFormat : Json → Reading DurationFormat :=
  readModel "DurationOptions" (required "durationFormat" (readName DurationFormat))

def readRating : Json → Reading Shape :=
  readModel "RatingOptions" fun members =>
    Shape.rating <$> required "max" (readWithin 1 10) members <*>
      required "icon" (readName RatingIcon) members <*>
      required "color" (readName RatingColor) members

def readMembers : Json → Reading Members
  | .obj members => .value members
  | _ => .fault .notObject

/-- The form that the `type` of an object names. -/
def formOf (α : Type) [Named α] (members : Members) : Except Fault α :=
  match members.find? "type" with
  | none => .error .untagged
  | some (.str s) =>
    match Named.ofName? s with
    | some form => .ok form
    | none => .error (.unknownTag (.str s) (Named.names α))
  | some tag => .error (.unknownTag tag (Named.names α))

def readTemporalAs (type : TemporalType) (members : Members) : Reading Temporal :=
  Temporal.mk <$> readHeading members <*> required "options" (readTemporalFormat type) members

def readTemporal (guard : Guard) : Json → Reading Temporal
  | .obj members =>
    match formOf TemporalType members with
    | .error fault => .fault fault
    | .ok type =>
      (guard.opening (.temporal type) (readTemporalAs type members)).under (.tag (Named.name type))
  | _ => .fault .untaggable

def readTimestampResult (guard : Guard) : Json → Reading (Option Temporal) :=
  readModel "TemporalResultOptions" (optional "result" (readTemporal guard.below))

/-- The options of every type but the computed ones. -/
def readShape (guard : Guard) (members : Members) : FieldType → Reading Shape
  | .basic type => Shape.basic type <$> optional "options" readMembers members
  | .number type => Shape.number type <$> required "options" readPrecision members
  | .temporal type => Shape.temporal <$> required "options" (readTemporalFormat type) members
  | .timestamp type =>
    Shape.timestamp type <$> withDefault "options" none (readTimestampResult guard) members
  | .computed type => .value (.unresolved type)
  | .choice type => Shape.choice type <$> required "options" readChoices members
  | .duration => Shape.duration <$> required "options" readDurationFormat members
  | .rating => required "options" readRating members

def rawResult (members : Members) : Reading (Option Json) :=
  withDefault "options" none (readModel "ComputedOptions" (optional "result" .value)) members

theorem sizeOf_rawResult_lt {members : Members} {raw : Json}
    (h : rawResult members = .value (some raw)) : sizeOf raw < sizeOf members := by
  unfold rawResult optional withDefault at h
  split at h
  · rename_i options hoptions
    have hlt := Members.sizeOf_spelled?_lt hoptions
    cases options with
    | obj inner =>
      simp only [readModel] at h
      split at h
      · rename_i value hvalue
        have := Members.sizeOf_spelled?_lt hvalue
        have : sizeOf raw = sizeOf value := by
          cases value <;> simp_all [readOrNull, Reading.under, Functor.map, Reading.map]
        simp only [Json.obj.sizeOf_spec] at hlt
        omega
      · simp [Reading.under] at h
    | _ => simp [readModel, Reading.under, Reading.fault] at h
  · simp at h

/-- A computed field without a known result has no options to read. -/
def readFieldWith (guard : Guard) : Json → Reading Field
  | .obj members =>
    match formOf FieldType members with
    | .error fault => .fault fault
    | .ok (.computed type) =>
      Reading.under (.tag (Named.name type)) <| guard.opening (.computed type) <|
        match _h : rawResult members with
        | .value (some raw) =>
          (Field.computed · type ·) <$> readHeading members <*>
            ((readFieldWith guard.below raw).under (.key "result")).under (.key "options")
        | .value none => (Field.plain · (.unresolved type)) <$> readHeading members
        | .faulty issues => Field.plain <$> readHeading members <*> .faulty issues
    | .ok type =>
      Reading.under (.tag (Named.name type)) <| guard.opening type <|
        Field.plain <$> readHeading members <*> readShape guard members type
  | _ => .fault .untaggable
termination_by raw => sizeOf raw
decreasing_by
  have := sizeOf_rawResult_lt _h
  simp only [Json.obj.sizeOf_spec]
  omega

def readField : Json → Reading Field := readFieldWith .standard

end RecordTypes
