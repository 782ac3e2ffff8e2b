import RecordTypes.Json.Basic
import RecordTypes.Metadata.FieldType

/-! A field of a table: what it is called, and its type together with the options of that type. A
computed field whose result is known holds the field that describes the result. -/

namespace RecordTypes

structure Choice where
  id : String
  name : String
  color : Option String

inductive DateStyle where
  | localized
  | friendly
  | us
  | european
  | iso
  deriving DecidableEq

instance : Named DateStyle where
  all := [.localized, .friendly, .us, .european, .iso]
  name
    | .localized => "local"
    | .friendly => "friendly"
    | .us => "us"
    | .european => "european"
    | .iso => "iso"

inductive ClockStyle where
  | twelveHours
  | twentyFourHours
  deriving DecidableEq

instance : Named ClockStyle where
  all := [.twelveHours, .twentyFourHours]
  name
    | .twelveHours => "12hour"
    | .twentyFourHours => "24hour"

structure DateFormat where
  style : DateStyle
  format : String

structure TimeFormat where
  style : ClockStyle
  format : String

inductive DurationFormat where
  | minutes
  | seconds
  | tenths
  | hundredths
  | thousandths
  deriving DecidableEq

instance : Named DurationFormat where
  all := [.minutes, .seconds, .tenths, .hundredths, .thousandths]
  name
    | .minutes => "h:mm"
    | .seconds => "h:mm:ss"
    | .tenths => "h:mm:ss.S"
    | .hundredths => "h:mm:ss.SS"
    | .thousandths => "h:mm:ss.SSS"

inductive RatingIcon where
  | star
  | heart
  | thumbsUp
  | flag
  | dot
  deriving DecidableEq

instance : Named RatingIcon where
  all := [.star, .heart, .thumbsUp, .flag, .dot]
  name
    | .star => "star"
    | .heart => "heart"
    | .thumbsUp => "thumbsUp"
    | .flag => "flag"
    | .dot => "dot"

inductive RatingColor where
  | yellow
  | orange
  | red
  | pink
  | purple
  | blue
  | cyan
  | teal
  | green
  | gray
  deriving DecidableEq

instance : Named RatingColor where
  all := [.yellow, .orange, .red, .pink, .purple, .blue, .cyan, .teal, .green, .gray]
  name
    | .yellow => "yellowBright"
    | .orange => "orangeBright"
    | .red => "redBright"
    | .pink => "pinkBright"
    | .purple => "purpleBright"
    | .blue => "blueBright"
    | .cyan => "cyanBright"
    | .teal => "tealBright"
    | .green => "greenBright"
    | .gray => "grayBright"

/-- What a field is called. The field that describes a result has neither id nor name. -/
structure Heading where
  id : Option String
  name : Option String
  description : Option String

inductive TemporalFormat where
  | date (date : DateFormat)
  | dateTime (date : DateFormat) (time : TimeFormat) (timeZone : String)

def TemporalFormat.type : TemporalFormat → TemporalType
  | .date _ => .date
  | .dateTime .. => .dateTime

structure Temporal where
  heading : Heading
  format : TemporalFormat

/-- A type with its options, except for a computed type with a known result. -/
inductive Shape where
  | basic (type : BasicType) (options : Option Members)
  | number (type : NumberType) (precision : Nat)
  | temporal (format : TemporalFormat)
  | timestamp (type : TimestampType) (result : Option Temporal)
  | unresolved (type : ComputedType)
  | choice (type : ChoiceType) (choices : List Choice)
  | duration (format : DurationFormat)
  | rating (max : Nat) (icon : RatingIcon) (color : RatingColor)

def Shape.type : Shape → FieldType
  | .basic type _ => .basic type
  | .number type _ => .number type
  | .temporal format => .temporal format.type
  | .timestamp type _ => .timestamp type
  | .unresolved type => .computed type
  | .choice type _ => .choice type
  | .duration _ => .duration
  | .rating .. => .rating

inductive Field where
  | plain (heading : Heading) (shape : Shape)
  | computed (heading : Heading) (type : ComputedType) (result : Field)

def Field.heading : Field → Heading
  | .plain heading _ => heading
  | .computed heading _ _ => heading

def Field.type : Field → FieldType
  | .plain _ shape => shape.type
  | .computed _ type _ => .computed type

def Field.typeName (field : Field) : String := Named.name field.type

/-- The name of a field, or a stand-in where there is none. -/
def labelOf (name : Option String) : String :=
  match name with
  | some s => if s.isEmpty then "<result>" else s
  | none => "<result>"

def Field.label (field : Field) : String := labelOf field.heading.name

def Field.result? : Field → Option Field
  | .computed _ _ result => some result
  | .plain _ (.timestamp _ (some result)) => some (.plain result.heading (.temporal result.format))
  | .plain .. => none

def Field.isReadOnly (field : Field) : Bool := field.type.isReadOnly

end RecordTypes
