import RecordTypes.Json.Token
import RecordTypes.Reading.Basic
import RecordTypes.Text.Blank

/-! Numbers and truth values, read leniently: a truth value is a number, a whole fraction is an
integer, and a text may spell either. -/

namespace RecordTypes

def isDigit (c : Char) : Bool := '0' ≤ c && c ≤ '9'

def trimWhiteSpace (s : List Char) : List Char :=
  ((s.dropWhile isWhiteSpace).reverse.dropWhile isWhiteSpace).reverse

/-- A plus at the front says nothing, but no minus may follow it. -/
def withoutPlus? : List Char → Option (List Char)
  | '+' :: '-' :: _ => none
  | '+' :: rest => some rest
  | s => some s

/-- What remains after a zero and the zeros and underscores that follow it. The last of them stays
where a point or the end comes next. -/
def afterZeros? (last : Char) : List Char → Option (List Char)
  | [] => some [last]
  | c :: rest =>
    if c == '0' || c == '_' then afterZeros? c rest
    else if c == '.' then some (last :: c :: rest)
    else if isDigit c || c == '-' then some (c :: rest)
    else none

def withoutLeadingZeros? : List Char → Option (List Char)
  | [] => none
  | c :: rest =>
    if c == '0' then afterZeros? c rest
    else if isDigit c || c == '-' then some (c :: rest)
    else none

/-- The text up to a point, if after it there are zeros and nothing else. -/
def withoutZeroFraction (s : List Char) : List Char :=
  match s.dropWhile (· != '.') with
  | '.' :: '0' :: zeros => if zeros.all (· == '0') then s.takeWhile (· != '.') else s
  | _ => s

/-- Underscores may be left out if each stands between two other characters. -/
def withoutUnderscores (s : List Char) : List Char :=
  let pieces := splitOnChar '_' s
  if pieces.all fun piece => !piece.isEmpty then pieces.flatten else s

/-- An integer stripped of all that adds nothing to its sign and its digits. -/
def plainNumeral? (s : List Char) : Option (List Char) := do
  let unsigned ← withoutPlus? (trimWhiteSpace s)
  let numeral ← withoutLeadingZeros? unsigned
  some (withoutUnderscores (withoutZeroFraction numeral))

def longestInteger : Nat := 4300

/-- A zero, or digits of which the first is none. -/
def readDigits (s : List Char) : Reading Nat :=
  let digits := s.takeWhile isDigit
  if s == ['0'] then .value 0
  else if digits.isEmpty || s.head? == some '0' then .fault .unreadableInteger
  else if longestInteger < digits.length then .fault .tooLarge
  else if digits.length < s.length then .fault .unreadableInteger
  else .value (digitsValue digits)

def readNumeral : List Char → Reading Int
  | '-' :: rest => (readDigits rest).map fun (n : Nat) => -(n : Int)
  | s => (readDigits s).map fun (n : Nat) => (n : Int)

def readIntegerText (s : List Char) : Reading Int :=
  match plainNumeral? s with
  | some numeral => readNumeral numeral
  | none => .fault .unreadableInteger

/-- Whole fractions are integers within the range of 64 bits. -/
def readIntegerFloat (x : Float) : Reading Int :=
  if isFinite x then
    match wholeValue? x with
    | some n =>
      if -0x8000000000000000 < n && n < 0x8000000000000000 then .value n else .fault .tooLarge
    | none => .fault .fractional
  else .fault .notFinite

def readInteger : Json → Reading Int
  | .int n => .value n
  | .bool b => .value (if b then 1 else 0)
  | .float x => readIntegerFloat x
  | .str s => readIntegerText s.toList
  | _ => .fault .notInteger

def readWithin (least greatest : Nat) (raw : Json) : Reading Nat :=
  (readInteger raw).check fun (n : Int) =>
    if n < least then .fault (.below least)
    else if (greatest : Int) < n then .fault (.above greatest)
    else .value n.toNat

/-- Integers beyond 64 bits are not looked at. -/
def readBooleanInteger (n : Int) : Reading Bool :=
  if n == 0 then .value false
  else if n == 1 then .value true
  else if -0x8000000000000000 ≤ n && n < 0x8000000000000000 then .fault .unreadableBoolean
  else .fault .notBoolean

def readBooleanText (s : String) : Reading Bool :=
  let s := s.map Char.toLower
  if ["0", "off", "f", "false", "n", "no"].contains s then .value false
  else if ["1", "on", "t", "true", "y", "yes"].contains s then .value true
  else .fault .unreadableBoolean

def readBoolean : Json → Reading Bool
  | .bool b => .value b
  | .int n => readBooleanInteger n
  | .float x =>
    match readIntegerFloat x with
    | .value n => readBooleanInteger n
    | .faulty _ => .fault .notBoolean
  | .str s => readBooleanText s
  | _ => .fault .notBoolean

end RecordTypes
