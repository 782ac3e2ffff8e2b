import RecordTypes.Decimal.Shortest
import RecordTypes.Json.Basic
import RecordTypes.Text.Quoted

/-! JSON text cut into tokens, one character at a time. Between tokens only blanks, tabs and line
ends may stand; a string holds no control character below the blank; a bare word is a number or one
of six names, three of which are values beyond the finite numbers. -/

namespace RecordTypes

inductive Token where
  | openArray
  | closeArray
  | openObject
  | closeObject
  | comma
  | colon
  | str (s : String)
  | scalar (value : Json)

/-- What the lexer has read of the token it is in. Texts are kept backwards. -/
inductive LexState where
  | between
  | word (read : List Char)
  | text (read : List Char)
  | escape (read : List Char)
  /-- In an escaped code unit of which `left` digits are still to come; `unit` is their value so far
  and `high` a high surrogate right before it. -/
  | code (read : List Char) (high : Option Nat) (unit : Nat) (left : Nat)
  /-- After a high surrogate, and after the backslash that may begin its other half. -/
  | afterHigh (read : List Char) (high : Nat)
  | escapeAfterHigh (read : List Char) (high : Nat)

def hexValue? (c : Char) : Option Nat :=
  let n := c.toNat
  if 48 ≤ n && n ≤ 57 then some (n - 48)
  else if 97 ≤ n && n ≤ 102 then some (n - 87)
  else if 65 ≤ n && n ≤ 70 then some (n - 55)
  else none

def escaped? (c : Char) : Option Char :=
  if c == quotationMark then some quotationMark
  else if c == backslash then some backslash
  else if c == '/' then some '/'
  else if c == 'n' then some '\n'
  else if c == 'r' then some '\r'
  else if c == 't' then some '\t'
  else if c == 'b' then some '\x08'
  else if c == 'f' then some '\x0c'
  else none

def digitsValue (digits : List Char) : Nat :=
  digits.foldl (fun n c => 10 * n + (c.toNat - 48)) 0

/-- Whole numbers are read up to this many digits. -/
def digitLimit : Nat := 4300

/-- The digits of a fraction or exponent: at least one, and what follows them. -/
def someDigits? (s : List Char) : Option (List Char × List Char) :=
  let digits := s.takeWhile Char.isDigit
  if digits.isEmpty then none else some (digits, s.dropWhile Char.isDigit)

def wholePart? (s : List Char) : Option (List Char × List Char) :=
  match s with
  | '0' :: rest => some (['0'], rest)
  | _ => someDigits? s

def fractionPart? (s : List Char) : Option (List Char × List Char) :=
  match s with
  | '.' :: rest => someDigits? rest
  | _ => some ([], s)

def exponentPart? (s : List Char) : Option (Int × List Char) :=
  match s with
  | [] => some (0, [])
  | c :: rest =>
    if c == 'e' || c == 'E' then
      match rest with
      | '-' :: digits => (someDigits? digits).map fun (ds, r) => (-(digitsValue ds : Nat), r)
      | '+' :: digits => (someDigits? digits).map fun (ds, r) => ((digitsValue ds : Nat), r)
      | digits => (someDigits? digits).map fun (ds, r) => ((digitsValue ds : Nat), r)
    else some (0, s)

/-- A number without point and exponent is whole, any other a fraction. -/
def numeral? (s : List Char) : Option Json := do
  let negative := s.head? == some '-'
  let unsigned := if negative then s.drop 1 else s
  let (whole, afterWhole) ← wholePart? unsigned
  if afterWhole.isEmpty then
    if whole.length ≤ digitLimit then
      some (.int (if negative then -(digitsValue whole : Nat) else digitsValue whole))
    else none
  else
    let (fraction, afterFraction) ← fractionPart? afterWhole
    let (exponent, rest) ← exponentPart? afterFraction
    if rest.isEmpty then
      let x := nearestDouble (digitsValue (whole ++ fraction)) (exponent - fraction.length)
      some (.float (if negative then -x else x))
    else none

def wordValue? (s : List Char) : Option Json :=
  if s == "null".toList then some .null
  else if s == "true".toList then some (.bool true)
  else if s == "false".toList then some (.bool false)
  else if s == "NaN".toList then some (.float (0.0 / 0.0))
  else if s == "Infinity".toList then some (.float (1.0 / 0.0))
  else if s == "-Infinity".toList then some (.float (-1.0 / 0.0))
  else numeral? s

def isJsonBlank (c : Char) : Bool := c == ' ' || c == '\t' || c == '\n' || c == '\r'

def isBareChar (c : Char) : Bool := c.isAlphanum || c == '-' || c == '+' || c == '.'

def punctuation? (c : Char) : Option Token :=
  if c == '[' then some .openArray
  else if c == ']' then some .closeArray
  else if c == '\x7b' then some .openObject
  else if c == '\x7d' then some .closeObject
  else if c == ',' then some .comma
  else if c == ':' then some .colon
  else none

def replacement : Char := Char.ofNat 0xFFFD

def isHigh (unit : Nat) : Bool := 0xD800 ≤ unit && unit < 0xDC00

def isLow (unit : Nat) : Bool := 0xDC00 ≤ unit && unit < 0xE000

def surrogatePair (high low : Nat) : Char :=
  Char.ofNat (0x10000 + (high - 0xD800) * 0x400 + (low - 0xDC00))

def afterUnit (read : List Char) (high : Option Nat) (unit : Nat) : LexState :=
  match high with
  | some h =>
    if isLow unit then .text (surrogatePair h unit :: read)
    else if isHigh unit then .afterHigh (replacement :: read) unit
    else .text (Char.ofNat unit :: replacement :: read)
  | none =>
    if isHigh unit then .afterHigh read unit
    else if isLow unit then .text (replacement :: read)
    else .text (Char.ofNat unit :: read)

def inText (read : List Char) (c : Char) : Option (LexState × List Token) :=
  if c == quotationMark then some (.between, [.str (String.ofList read.reverse)])
  else if c == backslash then some (.escape read, [])
  else if c.toNat < 0x20 then none
  else some (.text (c :: read), [])

def inEscape (read : List Char) (c : Char) : Option (LexState × List Token) :=
  if c == 'u' then some (.code read none 0 4, [])
  else (escaped? c).map fun e => (.text (e :: read), [])

def inBetween (c : Char) : Option (LexState × List Token) :=
  if isJsonBlank c then some (.between, [])
  else if c == quotationMark then some (.text [], [])
  else if isBareChar c then some (.word [c], [])
  else (punctuation? c).map fun t => (.between, [t])

def LexState.next : LexState → Char → Option (LexState × List Token)
  | .between, c => inBetween c
  | .word read, c =>
    if isBareChar c then some (.word (c :: read), [])
    else do
      let value ← wordValue? read.reverse
      let (state, tokens) ← inBetween c
      some (state, .scalar value :: tokens)
  | .text read, c => inText read c
  | .escape read, c => inEscape read c
  | .code read high unit left, c => do
    let d ← hexValue? c
    let unit := 16 * unit + d
    if left ≤ 1 then some (afterUnit read high unit, [])
    else some (.code read high unit (left - 1), [])
  | .afterHigh read high, c =>
    if c == backslash then some (.escapeAfterHigh read high, [])
    else inText (replacement :: read) c
  | .escapeAfterHigh read high, c =>
    if c == 'u' then some (.code read (some high) 0 4, [])
    else inEscape (replacement :: read) c

def LexState.finish : LexState → Option (List Token)
  | .between => some []
  | .word read => (wordValue? read.reverse).map fun value => [.scalar value]
  | _ => none

def LexState.tokens (state : LexState) : List Char → Option (List Token)
  | [] => state.finish
  | c :: rest => do
    let (state, found) ← state.next c
    let later ← state.tokens rest
    some (found ++ later)

def tokens (s : List Char) : Option (List Token) := LexState.between.tokens s

end RecordTypes
