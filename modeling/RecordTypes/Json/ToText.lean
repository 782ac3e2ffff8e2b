import RecordTypes.Decimal.Shortest
import RecordTypes.Json.Basic
import RecordTypes.Text.Quoted
import RecordTypes.Text.Printable

/-! The texts of a JSON value. As JSON it is pure ASCII, either on one line or spread over lines
with an indent of four blanks a level. In a message it is written out for people: strings between
apostrophes, and the names `None`, `True` and `False`. -/

namespace RecordTypes

/-- Characters beyond the sixteen-bit range are written as a surrogate pair. -/
def asciiEscape (c : Char) : List Char :=
  match escapeLetter? c with
  | some letter => [backslash, letter]
  | none =>
    let n := c.toNat
    if 0x20 ≤ n && n < 0x7F then [c]
    else if n < 0x10000 then unicodeEscape n
    else
      unicodeEscape (0xD800 + (n - 0x10000) / 0x400) ++
        unicodeEscape (0xDC00 + (n - 0x10000) % 0x400)

def asciiQuoted (s : List Char) : List Char :=
  quotationMark :: (s.flatMap asciiEscape ++ [quotationMark])

def intText (n : Int) : List Char :=
  if n < 0 then '-' :: Nat.toDigits 10 n.natAbs else Nat.toDigits 10 n.natAbs

def jsonFloatText (x : Float) : List Char :=
  if x.isNaN then "NaN".toList
  else if x.isInf then (if x < 0 then "-Infinity".toList else "Infinity".toList)
  else finiteText x

structure JsonLayout where
  opening : Nat → List Char
  separator : Nat → List Char
  closing : Nat → List Char

def lineBreak (level : Nat) : List Char := '\n' :: List.replicate (4 * level) ' '

def JsonLayout.spread : JsonLayout where
  opening level := lineBreak (level + 1)
  separator level := ',' :: lineBreak (level + 1)
  closing level := lineBreak level

def JsonLayout.inline : JsonLayout where
  opening _ := []
  separator _ := [',', ' ']
  closing _ := []

mutual

def Json.textAt (layout : JsonLayout) (level : Nat) : Json → List Char
  | .null => "null".toList
  | .bool b => if b then "true".toList else "false".toList
  | .int n => intText n
  | .float x => jsonFloatText x
  | .str s => asciiQuoted s.toList
  | .arr [] => ['[', ']']
  | .arr (item :: items) =>
    '[' :: (layout.opening level ++ item.textAt layout (level + 1) ++
      Json.itemsText layout level items ++ layout.closing level ++ [']'])
  | .obj [] => ['\x7b', '\x7d']
  | .obj ((key, value) :: members) =>
    '\x7b' :: (layout.opening level ++ asciiQuoted key.toList ++ [':', ' '] ++
      value.textAt layout (level + 1) ++ Json.membersText layout level members ++
      layout.closing level ++ ['\x7d'])

def Json.itemsText (layout : JsonLayout) (level : Nat) : List Json → List Char
  | [] => []
  | item :: items =>
    layout.separator level ++ item.textAt layout (level + 1) ++ Json.itemsText layout level items

def Json.membersText (layout : JsonLayout) (level : Nat) : Members → List Char
  | [] => []
  | (key, value) :: members =>
    layout.separator level ++ asciiQuoted key.toList ++ [':', ' '] ++
      value.textAt layout (level + 1) ++ Json.membersText layout level members

end

def Json.text (value : Json) : List Char := value.textAt .inline 0

def Json.spreadText (value : Json) : List Char := value.textAt .spread 0

def byteEscape (n : Nat) : List Char :=
  [backslash, 'x', hexDigit (n / 16 % 16), hexDigit (n % 16)]

/-- A character by its code point, in the fewest of two, four or eight hexadecimal digits. -/
def codePointEscape (c : Char) : List Char :=
  let n := c.toNat
  if n < 0x100 then byteEscape n
  else if n < 0x10000 then unicodeEscape n
  else backslash :: 'U' :: (hexQuad (n / 0x10000) ++ hexQuad (n % 0x10000))

def displayEscape (quote c : Char) : List Char :=
  if c == quote || c == backslash then [backslash, c]
  else if c == '\n' then [backslash, 'n']
  else if c == '\r' then [backslash, 'r']
  else if c == '\t' then [backslash, 't']
  else if isPrintable c then [c]
  else codePointEscape c

/-- Apostrophes stand around a string unless it holds one and no quotation mark. -/
def displayQuoted (s : List Char) : List Char :=
  let quote := if s.contains apostrophe && !s.contains quotationMark then quotationMark
    else apostrophe
  quote :: (s.flatMap (displayEscape quote) ++ [quote])

def displayFloat (x : Float) : List Char :=
  if x.isNaN then "nan".toList
  else if x.isInf then (if x < 0 then "-inf".toList else "inf".toList)
  else finiteText x

mutual

def Json.display : Json → List Char
  | .null => "None".toList
  | .bool b => if b then "True".toList else "False".toList
  | .int n => intText n
  | .float x => displayFloat x
  | .str s => displayQuoted s.toList
  | .arr items => '[' :: (Json.displayItems true items ++ [']'])
  | .obj members => '\x7b' :: (Json.displayMembers true members ++ ['\x7d'])

def Json.displayItems (first : Bool) : List Json → List Char
  | [] => []
  | item :: items =>
    (if first then [] else [',', ' ']) ++ item.display ++ Json.displayItems false items

def Json.displayMembers (first : Bool) : Members → List Char
  | [] => []
  | (key, value) :: members =>
    (if first then [] else [',', ' ']) ++ displayQuoted key.toList ++ [':', ' '] ++
      value.display ++ Json.displayMembers false members

end

/-- A value as a message quotes it: a string stands for itself. -/
def Json.inMessage : Json → List Char
  | .str s => s.toList
  | value => value.display

end RecordTypes
