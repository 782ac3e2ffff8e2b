/-! String literals of the two target languages. A literal never holds a bare quote of its own kind
and never a line feed or carriage return. -/

namespace RecordTypes

def apostrophe : Char := '\x27'

def quotationMark : Char := '\x22'

def backslash : Char := '\x5c'

def escapeSingle (c : Char) : List Char :=
  if c == backslash then [backslash, backslash]
  else if c == apostrophe then [backslash, apostrophe]
  else if c == '\n' then [backslash, 'n']
  else if c == '\r' then [backslash, 'r']
  else [c]

def singleQuoted (s : List Char) : List Char :=
  apostrophe :: (s.flatMap escapeSingle ++ [apostrophe])

def hexDigit (n : Nat) : Char :=
  if n < 10 then Char.ofNat (48 + n) else Char.ofNat (87 + n)

/-- Four hexadecimal digits, small letters, the highest first. -/
def hexQuad (n : Nat) : List Char :=
  [hexDigit (n / 4096 % 16), hexDigit (n / 256 % 16), hexDigit (n / 16 % 16), hexDigit (n % 16)]

def unicodeEscape (n : Nat) : List Char := backslash :: 'u' :: hexQuad n

/-- The letter that stands for a character after a backslash, where there is one. -/
def escapeLetter? (c : Char) : Option Char :=
  if c == quotationMark then some quotationMark
  else if c == backslash then some backslash
  else if c == '\n' then some 'n'
  else if c == '\r' then some 'r'
  else if c == '\t' then some 't'
  else if c == '\x08' then some 'b'
  else if c == '\x0c' then some 'f'
  else none

def escapeDouble (c : Char) : List Char :=
  match escapeLetter? c with
  | some letter => [backslash, letter]
  | none => if c.toNat < 0x20 then unicodeEscape c.toNat else [c]

def doubleQuoted (s : List Char) : List Char :=
  quotationMark :: (s.flatMap escapeDouble ++ [quotationMark])

end RecordTypes
