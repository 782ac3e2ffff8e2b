import RecordTypes.Json.ToText
import RecordTypes.Text.Runs

/-! Addresses at the service in the form in which they are asked for. Single dots between slashes
are left out of a path, a double dot takes back the step before it, and characters that may not
stand in an address are spelled out byte by byte. -/

namespace RecordTypes

def byteCode (byte : UInt8) : List Char :=
  ['%', (hexDigit (byte.toNat / 16)).toUpper, (hexDigit (byte.toNat % 16)).toUpper]

def isAsciiPrintable (c : Char) : Bool := 0x20 ≤ c.toNat && c.toNat < 0x7F

def percentEncoded (reserved : String) (s : List Char) : List Char :=
  s.flatMap fun c =>
    if isAsciiPrintable c && !reserved.toList.contains c then [c]
    else (String.singleton c).toUTF8.toList.flatMap byteCode

def reservedInPath : String := " \x22<>#?\x60\x7b\x7d"

def reservedInQuery : String := " \x22<>#"

def reservedInFragment : String := " \x22<>\x60"

/-- The steps of a path after some others, which are kept backwards. Nothing comes before the empty
step that a path begins with. -/
def resolvedAfter (before : List (List Char)) : List (List Char) → List (List Char)
  | [] => before.reverse
  | step :: steps =>
    if step == ['.'] then resolvedAfter before steps
    else if step == ['.', '.'] then
      resolvedAfter (if before == [[]] then before else before.drop 1) steps
    else resolvedAfter (step :: before) steps

def resolvedPath (path : List Char) : List Char :=
  joinWith ['/'] (resolvedAfter [] (splitOnChar '/' path))

def canonicalFragment : List Char → List Char
  | '#' :: fragment => '#' :: percentEncoded reservedInFragment fragment
  | _ => []

def canonicalQuery : List Char → List Char
  | '?' :: rest =>
    '?' :: (percentEncoded reservedInQuery (rest.takeWhile (· != '#')) ++
      canonicalFragment (rest.dropWhile (· != '#')))
  | rest => canonicalFragment rest

def endsPath (c : Char) : Bool := c == '?' || c == '#'

/-- What comes after the name of the host: a path, and perhaps a query and a fragment. -/
def canonicalResource (s : List Char) : List Char :=
  percentEncoded reservedInPath (resolvedPath (s.takeWhile fun c => !endsPath c)) ++
    canonicalQuery (s.dropWhile fun c => !endsPath c)

end RecordTypes
