import RecordTypes.Text.Case
import RecordTypes.Text.DigitChar
import RecordTypes.Text.Words

/-! Names in the generated code, made from the names people gave to tables and fields: capitalised
type names, property names of a class, and the name of the file that holds it all. -/

namespace RecordTypes

def startsWithDigit (s : List Char) : Bool :=
  match s with
  | [] => false
  | c :: _ => isDigitChar c

def capitalized (word : List Char) : List Char :=
  match word with
  | [] => []
  | c :: rest => upperChar c ++ lower rest

/-- The words run together, each with a capital; an underscore goes before a leading digit. -/
def pascalCase (s : List Char) : List Char :=
  let name := (splitWords s).flatMap capitalized
  if startsWithDigit name then '_' :: name else name

/-- A question mark at the end asks whether something is so. -/
def spellQuestion (s : List Char) : List Char :=
  if s.getLast? == some '?' then ['i', 's', '_'] ++ s.dropLast else s

/-- A number sign at the end, after a blank, asks for a number. -/
def spellNumberSign (s : List Char) : List Char :=
  if s.reverse.take 2 == ['#', ' '] then s.dropLast ++ "number".toList else s

/-- Signs that carry meaning are written out and every other sign becomes one blank. -/
def spelledOut (s : List Char) : List Char :=
  let s := spellNumberSign (spellQuestion s)
  let s := replaceChar '+' " and ".toList s
  let s := replaceChar '&' " and ".toList s
  let s := replaceChar '=' " is ".toList s
  let s := replaceChar '%' " percent ".toList s
  let s := replaceChar '<' " less than ".toList s
  let s := replaceChar '>' " greater than ".toList s
  let s := replacePair 'w' '/' " with ".toList s
  let s := replacePair '#' ' ' " number ".toList s
  joinWith [' '] (splitWords s)

def collapseUnderscores : List Char → List Char
  | a :: b :: rest =>
    if a == '_' && b == '_' then collapseUnderscores (b :: rest)
    else a :: collapseUnderscores (b :: rest)
  | s => s

def snakeCase (s : List Char) : List Char :=
  lower (collapseUnderscores (replaceChar ' ' ['_'] s))

/-- No underscore is left at either end, and `n_` goes before a leading digit. -/
def trimmedName (s : List Char) : List Char :=
  let s := ((s.dropWhile (· == '_')).reverse.dropWhile (· == '_')).reverse
  if startsWithDigit s then 'n' :: '_' :: s else s

def keywords : List String :=
  ["False", "None", "True", "and", "as", "assert", "async", "await", "break", "class", "continue",
   "def", "del", "elif", "else", "except", "finally", "for", "from", "global", "if", "import", "in",
   "is", "lambda", "nonlocal", "not", "or", "pass", "raise", "return", "try", "while", "with",
   "yield"]

/-- Names of the class from which models inherit, and of types that annotations use. -/
def reservedNames : List String :=
  ["construct", "copy", "dict", "fields", "from_orm", "json", "parse_obj", "parse_raw", "schema",
   "schema_json", "validate", "bool", "date", "datetime", "float", "int", "list", "str",
   "timedelta"]

def isReserved (s : List Char) : Bool :=
  keywords.contains (String.ofList s) || reservedNames.contains (String.ofList s)

def unreserved (s : List Char) : List Char :=
  if s.isEmpty then "field".toList
  else if "model_".toList.isPrefixOf s then "field_".toList ++ s
  else if isReserved s then s ++ ['_']
  else s

def propertyName (s : List Char) : List Char :=
  unreserved (trimmedName (snakeCase (spelledOut s)))

/-- The words of a name in small letters, or one stand-in word if it has none. -/
def fileWords (s : List Char) : List (List Char) :=
  match (splitWords s).map lower with
  | [] => ["airtable".toList]
  | words => words

end RecordTypes
