import RecordTypes.Text.Quoted

/-! Lines of source code, written in the manner of a language: how far a level is indented, how text
is quoted, what a comment, a docstring and a lookup table look like. -/

namespace RecordTypes

structure Dialect where
  indentWidth : Nat
  commentMark : String
  quote : List Char → List Char
  docOpening : String
  docClosing : String
  /-- The line that opens a lookup of a name from values of one type to values of another. -/
  lookupOpening : String → String → String → String
  lookupClosing : String

def typescriptDialect : Dialect where
  indentWidth := 2
  commentMark := "//"
  quote := singleQuoted
  docOpening := "/** "
  docClosing := " */"
  lookupOpening name _ _ := "export const " ++ name ++ " = \x7b"
  lookupClosing := "\x7d as const"

def pythonDialect : Dialect where
  indentWidth := 4
  commentMark := "#"
  quote := doubleQuoted
  docOpening := "\x22\x22\x22"
  docClosing := "\x22\x22\x22"
  lookupOpening name key value := name ++ ": dict[" ++ key ++ ", " ++ value ++ "] = \x7b"
  lookupClosing := "\x7d"

namespace Dialect

variable (d : Dialect)

def quoted (s : String) : String := String.ofList (d.quote s.toList)

def indented (level : Nat) (s : String) : String :=
  String.ofList (List.replicate (d.indentWidth * level) ' ') ++ s

def comment (s : String) : String := d.commentMark ++ " " ++ s

def banner : List String :=
  [d.comment "==========================================",
   d.comment "Auto-generated file. Do not edit directly.",
   d.comment "==========================================", ""]

def docstring (level : Nat) (s : String) : String :=
  d.indented level (d.docOpening ++ s ++ d.docClosing)

/-- A row of a lookup. The value is a text to be quoted, or a piece of code. -/
def lookupRow (quoteValue : Bool) (key value : String) : String :=
  d.indented 1 (d.quoted key ++ ": " ++ (if quoteValue then d.quoted value else value) ++ ",")

def lookup (name keyType valueType : String) (quoteValues : Bool) (pairs : List (String × String)) :
    List String :=
  d.lookupOpening name keyType valueType ::
    (pairs.map fun (key, value) => d.lookupRow quoteValues key value) ++ [d.lookupClosing, ""]

def quotedItems (items : List String) : List String :=
  items.map fun item => d.indented 1 (d.quoted item ++ ",")

end Dialect

/-- A type whose values are some texts and no others. -/
def literalLines (d : Dialect) (name : String) (items : List String) : List String :=
  (name ++ " = Literal[") :: d.quotedItems items ++ ["]"]

def propertyLine (d : Dialect) (name type default : String) : String :=
  d.indented 1 (if default.isEmpty then name ++ ": " ++ type
    else name ++ ": " ++ type ++ " = " ++ default)

def memberLine (d : Dialect) (name type : String) (isOptional isReadOnly : Bool) : String :=
  d.indented 1 ((if isReadOnly then "readonly " else "") ++ d.quoted name ++
    (if isOptional then "?" else "") ++ ": " ++ type)

end RecordTypes
