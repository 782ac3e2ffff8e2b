import RecordTypes.Proofs.Target.Declared
import RecordTypes.Reading.Base

/-! The rows of a record read back from its lines. A key is whatever its literal stands for; what is
left of a row, once its marks are gone, is the type of the field. -/

namespace RecordTypes

/-- What a row of a record says of a field. Not every target says that a field is read-only. -/
structure ReadRow where
  key : String
  expression : String
  isOptional : Bool
  isReadOnly : Option Bool
  deriving DecidableEq

def takeMark (mark s : List Char) : Bool × List Char :=
  match s.dropPrefix? mark with
  | some rest => (true, rest)
  | none => (false, s)

def between? (opening closing s : List Char) : Option (List Char) := do
  let rest ← s.dropPrefix? opening
  rest.dropSuffix? closing

def readInterfaceRow (line : List Char) : Option ReadRow := do
  let rest ← line.dropPrefix? "  ".toList
  let (isReadOnly, rest) := takeMark "readonly ".toList rest
  let (key, rest) ← readSingleQuoted rest
  let (isOptional, rest) := takeMark "?".toList rest
  let expression ← rest.dropPrefix? ": ".toList
  return ⟨String.ofList key, String.ofList expression, isOptional, some isReadOnly⟩

def readZodRow (line : List Char) : Option ReadRow := do
  let rest ← line.dropPrefix? "  ".toList
  let (key, rest) ← readSingleQuoted rest
  let value ← between? ": ".toList ",".toList rest
  match value.dropSuffix? ".optional()".toList with
  | some expression => return ⟨String.ofList key, String.ofList expression, true, none⟩
  | none => return ⟨String.ofList key, String.ofList value, false, none⟩

def readTypedDictRow (line : List Char) : Option ReadRow := do
  let rest ← line.dropPrefix? "        ".toList
  let (key, rest) ← readDoubleQuoted rest
  let value ← between? ": ".toList ",".toList rest
  match between? "NotRequired[".toList "]".toList value with
  | some expression => return ⟨String.ofList key, String.ofList expression, true, none⟩
  | none => return ⟨String.ofList key, String.ofList value, false, none⟩

/-- A field of a model may be left out if it has a default and its type says so. -/
def readModelRow (line : List Char) : Option ReadRow := do
  let rest ← line.dropPrefix? "    ".toList
  let rest ← (nameAndRest rest).2.dropPrefix? ": ".toList
  let (type, rest) ← splitAtMark CodeState.start rest
  let (isOptional, rest) := takeMark "default=None, ".toList rest
  let rest ← rest.dropPrefix? "alias=".toList
  let (key, rest) ← readDoubleQuoted rest
  let (isReadOnly, rest) := takeMark ", frozen=True".toList rest
  if rest = [')'] then
    if isOptional then do
      let expression ← between? "Optional[".toList "]".toList type
      return ⟨String.ofList key, String.ofList expression, true, some isReadOnly⟩
    else return ⟨String.ofList key, String.ofList type, false, some isReadOnly⟩
  else none

namespace Target

def readRow : Target → List Char → Option ReadRow
  | .interface => readInterfaceRow
  | .zod => readZodRow
  | .typedDict => readTypedDictRow
  | .model => readModelRow

def readRows (target : Target) (lines : List String) : List ReadRow :=
  lines.filterMap fun line => target.readRow line.toList

def marksReadOnly : Target → Bool
  | .interface | .model => true
  | .zod | .typedDict => false

def readBack (target : Target) (row : Row) : ReadRow where
  key := row.name
  expression := row.expression
  isOptional := !row.isReadOnly
  isReadOnly := if target.marksReadOnly then some row.isReadOnly else none

end Target

/-! ## Rows of each target -/

theorem takeMark_append (mark s : List Char) : takeMark mark (mark ++ s) = (true, s) := by
  simp only [takeMark, dropPrefix?_append]

theorem takeMark_of_head {c d : Char} (h : c ≠ d) (mark s : List Char) :
    takeMark (d :: mark) (c :: s) = (false, c :: s) := by
  simp [takeMark, List.dropPrefix?, h]

theorem dropSuffix?_append (s p : List Char) : (s ++ p).dropSuffix? p = some s := by
  rw [List.dropSuffix?_eq_some_iff]
  exact ⟨p, rfl, beq_self_eq_true p⟩

theorem between?_append (opening s closing : List Char) :
    between? opening closing (opening ++ (s ++ closing)) = some s := by
  simp [between?, dropPrefix?_append, dropSuffix?_append]

theorem readInterfaceRow_memberLine (name type : String) (isOptional isReadOnly : Bool) :
    readInterfaceRow (memberLine typescriptDialect name type isOptional isReadOnly).toList =
      some ⟨name, type, isOptional, some isReadOnly⟩ := by
  have hline : (memberLine typescriptDialect name type isOptional isReadOnly).toList =
      "  ".toList ++ ((if isReadOnly then "readonly " else "").toList ++
        (singleQuoted name.toList ++ ((if isOptional then "?" else "").toList ++
          (": ".toList ++ type.toList)))) := by
    simp [memberLine, Dialect.indented, Dialect.quoted, typescriptDialect, List.replicate]
  have hreadOnly (rest : List Char) : takeMark "readonly ".toList
      ((if isReadOnly then "readonly " else "").toList ++ (singleQuoted name.toList ++ rest)) =
        (isReadOnly, singleQuoted name.toList ++ rest) := by
    cases isReadOnly with
    | true => exact takeMark_append _ _
    | false => exact takeMark_of_head (by decide) _ _
  have hoptional (rest : List Char) : takeMark "?".toList
      ((if isOptional then "?" else "").toList ++ (": ".toList ++ rest)) =
        (isOptional, ": ".toList ++ rest) := by
    cases isOptional with
    | true => exact takeMark_append _ _
    | false => exact takeMark_of_head (by decide) _ _
  rw [hline]
  simp only [readInterfaceRow, dropPrefix?_append, hreadOnly, hoptional, readSingleQuoted_append,
    Option.bind_eq_bind, Option.bind_some, String.ofList_toList]
  rfl

theorem readZodRow_lookupRow (name value : String) :
    readZodRow (typescriptDialect.lookupRow false name value).toList =
      match value.toList.dropSuffix? ".optional()".toList with
      | some expression => some ⟨name, String.ofList expression, true, none⟩
      | none => some ⟨name, value, false, none⟩ := by
  have hline : (typescriptDialect.lookupRow false name value).toList =
      "  ".toList ++
        (singleQuoted name.toList ++ (": ".toList ++ (value.toList ++ ",".toList))) := by
    simp [Dialect.lookupRow, Dialect.indented, Dialect.quoted, typescriptDialect, List.replicate]
  rw [hline]
  simp only [readZodRow, dropPrefix?_append, readSingleQuoted_append, between?_append,
    Option.bind_eq_bind, Option.bind_some, String.ofList_toList]
  rfl

theorem dropSuffix?_eq_none {s p : List Char} (h : ¬ p <:+ s) : s.dropSuffix? p = none := by
  rw [Option.eq_none_iff_forall_ne_some]
  intro front hfront
  obtain ⟨p', hs, hp⟩ := List.dropSuffix?_eq_some_iff.mp hfront
  exact h ⟨front, by rw [hs, beq_iff_eq.mp hp]⟩

theorem readTypedDictRow_eq {line : String} {name value : String}
    (hline : line.toList = "        ".toList ++
      (doubleQuoted name.toList ++ (": ".toList ++ (value.toList ++ ",".toList)))) :
    readTypedDictRow line.toList =
      match between? "NotRequired[".toList "]".toList value.toList with
      | some expression => some ⟨name, String.ofList expression, true, none⟩
      | none => some ⟨name, value, false, none⟩ := by
  rw [hline]
  simp only [readTypedDictRow, dropPrefix?_append, readDoubleQuoted_append, between?_append,
    Option.bind_eq_bind, Option.bind_some, String.ofList_toList]
  rfl

theorem readModelRow_propertyLine (name type key : String) (isOptional isReadOnly : Bool)
    (hname : IsName name.toList) (h : IsMarkless type.toList) :
    readModelRow (propertyLine pythonDialect name type
        ("Field(" ++ (if isOptional then "default=None, " else "") ++ "alias=" ++
          pythonDialect.quoted key ++ (if isReadOnly then ", frozen=True" else "") ++ ")")).toList =
      if isOptional then
        (between? "Optional[".toList "]".toList type.toList).map fun expression =>
          ⟨key, String.ofList expression, true, some isReadOnly⟩
      else some ⟨key, type, false, some isReadOnly⟩ := by
  have hdefault : ("Field(" ++ (if isOptional then "default=None, " else "") ++ "alias=" ++
      pythonDialect.quoted key ++ (if isReadOnly then ", frozen=True" else "") ++ ")").toList =
        "Field(".toList ++ ((if isOptional then "default=None, " else "").toList ++
          ("alias=".toList ++ (doubleQuoted key.toList ++
            ((if isReadOnly then ", frozen=True" else "").toList ++ [')'])))) := by
    simp [Dialect.quoted, pythonDialect]
  have hoptional (rest : List Char) : takeMark "default=None, ".toList
      ((if isOptional then "default=None, " else "").toList ++ ("alias=".toList ++ rest)) =
        (isOptional, "alias=".toList ++ rest) := by
    cases isOptional with
    | true => exact takeMark_append _ _
    | false => exact takeMark_of_head (by decide) _ _
  have hreadOnly : takeMark ", frozen=True".toList
      ((if isReadOnly then ", frozen=True" else "").toList ++ [')']) = (isReadOnly, [')']) := by
    cases isReadOnly with
    | true => exact takeMark_append _ _
    | false => exact takeMark_of_head (by decide) _ _
  rw [toList_propertyLine name type hdefault]
  simp only [readModelRow, dropPrefix?_append, nameAndRest_colon hname, h.splitAtMark_append,
    hoptional, hreadOnly, readDoubleQuoted_append, Option.bind_eq_bind, Option.bind_some,
    String.ofList_toList]
  cases isOptional with
  | true => cases between? "Optional[".toList "]".toList type.toList <;> rfl
  | false => rfl

end RecordTypes
