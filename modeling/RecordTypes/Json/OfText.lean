import RecordTypes.Json.Token

/-! JSON values read from text. The tokens are taken one by one; the containers still open are kept
on a stack, so that no nesting needs recursion. -/

namespace RecordTypes

/-- A container that is still open, with what it holds so far. Items are kept backwards. -/
inductive Frame where
  | arr (items : List Json)
  | obj (members : Members) (key : String)

inductive Expected where
  | anyValue
  | firstItem
  | firstKey
  | nextKey (members : Members)
  | keyColon (members : Members) (key : String)
  | afterValue (value : Json)

def beginValue (stack : List Frame) : Token → Option (Expected × List Frame)
  | .openArray => some (.firstItem, stack)
  | .openObject => some (.firstKey, stack)
  | .str s => some (.afterValue (.str s), stack)
  | .scalar value => some (.afterValue value, stack)
  | _ => none

/-- What follows a complete value depends on the container it stands in. -/
def continueAfter (value : Json) : List Frame → Token → Option (Expected × List Frame)
  | .arr items :: stack, .comma => some (.anyValue, .arr (value :: items) :: stack)
  | .arr items :: stack, .closeArray => some (.afterValue (.arr (value :: items).reverse), stack)
  | .obj members key :: stack, .comma => some (.nextKey (members.insert key value), stack)
  | .obj members key :: stack, .closeObject =>
    some (.afterValue (.obj (members.insert key value)), stack)
  | _, _ => none

def Expected.step (stack : List Frame) : Expected → Token → Option (Expected × List Frame)
  | .anyValue, token => beginValue stack token
  | .firstItem, .closeArray => some (.afterValue (.arr []), stack)
  | .firstItem, token => beginValue (.arr [] :: stack) token
  | .firstKey, .closeObject => some (.afterValue (.obj []), stack)
  | .firstKey, .str key => some (.keyColon [] key, stack)
  | .nextKey members, .str key => some (.keyColon members key, stack)
  | .keyColon members key, .colon => some (.anyValue, .obj members key :: stack)
  | .afterValue value, token => continueAfter value stack token
  | _, _ => none

def Expected.ofTokens (expected : Expected) (stack : List Frame) : List Token → Option Json
  | [] => match expected, stack with
    | .afterValue value, [] => some value
    | _, _ => none
  | token :: rest => do
    let (expected, stack) ← expected.step stack token
    expected.ofTokens stack rest

def Json.ofText? (s : List Char) : Option Json := do
  Expected.anyValue.ofTokens [] (← tokens s)

end RecordTypes
