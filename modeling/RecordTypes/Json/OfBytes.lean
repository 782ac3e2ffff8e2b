import RecordTypes.Json.OfText

/-! JSON values read from bytes. The first characters of a JSON text are ASCII, so the places of the
zeros among the first bytes tell the width of the code units and the order of their bytes. -/

namespace RecordTypes

inductive ByteOrder where
  | highFirst
  | lowFirst

inductive TextEncoding where
  | bytes
  | pairs (order : ByteOrder)
  | quads (order : ByteOrder)

def TextEncoding.ofBytes : List UInt8 → TextEncoding
  | [a, b] =>
    if a == 0 then .pairs .highFirst else if b == 0 then .pairs .lowFirst else .bytes
  | a :: b :: c :: d :: _ =>
    if a == 0 then (if b == 0 then .quads .highFirst else .pairs .highFirst)
    else if b == 0 then
      (if c == 0 && d == 0 then .quads .lowFirst else .pairs .lowFirst)
    else .bytes
  | _ => .bytes

def ByteOrder.value (order : ByteOrder) (bytes : List UInt8) : Nat :=
  let ordered := match order with
    | .highFirst => bytes
    | .lowFirst => bytes.reverse
  ordered.foldl (fun n byte => 256 * n + byte.toNat) 0

/-- The values of all pairs of bytes, if none is incomplete. -/
def pairUnits? (order : ByteOrder) : List UInt8 → Option (List Nat)
  | [] => some []
  | a :: b :: rest => (pairUnits? order rest).map fun units => order.value [a, b] :: units
  | _ => none

def quadUnits? (order : ByteOrder) : List UInt8 → Option (List Nat)
  | [] => some []
  | a :: b :: c :: d :: rest =>
    (quadUnits? order rest).map fun units => order.value [a, b, c, d] :: units
  | _ => none

/-- Half of a surrogate pair that stands alone is replaced. -/
def charOfUnit (unit : Nat) : Char :=
  if isHigh unit || isLow unit then replacement else Char.ofNat unit

def charsOfPairUnits : List Nat → List Char
  | a :: b :: rest =>
    if isHigh a && isLow b then surrogatePair a b :: charsOfPairUnits rest
    else charOfUnit a :: charsOfPairUnits (b :: rest)
  | units => units.map charOfUnit

def greatestCodePoint : Nat := 0x10FFFF

def charsOfQuadUnits? (units : List Nat) : Option (List Char) :=
  if units.all fun unit => unit ≤ greatestCodePoint then some (units.map charOfUnit) else none

/-- A byte order mark at the front of single bytes is no part of the text. -/
def withoutByteOrderMark : List UInt8 → List UInt8
  | 0xEF :: 0xBB :: 0xBF :: rest => rest
  | bytes => bytes

def textOfBytes? (bytes : List UInt8) : Option (List Char) :=
  match TextEncoding.ofBytes bytes with
  | .bytes => (String.fromUTF8? (withoutByteOrderMark bytes).toByteArray).map String.toList
  | .pairs order => (pairUnits? order bytes).map charsOfPairUnits
  | .quads order => (quadUnits? order bytes).bind charsOfQuadUnits?

def Json.ofBytes? (bytes : List UInt8) : Option Json := (textOfBytes? bytes).bind Json.ofText?

end RecordTypes
