import RecordTypes.Decimal.Shortest

/-! The integer that a double stands for, if it stands for one. -/

namespace RecordTypes

def Binary.whole? (x : Binary) : Option Nat :=
  if 0 ≤ x.q then some (x.m * Nat.pow 2 x.q.toNat)
  else if x.m % Nat.pow 2 (-x.q).toNat == 0 then some (x.m / Nat.pow 2 (-x.q).toNat)
  else none

def isFinite (x : Float) : Bool := ((x.toBits >>> 52) &&& 0x7FF) != 0x7FF

def wholeValue? (x : Float) : Option Int :=
  if isFinite x then
    (Binary.ofBits x.toBits).whole?.map fun (n : Nat) =>
      if x.toBits >>> 63 == 1 then -(n : Int) else (n : Int)
  else none

end RecordTypes
