/-! Sets of characters given as closed ranges of code points in ascending order. The order is
used: a search stops at the first range that begins above the character. -/

namespace RecordTypes

abbrev Ranges := List (Nat × Nat)

def Ranges.contains : Ranges → Nat → Bool
  | [], _ => false
  | (first, last) :: rest, n => first ≤ n && (n ≤ last || Ranges.contains rest n)

end RecordTypes
