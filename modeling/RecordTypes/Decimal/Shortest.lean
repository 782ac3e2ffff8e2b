/-! The shortest decimal that reads back as a given binary fraction, and its text. The value is
taken apart into `m * 2 ^ q`; a decimal reads back if it lies among the reals that round to the
value. For one digit, two digits and so on the two neighbours of the value on that decimal grid are
tried; the first grid with a hit wins, of two hits the nearer, and an exact tie goes to the even
one. -/

namespace RecordTypes

/-- A positive value `m * 2 ^ q`. Below a power of two the gap is only half as wide. -/
structure Binary where
  m : Nat
  q : Int
  narrowBelow : Bool

/-- The value of the bits of a finite double, its sign left aside. -/
def Binary.ofBits (bits : UInt64) : Binary :=
  let e := ((bits >>> 52) &&& 0x7FF).toNat
  let f := (bits &&& 0xFFFFFFFFFFFFF).toNat
  if e == 0 then ⟨f, -1074, false⟩ else ⟨0x10000000000000 + f, (e : Int) - 1075, f == 0 && e > 1⟩

/-- The value `digits * 10 ^ exponent`. -/
structure Decimal where
  digits : Nat
  exponent : Int

def compareScaled (a : Nat) (i : Int) (n : Nat) (j : Int) : Ordering :=
  compare (a * Nat.pow 10 i.toNat * Nat.pow 2 (-j).toNat)
    (n * Nat.pow 2 j.toNat * Nat.pow 10 (-i).toNat)

/-- Whether the decimal rounds to the value, a tie going to the even neighbour. -/
def Binary.readsBack (x : Binary) (d : Decimal) : Bool :=
  let low := if x.narrowBelow then 4 * x.m - 1 else 4 * x.m - 2
  let high := 4 * x.m + 2
  let endsIncluded := x.m % 2 == 0
  let fromLow := compareScaled d.digits d.exponent low (x.q - 2)
  let fromHigh := compareScaled d.digits d.exponent high (x.q - 2)
  (fromLow == .gt || (endsIncluded && fromLow == .eq)) &&
    (fromHigh == .lt || (endsIncluded && fromHigh == .eq))

/-- The least `k` with the value below `10 ^ k`, found from an estimate at most two too small. -/
def Binary.magnitude (x : Binary) : Int :=
  let k := Int.fdiv (((x.m.log2 : Nat) + x.q) * 30103) 100000
  let below (k : Int) : Bool := compareScaled 1 k x.m x.q == .gt
  if below k then k else if below (k + 1) then k + 1 else k + 2

/-- The neighbour of the value on the grid of `n` digits that reads back, if one does. -/
def Binary.onGrid? (x : Binary) (magnitude : Int) (n : Nat) : Option Decimal :=
  let g := magnitude - n
  let num := x.m * Nat.pow 2 x.q.toNat * Nat.pow 10 (-g).toNat
  let den := Nat.pow 2 (-x.q).toNat * Nat.pow 10 g.toNat
  let d := num / den
  let lower : Decimal := ⟨d, g⟩
  let upper : Decimal := ⟨d + 1, g⟩
  let nearer := match compare (2 * num) ((2 * d + 1) * den) with
    | .lt => lower
    | .gt => upper
    | .eq => if d % 2 == 0 then lower else upper
  match x.readsBack lower, x.readsBack upper with
  | true, true => some nearer
  | true, false => some lower
  | false, true => some upper
  | false, false => none

/-- Seventeen digits always suffice; the exact value stands in if they should not. -/
def Binary.shortest (x : Binary) : Decimal :=
  let magnitude := x.magnitude
  let found := (List.range 17).findSome? fun n => x.onGrid? magnitude (n + 1)
  found.getD ⟨x.m * Nat.pow 2 x.q.toNat * Nat.pow 5 (-x.q).toNat, if x.q < 0 then x.q else 0⟩

def dropTrailingZeros : List Char → List Char
  | [] => []
  | c :: rest =>
    match dropTrailingZeros rest with
    | [] => if c == '0' then [] else [c]
    | kept => c :: kept

/-- Positional for a leading digit from `10 ^ -4` to `10 ^ 15`, a point always shown; otherwise with
a signed exponent of at least two digits. -/
def Decimal.text (d : Decimal) : List Char :=
  let all := Nat.toDigits 10 d.digits
  let digits := dropTrailingZeros all
  let point := d.exponent + all.length
  if -4 < point && point ≤ 16 then
    if point ≤ 0 then '0' :: '.' :: (List.replicate (-point).toNat '0' ++ digits)
    else
      let whole := digits.take point.toNat
      let zeros := List.replicate (point.toNat - digits.length) '0'
      let fraction := digits.drop point.toNat
      whole ++ zeros ++ '.' :: (if fraction.isEmpty then ['0'] else fraction)
  else
    let e := point - 1
    let exponent := Nat.toDigits 10 e.natAbs
    let padded := if exponent.length < 2 then '0' :: exponent else exponent
    let mantissa := match digits with
      | [] => ['0']
      | [c] => [c]
      | c :: rest => c :: '.' :: rest
    mantissa ++ 'e' :: (if e < 0 then '-' else '+') :: padded

def finiteText (x : Float) : List Char :=
  let bits := x.toBits
  let magnitude :=
    if (bits &&& 0x7FFFFFFFFFFFFFFF) == 0 then ['0', '.', '0']
    else (Binary.ofBits bits).shortest.text
  if bits >>> 63 == 1 then '-' :: magnitude else magnitude

/-- The double nearest to `m * 10 ^ e`. Beyond the range of doubles nothing has to be computed. -/
def nearestDouble (m : Nat) (e : Int) : Float :=
  if m == 0 then 0.0
  else
    let magnitude := e + (m.log2 : Nat) * 30103 / 100000
    if magnitude > 400 then 1.0 / 0.0
    else if magnitude < -400 then 0.0
    else Float.ofScientific m (e < 0) e.natAbs

end RecordTypes
