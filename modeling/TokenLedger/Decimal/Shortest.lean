/-! # Shortest decimals

The decimal with the fewest digits that still identifies a binary floating-point value, found by
exact comparison of whole numbers. Of two such decimals the nearer one is taken.
-/
namespace TokenLedger

/-- The number `digits * 10 ^ exponent`. -/
structure Decimal where
  digits : Nat
  exponent : Int

namespace Decimal

def tenTo (n : Nat) : Nat := Nat.pow 10 n

def twoTo (n : Nat) : Nat := Nat.pow 2 n

/-- The value `m * 2 ^ q` together with its neighbourhood: below a power of two the next value is
only half as far away as above it. -/
structure Binary where
  m : Nat
  q : Int
  narrowBelow : Bool

def Binary.ofFloat (x : Float) : Binary :=
  let bits := x.toBits
  let exponent := ((bits >>> 52) &&& 0x7FF).toNat
  let fraction := (bits &&& 0xFFFFFFFFFFFFF).toNat
  if exponent == 0 then ⟨fraction, -1074, false⟩
  else ⟨0x10000000000000 + fraction, (exponent : Int) - 1075, fraction == 0 && exponent > 1⟩

/-- What to do with a value exactly halfway between two decimals of equal length. -/
inductive Tie
  | toEven
  | up

/-- Compares `a * 10 ^ e` with `b * 2 ^ q`. -/
def compareScaled (a : Nat) (e : Int) (b : Nat) (q : Int) : Ordering :=
  compare (a * tenTo e.toNat * twoTo (-q).toNat) (b * twoTo q.toNat * tenTo (-e).toNat)

/-- Whether the decimal is among the numbers that round to `x`. The two ends of that interval
belong to it when `m` is even. -/
def Binary.identifiedBy (x : Binary) (d : Decimal) : Bool :=
  let least := if x.narrowBelow then 4 * x.m - 1 else 4 * x.m - 2
  let lower := compareScaled d.digits d.exponent least (x.q - 2)
  let upper := compareScaled d.digits d.exponent (4 * x.m + 2) (x.q - 2)
  let even := x.m % 2 == 0
  (lower == .gt || even && lower == .eq) && (upper == .lt || even && upper == .eq)

/-- The number of digits of `x` before the decimal point; not positive for a value below one
tenth. -/
def Binary.scale (x : Binary) : Int :=
  let estimate := ((x.m.log2 : Int) + x.q) * 30103 / 100000
  let candidates := (List.range 4).map fun i : Nat => estimate + (i : Int)
  (candidates.find? fun k => compareScaled 1 k x.m x.q == .gt).getD (estimate + 4)

def Binary.onGrid? (x : Binary) (tie : Tie) (e : Int) : Option Decimal :=
  let below := x.m * twoTo x.q.toNat * tenTo (-e).toNat / (tenTo e.toNat * twoTo (-x.q).toNat)
  let low : Decimal := ⟨below, e⟩
  let high : Decimal := ⟨below + 1, e⟩
  match x.identifiedBy low, x.identifiedBy high with
  | false, false => none
  | true, false => some low
  | false, true => some high
  | true, true =>
    match compareScaled (2 * below + 1) e (2 * x.m) x.q, tie with
    | .gt, _ => some low
    | .lt, _ => some high
    | .eq, .up => some high
    | .eq, .toEven => some (if below % 2 == 0 then low else high)

def stripped : Nat → Decimal → Decimal
  | 0, d => d
  | n + 1, d =>
    if d.digits != 0 && d.digits % 10 == 0 then
      stripped n ⟨d.digits / 10, d.exponent + 1⟩
    else d

/-- The shortest decimal that identifies `x`: the coarsest grid with a hit decides. -/
def Binary.shortest (x : Binary) (tie : Tie) : Decimal :=
  if x.m == 0 then ⟨0, 0⟩
  else
    let scale := x.scale
    let hit := (List.range 17).findSome? fun n : Nat => x.onGrid? tie (scale - 1 - (n : Int))
    (hit.getD ⟨x.m * twoTo x.q.toNat * Nat.pow 5 (-x.q).toNat, min x.q 0⟩).stripped 400

end Decimal

end TokenLedger
