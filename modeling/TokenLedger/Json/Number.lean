import TokenLedger.Decimal.Layout
import TokenLedger.Json.Error
import TokenLedger.Json.Token

/-! # JSON numbers

A plain decimal integer between the least signed and the greatest unsigned 64-bit number is kept
exactly. Any other number is a floating-point one: an integer beyond these bounds, a number with a
fraction or an exponent, and minus zero.
-/
namespace TokenLedger.Json

inductive Number
  | integer (value : Int)
  | float (value : Float)

def numberLayout : Decimal.Layout where
  from? := some (-5)
  below? := some 16
  tie := .toEven
  notANumber := "null"
  infinity := "null"

def Number.display : Number → String
  | .integer value => toString value
  | .float value => numberLayout.render value

def Number.found : Number → Found
  | .integer value => .integer value
  | .float value => .float (numberLayout.render value)

/-- Takes digits into a significand as long as it fits into 64 bits. The result has the
significand, the number of digits taken and the number of those left. -/
def takeDigits (significand taken : Nat) : List Char → Nat × Nat × Nat
  | [] => (significand, taken, 0)
  | c :: rest =>
    let next := significand * 10 + (c.toNat - '0'.toNat)
    if next < 0x10000000000000000 then takeDigits next (taken + 1) rest
    else (significand, taken, rest.length + 1)

def shrink (x : Float) (power : Nat) : Float :=
  if power ≤ 308 then x / Float.ofScientific 1 false power
  else if x == 0 then x
  else shrink (x / Float.ofScientific 1 false 308) (power - 308)
termination_by power

def scaled? (significand : Nat) (power : Int) : Option Float :=
  let x := significand.toUInt64.toFloat
  if power < 0 then some (shrink x power.natAbs)
  else if 308 < power then if x == 0 then some x else none
  else
    let y := x * Float.ofScientific 1 false power.natAbs
    if y.isInf then none else some y

/-- The floating-point number that a token spells. Digits beyond the significand count as powers of
ten in the whole part and not at all in the fraction. -/
def NumberToken.float? (n : NumberToken) : Option Float :=
  let (significand, _, dropped) := takeDigits 0 0 n.whole
  let (significand, places, _) := takeDigits significand 0 (n.fraction.getD [])
  let power : Int := (dropped : Int) - (places : Int)
  let magnitude := match n.exponent with
    | none => scaled? significand power
    | some (negative, digits) =>
      let e := Nat.ofDigitChars 10 digits 0
      if e < 0x80000000 then scaled? significand (if negative then power - e else power + e)
      else if significand == 0 || negative then some 0
      else none
  magnitude.map fun x => if n.negative then -x else x

def NumberToken.isPlain (n : NumberToken) : Bool := n.fraction.isNone && n.exponent.isNone

def NumberToken.value (n : NumberToken) : Except Fault Number :=
  let magnitude := Nat.ofDigitChars 10 n.whole 0
  if n.isPlain && !n.negative && magnitude < 0x10000000000000000 then .ok (.integer magnitude)
  else if n.isPlain && n.negative && 0 < magnitude && magnitude ≤ 0x8000000000000000 then
    .ok (.integer (-magnitude))
  else match n.float? with
    | some x => .ok (.float x)
    | none => .error .numberOutOfRange

end TokenLedger.Json
