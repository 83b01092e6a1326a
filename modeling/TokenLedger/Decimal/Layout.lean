import TokenLedger.Decimal.Shortest

/-! # Layout of decimals

How the shortest decimal of a floating-point value is written. A format decides which values are
written with all their places and which with an exponent.
-/
namespace TokenLedger.Decimal

/-- The decisions of one format. Values whose leading digit stands at a power of ten from `from?`
up to but not including `below?` are written positionally; a missing bound excludes nothing. -/
structure Layout where
  from? : Option Int
  below? : Option Int
  tie : Tie
  notANumber : String
  infinity : String

def zeros (n : Nat) : List Char := List.replicate n '0'

def positional (d : Decimal) : List Char :=
  let digits := Nat.toDigits 10 d.digits
  let point := (digits.length : Int) + d.exponent
  if 0 ≤ d.exponent then digits ++ zeros d.exponent.toNat ++ ['.', '0']
  else if 0 < point then digits.take point.toNat ++ '.' :: digits.drop point.toNat
  else '0' :: '.' :: zeros (-point).toNat ++ digits

def scientific (d : Decimal) : List Char :=
  let digits := Nat.toDigits 10 d.digits
  let power := (digits.length : Int) + d.exponent - 1
  let mantissa := match digits with
    | [] => []
    | [first] => [first]
    | first :: rest => first :: '.' :: rest
  mantissa ++ 'e' :: (if power < 0 then '-' else '+') :: Nat.toDigits 10 power.natAbs

def Layout.render (layout : Layout) (x : Float) : String :=
  if x.isNaN then layout.notANumber
  else
    let sign := if x.toBits >>> 63 == 0 then "" else "-"
    if x.isInf then sign ++ layout.infinity
    else
      let d := (Binary.ofFloat x).shortest layout.tie
      let power := ((Nat.toDigits 10 d.digits).length : Int) + d.exponent - 1
      let plain := d.digits == 0 || layout.from?.all (· ≤ power) && layout.below?.all (power < ·)
      sign ++ String.ofList (if plain then d.positional else d.scientific)

end TokenLedger.Decimal
