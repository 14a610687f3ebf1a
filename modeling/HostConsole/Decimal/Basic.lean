/-
Decimal numbers: a whole coefficient times a power of ten, always written positionally, without an exponent.

A binary number is written with a fixed count of decimal places as its exact value rounded to the nearest multiple of
the last place; a half goes to the even neighbour. The sign stays also when the result is zero.
-/
import HostConsole.Binary.Arithmetic

namespace HostConsole

/-- the value `coefficient * 10 ^ exponent` -/
structure Decimal where
  coefficient : Nat
  exponent : Int
  deriving DecidableEq

namespace Decimal

/-- how many digits the coefficient has -/
def length (d : Decimal) : Nat :=
  (Nat.repr d.coefficient).length

/-- written without an exponent: zeros fill the places up to the point -/
def positional (d : Decimal) : String :=
  let digits := (Nat.repr d.coefficient).toList
  let places := (-d.exponent).toNat
  let zeros n := List.replicate n '0'
  String.ofList <|
    if 0 ≤ d.exponent then digits ++ zeros d.exponent.toNat
    else if places < digits.length then
      digits.take (digits.length - places) ++ '.' :: digits.drop (digits.length - places)
    else ['0', '.'] ++ zeros (places - digits.length) ++ digits

/-- the binary number nearest to a decimal one. A value with more digits before the point than the format has
binades is infinite, and one with more zeros behind the point than the unit has bits is zero; in between the ratio
is rounded exactly. -/
def toBinary (F : Format) (negative : Bool) (d : Decimal) : Binary F :=
  let leading : Int := d.length + d.exponent
  if d.coefficient = 0 then Binary.zero negative
  else if (Nat.pow 2 F.exponentBits : Nat) < leading then Binary.infinite negative
  else if leading < -((F.unitBits + 1 : Nat) : Int) then Binary.zero negative
  else if 0 ≤ d.exponent then
    Binary.ofRatio negative (d.coefficient * Nat.pow 10 d.exponent.toNat * F.one) 1
  else
    Binary.ofRatio negative (d.coefficient * F.one) (Nat.pow 10 (-d.exponent).toNat)

end Decimal

/-- the exact value of a count of units: every binary fraction is a decimal fraction -/
def Format.exactDecimal (F : Format) (units : Nat) : Decimal :=
  ⟨units * Nat.pow 5 F.unitBits, -F.unitBits⟩

/-- the text with the given count of places behind the point -/
def Binary.fixed {F : Format} (places : Nat) : Binary F → String
  | .nan => "NaN"
  | .number negative rank _ =>
    let sign := if negative then "-" else ""
    if rank = F.infinity then sign ++ "inf"
    else sign ++ (Decimal.mk (Format.nearest (F.units rank * Nat.pow 10 places) F.one) (-places)).positional

end HostConsole
