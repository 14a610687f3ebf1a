/-
Arithmetic of binary floating-point numbers: every result is the exact result rounded once. Sums and products of
finite numbers are computed in whole units; the special values follow the usual rules (`nan` where no value makes
sense, infinities absorb, a zero sum of opposite numbers is positive).
-/
import HostConsole.Binary.Basic

namespace HostConsole.Binary

variable {F : Format}

/-- the value of a finite number in units, with its sign -/
def signedUnits (negative : Bool) (rank : Nat) : Int :=
  if negative then -(F.units rank : Int) else F.units rank

/-- the opposite number -/
def neg : Binary F → Binary F
  | nan => nan
  | number negative rank h => number (!negative) rank h

/-- sum -/
def add : Binary F → Binary F → Binary F
  | number s a ha, number t b hb =>
    if a = F.infinity then
      if b = F.infinity && s != t then nan else number s a ha
    else if b = F.infinity then number t b hb
    else
      let sum := signedUnits (F := F) s a + signedUnits (F := F) t b
      if sum = 0 then zero (s && t) else ofRatio (sum < 0) sum.natAbs 1
  | _, _ => nan

/-- difference -/
def sub (x y : Binary F) : Binary F :=
  x.add y.neg

/-- product -/
def mul : Binary F → Binary F → Binary F
  | number s a _, number t b _ =>
    if a = F.infinity || b = F.infinity then
      if a = 0 || b = 0 then nan else infinite (s != t)
    else ofRatio (s != t) (F.units a * F.units b) F.one
  | _, _ => nan

/-- quotient -/
def div : Binary F → Binary F → Binary F
  | number s a _, number t b _ =>
    if a = F.infinity then
      if b = F.infinity then nan else infinite (s != t)
    else if b = F.infinity then zero (s != t)
    else if b = 0 then
      if a = 0 then nan else infinite (s != t)
    else ofRatio (s != t) (F.units a * F.one) (F.units b)
  | _, _ => nan

/-- the same number in another format, rounded -/
def convert (G : Format) : Binary F → Binary G
  | nan => nan
  | number negative rank _ =>
    if rank = F.infinity then infinite negative
    else ofRatio negative (F.units rank * G.one) F.one

/-- the whole part, between the bounds of a signed word of 64 bits; `nan` gives 0 -/
def toInt64 : Binary F → Int
  | nan => 0
  | number negative rank _ =>
    if rank = F.infinity then
      if negative then Int64.minValue.toInt else Int64.maxValue.toInt
    else
      let whole := F.units rank / F.one
      if negative then Max.max Int64.minValue.toInt (-(whole : Int)) else Min.min Int64.maxValue.toInt (whole : Int)

end HostConsole.Binary
