/-
The shortest decimal text of a binary number: the fewest digits that read back as the same number, and of the
decimals with that many digits the nearest; an exact tie goes up.

For a given count of digits only the two neighbours of the value on that decimal grid are tried: if any decimal of
that length reads back, one of them does.
-/
import HostConsole.Decimal.Basic

namespace HostConsole

namespace Decimal

/-- without the zeros at the end of a coefficient, as many as `fuel` allows -/
def dropZeros : Nat → Decimal → Decimal
  | 0, d => d
  | fuel + 1, d =>
    if d.coefficient % 10 = 0 && d.coefficient != 0 then dropZeros fuel ⟨d.coefficient / 10, d.exponent + 1⟩ else d

/-- the decimal reads back as the given rank -/
def readsBack (F : Format) (rank : Nat) (d : Decimal) : Bool :=
  d.toBinary F false == Binary.ofRank false rank

/-- the neighbour of an exact value with the given count of digits that reads back as the rank; the nearer one when
both do -/
def withDigits? (F : Format) (rank : Nat) (exact : Decimal) (count : Nat) : Option Decimal :=
  let cut := exact.length - count
  let power := Nat.pow 10 cut
  let below : Decimal := ⟨exact.coefficient / power, exact.exponent + cut⟩
  let above : Decimal := ⟨below.coefficient + 1, below.exponent⟩
  let nearBelow := 2 * (exact.coefficient % power) < power
  match readsBack F rank below, readsBack F rank above with
  | true, true => some (if nearBelow then below else above)
  | true, false => some below
  | false, true => some above
  | false, false => none

/-- the shortest decimal of a finite rank above zero -/
def shortest (F : Format) (rank : Nat) : Decimal :=
  let exact := F.exactDecimal (F.units rank)
  let counts := List.range' 1 exact.length
  let found := (counts.findSome? (withDigits? F rank exact)).getD exact
  dropZeros found.length found

end Decimal

/-- the text of a binary number: its shortest decimal, with the sign also of a zero -/
def Binary.text {F : Format} : Binary F → String
  | .nan => "NaN"
  | .number negative rank _ =>
    let sign := if negative then "-" else ""
    if rank = F.infinity then sign ++ "inf"
    else if rank = 0 then sign ++ "0"
    else sign ++ (Decimal.shortest F rank).positional

end HostConsole
