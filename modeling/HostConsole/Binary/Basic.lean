/-
Binary floating-point numbers, exact and for any width. The numbers of a format that are not below zero, infinity
included, are ordered without gaps, and a number is its sign and its rank in that order: rank 0 is zero, rank 1 the
smallest number above zero. The rank is also the stored bit pattern without the sign bit.

The smallest number above zero is the unit. Every finite number is a whole count of units (`units`), so arithmetic is
exact in the whole numbers and is rounded once at the end (`roundRatio`): to the nearest number, of two equally near
to the one of even rank, and to infinity beyond the greatest finite number.
-/
namespace HostConsole

/-- widths of a floating-point format: the stored exponent and the stored fraction -/
structure Format where
  exponentBits : Nat
  fractionBits : Nat
  deriving DecidableEq

namespace Format

/-- the format of 32 bits -/
def single : Format := ⟨8, 23⟩

/-- the format of 64 bits -/
def double : Format := ⟨11, 52⟩

/-- one is two to this power units -/
def unitBits (F : Format) : Nat :=
  Nat.pow 2 (F.exponentBits - 1) - 2 + F.fractionBits

/-- one, counted in units -/
def one (F : Format) : Nat :=
  Nat.pow 2 F.unitBits

/-- how many numbers a binade holds -/
def binadeSize (F : Format) : Nat :=
  Nat.pow 2 F.fractionBits

/-- the sign bit, above all ranks -/
def signBit (F : Format) : Nat :=
  Nat.pow 2 (F.exponentBits + F.fractionBits)

/-- the rank of infinity; finite numbers lie below it -/
def infinity (F : Format) : Nat :=
  (Nat.pow 2 F.exponentBits - 1) * F.binadeSize

/-- the value of a finite rank in units: the numbers of the first two binades are one unit apart, and the distance
doubles with every further binade -/
def units (F : Format) (rank : Nat) : Nat :=
  let binade := rank / F.binadeSize
  if binade ≤ 1 then rank
  else (F.binadeSize + rank % F.binadeSize) * Nat.pow 2 (binade - 1)

/-- the whole number nearest to a ratio; a half goes to the even neighbour -/
def nearest (num den : Nat) : Nat :=
  let q := num / den
  let r := num % den
  if den < 2 * r || (2 * r == den && q % 2 == 1) then q + 1 else q

/-- the rank nearest to a ratio of units -/
def roundRatio (F : Format) (num den : Nat) : Nat :=
  let binade := Nat.log2 (num / den) - F.fractionBits
  min F.infinity (binade * F.binadeSize + nearest num (den * Nat.pow 2 binade))

end Format

/-- a floating-point number: not a number, or a sign and a rank -/
inductive Binary (F : Format) where
  | nan
  | number (negative : Bool) (rank : Nat) (rank_le : rank ≤ F.infinity)
  deriving DecidableEq

/-- numbers of 32 bits -/
abbrev Single := Binary Format.single

/-- numbers of 64 bits -/
abbrev Double := Binary Format.double

namespace Binary

variable {F : Format}

/-! ## Making numbers -/

/-- the number of a sign and a rank; ranks beyond infinity give infinity -/
def ofRank (negative : Bool) (rank : Nat) : Binary F :=
  .number negative (min F.infinity rank) (Nat.min_le_left _ _)

/-- zero of either sign -/
def zero (negative : Bool) : Binary F :=
  ofRank negative 0

/-- infinity of either sign -/
def infinite (negative : Bool) : Binary F :=
  ofRank negative F.infinity

/-- the number nearest to a ratio of units -/
def ofRatio (negative : Bool) (num den : Nat) : Binary F :=
  ofRank negative (F.roundRatio num den)

/-- the number nearest to a whole number -/
def ofInt (n : Int) : Binary F :=
  ofRatio (n < 0) (n.natAbs * F.one) 1

/-- the number nearest to a natural number -/
def ofNat (n : Nat) : Binary F :=
  ofRatio false (n * F.one) 1

/-- the number stored as a bit pattern; all patterns above infinity are `nan` -/
def ofBits (bits : Nat) : Binary F :=
  let rank := bits % F.signBit
  if rank ≤ F.infinity then ofRank (bits / F.signBit % 2 == 1) rank else nan

/-- the bit pattern of a number; `nan` has none of its own -/
def toBits? : Binary F → Option Nat
  | nan => none
  | number negative rank _ =>
    some (if negative then F.signBit + rank else rank)

/-! ## Classes and order -/

/-- not a number -/
def isNan : Binary F → Bool
  | nan => true
  | number .. => false

/-- a number that is not infinite -/
def isFinite : Binary F → Bool
  | nan => false
  | number _ rank _ => rank < F.infinity

/-- the sign, `nan` counting as positive -/
def isNegative : Binary F → Bool
  | nan => false
  | number negative _ _ => negative

/-- the place of a number in the order; both zeros have place 0 -/
def place? : Binary F → Option Int
  | nan => none
  | number negative rank _ => some (if negative then -(rank : Int) else rank)

/-- strictly below; never with `nan` -/
def lt (x y : Binary F) : Bool :=
  match x.place?, y.place? with
  | some a, some b => a < b
  | _, _ => false

/-- at most; never with `nan` -/
def le (x y : Binary F) : Bool :=
  match x.place?, y.place? with
  | some a, some b => a ≤ b
  | _, _ => false

/-- the greater of two numbers; `nan` gives way to a number -/
def max (x y : Binary F) : Binary F :=
  if x.isNan || x.lt y then y else x

end Binary

end HostConsole
