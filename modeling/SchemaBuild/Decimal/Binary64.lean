/-!
# Binary floating-point numbers

The numbers of the 64-bit binary format: `mantissa · 2 ^ exponent` with a mantissa of at most 53 bits
and an exponent of at least -1074, and what lies beyond them. `Binary64.ofDecimal` gives the number
nearest to a decimal, a tie going to the even mantissa.
-/

namespace SchemaBuild

/-- A number of the 64-bit binary format. -/
inductive Binary64 where
  | finite (negative : Bool) (mantissa : Nat) (exponent : Int)
  | infinite (negative : Bool)
  | notANumber
  deriving Repr, DecidableEq

namespace Binary64

/-- The least exponent. -/
def minExponent : Int := -1074

/-- The greatest exponent. -/
def maxExponent : Int := 971

/-- The number of bits of a full mantissa. -/
def precision : Nat := 53

/-- A ratio times a power of two, as a ratio again. -/
def scale (numerator denominator : Nat) (power : Int) : Nat × Nat :=
  if power ≥ 0 then (numerator * Nat.pow 2 power.toNat, denominator)
  else (numerator, denominator * Nat.pow 2 (-power).toNat)

/-- The integer nearest to a ratio, a tie going to the even one. -/
def roundHalfEven (numerator denominator : Nat) : Nat :=
  let quotient := numerator / denominator
  let rest := 2 * (numerator % denominator)
  if rest > denominator || (rest == denominator && quotient % 2 == 1) then quotient + 1 else quotient

/-- The number nearest to a ratio of positive integers. -/
def ofRatio (negative : Bool) (numerator denominator : Nat) : Binary64 :=
  let guess : Int := (Nat.log2 numerator : Int) - (Nat.log2 denominator : Int) - (precision - 1 : Nat)
  let (n, d) := scale numerator denominator (-guess)
  let exponent := max minExponent (if n / d < Nat.pow 2 (precision - 1) then guess - 1 else guess)
  let (n, d) := scale numerator denominator (-exponent)
  let mantissa := roundHalfEven n d
  let (mantissa, exponent) :=
    if mantissa = Nat.pow 2 precision then (Nat.pow 2 (precision - 1), exponent + 1) else (mantissa, exponent)
  if exponent > maxExponent then .infinite negative else .finite negative mantissa exponent

/-- The number nearest to `digits · 10 ^ power`. -/
def ofDecimal (negative : Bool) (digits : Nat) (power : Int) : Binary64 :=
  if digits = 0 then .finite negative 0 minExponent
  else if power > 310 then .infinite negative
  else if power + (Nat.log2 digits : Int) < -1100 then .finite negative 0 minExponent
  else if power ≥ 0 then ofRatio negative (digits * Nat.pow 10 power.toNat) 1
  else ofRatio negative digits (Nat.pow 10 (-power).toNat)

end Binary64

end SchemaBuild
