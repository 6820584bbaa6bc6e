import SchemaBuild.Decimal.Binary64

/-!
# The shortest decimal of a binary number

A finite number is shown by the fewest decimal digits that read back as the same number, and among
those by the ones nearest to it. All reals between the midpoints to the two neighbouring numbers read
back, the midpoints included if the mantissa is even. The digits are found by going from the coarsest
decimal grid to finer ones until a grid point next to the number lies in that interval.

Numbers are written positionally, however large or small.
-/

namespace SchemaBuild

namespace Binary64

/-- The reals that read back as one number, in units of `unit`. -/
structure Interval where
  low : Nat
  value : Nat
  high : Nat
  /-- Do the ends read back, too? -/
  closed : Bool

/-- The interval of a mantissa and an exponent, in units of a quarter of the last place. -/
def interval (mantissa : Nat) (exponent : Int) : Interval :=
  let below := if mantissa = Nat.pow 2 (precision - 1) && exponent > minExponent then 1 else 2
  { low := 4 * mantissa - below, value := 4 * mantissa, high := 4 * mantissa + 2,
    closed := mantissa % 2 == 0 }

/-- Does `point` lie in the interval, both in the same unit? -/
def Interval.contains (interval : Interval) (factor point : Nat) : Bool :=
  let low := interval.low * factor
  let high := interval.high * factor
  if interval.closed then low ≤ point && point ≤ high else low < point && point < high

/-- The grid point for the decimal power `power`, if one of the two next to the number lies in the
interval: the number of grid steps. The unit is `2 ^ two`. -/
def gridPoint? (interval : Interval) (two : Int) (power : Int) : Option Nat :=
  -- One common unit for the number and the grid.
  let factor := Nat.pow 2 two.toNat * Nat.pow 10 (-power).toNat
  let step := Nat.pow 10 power.toNat * Nat.pow 2 (-two).toNat
  let value := interval.value * factor
  let below := value / step
  let inBelow := below != 0 && interval.contains factor (below * step)
  let inAbove := interval.contains factor ((below + 1) * step)
  match inBelow, inAbove with
  | true, true => some (if value - below * step ≤ (below + 1) * step - value then below else below + 1)
  | true, false => some below
  | false, true => some (below + 1)
  | false, false => none

/-- The first grid with a hit, from `power` down. -/
def searchGrid (interval : Interval) (two : Int) : (fuel : Nat) → (power : Int) → Nat × Int
  | 0, power => (0, power)
  | fuel + 1, power =>
    match gridPoint? interval two power with
    | some steps => (steps, power)
    | none => searchGrid interval two fuel (power - 1)

/-- The shortest decimal `digits · 10 ^ power` of a positive number. -/
def shortest (mantissa : Nat) (exponent : Int) : Nat × Int :=
  -- The powers of ten from above the number down to seventeen digits, by a rough logarithm.
  let bits : Int := (Nat.log2 mantissa : Int) + exponent
  let top := (bits * 30103) / 100000 + 2
  searchGrid (interval mantissa exponent) (exponent - 2) 24 top

/-- The digits of a decimal written positionally, without an exponent and without a point if the
number is whole. -/
def positional (digits : Nat) (power : Int) : List Char :=
  let shown := Nat.toDigits 10 digits
  if power ≥ 0 then shown ++ List.replicate power.toNat '0'
  else
    let places := (-power).toNat
    let padded := List.replicate (places + 1 - shown.length) '0' ++ shown
    let whole := padded.take (padded.length - places)
    let fraction := (padded.drop (padded.length - places)).reverse.dropWhile (· = '0') |>.reverse
    if fraction.isEmpty then whole else whole ++ '.' :: fraction

/-- The number as text. -/
def toText : Binary64 → String
  | notANumber => "NaN"
  | infinite negative => if negative then "-inf" else "inf"
  | finite negative mantissa exponent =>
    let shown :=
      if mantissa = 0 then ['0']
      else
        let (digits, power) := shortest mantissa exponent
        positional digits power
    String.ofList (if negative then '-' :: shown else shown)

/-- The number as text that shows a point. -/
def toPointedText (number : Binary64) : String :=
  let text := number.toText
  match number with
  | finite .. => if text.toList.contains '.' then text else text ++ ".0"
  | _ => text

end Binary64

end SchemaBuild
