import JsxGen.Number.Binary64

/-! The shortest decimal that rounds to a given binary64 number, and its text without an exponent. -/

namespace JsxGen.Binary64

/-- The numbers that round to `mantissa * 2 ^ exponent`, from `low / scale` to `high / scale`
around `value / scale`; the two ends belong to them if `closed`. -/
structure RoundingInterval where
  low : Nat
  value : Nat
  high : Nat
  scale : Nat
  closed : Bool

/-- Below a power of two the next smaller number is only half as far away. -/
def roundingInterval (mantissa : Nat) (exponent : Int) : RoundingInterval where
  low :=
    (4 * mantissa - if mantissa = Nat.pow 2 52 && -1074 < exponent then 1 else 2) *
      Nat.pow 2 exponent.toNat
  value := 4 * mantissa * Nat.pow 2 exponent.toNat
  high := (4 * mantissa + 2) * Nat.pow 2 exponent.toNat
  scale := 4 * Nat.pow 2 (-exponent).toNat
  closed := mantissa % 2 = 0

/-- The point `n` of the grid of multiples of `10 ^ power` that is nearest to the value, of two
nearest ones the greater, if one lies in the interval. -/
def RoundingInterval.gridPoint? (r : RoundingInterval) (power : Int) : Option Nat :=
  let up := Nat.pow 10 (-power).toNat
  let unit := r.scale * Nat.pow 10 power.toNat
  let inside (n : Nat) : Bool :=
    if r.closed then r.low * up ≤ n * unit && n * unit ≤ r.high * up
    else r.low * up < n * unit && n * unit < r.high * up
  let below := r.value * up / unit
  let fraction := r.value * up % unit
  if inside below && (2 * fraction < unit || !inside (below + 1)) then some below
  else if inside (below + 1) then some (below + 1)
  else none

/-- The digits and the power of ten of the shortest decimal: the point of the coarsest grid that
has one in the interval. -/
def shortest (mantissa : Nat) (exponent : Int) : Nat × Int :=
  if mantissa = 0 then (0, 0) else
  let interval := roundingInterval mantissa exponent
  let powers := (List.range 660).map fun (i : Nat) => (310 : Int) - i
  (powers.findSome? fun power => (interval.gridPoint? power).map (·, power)).getD (0, 0)

/-- The decimal `digits * 10 ^ power` written with all its places. -/
def positional (digits : Nat) (power : Int) : List Char :=
  let text := Nat.toDigits 10 digits
  let places := (-power).toNat
  if places = 0 then text ++ List.replicate power.toNat '0'
  else
    let padded := List.replicate (places + 1 - text.length) '0' ++ text
    padded.take (padded.length - places) ++ '.' :: padded.drop (padded.length - places)

end JsxGen.Binary64
