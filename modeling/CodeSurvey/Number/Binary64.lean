/-!
# Binary floating-point numbers

The numbers of the 64-bit binary format: `mantissa · 2 ^ exponent` with a mantissa below `2 ^ 53`
and an exponent from `-1074` to `971`, the two infinities, and the value that is no number.  A
finite number is kept with the largest mantissa it has in the format.

`Binary64.ofDecimal` is the number nearest to a decimal fraction, and of two equally near ones
the one with the even mantissa.  `Binary64.shortest` is the decimal fraction with the fewest
digits that reads back as the number, and of those the nearest.  Both are computed on integers,
without rounding on the way.
-/

namespace CodeSurvey

/-- A number of the format. -/
inductive Binary64 where
  | finite (negative : Bool) (mantissa : Nat) (exponent : Int)
  | infinite (negative : Bool)
  | notANumber
deriving DecidableEq, Repr, Inhabited

namespace Binary64

/-- The least mantissa of a number that is not among the smallest, `2 ^ 52`. -/
def fullMantissa : Nat := 0x10000000000000

/-- The least exponent of the format. -/
def leastExponent : Int := -1074

/-- The greatest exponent of the format. -/
def greatestExponent : Int := 971

/-- A power of two or ten as a fraction: the exponent may be negative. -/
def powerFraction (base : Nat) (exponent : Int) : Nat × Nat :=
  if 0 ≤ exponent then (base.pow exponent.toNat, 1) else (1, base.pow (-exponent).toNat)

/-- The natural number nearest to a fraction, and of two equally near ones the even one. -/
def roundHalfEven (numerator denominator : Nat) : Nat :=
  let quotient := numerator / denominator
  let twice := 2 * (numerator % denominator)
  if twice < denominator then quotient
  else if denominator < twice then quotient + 1
  else if quotient % 2 = 0 then quotient
  else quotient + 1

/-- The exponent with which a positive fraction has a mantissa from `2 ^ 52` up to `2 ^ 53`, or
the least exponent of the format when it is below that. -/
def exponentOf (numerator denominator : Nat) : Int :=
  let guess : Int := (Nat.log2 numerator : Int) - Nat.log2 denominator - 52
  let (up, down) := powerFraction 2 guess
  let fitting := if numerator * down < fullMantissa * (denominator * up) then guess - 1 else guess
  max fitting leastExponent

/-- The number nearest to a positive fraction. -/
def ofFraction (negative : Bool) (numerator denominator : Nat) : Binary64 :=
  let exponent := exponentOf numerator denominator
  let (up, down) := powerFraction 2 exponent
  let mantissa := roundHalfEven (numerator * down) (denominator * up)
  let (mantissa, exponent) :=
    if mantissa = 2 * fullMantissa then (fullMantissa, exponent + 1) else (mantissa, exponent)
  if greatestExponent < exponent then infinite negative else finite negative mantissa exponent

/-- The number nearest to `digits · 10 ^ exponent`.  Fractions far beyond the range of the format
are not computed with. -/
def ofDecimal (negative : Bool) (digits : Nat) (exponent : Int) : Binary64 :=
  let order := ((Nat.toDigits 10 digits).length : Int) + exponent
  if digits = 0 ∨ order < -330 then finite negative 0 leastExponent
  else if 310 < order then infinite negative
  else
    let (up, down) := powerFraction 10 exponent
    ofFraction negative (digits * up) down

/-! ### The shortest decimal fraction -/

/-- The decimal order of a positive fraction: the least `k` with `fraction < 10 ^ k`, searched
upward from `guess` through at most `steps` values. -/
def orderFrom (numerator denominator : Nat) (guess : Int) : (steps : Nat) → Int
  | 0 => guess
  | steps + 1 =>
    let (up, down) := powerFraction 10 guess
    if numerator * down < denominator * up then guess
    else orderFrom numerator denominator (guess + 1) steps

/-- The reals that read back as a number: a multiple `value`, in units of a quarter of the last
place, and the two ends of the interval in the same units. -/
structure Neighbourhood where
  low : Nat
  value : Nat
  high : Nat
  /-- The ends belong to the interval. -/
  closed : Bool

/-- The reals that read back as `mantissa · 2 ^ exponent`.  The number below a power of two is
nearer than the one above. -/
def neighbourhood (mantissa : Nat) (exponent : Int) : Neighbourhood where
  low := if mantissa = fullMantissa ∧ leastExponent < exponent then 4 * mantissa - 1
    else 4 * mantissa - 2
  value := 4 * mantissa
  high := 4 * mantissa + 2
  closed := mantissa % 2 = 0

/-- A real reads back as the number; `scaled` is the real and `scale` a quarter of the last place,
both over one denominator. -/
def Neighbourhood.contains (n : Neighbourhood) (scaled scale : Nat) : Bool :=
  if n.closed then n.low * scale ≤ scaled && scaled ≤ n.high * scale
  else n.low * scale < scaled && scaled < n.high * scale

/-- The multiple of `10 ^ place` that reads back as the number and is nearest to it, when there is
one; it is one of the two beside the number. -/
def nearestMultiple? (mantissa : Nat) (exponent place : Int) : Option Nat :=
  let n := neighbourhood mantissa exponent
  let (unitUp, unitDown) := powerFraction 2 (exponent - 2)
  let (stepUp, stepDown) := powerFraction 10 place
  -- `q` steps are `q * step` and `x` quarters are `x * scale`, over one denominator
  let step := stepUp * unitDown
  let scale := unitUp * stepDown
  let below := n.value * scale / step
  let inside (q : Nat) : Bool := n.contains (q * step) scale
  let distance := n.value * scale - below * step
  match inside below, inside (below + 1) with
  | true, false => some below
  | false, true => some (below + 1)
  | false, false => none
  | true, true =>
    if 2 * distance < step then some below
    else if step < 2 * distance then some (below + 1)
    else if below % 2 = 0 then some below
    else some (below + 1)

/-- The first of the grids with at least `count` digits that has a multiple which reads back: the
multiple and the place of its last digit. -/
def shortestFrom (mantissa : Nat) (exponent order : Int) : (steps count : Nat) → Nat × Int
  | 0, count => ((nearestMultiple? mantissa exponent (order - count)).getD 0, order - count)
  | steps + 1, count =>
    match nearestMultiple? mantissa exponent (order - count) with
    | some multiple => (multiple, order - count)
    | none => shortestFrom mantissa exponent order steps (count + 1)

/-- The decimal fraction `digits · 10 ^ place` with the fewest digits that reads back as the
positive number `mantissa · 2 ^ exponent`; seventeen digits are always enough. -/
def shortest (mantissa : Nat) (exponent : Int) : Nat × Int :=
  let (up, down) := powerFraction 2 exponent
  -- two orders of magnitude of binary digits lie within one step of the guess
  let binaryOrder : Int := (Nat.log2 mantissa : Int) + exponent
  let guess := Int.fdiv (binaryOrder * 30103) 100000 - 1
  let order := orderFrom (mantissa * up) down guess 4
  shortestFrom mantissa exponent order 16 1

/-! ### Text -/

/-- Drops the zeros at the end of a list of digits. -/
def withoutTrailingZeros (digits : List Char) : List Char :=
  (digits.reverse.dropWhile (· = '0')).reverse

/-- A number of zeros. -/
def zeros (n : Nat) : List Char := List.replicate n '0'

/-- The digits of a positive number, the first of which is not zero, where the decimal point
stands `point` places after the beginning: positional from `10 ^ -4` up to `10 ^ 16`, with an
exponent of at least two digits outside. -/
def layout (digits : List Char) (point : Int) : List Char :=
  if -4 < point ∧ point ≤ 16 then
    if point ≤ 0 then '0' :: '.' :: zeros (-point).toNat ++ digits
    else
      let whole := point.toNat
      if digits.length ≤ whole then digits ++ zeros (whole - digits.length) ++ ['.', '0']
      else digits.take whole ++ '.' :: digits.drop whole
  else
    let exponent := point - 1
    let sign := if exponent < 0 then '-' else '+'
    let places := Nat.toDigits 10 exponent.natAbs
    let fraction := if digits.length ≤ 1 then [] else '.' :: digits.drop 1
    digits.take 1 ++ fraction ++ 'e' :: sign :: zeros (2 - places.length) ++ places

/-- The text of the number without its sign. -/
def magnitudeText (mantissa : Nat) (exponent : Int) : List Char :=
  if mantissa = 0 then ['0', '.', '0']
  else
    let (multiple, place) := shortest mantissa exponent
    let digits := Nat.toDigits 10 multiple
    layout (withoutTrailingZeros digits) (digits.length + place)

/-- The text of a number: the shortest that reads back. -/
def text : Binary64 → String
  | finite negative mantissa exponent =>
    String.ofList ((if negative then ['-'] else []) ++ magnitudeText mantissa exponent)
  | infinite negative => if negative then "-inf" else "inf"
  | notANumber => "nan"

/-- The number is zero. -/
def isZero : Binary64 → Bool
  | finite _ mantissa _ => mantissa = 0
  | _ => false

end Binary64

end CodeSurvey
