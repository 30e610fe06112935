import CorpusLint.Text.Basic

/-!
# Floating-point numbers in decimal

A binary number of 64 bits is a significand below 2^53 times a power of two. A decimal number is
read as the nearest such number; of two equally near ones the one with the even significand is
taken. A finite number is written with the fewest digits that read back, always in positional
notation. Both directions are exact arithmetic on natural numbers.
-/

namespace CorpusLint

/-- A floating-point number of 64 bits. -/
inductive Binary64 where
  | nan
  | infinite (negative : Bool)
  /-- The number `significand * 2 ^ exponent`, or its negative. -/
  | finite (negative : Bool) (significand : Nat) (exponent : Int)
deriving DecidableEq, Repr

namespace Binary64

def twoTo (n : Nat) : Nat :=
  Nat.pow 2 n

def tenTo (n : Nat) : Nat :=
  Nat.pow 10 n

/-! ## Reading -/

/-- The quotient of two numbers, rounded to the nearest number, a half to the even one. -/
def divideToEven (num den : Nat) : Nat :=
  let quotient := num / den
  let rest := 2 * (num % den)
  if rest < den || (rest == den && quotient % 2 == 0) then quotient else quotient + 1

/-- The fraction `num / den` divided by two to the `exponent`, again as a fraction. -/
def scaleDown (num den : Nat) (exponent : Int) : Nat × Nat :=
  if exponent < 0 then (num * twoTo exponent.natAbs, den) else (num, den * twoTo exponent.natAbs)

/-- The exponent of the number nearest to `num / den`: the significand takes 53 bits where the least
exponent, -1074, allows it. -/
def exponentOf (num den : Nat) : Int :=
  let low : Int := (Nat.log2 num : Int) - (Nat.log2 den : Int) - 53
  let (n, d) := scaleDown num den low
  max (-1074) (if twoTo 53 * d ≤ n then low + 1 else low)

/-- The number nearest to the fraction `num / den`, or to its negative. -/
def ofFraction (negative : Bool) (num den : Nat) : Binary64 :=
  if num = 0 then finite negative 0 (-1074)
  else
    let exponent := exponentOf num den
    let (n, d) := scaleDown num den exponent
    let rounded := divideToEven n d
    let (significand, exponent) :=
      if rounded = twoTo 53 then (twoTo 52, exponent + 1) else (rounded, exponent)
    if 971 < exponent then infinite negative else finite negative significand exponent

/-- The number nearest to `digits * 10 ^ exponent`, or to its negative. An exponent far beyond the
range of the numbers is decided without the power of ten. -/
def ofDecimal (negative : Bool) (digits : Nat) (exponent : Int) : Binary64 :=
  let length : Int := (Text.ofNat digits).length
  if digits = 0 || length + exponent < -400 then finite negative 0 (-1074)
  else if 400 < length + exponent then infinite negative
  else if exponent < 0 then ofFraction negative digits (tenTo exponent.natAbs)
  else ofFraction negative (digits * tenTo exponent.natAbs) 1

/-! ## Writing -/

/-- Whether `num / den` is read back as `significand * 2 ^ exponent`. Everything is measured in
quarters of the last binary place, since the place below a power of two is half as wide. -/
def readsBack (significand : Nat) (exponent : Int) (num den : Nat) : Bool :=
  let (n, d) := scaleDown num den (exponent - 2)
  let centre := 4 * significand
  let below := if significand = twoTo 52 && exponent ≠ -1074 then 1 else 2
  let least := (centre - below) * d
  let greatest := (centre + 2) * d
  if significand % 2 = 0 then least ≤ n && n ≤ greatest else least < n && n < greatest

/-- The nearest multiple of `10 ^ place` to `significand * 2 ^ exponent` that is read back, in
multiples of that power. Only the two neighbours can be; of two that are equally near the upper one
is taken. -/
def onGrid? (significand : Nat) (exponent : Int) (place : Int) : Option Nat :=
  let ten (multiple : Nat) : Nat × Nat :=
    if place < 0 then (multiple, tenTo place.natAbs) else (multiple * tenTo place.natAbs, 1)
  let (n, d) := scaleDown significand 1 (-exponent)
  let (gridNum, gridDen) := ten 1
  let lower := n * gridDen / (d * gridNum)
  let fits (multiple : Nat) : Bool :=
    let (num, den) := ten multiple
    readsBack significand exponent num den
  let upperIsNearer := (2 * lower + 1) * (d * gridNum) ≤ 2 * (n * gridDen)
  match fits lower, fits (lower + 1) with
  | true, true => some (if upperIsNearer then lower + 1 else lower)
  | true, false => some lower
  | false, true => some (lower + 1)
  | false, false => none

/-- The multiple on the coarsest decimal grid that is read back, and the place of that grid. The
search goes down from `place` through `count` grids. -/
def coarsest (significand : Nat) (exponent : Int) : Nat → Int → Nat × Int
  | 0, place => (0, place)
  | count + 1, place =>
    match onGrid? significand exponent place with
    | some multiple => (multiple, place)
    | none => coarsest significand exponent count (place - 1)

/-- The fewest digits that are read back as `significand * 2 ^ exponent`, and the place of the last
one. All numbers of 64 bits lie between the grids of 10^309 and 10^-324. -/
def shortest (significand : Nat) (exponent : Int) : Nat × Int :=
  if significand = 0 then (0, 0) else coarsest significand exponent 634 309

/-- The number `multiple * 10 ^ place` in positional notation, with at least one digit on each side
of the point. -/
def positional (multiple : Nat) (place : Int) : Text :=
  let digits := Text.ofNat multiple
  if 0 ≤ place then
    digits ++ List.replicate (if multiple = 0 then 0 else place.natAbs) '0' ++ ".0".toList
  else
    let fraction := place.natAbs
    let padded := List.replicate (fraction + 1 - digits.length) '0' ++ digits
    padded.take (padded.length - fraction) ++ '.' :: padded.drop (padded.length - fraction)

def toText : Binary64 → Text
  | nan => "NaN".toList
  | infinite negative => if negative then "-inf".toList else "inf".toList
  | finite negative significand exponent =>
    let (multiple, place) := shortest significand exponent
    let written := positional multiple place
    if negative then '-' :: written else written

end Binary64

end CorpusLint
