/-! Binary floating-point numbers of 64 bits, without infinities and without NaN.

The magnitudes are numbered from zero upward. Number k stands for m · 2 ^ q, where m has at most
53 bits and q is at least -1074, so that a larger number is a larger magnitude and rounding is a
choice between two neighbours. All arithmetic is on natural numbers. -/
namespace ComponentForm

structure Binary64 where
  negative : Bool
  /-- The place of the magnitude among all magnitudes. -/
  place : Nat
deriving DecidableEq, Repr

namespace Binary64

def places : Nat := 2047 * Nat.pow 2 52

def mantissa (place : Nat) : Nat :=
  if place < Nat.pow 2 52 then place else Nat.pow 2 52 + place % Nat.pow 2 52

/-- The exponent of two, plus 1074. -/
def scale (place : Nat) : Nat :=
  place / Nat.pow 2 52 - 1

def ratio (place : Nat) : Nat × Nat :=
  if 1074 ≤ scale place then (mantissa place * Nat.pow 2 (scale place - 1074), 1)
  else (mantissa place, Nat.pow 2 (1074 - scale place))

/-- The quotient rounded to a whole number, a half to the even neighbour. -/
def roundDiv (num den : Nat) : Nat :=
  let n := num / den
  let r := num % den
  if 2 * r < den then n
  else if 2 * r = den then n + n % 2
  else n + 1

/-- The place nearest to the quotient, a tie to the even place; none beyond the largest number. -/
def nearest? (num den : Nat) : Option Nat :=
  if num = 0 then some 0
  else
    let width : Int := (num.log2 : Int) - den.log2
    let scaled (q : Int) : Nat × Nat :=
      if 0 ≤ q then (num, den * Nat.pow 2 q.toNat) else (num * Nat.pow 2 (-q).toNat, den)
    let q := width - 52
    let (n, d) := scaled q
    let q := max (if n / d < Nat.pow 2 52 then q - 1 else q) (-1074)
    let (n, d) := scaled q
    let place := (q + 1074).toNat * Nat.pow 2 52 + roundDiv n d
    if place < places then some place else none

def tenPower (n : Nat) : Nat :=
  (nearest? (Nat.pow 10 n) 1).getD 0

def times? (a b : Nat) : Option Nat :=
  let (n, d) := ratio a
  let (n', d') := ratio b
  nearest? (n * n') (d * d')

def quotient (a b : Nat) : Nat :=
  let (n, d) := ratio a
  let (n', d') := ratio b
  (nearest? (n * d') (d * n')).getD 0

/-- A magnitude scaled by a power of ten, one rounding a step: the powers up to 308 are numbers of
their own, smaller magnitudes are divided in steps. -/
def scaleTen? (place : Nat) (exponent : Int) : Option Nat :=
  if 0 ≤ exponent then
    if exponent ≤ 308 then times? place (tenPower exponent.toNat)
    else if place = 0 then some 0
    else none
  else if -308 ≤ exponent then some (quotient place (tenPower (-exponent).toNat))
  else if place = 0 then some 0
  else scaleTen? (quotient place (tenPower 308)) (exponent + 308)
termination_by exponent.natAbs
decreasing_by omega

/-- The number that decimal digits stand for. The digits as a whole number are rounded first and
their power of ten is applied after that, so the result may be a neighbour of the nearest. -/
def ofDecimal? (negative : Bool) (digits : Nat) (exponent : Int) : Option Binary64 :=
  (nearest? digits 1).bind fun place =>
    (scaleTen? place exponent).map fun place => ⟨negative, place⟩

def same (a b : Binary64) : Bool :=
  a = b ∨ (a.place = 0 ∧ b.place = 0)

/-- The quotient of the number, its lower bound and its upper bound, over one denominator: what
lies between the bounds reads back as the number. -/
def interval (place : Nat) : Nat × Nat × Nat × Nat :=
  let m := mantissa place
  let below := if m = Nat.pow 2 52 ∧ 0 < scale place then 1 else 2
  let (up, den) := if 1076 ≤ scale place then (Nat.pow 2 (scale place - 1076), 1)
    else (1, Nat.pow 2 (1076 - scale place))
  (4 * m * up, (4 * m - below) * up, (4 * m + 2) * up, den)

def decimalWidth (num den : Nat) : Int :=
  if den ≤ num then (Nat.toDigits 10 (num / den)).length
  else go 400 1 (num * 10)
where
  go : Nat → Int → Nat → Int
    | 0, w, _ => w
    | fuel + 1, w, n => if den ≤ n then w - 1 else go fuel (w - 1) (n * 10)

/-- The multiple of a power of ten that reads back as the number, if there is one: of the two
neighbours of the number the nearer, a tie to the even one. -/
def onGrid? (place : Nat) (exponent : Int) : Option Nat :=
  let (mid, low, high, den) := interval place
  let (up, den) := if 0 ≤ exponent then (1, den * Nat.pow 10 exponent.toNat)
    else (Nat.pow 10 (-exponent).toNat, den)
  let mid := mid * up
  let within (c : Nat) : Bool :=
    if mantissa place % 2 = 0 then low * up ≤ c * den ∧ c * den ≤ high * up
    else low * up < c * den ∧ c * den < high * up
  let c := mid / den
  let r := mid % den
  let lower := c != 0 && within c
  let upper := within (c + 1)
  if lower && upper then some (if 2 * r < den then c else if 2 * r = den then c + c % 2 else c + 1)
  else if lower then some c
  else if upper then some (c + 1)
  else none

/-- The fewest decimal digits that read back as the number, and the power of ten of the last. -/
def shortest (place : Nat) : Nat × Int :=
  let (mid, _, _, den) := interval place
  let width := decimalWidth mid den
  let tries := (List.range 17).map fun n => width - (n + 1 : Nat)
  match tries.findSome? fun e => (onGrid? place e).map (·, e) with
  | some (c, e) => stripped 20 c e
  | none => (0, 0)
where
  stripped : Nat → Nat → Int → Nat × Int
    | 0, c, e => (c, e)
    | fuel + 1, c, e => if c ≠ 0 ∧ c % 10 = 0 then stripped fuel (c / 10) (e + 1) else (c, e)

/-- Decimal text: a point is always written, and powers of ten from -5 to 15 need no exponent. -/
def text (x : Binary64) : String :=
  let sign := if x.negative then "-" else ""
  if x.place = 0 then sign ++ "0.0"
  else
    let (c, last) := shortest x.place
    let digits := Nat.toDigits 10 c
    let e : Int := last + digits.length - 1
    let body : List Char :=
      if 0 ≤ e ∧ e ≤ 15 then
        let whole := e.toNat + 1
        let filled := digits ++ List.replicate (whole - digits.length) '0'
        let fraction := filled.drop whole
        filled.take whole ++ '.' :: (if fraction.isEmpty then ['0'] else fraction)
      else if -5 ≤ e ∧ e < 0 then
        '0' :: '.' :: (List.replicate ((-e).toNat - 1) '0' ++ digits)
      else
        digits.take 1 ++ (if digits.length = 1 then [] else '.' :: digits.drop 1) ++
          'e' :: (if 0 ≤ e then '+' else '-') :: Nat.toDigits 10 e.natAbs
    sign ++ String.ofList body

end Binary64
end ComponentForm
