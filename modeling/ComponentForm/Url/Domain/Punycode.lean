import ComponentForm.Text.Numeral

/-! Labels written with letters, digits and hyphens alone. The characters above ASCII are told apart
from the others and written behind them in the order of their numbers, each as the distance from
the one before. Distances are numbers of base 36 whose digits have thresholds: a digit below the
threshold of its place is the last one. -/
namespace ComponentForm.Url.Domain.Punycode

def digitChar (n : Nat) : Char :=
  if n < 26 then Char.ofNat ('a'.toNat + n) else Char.ofNat ('0'.toNat + (n - 26))

def digitValue? (c : Char) : Option Nat :=
  if 'a' ≤ c ∧ c ≤ 'z' then some (c.toNat - 'a'.toNat)
  else if Text.isDigit c then some (c.toNat - '0'.toNat + 26)
  else none

def threshold (place bias : Nat) : Nat :=
  max 1 (min 26 (place - bias))

/-- How often a distance can be divided by 35 before it is small, and what is left then. -/
def shrink (places distance : Nat) : Nat × Nat :=
  if 455 < distance then shrink (places + 36) (distance / 35) else (places, distance)
termination_by distance
decreasing_by omega

/-- The bias after a distance, the `count`-th character having been placed with it. -/
def adapt (distance count : Nat) (isFirst : Bool) : Nat :=
  let d := distance / (if isFirst then 700 else 2)
  let (places, d) := shrink 0 (d + d / count)
  places + 36 * d / (d + 38)

def firstBias : Nat := 72

def writeDistance (bias place n : Nat) : List Char :=
  let t := threshold place bias
  if n < t then [digitChar n]
  else digitChar (t + (n - t) % (36 - t)) :: writeDistance bias (place + 36) ((n - t) / (36 - t))
termination_by n
decreasing_by
  have low : 1 ≤ threshold place bias := Nat.le_max_left _ _
  exact Nat.lt_of_le_of_lt (Nat.div_le_self _ _) (by omega)

/-- Where a writer stands: the distance since the last character written, the bias, the count of the
characters that are written already, and whether the next is the first above ASCII. -/
structure Writer where
  distance : Nat
  bias : Nat
  count : Nat
  isFirst : Bool
  out : List Char

def Writer.pass (turn : Nat) (w : Writer) (c : Char) : Writer :=
  if c.toNat < turn then { w with distance := w.distance + 1 }
  else if c.toNat = turn then
    { distance := 0, bias := adapt w.distance (w.count + 1) w.isFirst, count := w.count + 1,
      isFirst := false, out := w.out ++ writeDistance w.bias 36 w.distance }
  else w

def writeTurns (label : List Char) : Nat → Writer → List Nat → List Char
  | _, w, [] => w.out
  | n, w, turn :: turns =>
    let w := { w with distance := w.distance + (turn - n) * (w.count + 1) }
    let w := label.foldl (Writer.pass turn) w
    writeTurns label (turn + 1) { w with distance := w.distance + 1 } turns

def encode (label : List Char) : List Char :=
  let plain := label.filter (· < '\x80')
  let turns := (((label.map Char.toNat).filter (0x80 ≤ ·)).mergeSort (· ≤ ·)).eraseDups
  (if plain.isEmpty then [] else plain ++ ['-']) ++
    writeTurns label 0x80 ⟨0, firstBias, plain.length, true, []⟩ turns

/-- Where a reader stands: the number of the last character placed and the position after it, the
distance read so far, the weight and the place of the next digit, and the bias. -/
structure Reader where
  number : Nat
  position : Nat
  distance : Nat
  weight : Nat
  place : Nat
  bias : Nat
  isFirst : Bool
  out : List Char

def Reader.put? (r : Reader) (distance : Nat) : Option Reader :=
  let count := r.out.length + 1
  let reached := r.position + distance
  let number := r.number + reached / count
  let position := reached % count
  if number.isValidChar then
    some ⟨number, position + 1, 0, 1, 36, adapt distance count r.isFirst, false,
      r.out.insertIdx position (Char.ofNat number)⟩
  else none

def readDigits : Reader → List Char → Option (List Char)
  | r, [] => if r.place = 36 then some r.out else none
  | r, c :: cs =>
    match digitValue? c with
    | none => none
    | some d =>
      let distance := r.distance + d * r.weight
      let t := threshold r.place r.bias
      if d < t then (r.put? distance).bind fun r => readDigits r cs
      else readDigits { r with distance, weight := r.weight * (36 - t), place := r.place + 36 } cs

/-- Undoes the writing; the last hyphen ends the characters that were left as they are, of which there
is at least one. -/
def decode? (cs : List Char) : Option (List Char) :=
  let code := (cs.reverse.takeWhile (· ≠ '-')).reverse
  let plain := cs.take (cs.length - code.length - 1)
  if cs.head? = some '-' && plain.isEmpty then none
  else if plain.all (· < '\x80') then readDigits ⟨0x80, 0, 0, 1, 36, firstBias, true, plain⟩ code
  else none

end ComponentForm.Url.Domain.Punycode
