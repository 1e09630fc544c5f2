/-! Numerals in texts: plain counts as they are typed into paths and settings, and single digits of
a base up to sixteen. -/
namespace ComponentForm.Text

/-- The value of a digit, letters of either case counting from ten. -/
def digitValue? (base : Nat) (c : Char) : Option Nat :=
  let n :=
    if '0' ≤ c ∧ c ≤ '9' then c.toNat - '0'.toNat
    else if 'a' ≤ c ∧ c ≤ 'f' then c.toNat - 'a'.toNat + 10
    else if 'A' ≤ c ∧ c ≤ 'F' then c.toNat - 'A'.toNat + 10
    else 16
  if n < base then some n else none

def isDigit (c : Char) : Bool := '0' ≤ c ∧ c ≤ '9'

/-- The digits of a base as one number, none if another character stands among them. -/
def readDigits? (base : Nat) (cs : List Char) : Option Nat :=
  cs.foldlM (fun n c => (digitValue? base c).map (n * base + ·)) 0

/-- A count below `limit`: decimal digits, at least one, after at most one plus sign. -/
def readCount? (limit : Nat) (s : String) : Option Nat :=
  let digits := match s.toList with
    | '+' :: rest => rest
    | cs => cs
  if digits.isEmpty then none
  else (readDigits? 10 digits).bind fun n => if n < limit then some n else none

def wordLimit : Nat := Nat.pow 2 64

def lowerHexDigit (n : Nat) : Char :=
  if n < 10 then Char.ofNat ('0'.toNat + n) else Char.ofNat ('a'.toNat + n - 10)

def upperHexDigit (n : Nat) : Char :=
  if n < 10 then Char.ofNat ('0'.toNat + n) else Char.ofNat ('A'.toNat + n - 10)

def lowerHex (n : Nat) : List Char :=
  if n < 16 then [lowerHexDigit n] else lowerHex (n / 16) ++ [lowerHexDigit (n % 16)]

end ComponentForm.Text
