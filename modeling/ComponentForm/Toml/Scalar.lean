import ComponentForm.Text.Numeral
import ComponentForm.Toml.Table

/-! Words of a TOML document: keys, strings, numbers, dates and times. A reader gives what it read and
the text after it. -/
namespace ComponentForm.Toml

abbrev Chars := List Char

abbrev Reader (α : Type) := Chars → Option (α × Chars)

def isGap (c : Char) : Bool := c = ' ' ∨ c = '\t'

def skipGap (cs : Chars) : Chars := cs.dropWhile isGap

/-- Characters that a comment or a literal string may hold. -/
def isShown (c : Char) : Bool := c = '\t' ∨ (' ' ≤ c ∧ c ≠ '\x7f')

def lineEnd? : Chars → Option Chars
  | '\n' :: rest => some rest
  | '\r' :: '\n' :: rest => some rest
  | _ => none

def isBare (c : Char) : Bool :=
  ('a' ≤ c ∧ c ≤ 'z') ∨ ('A' ≤ c ∧ c ≤ 'Z') ∨ Text.isDigit c ∨ c = '_' ∨ c = '-'

def codePoint? (digits : Chars) : Option Char :=
  (Text.readDigits? 16 digits).bind fun n => if n.isValidChar then some (Char.ofNat n) else none

def readEscape : Reader Char
  | 'b' :: rest => some ('\x08', rest)
  | 't' :: rest => some ('\t', rest)
  | 'n' :: rest => some ('\n', rest)
  | 'f' :: rest => some ('\x0c', rest)
  | 'r' :: rest => some ('\r', rest)
  | '"' :: rest => some ('"', rest)
  | '\\' :: rest => some ('\\', rest)
  | 'u' :: a :: b :: c :: d :: rest => (codePoint? [a, b, c, d]).map (·, rest)
  | 'U' :: a :: b :: c :: d :: e :: f :: g :: h :: rest =>
    (codePoint? [a, b, c, d, e, f, g, h]).map (·, rest)
  | _ => none

def readBasic : (fuel : Nat) → Reader Chars
  | 0, _ => none
  | _ + 1, '"' :: rest => some ([], rest)
  | fuel + 1, '\\' :: rest => do
    let (c, rest) ← readEscape rest
    let (cs, rest) ← readBasic fuel rest
    return (c :: cs, rest)
  | fuel + 1, c :: rest =>
    if isShown c then (readBasic fuel rest).map fun (cs, rest) => (c :: cs, rest) else none
  | _ + 1, [] => none

def readLiteral : Reader Chars
  | [] => none
  | '\'' :: rest => some ([], rest)
  | c :: rest =>
    if isShown c then (readLiteral rest).map fun (cs, rest) => (c :: cs, rest) else none

/-- The text after a backslash at the end of a line: blank lines are skipped. -/
def skipLineEnds (cs : Chars) : Chars :=
  cs.dropWhile fun c => isGap c || c = '\n' || c = '\r'

/-- Whether every return in the text is part of a line end. -/
def returnsPaired : Chars → Bool
  | '\r' :: '\n' :: rest => returnsPaired rest
  | '\r' :: _ => false
  | _ :: rest => returnsPaired rest
  | [] => true

/-- A string of several lines, after its three quotes. Up to two quotes may stand before the three
that close it, and a backslash takes the line end away. -/
def readLong (quote : Char) (escapes : Bool) : (fuel : Nat) → Reader Chars
  | 0, _ => none
  | _ + 1, [] => none
  | fuel + 1, c :: rest =>
    if c = quote then
      let run := (c :: rest).takeWhile (· = quote)
      let after := (c :: rest).drop (min run.length 5)
      if 3 ≤ run.length then some (List.replicate (min run.length 5 - 3) quote, after)
      else (readLong quote escapes fuel ((c :: rest).drop run.length)).map fun (cs, rest) =>
        (run ++ cs, rest)
    else if escapes ∧ c = '\\' then
      match lineEnd? (skipGap rest) with
      | some next =>
        let skipped := next.takeWhile fun c => isGap c || c = '\n' || c = '\r'
        if returnsPaired skipped then readLong quote escapes fuel (skipLineEnds next) else none
      | none => do
        let (c, rest) ← readEscape rest
        let (cs, rest) ← readLong quote escapes fuel rest
        return (c :: cs, rest)
    else match lineEnd? (c :: rest) with
      | some rest => (readLong quote escapes fuel rest).map fun (cs, rest) => ('\n' :: cs, rest)
      | none =>
        if isShown c then
          (readLong quote escapes fuel rest).map fun (cs, rest) => (c :: cs, rest)
        else none

/-- A string in one of its four forms; a line end right after three quotes does not count. -/
def readString : Reader String := fun cs =>
  let long (quote : Char) (escapes : Bool) (rest : Chars) : Option (String × Chars) :=
    let rest := (lineEnd? rest).getD rest
    (readLong quote escapes (rest.length + 1) rest).map fun (cs, rest) => (String.ofList cs, rest)
  match cs with
  | '"' :: '"' :: '"' :: rest => long '"' true rest
  | '\'' :: '\'' :: '\'' :: rest => long '\'' false rest
  | '"' :: rest =>
    (readBasic (rest.length + 1) rest).map fun (cs, rest) => (String.ofList cs, rest)
  | '\'' :: rest => (readLiteral rest).map fun (cs, rest) => (String.ofList cs, rest)
  | _ => none

def readKeyPart : Reader String
  | '"' :: rest =>
    (readBasic (rest.length + 1) rest).map fun (cs, rest) => (String.ofList cs, rest)
  | '\'' :: rest => (readLiteral rest).map fun (cs, rest) => (String.ofList cs, rest)
  | cs =>
    let key := cs.takeWhile isBare
    if key.isEmpty then none else some (String.ofList key, cs.dropWhile isBare)

/-- How deep keys, arrays and inline tables must not go. -/
def depthLimit : Nat := 80

def readParts : (fuel : Nat) → Reader (List String)
  | 0, _ => none
  | fuel + 1, cs => do
    let (part, rest) ← readKeyPart (skipGap cs)
    match skipGap rest with
    | '.' :: rest =>
      let (parts, rest) ← readParts fuel rest
      return (part :: parts, rest)
    | rest => return ([part], rest)

def readKey : Reader (List String) := fun cs =>
  (readParts (cs.length + 1) cs).filter fun (parts, _) => parts.length < depthLimit

/-- Digits with single underscores between them; `first` has been taken already. -/
def moreDigits (isDigit : Char → Bool) : Chars → Option (Chars × Chars)
  | [] => some ([], [])
  | '_' :: rest =>
    match rest with
    | d :: after =>
      if isDigit d then (moreDigits isDigit after).map fun (ds, rest) => (d :: ds, rest) else none
    | [] => none
  | c :: rest =>
    if isDigit c then (moreDigits isDigit rest).map fun (ds, rest) => (c :: ds, rest)
    else some ([], c :: rest)

def readDigits (isDigit : Char → Bool) : Reader Chars
  | [] => none
  | c :: rest =>
    if isDigit c then (moreDigits isDigit rest).map fun (ds, rest) => (c :: ds, rest) else none

/-- Decimal digits of a whole number: a zero stands alone. -/
def readWhole : Reader Chars
  | '0' :: rest => some (['0'], rest)
  | cs => readDigits Text.isDigit cs

def splitSign : Chars → Bool × Chars
  | '-' :: rest => (true, rest)
  | '+' :: rest => (false, rest)
  | cs => (false, cs)

def integerOf? (n : Int) : Option Value :=
  if -Int.pow 2 63 ≤ n ∧ n < Int.pow 2 63 then some (.integer n) else none

def readInBase (base : Nat) (cs : Chars) : Option (Value × Chars) := do
  let (digits, rest) ← readDigits (fun c => (Text.digitValue? base c).isSome) cs
  let n ← Text.readDigits? base digits
  return (← integerOf? n, rest)

/-- Whether a positive decimal number is too large for a floating-point number of 64 bits. -/
def tooLarge (digits : Nat) (exponent : Int) : Bool :=
  let width : Int := (Nat.toDigits 10 digits).length + exponent
  if digits = 0 ∨ width < 309 then false
  else if 310 < width then true
  else
    let limit := Nat.pow 2 1024 - Nat.pow 2 970
    if 0 ≤ exponent then limit ≤ digits * Nat.pow 10 exponent.toNat
    else limit * Nat.pow 10 (-exponent).toNat ≤ digits

def readFloat (cs : Chars) : Option (Value × Chars) := do
  let (negative, unsigned) := splitSign cs
  match unsigned with
  | 'i' :: 'n' :: 'f' :: rest => return (.float, rest)
  | 'n' :: 'a' :: 'n' :: rest => return (.float, rest)
  | _ => pure ()
  let (whole, rest) ← readWhole unsigned
  let (fraction, rest, pointed) ← match rest with
    | '.' :: rest => (readDigits Text.isDigit rest).map fun (ds, rest) => (ds, rest, true)
    | rest => some ([], rest, false)
  let (exponent, rest, scaled) ← match rest with
    | 'e' :: rest | 'E' :: rest =>
      let (down, rest) := splitSign rest
      (readDigits Text.isDigit rest).bind fun (ds, rest) =>
        (Text.readDigits? 10 ds).map fun (n : Nat) =>
          ((if down then -(n : Int) else (n : Int)), rest, true)
    | rest => some ((0 : Int), rest, false)
  if !pointed ∧ !scaled then none
  else
    let digits ← Text.readDigits? 10 (whole ++ fraction)
    if !negative ∧ tooLarge digits (exponent - fraction.length) then none
    else return (.float, rest)

def readInteger (cs : Chars) : Option (Value × Chars) :=
  match cs with
  | '0' :: 'x' :: rest => readInBase 16 rest
  | '0' :: 'o' :: rest => readInBase 8 rest
  | '0' :: 'b' :: rest => readInBase 2 rest
  | cs => do
    let (negative, unsigned) := splitSign cs
    let (digits, rest) ← readWhole unsigned
    let n ← Text.readDigits? 10 digits
    return (← integerOf? (if negative then -(n : Int) else n), rest)

def readFixed (count low high : Nat) : Reader Nat := fun cs => do
  let digits := cs.take count
  if digits.length ≠ count ∨ !digits.all Text.isDigit then none
  else
    let n ← Text.readDigits? 10 digits
    if low ≤ n ∧ n ≤ high then some (n, cs.drop count) else none

def readChar (c : Char) : Reader Unit
  | d :: rest => if d = c then some ((), rest) else none
  | [] => none

def daysIn (year month : Nat) : Nat :=
  if month = 2 then
    if year % 4 = 0 ∧ (year % 100 ≠ 0 ∨ year % 400 = 0) then 29 else 28
  else if month ∈ [4, 6, 9, 11] then 30 else 31

def readDate : Reader Unit := fun cs => do
  let (year, cs) ← readFixed 4 0 9999 cs
  let ((), cs) ← readChar '-' cs
  let (month, cs) ← readFixed 2 1 12 cs
  let ((), cs) ← readChar '-' cs
  let (_, cs) ← readFixed 2 1 (daysIn year month) cs
  return ((), cs)

def readTime : Reader Unit := fun cs => do
  let (_, cs) ← readFixed 2 0 23 cs
  let ((), cs) ← readChar ':' cs
  let (_, cs) ← readFixed 2 0 59 cs
  let ((), cs) ← readChar ':' cs
  let (_, cs) ← readFixed 2 0 60 cs
  match cs with
  | '.' :: rest =>
    if (rest.takeWhile Text.isDigit).isEmpty then none
    else return ((), rest.dropWhile Text.isDigit)
  | cs => return ((), cs)

def readOffset : Reader Unit
  | 'Z' :: rest | 'z' :: rest => some ((), rest)
  | '+' :: rest | '-' :: rest => do
    let (_, cs) ← readFixed 2 0 23 rest
    let ((), cs) ← readChar ':' cs
    let (_, cs) ← readFixed 2 0 59 cs
    return ((), cs)
  | cs => some ((), cs)

def readMoment (cs : Chars) : Option (Value × Chars) :=
  match readDate cs with
  | none => (readTime cs).map fun ((), rest) => (.moment, rest)
  | some ((), rest) =>
    match rest with
    | d :: after =>
      if d = 'T' ∨ d = 't' ∨ d = ' ' then
        match readTime after with
        | some ((), rest) => (readOffset rest).map fun ((), rest) => (.moment, rest)
        | none => some (.moment, rest)
      else some (.moment, rest)
    | [] => some (.moment, [])

/-- Digits that are no date and no time are a number with a point or an exponent, or else a whole
one. -/
def readNumber (cs : Chars) : Option (Value × Chars) :=
  ((readMoment cs).or (readFloat cs)).or (readInteger cs)

end ComponentForm.Toml
