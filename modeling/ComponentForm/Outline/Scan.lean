import ComponentForm.Outline.Basic

/-! The scan of a text, given as bytes, to its outline. -/
namespace ComponentForm.Outline

abbrev Bytes := List UInt8

def isSpace (b : UInt8) : Bool := b = 0x20 ∨ b = 0x09 ∨ b = 0x0A ∨ b = 0x0D

def skipSpace (bs : Bytes) : Bytes := bs.dropWhile isSpace

def isDigitByte (b : UInt8) : Bool := 0x30 ≤ b ∧ b ≤ 0x39

def digitOf (b : UInt8) : Nat := (b - 0x30).toNat

/-- What stands at the head of a text, and the text after it unless it broke off there. -/
abbrev Scanned := Outline × Option Bytes

def brokenOff (opening : Opening) (read pass : Fault) : Scanned :=
  (.broken opening read pass, none)

def scanWord (value : Outline) : Bytes → Bytes → Scanned
  | [], rest => (value, some rest)
  | _ :: _, [] => brokenOff .other .endInValue .endInValue
  | w :: word, b :: rest =>
    if w = b then scanWord value word rest else brokenOff .other .expectedWord .expectedWord

/-- Digits taken into one number while it fits into a word, and the count of the digits dropped. -/
def takeWhole (n dropped : Nat) : Bytes → Nat × Nat
  | [] => (n, dropped)
  | b :: rest =>
    if dropped ≠ 0 ∨ Text.wordLimit ≤ n * 10 + digitOf b then takeWhole n (dropped + 1) rest
    else takeWhole (n * 10 + digitOf b) dropped rest

def takeFraction (n taken : Nat) : Bytes → Nat × Nat
  | [] => (n, taken)
  | b :: rest =>
    if Text.wordLimit ≤ n * 10 + digitOf b then (n, taken)
    else takeFraction (n * 10 + digitOf b) (taken + 1) rest

def floatOf (negative : Bool) (n : Nat) (exponent : Int) (rest : Bytes) : Scanned :=
  match Binary64.ofDecimal? negative n exponent with
  | some x => (.number (.float x), some rest)
  | none => (.marred .other .numberOutOfRange, some rest)

/-- The fault of a number that stops short: at the end of the text, reading reports the end. -/
def shortNumber : Bytes → Scanned
  | [] => brokenOff .other .endInValue .badNumber
  | _ => brokenOff .other .badNumber .badNumber

def scanExponent (negative : Bool) (n : Nat) (exponent : Int) (bs : Bytes) : Scanned :=
  let (down, bs) : Bool × Bytes := match bs with
    | 0x2B :: rest => (false, rest)
    | 0x2D :: rest => (true, rest)
    | _ => (false, bs)
  let digits := bs.takeWhile isDigitByte
  if digits.isEmpty then shortNumber bs
  else
    let e : Int := (digits.foldl (fun e b => e * 10 + digitOf b) 0 : Nat)
    floatOf negative n (if down then exponent - e else exponent + e) (bs.dropWhile isDigitByte)

def scanFraction (negative : Bool) (n dropped : Nat) (bs : Bytes) : Scanned :=
  match bs with
  | 0x2E :: rest =>
    let digits := rest.takeWhile isDigitByte
    let after := rest.dropWhile isDigitByte
    if digits.isEmpty then shortNumber rest
    else
      let (n, taken) := takeFraction n 0 digits
      let exponent : Int := (dropped : Int) - taken
      match after with
      | 0x65 :: rest | 0x45 :: rest => scanExponent negative n exponent rest
      | _ => floatOf negative n exponent after
  | 0x65 :: rest | 0x45 :: rest => scanExponent negative n dropped rest
  | _ =>
    if dropped ≠ 0 then floatOf negative n dropped bs
    else if !negative then (.number (.whole n.toUInt64), some bs)
    else if 0 < n ∧ n ≤ Nat.pow 2 63 then (.number (.negative (Int64.ofInt (-(n : Int)))), some bs)
    else floatOf true n 0 bs

/-- A number from its first digit on: a zero stands alone before the point. -/
def scanNumber (negative : Bool) (bs : Bytes) : Scanned :=
  match bs with
  | [] => brokenOff .other .endInValue .badNumber
  | 0x30 :: rest =>
    match rest with
    | [] => scanFraction negative 0 0 []
    | b :: _ => if isDigitByte b then brokenOff .other .badNumber .badNumber
      else scanFraction negative 0 0 rest
  | b :: _ =>
    if isDigitByte b then
      let (n, dropped) := takeWhole 0 0 (bs.takeWhile isDigitByte)
      scanFraction negative n dropped (bs.dropWhile isDigitByte)
    else brokenOff .other .badNumber .badNumber

def hexUnit? (a b c d : UInt8) : Option Nat :=
  Text.readDigits? 16 ([a, b, c, d].map fun x => Char.ofNat x.toNat)

def encoded (codePoint : Nat) : Bytes :=
  (String.singleton (Char.ofNat codePoint)).toUTF8.toList

/-- The string read so far: its bytes from last to first, the first fault that hides it, and a
leading surrogate that waits for its partner. -/
structure Quote where
  taken : Bytes
  fault : Option Fault
  leading : Option Nat

namespace Quote

def flawed (q : Quote) (fault : Fault) : Quote :=
  { q with fault := some (q.fault.getD fault), leading := none }

def take (q : Quote) (bytes : Bytes) : Quote :=
  match q.leading with
  | some _ => q.flawed .cutEscape
  | none => { q with taken := bytes.reverse ++ q.taken }

/-- Takes a numbered escape: a surrogate pair is one character. -/
def takeUnit (q : Quote) (n : Nat) : Quote :=
  match q.leading with
  | some high =>
    if 0xDC00 ≤ n ∧ n ≤ 0xDFFF then
      { q with
        taken := (encoded (0x10000 + (high - 0xD800) * 0x400 + (n - 0xDC00))).reverse ++ q.taken
        leading := none }
    else q.flawed .loneSurrogate
  | none =>
    if 0xDC00 ≤ n ∧ n ≤ 0xDFFF then q.flawed .loneSurrogate
    else if 0xD800 ≤ n ∧ n ≤ 0xDBFF then { q with leading := some n }
    else q.take (encoded n)

def close (q : Quote) : Except Fault String :=
  match (q.leading.map fun _ => Fault.cutEscape).or q.fault with
  | some fault => .error (q.fault.getD fault)
  | none =>
    match String.fromUTF8? (ByteArray.mk q.taken.reverse.toArray) with
    | some s => .ok s
    | none => .error .badCodePoint

end Quote

/-- A string after its opening quote: its text and what follows it, or the fault that breaks it
off for a reader, and for one who passes over it. -/
abbrev ScannedString := Except (Fault × Fault) (Except Fault String × Bytes)

def cutShort (q : Quote) (fault : Fault) : ScannedString :=
  .error (q.fault.getD fault, fault)

def plainEscape? (b : UInt8) : Option UInt8 :=
  if b = 0x22 ∨ b = 0x5C ∨ b = 0x2F then some b
  else if b = 0x62 then some 0x08
  else if b = 0x66 then some 0x0C
  else if b = 0x6E then some 0x0A
  else if b = 0x72 then some 0x0D
  else if b = 0x74 then some 0x09
  else none

def scanString (q : Quote) : Bytes → ScannedString
  | [] => cutShort q .endInString
  | 0x22 :: rest => .ok (q.close, rest)
  | 0x5C :: 0x75 :: a :: b :: c :: d :: rest =>
    match hexUnit? a b c d with
    | some n => scanString (q.takeUnit n) rest
    | none => cutShort q .badEscape
  | 0x5C :: 0x75 :: _ => cutShort q .endInString
  | 0x5C :: b :: rest =>
    match plainEscape? b with
    | some b => scanString (q.take [b]) rest
    | none =>
      let q := if q.leading.isSome then q.flawed .cutEscape else q
      cutShort q .badEscape
  | [0x5C] => cutShort q .endInString
  | b :: rest =>
    if b < 0x20 then
      let q := if q.leading.isSome then q.flawed .cutEscape else q
      cutShort q .controlCharacter
    else scanString (q.take [b]) rest

def scanQuoted (bs : Bytes) : ScannedString :=
  scanString ⟨[], none, none⟩ bs

/-- The depth from which lists and objects can only be passed over. -/
def depthLimit : Nat := 128

def atDepth (depth : Nat) (scanned : Scanned) : Scanned :=
  if depth ≠ depthLimit then scanned
  else match scanned.1.pass with
    | .ok () => (.marred .other .tooDeep, scanned.2)
    | .error fault => (.broken .other .tooDeep fault, scanned.2)

mutual
/-- Scans one value that stands `depth` levels deep. -/
def scanValue : (fuel depth : Nat) → Bytes → Scanned
  | 0, _, _ => brokenOff .other .expectedValue .expectedValue
  | fuel + 1, depth, bs =>
    match skipSpace bs with
    | [] => brokenOff .absent .endInValue .endInValue
    | 0x6E :: rest => scanWord .null [0x75, 0x6C, 0x6C] rest
    | 0x74 :: rest => scanWord (.bool true) [0x72, 0x75, 0x65] rest
    | 0x66 :: rest => scanWord (.bool false) [0x61, 0x6C, 0x73, 0x65] rest
    | 0x2D :: rest => scanNumber true rest
    | 0x22 :: rest =>
      match scanQuoted rest with
      | .ok (.ok s, rest) => (.string s, some rest)
      | .ok (.error fault, rest) => (.marred .quote fault, some rest)
      | .error (read, pass) => brokenOff .quote read pass
    | 0x5B :: rest =>
      let (items, closing, rest) := scanItems fuel (depth + 1) true rest
      atDepth (depth + 1) (.array items closing, rest)
    | 0x7B :: rest =>
      let (members, closing, rest) := scanMembers fuel (depth + 1) true rest
      atDepth (depth + 1) (.object members closing, rest)
    | b :: rest =>
      if isDigitByte b then scanNumber false (b :: rest)
      else brokenOff .other .expectedValue .expectedValue

def scanItems : (fuel depth : Nat) → Bool → Bytes → List Outline × Closing × Option Bytes
  | 0, _, _, _ => ([], .ended, none)
  | fuel + 1, depth, first, bs =>
    let item (bs : Bytes) : List Outline × Closing × Option Bytes :=
      match scanValue fuel depth bs with
      | (o, none) => ([o], .closed, none)
      | (o, some rest) =>
        let (items, closing, rest) := scanItems fuel depth false rest
        (o :: items, closing, rest)
    match skipSpace bs with
    | [] => ([], .ended, none)
    | 0x5D :: rest => ([], .closed, some rest)
    | 0x2C :: rest =>
      if first then item bs
      else match skipSpace rest with
        | [] => ([], .endedAfterComma, none)
        | 0x5D :: _ => ([], .spareComma, none)
        | _ => item rest
    | _ => if first then item bs else ([], .noComma, none)

def scanMembers : (fuel depth : Nat) → Bool → Bytes →
    List (Except Fault String × Outline) × Closing × Option Bytes
  | 0, _, _, _ => ([], .ended, none)
  | fuel + 1, depth, first, bs =>
    let member (bs : Bytes) : List (Except Fault String × Outline) × Closing × Option Bytes :=
      match bs with
      | 0x22 :: rest =>
        match scanQuoted rest with
        | .error (read, pass) => ([(.error read, .broken .other pass pass)], .closed, none)
        | .ok (key, rest) =>
          match skipSpace rest with
          | 0x3A :: rest =>
            match scanValue fuel depth rest with
            | (o, none) => ([(key, o)], .closed, none)
            | (o, some rest) =>
              let (members, closing, rest) := scanMembers fuel depth false rest
              ((key, o) :: members, closing, rest)
          | [] => ([(key, .broken .absent .endInObject .endInObject)], .closed, none)
          | _ => ([(key, .broken .absent .expectedColon .expectedColon)], .closed, none)
      | _ => ([], .strayKey, none)
    match skipSpace bs with
    | [] => ([], .ended, none)
    | 0x7D :: rest => ([], .closed, some rest)
    | 0x2C :: rest =>
      if first then member (0x2C :: rest)
      else match skipSpace rest with
        | [] => ([], .endedAfterComma, none)
        | 0x7D :: _ => ([], .spareComma, none)
        | rest => member rest
    | rest => if first then member rest else ([], .noComma, none)
end

/-- The outline of a text, and whether nothing but space follows it. -/
def ofBytes (bs : Bytes) : Outline × Bool :=
  match scanValue (2 * bs.length + 3) 0 bs with
  | (o, some rest) => (o, (skipSpace rest).isEmpty)
  | (o, none) => (o, true)

end ComponentForm.Outline
