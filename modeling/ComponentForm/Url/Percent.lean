import ComponentForm.Text.Numeral

/-! Percent-encoding. A set says which ASCII characters are written as escapes; every other character
above ASCII is escaped in all of them, byte by byte. -/
namespace ComponentForm.Url

abbrev EscapeSet := Char → Bool

def controls : EscapeSet := fun c => c < ' ' ∨ '~' < c

def fragmentSet : EscapeSet := fun c => controls c ∨ c ∈ [' ', '"', '<', '>', '\x60']

def querySet : EscapeSet := fun c => controls c ∨ c ∈ [' ', '"', '#', '<', '>']

def specialQuerySet : EscapeSet := fun c => querySet c ∨ c = '\''

def pathSet : EscapeSet := fun c => fragmentSet c ∨ c ∈ ['#', '?', '\x7b', '\x7d']

def userSet : EscapeSet := fun c =>
  pathSet c ∨ c ∈ ['/', ':', ';', '=', '@', '[', '\\', ']', '^', '|']

def segmentSet : EscapeSet := fun c => pathSet c ∨ c = '/' ∨ c = '%'

def specialSegmentSet : EscapeSet := fun c => segmentSet c ∨ c = '\\'

def escapedByte (b : UInt8) : List Char :=
  ['%', Text.upperHexDigit (b.toNat / 16), Text.upperHexDigit (b.toNat % 16)]

def bytesOf (c : Char) : List UInt8 :=
  (String.singleton c).toUTF8.toList

def escapeChar (set : EscapeSet) (c : Char) : List Char :=
  if set c then (bytesOf c).flatMap escapedByte else [c]

def escape (set : EscapeSet) (cs : List Char) : List Char :=
  cs.flatMap (escapeChar set)

/-- The bytes of a text whose escapes are undone; a percent sign that begins none stays. -/
def unescape : List Char → List UInt8
  | [] => []
  | '%' :: a :: b :: rest =>
    match Text.digitValue? 16 a, Text.digitValue? 16 b with
    | some x, some y => (x * 16 + y).toUInt8 :: unescape rest
    | _, _ => 0x25 :: unescape (a :: b :: rest)
  | c :: rest => bytesOf c ++ unescape rest

/-- The form in which query values are written: a space is a plus sign, and all but letters, digits
and four marks is escaped. -/
def formChar (c : Char) : List Char :=
  if c = ' ' then ['+']
  else if ('a' ≤ c ∧ c ≤ 'z') ∨ ('A' ≤ c ∧ c ≤ 'Z') ∨ Text.isDigit c ∨ c ∈ ['*', '-', '.', '_'] then
    [c]
  else (bytesOf c).flatMap escapedByte

def formText (s : String) : List Char :=
  s.toList.flatMap formChar

end ComponentForm.Url
