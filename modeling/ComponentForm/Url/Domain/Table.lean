import ComponentForm.Text.Blank
import ComponentForm.Text.Numeral
import ComponentForm.Text.Pieces

/-! Tables of characters in the form of a text. Entries stand between blanks. An entry is the number of
a character in base sixteen, two such numbers with a hyphen for all the characters from one to the
other, or two with a colon for every second of them; after an equals sign the numbers follow that
the table has for it, with plus signs between them. -/
namespace ComponentForm.Url.Domain

/-- The characters from the first to the last in steps, and what a table has for them. -/
structure Span where
  first : Nat
  last : Nat
  step : Nat
  value : List Nat
deriving Repr

abbrev Table := List Span

namespace Span

def holds (s : Span) (c : Char) : Bool :=
  s.first ≤ c.toNat ∧ c.toNat ≤ s.last ∧ (c.toNat - s.first) % s.step = 0

def ofBounds (bounds : List Char) (value : List Nat) : Option Span := do
  match Text.pieces '-' bounds, Text.pieces ':' bounds with
  | [a, b], _ => return ⟨← Text.readDigits? 16 a, ← Text.readDigits? 16 b, 1, value⟩
  | _, [a, b] => return ⟨← Text.readDigits? 16 a, ← Text.readDigits? 16 b, 2, value⟩
  | _, _ =>
    let n ← Text.readDigits? 16 bounds
    return ⟨n, n, 1, value⟩

def ofEntry (entry : List Char) : Option Span := do
  match Text.pieces '=' entry with
  | [bounds, value] => ofBounds bounds (← (Text.pieces '+' value).mapM (Text.readDigits? 16))
  | _ => ofBounds entry []

end Span

namespace Table

def ofText (s : String) : Table :=
  let entries := Text.pieces ' ' (s.toList.map fun c => if Text.isBlank c then ' ' else c)
  (entries.filter fun entry => !entry.isEmpty).filterMap Span.ofEntry

def find? (t : Table) (c : Char) : Option Span :=
  List.find? (·.holds c) t

def has (t : Table) (c : Char) : Bool :=
  List.any t (·.holds c)

end Table
end ComponentForm.Url.Domain
