import ComponentForm.Document.Basic
import ComponentForm.Text.Numeral
import ComponentForm.Text.Pieces

/-! Dotted paths into documents. A path is cut at every dot; a piece names a member of an object or
counts an item of an array, and the empty path is the document itself. -/
namespace ComponentForm

namespace Path

def segments (path : String) : List String :=
  Text.cut '.' path

/-- The path before the last dot, and the piece after it. -/
def splitParent (path : String) : String × String :=
  let leaf := (path.toList.reverse.takeWhile (· ≠ '.')).reverse
  (String.ofList (path.toList.take (path.toList.length - leaf.length - 1)), String.ofList leaf)

end Path

namespace Document

def step? : Document → String → Option Document
  | .object ms, segment => Entries.value? ms segment
  | .array xs, segment => (Text.readCount? Text.wordLimit segment).bind fun i => xs[i]?
  | _, _ => none

def follow? (d : Document) : List String → Option Document
  | [] => some d
  | segment :: rest => (d.step? segment).bind fun child => child.follow? rest

def resolve? (d : Document) (path : String) : Option Document :=
  if path = "" then some d else d.follow? (Path.segments path)

@[simp] theorem follow?_nil (d : Document) : d.follow? [] = some d := rfl

theorem follow?_append (d : Document) (p q : List String) :
    d.follow? (p ++ q) = (d.follow? p).bind fun child => child.follow? q := by
  induction p generalizing d with
  | nil => rfl
  | cons s p ih =>
    simp only [List.cons_append, follow?]
    cases d.step? s with
    | none => rfl
    | some child => simp [ih]

end Document
end ComponentForm
