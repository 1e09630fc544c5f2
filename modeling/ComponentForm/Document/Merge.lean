import ComponentForm.Document.Path

/-! Merging members into the object at a path. The walk turns the nulls on its route into objects
and inserts the members it misses; it stops at the first value that it can neither enter nor
extend. -/
namespace ComponentForm

inductive Obstruction
  | notAnIndex (segment : String)
  | outOfRange (index length : Nat)
  | crossed (segment kind : String)
  | endsOn (kind : String)
deriving DecidableEq, Repr

def Obstruction.message : Obstruction → String
  | .notAnIndex segment => "segment '" ++ segment ++ "' does not index an array"
  | .outOfRange index length =>
    "index " ++ toString index ++ " is out of range for " ++ toString length ++ " items"
  | .crossed segment kind => "segment '" ++ segment ++ "' crosses a " ++ kind
  | .endsOn kind => "target holds a " ++ kind

structure MergeError where
  path : String
  obstruction : Obstruction
deriving DecidableEq, Repr

def MergeError.reason (e : MergeError) : String :=
  e.obstruction.message

def MergeError.message (e : MergeError) : String :=
  "cannot merge properties at '" ++ e.path ++ "': " ++ e.reason

namespace Document

/-- What a walk sees where a value is missing or null. -/
def opened : Document → Document
  | .null => .object []
  | d => d

/-- The outcome of a walk together with the document it leaves behind. -/
def walk (values : Members) : Document → List String → Except Obstruction Unit × Document
  | d, [] =>
    match d.opened with
    | .object ms => (.ok (), .object (Entries.putAll ms values))
    | other => (.error (.endsOn other.kind), other)
  | d, segment :: rest =>
    match d.opened with
    | .object ms =>
      let (outcome, child) := walk values ((Entries.value? ms segment).getD .null) rest
      (outcome, .object (Entries.put ms segment child))
    | .array xs =>
      match Text.readCount? Text.wordLimit segment with
      | none => (.error (.notAnIndex segment), .array xs)
      | some i =>
        match xs[i]? with
        | none => (.error (.outOfRange i xs.length), .array xs)
        | some item =>
          let (outcome, child) := walk values item rest
          (outcome, .array (xs.set i child))
    | other => (.error (.crossed segment other.kind), other)

/-- Merges the values into the object at the path, whose empty pieces do not count. -/
def mergeAt (d : Document) (path : String) (values : Members) :
    Except MergeError Unit × Document :=
  let (outcome, left) := walk values d ((Path.segments path).filter (· ≠ ""))
  (outcome.mapError (⟨path, ·⟩), left)

end Document
end ComponentForm
