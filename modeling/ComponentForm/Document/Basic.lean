import ComponentForm.Document.Number
import ComponentForm.Entries

/-! Documents: trees of values whose objects keep the order of their members. Two documents are the
same when they differ at most in that order. -/
namespace ComponentForm

inductive Document
  | null
  | bool (value : Bool)
  | number (value : Number)
  | string (value : String)
  | array (items : List Document)
  | object (members : List (String × Document))
deriving Repr

abbrev Members := Entries Document

namespace Document

instance : Inhabited Document := ⟨.null⟩

def isNull : Document → Bool
  | .null => true
  | _ => false

def asString? : Document → Option String
  | .string s => some s
  | _ => none

theorem asString?_eq_some_iff {d : Document} {s : String} : d.asString? = some s ↔ d = .string s := by
  cases d <;> simp [asString?]

def member? : Document → String → Option Document
  | .object ms, k => Entries.value? ms k
  | _, _ => none

def kind : Document → String
  | .null => "null"
  | .bool _ => "boolean"
  | .number _ => "number"
  | .string _ => "string"
  | .array _ => "array"
  | .object _ => "object"

mutual
/-- Equality up to the order of members, and between the two floating-point zeros. -/
def same : Document → Document → Bool
  | .null, .null => true
  | .bool a, .bool b => a = b
  | .number a, .number b => a.same b
  | .string a, .string b => a = b
  | .array xs, .array ys => sameItems xs ys
  | .object ms, .object ns => ms.length = ns.length && sameMembers ms ns
  | _, _ => false

def sameItems : List Document → List Document → Bool
  | [], [] => true
  | x :: xs, y :: ys => same x y && sameItems xs ys
  | _, _ => false

def sameMembers : List (String × Document) → List (String × Document) → Bool
  | [], _ => true
  | (k, v) :: ms, ns =>
    (match Entries.value? ns k with
      | some w => same v w
      | none => false) && sameMembers ms ns
end

end Document
end ComponentForm
