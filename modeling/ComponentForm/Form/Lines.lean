import ComponentForm.Form.Layout

/-! The form as lines of text: a line for every value that holds no members, with the message and
the triggers of its field, and a last line for submitting. -/
namespace ComponentForm

def Path.member (path k : String) : String :=
  if path = "" then k else path ++ "." ++ k

namespace Document

mutual
/-- The leaves reached through objects, with their paths. A null without a path is no leaf. -/
def leaves (path : String) : Document → List (String × Document)
  | .object [] => [(path, .object [])]
  | .object (m :: ms) => leavesOf path (m :: ms)
  | .null => if path = "" then [] else [(path, .null)]
  | d => [(path, d)]

def leavesOf (path : String) : List (String × Document) → List (String × Document)
  | [] => []
  | (k, v) :: ms => leaves (Path.member path k) v ++ leavesOf path ms
end

end Document

namespace Form

def line (f : Form) (path : String) (value : Document) : String :=
  let message := match f.message? path with
    | some m => "  ! " ++ m
    | none => ""
  let triggers := f.triggers path
  let kinds := if triggers.isEmpty then ""
    else "  [" ++ Text.join ", " (triggers.map fun t => t.kind.name) ++ "]"
  path ++ " = " ++ value.compact ++ message ++ kinds

def lines (f : Form) : List String :=
  ((f.values.leaves "").map fun leaf => f.line leaf.1 leaf.2) ++ ["[Submit]"]

end Form
end ComponentForm
