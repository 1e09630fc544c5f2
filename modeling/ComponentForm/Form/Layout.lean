import ComponentForm.Form.Basic
import ComponentForm.Form.Trigger

/-! The layout of a form. An element designates a field by its key; elements stand in lists and under
the items of other elements, and the first one that designates a field is the element of the
field. -/
namespace ComponentForm

namespace Document

/-- Whether a key designates the field: it is the field, or the list of the pieces between its
dots. -/
def designates (field : String) : Document → Bool
  | .string key => key = field
  | .array pieces =>
    match pieces.mapM asString? with
    | some pieces => Text.join "." pieces = field
    | none => false
  | _ => false

def isElement (field : String) (ms : Members) : Bool :=
  match Entries.value? ms "key" with
  | some key => key.designates field
  | none => false

mutual
/-- The element of the field, the outermost first. -/
def element? (field : String) : Document → Option Members
  | .array xs => elementAmong? field xs
  | .object ms => if isElement field ms then some ms else elementUnder? field ms
  | _ => none

def elementAmong? (field : String) : List Document → Option Members
  | [] => none
  | x :: xs => (element? field x).or (elementAmong? field xs)

def elementUnder? (field : String) : List (String × Document) → Option Members
  | [] => none
  | (k, v) :: ms => if k = "items" then element? field v else elementUnder? field ms
end

mutual
/-- The layout with the element of the field changed, none without such an element. -/
def editElement? (field : String) (edit : Members → Members) : Document → Option Document
  | .array xs => (editAmong? field edit xs).map .array
  | .object ms =>
    if isElement field ms then some (.object (edit ms))
    else (editUnder? field edit ms).map .object
  | _ => none

def editAmong? (field : String) (edit : Members → Members) : List Document → Option (List Document)
  | [] => none
  | x :: xs =>
    match editElement? field edit x with
    | some x => some (x :: xs)
    | none => (editAmong? field edit xs).map (x :: ·)

def editUnder? (field : String) (edit : Members → Members) :
    List (String × Document) → Option (List (String × Document))
  | [] => none
  | (k, v) :: ms =>
    if k = "items" then (editElement? field edit v).map fun v => (k, v) :: ms
    else (editUnder? field edit ms).map ((k, v) :: ·)
end

end Document

namespace Form

def element? (f : Form) (field : String) : Option Members :=
  f.layout.element? field

def putInElement? (f : Form) (field k : String) (v : Document) : Option Form :=
  (f.layout.editElement? field fun ms => ms.put k v).map fun layout => { f with layout }

/-- The triggers that the element of the field declares; what is no trigger does not count. -/
def triggers (f : Form) (field : String) : List Trigger :=
  match (f.element? field).bind fun ms => ms.value? "triggers" with
  | some (.array items) => items.filterMap Trigger.ofDocument?
  | _ => []

end Form
end ComponentForm
