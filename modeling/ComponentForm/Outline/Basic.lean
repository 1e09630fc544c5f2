import ComponentForm.Outline.Fault

/-! Outlines of document texts. An outline is what a text holds as far as it is well formed, with the
place marked where it breaks off, so that a reader who takes it up in order meets a wrong value
and a fault of the text in the order in which they stand.

A text can be read or passed over. Passing over is more lenient within a value and words some
faults differently, so a break carries both. -/
namespace ComponentForm

/-- How a list or an object ends. -/
inductive Closing
  | closed
  | ended
  | noComma
  | spareComma
  | endedAfterComma
  | strayKey
deriving DecidableEq, Repr

/-- How a value begins that cannot be read. -/
inductive Opening
  | quote | other | absent
deriving DecidableEq, Repr

inductive Outline
  | null
  | bool (value : Bool)
  | number (value : Number)
  | string (value : String)
  | array (items : List Outline) (closing : Closing)
  | object (members : List (Except Fault String × Outline)) (closing : Closing)
  /-- A whole value that can be passed over but not read. -/
  | marred (opening : Opening) (fault : Fault)
  /-- The end of the usable text. -/
  | broken (opening : Opening) (read pass : Fault)
deriving Repr

namespace Outline

instance : Inhabited Outline := ⟨.null⟩

end Outline

namespace Closing

def readList : Closing → Except Fault Unit
  | .closed => .ok ()
  | .ended => .error .endInList
  | .noComma => .error .expectedListComma
  | .spareComma => .error .trailingComma
  | .endedAfterComma => .error .endInValue
  | .strayKey => .error .expectedValue

def readObject : Closing → Except Fault Unit
  | .closed => .ok ()
  | .ended => .error .endInObject
  | .noComma => .error .expectedObjectComma
  | .spareComma => .error .trailingComma
  | .endedAfterComma => .error .endInValue
  | .strayKey => .error .keyNotString

/-- The fault met at the end of a list by a reader who wants no further item. -/
def finishList : Closing → Except Fault Unit
  | .closed => .ok ()
  | .ended => .error .endInList
  | .spareComma => .error .trailingComma
  | _ => .error .trailingCharacters

def passList : Closing → Except Fault Unit
  | .closed => .ok ()
  | .ended => .error .endInList
  | .noComma => .error .expectedListComma
  | .spareComma => .error .expectedValue
  | .endedAfterComma => .error .endInValue
  | .strayKey => .error .expectedValue

def passObject : Closing → Except Fault Unit
  | .closed => .ok ()
  | .ended => .error .endInObject
  | .noComma => .error .expectedObjectComma
  | .spareComma => .error .keyNotString
  | .endedAfterComma => .error .endInObject
  | .strayKey => .error .keyNotString

end Closing

namespace Outline

mutual
def pass : Outline → Except Fault Unit
  | .array items closing => passItems closing items
  | .object members closing => passMembers closing members
  | .broken _ _ fault => .error fault
  | _ => .ok ()

def passItems (closing : Closing) : List Outline → Except Fault Unit
  | [] => closing.passList
  | o :: rest =>
    match pass o with
    | .error fault => .error fault
    | .ok () => passItems closing rest

def passMembers (closing : Closing) : List (Except Fault String × Outline) → Except Fault Unit
  | [] => closing.passObject
  | (_, o) :: rest =>
    match pass o with
    | .error fault => .error fault
    | .ok () => passMembers closing rest
end

/-- The kind of the value, or the fault that hides it. -/
def found : Outline → Except Fault Found
  | .null => .ok .null
  | .bool b => .ok (.bool b)
  | .number n => .ok (.number n)
  | .string s => .ok (.string s)
  | .array _ _ => .ok .list
  | .object _ _ => .ok .map
  | .marred _ fault => .error fault
  | .broken _ fault _ => .error fault

mutual
def ofDocument : Document → Outline
  | .null => .null
  | .bool b => .bool b
  | .number n => .number n
  | .string s => .string s
  | .array xs => .array (ofItems xs) .closed
  | .object ms => .object (ofMembers ms) .closed

def ofItems : List Document → List Outline
  | [] => []
  | x :: xs => ofDocument x :: ofItems xs

def ofMembers : List (String × Document) → List (Except Fault String × Outline)
  | [] => []
  | (k, v) :: ms => (.ok k, ofDocument v) :: ofMembers ms
end

end Outline
end ComponentForm
