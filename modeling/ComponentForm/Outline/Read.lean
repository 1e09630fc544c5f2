import ComponentForm.Outline.Scan

/-! Readers of outlines. Each takes a value up in the order of its text and stops at the first
problem, be it a fault of the text or a value of the wrong kind. -/
namespace ComponentForm

abbrev Reading (α : Type) := Except ReadError α

namespace Outline

def lift {α : Type} (e : Except Fault α) : Reading α :=
  e.mapError .fault

def refuse {α : Type} (o : Outline) (expected : String) : Reading α :=
  match o.found with
  | .ok found => .error (.wrongKind found expected)
  | .error fault => .error (.fault fault)

def readString : Outline → Reading String
  | .string s => .ok s
  | o => o.refuse "a string"

def readBool : Outline → Reading Bool
  | .bool b => .ok b
  | o => o.refuse "a boolean"

def readOption {α : Type} (read : Outline → Reading α) : Outline → Reading (Option α)
  | .null => .ok none
  | o => (read o).map some

def readItems {α : Type} (read : Outline → Reading α) (closing : Closing) :
    List Outline → Reading (List α)
  | [] => (lift closing.readList).map fun _ => []
  | o :: rest => do
    let a ← read o
    let as ← readItems read closing rest
    return a :: as

def readList {α : Type} (read : Outline → Reading α) : Outline → Reading (List α)
  | .array items closing => readItems read closing items
  | o => o.refuse "a sequence"

mutual
def readDocument : Outline → Reading Document
  | .null => .ok .null
  | .bool b => .ok (.bool b)
  | .number n => .ok (.number n)
  | .string s => .ok (.string s)
  | .array items closing =>
    match readDocuments closing items with
    | .ok xs => .ok (.array xs)
    | .error e => .error e
  | .object members closing =>
    match readMembers closing members [] with
    | .ok ms => .ok (.object ms)
    | .error e => .error e
  | .marred _ fault => .error (.fault fault)
  | .broken _ fault _ => .error (.fault fault)

def readDocuments (closing : Closing) : List Outline → Reading (List Document)
  | [] => (lift closing.readList).map fun _ => []
  | o :: rest =>
    match readDocument o with
    | .error e => .error e
    | .ok x =>
      match readDocuments closing rest with
      | .ok xs => .ok (x :: xs)
      | .error e => .error e

def readMembers (closing : Closing) :
    List (Except Fault String × Outline) → Members → Reading Members
  | [], acc => (lift closing.readObject).map fun _ => acc
  | (.error fault, _) :: _, _ => .error (.fault fault)
  | (.ok k, o) :: rest, acc =>
    match readDocument o with
    | .error e => .error e
    | .ok v => readMembers closing rest (acc.put k v)
end

def choose {α : Type} (known : List (String × α)) (other : String → Reading α) (name : String) :
    Reading α :=
  match Entries.value? known name with
  | some a => .ok a
  | none => other name

/-- One of several names, written as a string or as the key of a null in an object of its own. -/
def readName {α : Type} (known : List (String × α)) (other : String → Reading α) :
    Outline → Reading α
  | .string s => choose known other s
  | .object ((key, value) :: rest) closing => do
    let a ← choose known other (← lift key)
    match value with
    | .null => pure ()
    | o => o.refuse "unit"
    match rest, closing with
    | [], .closed => return a
    | [], .ended => throw (.fault .endInObject)
    | _, _ => throw (.fault .expectedValue)
  | .object [] closing => do
    lift closing.readObject
    throw (.fault .expectedValue)
  | .marred .quote fault => .error (.fault fault)
  | .broken .quote fault _ => .error (.fault fault)
  | .broken .absent fault _ => .error (.fault fault)
  | _ => .error (.fault .expectedValue)

def refuseName {α : Type} (known : List (String × α)) (name : String) : Reading α :=
  .error (.unknownName name (known.map Prod.fst))

def readKnown {α : Type} (known : List (String × α)) : Outline → Reading α :=
  readName known (refuseName known)

/-- A name out of a closed list that can only be written as a string. -/
def readKnownString {α : Type} (known : List (String × α)) : Outline → Reading α
  | .string s => choose known (refuseName known) s
  | o => o.refuse "variant identifier"

/-- One field of a record that is read into a draft. -/
structure RecordField (δ : Type) where
  name : String
  optional : Bool
  held : δ → Bool
  read : δ → Outline → Reading δ

def passField {δ : Type} (draft : δ) (_name : String) (o : Outline) : Reading δ :=
  (lift o.pass).map fun _ => draft

/-- Reads the members of an object: each field once, any other member as `other` says. -/
def readFields {δ : Type} (fields : List (RecordField δ)) (other : δ → String → Outline → Reading δ)
    (closing : Closing) : δ → List (Except Fault String × Outline) → Reading δ
  | draft, [] => (lift closing.readObject).map fun _ => draft
  | _, (.error fault, _) :: _ => .error (.fault fault)
  | draft, (.ok k, o) :: rest =>
    match fields.find? fun f => f.name = k with
    | some f =>
      if f.held draft then .error (.repeatedField k)
      else match f.read draft o with
        | .error e => .error e
        | .ok draft => readFields fields other closing draft rest
    | none =>
      match other draft k o with
      | .error e => .error e
      | .ok draft => readFields fields other closing draft rest

/-- Reads the items of a list as the fields in their order; only optional ones may be missing. -/
def readColumns {δ : Type} (expected : String) (closing : Closing) :
    List (RecordField δ) → Nat → δ → List Outline → Reading δ
  | [], _, draft, [] => (lift closing.finishList).map fun _ => draft
  | [], _, _, _ :: _ => .error (.fault .trailingCharacters)
  | f :: fields, n, draft, [] => do
    lift closing.readList
    if f.optional then readColumns expected closing fields (n + 1) draft []
    else throw (.wrongLength n expected)
  | f :: fields, n, draft, o :: rest => do
    let draft ← f.read draft o
    readColumns expected closing fields (n + 1) draft rest

/-- A record: an object with its fields in any order, or a list of them in their order. -/
def readRecord {δ : Type} (name : String) (fields : List (RecordField δ)) (blank : δ) :
    Outline → Reading δ
  | .object members closing => readFields fields passField closing blank members
  | .array items closing =>
    readColumns (name ++ " with " ++ toString fields.length ++ " elements") closing fields 0 blank
      items
  | o => o.refuse name

def require {α : Type} (name : String) : Option α → Reading α
  | some a => .ok a
  | none => .error (.missingField name)

/-- Reads a whole text: after the value only space may follow. -/
def readText {α : Type} (read : Outline → Reading α) (bs : Bytes) : Reading α := do
  let (o, whole) := ofBytes bs
  let a ← read o
  if whole then return a else throw (.fault .trailingCharacters)

end Outline
end ComponentForm
