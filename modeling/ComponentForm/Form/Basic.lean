import ComponentForm.Document.Merge
import ComponentForm.Outline.Read

/-! The form of a component: a schema for its values, a layout of its fields, the values, a message
per field, and whatever else its document holds. Schema and further members are carried along. -/
namespace ComponentForm

structure Form where
  schema : Document
  layout : Document
  values : Document
  messages : Option Document
  extra : Members
deriving Repr

namespace Form

instance : Inhabited Form := ⟨⟨.null, .null, .null, none, []⟩⟩

/-- A member of a document, left out where the value is null. -/
def unlessNull (name : String) (d : Document) : Members :=
  if d.isNull then [] else [(name, d)]

def toDocument (f : Form) : Document :=
  .object (unlessNull "jsonSchema" f.schema ++ unlessNull "uiSchema" f.layout ++
    unlessNull "properties" f.values ++ (f.messages.map fun d => ("errors", d)).toList ++ f.extra)

structure Draft where
  schema : Option Document := none
  layout : Option Document := none
  values : Option Document := none
  messages : Option (Option Document) := none
  extra : Members := []

open Outline in
def fields : List (RecordField Draft) := [
  ⟨"jsonSchema", true, (·.schema.isSome),
    fun d o => (readDocument o).map fun v => { d with schema := some v }⟩,
  ⟨"uiSchema", true, (·.layout.isSome),
    fun d o => (readDocument o).map fun v => { d with layout := some v }⟩,
  ⟨"properties", true, (·.values.isSome),
    fun d o => (readDocument o).map fun v => { d with values := some v }⟩,
  ⟨"errors", true, (·.messages.isSome),
    fun d o => (readOption readDocument o).map fun v => { d with messages := some v }⟩]

/-- Keeps a member that has no meaning of its own. -/
def keepExtra (d : Draft) (k : String) (o : Outline) : Reading Draft :=
  o.readDocument.map fun v => { d with extra := d.extra.put k v }

def ofDraft (d : Draft) : Form :=
  ⟨d.schema.getD .null, d.layout.getD .null, d.values.getD .null, d.messages.join, d.extra⟩

/-- A form is read from an object; null and a missing member mean the same. -/
def read : Outline → Reading Form
  | .object members closing => (Outline.readFields fields keepExtra closing {} members).map ofDraft
  | o => o.refuse "struct UiSpec"

def ofDocument (d : Document) : Reading Form :=
  read (.ofDocument d)

def withValues (f : Form) (values : Document) : Form :=
  { f with values }

@[simp] theorem values_withValues (f : Form) (values : Document) :
    (f.withValues values).values = values := rfl

@[simp] theorem withValues_withValues (f : Form) (a b : Document) :
    (f.withValues a).withValues b = f.withValues b := rfl

def same (f g : Form) : Bool :=
  f.schema.same g.schema && f.layout.same g.layout && f.values.same g.values &&
    (match f.messages, g.messages with
      | some a, some b => a.same b
      | none, none => true
      | _, _ => false) &&
    (Document.object f.extra).same (.object g.extra)

def value? (f : Form) (path : String) : Option Document :=
  f.values.resolve? path

def mergeValues (f : Form) (path : String) (additions : Members) : Except MergeError Unit × Form :=
  let (outcome, values) := f.values.mergeAt path additions
  (outcome, f.withValues values)

def message? (f : Form) (field : String) : Option String :=
  (f.messages.bind fun d => d.member? field).bind Document.asString?

/-- The members of the messages document; any other document holds none. -/
def messageMembers (f : Form) : Members :=
  match f.messages with
  | some (.object ms) => ms
  | _ => []

/-- Messages that are no object give way to one. -/
def setMessage (f : Form) (field message : String) : Form :=
  { f with messages := some (.object (f.messageMembers.put field (.string message))) }

def clearMessage (f : Form) (field : String) : Bool × Form :=
  match f.messages with
  | some (.object ms) =>
    if Entries.has ms field then (true, { f with messages := some (.object (Entries.remove ms field)) })
    else (false, f)
  | _ => (false, f)

end Form
end ComponentForm
