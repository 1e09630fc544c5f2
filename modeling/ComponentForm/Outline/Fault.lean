import ComponentForm.Document.Printer
import ComponentForm.Text.Pieces

/-! What can be wrong with a document text: a fault of the text itself, or a value that is not what
its reader expects. -/
namespace ComponentForm

inductive Fault
  | endInValue | endInObject | endInList | endInString
  | expectedValue | expectedWord | expectedColon | expectedListComma | expectedObjectComma
  | keyNotString | trailingComma | trailingCharacters
  | badNumber | numberOutOfRange
  | badEscape | loneSurrogate | cutEscape | badCodePoint | controlCharacter
  | tooDeep
deriving DecidableEq, Repr

def Fault.message : Fault → String
  | .endInValue => "EOF while parsing a value"
  | .endInObject => "EOF while parsing an object"
  | .endInList => "EOF while parsing a list"
  | .endInString => "EOF while parsing a string"
  | .expectedValue => "expected value"
  | .expectedWord => "expected ident"
  | .expectedColon => "expected `:`"
  | .expectedListComma => "expected `,` or `]`"
  | .expectedObjectComma => "expected `,` or `\x7d`"
  | .keyNotString => "key must be a string"
  | .trailingComma => "trailing comma"
  | .trailingCharacters => "trailing characters"
  | .badNumber => "invalid number"
  | .numberOutOfRange => "number out of range"
  | .badEscape => "invalid escape"
  | .loneSurrogate => "lone leading surrogate in hex escape"
  | .cutEscape => "unexpected end of hex escape"
  | .badCodePoint => "invalid unicode code point"
  | .controlCharacter => "control character (\\u0000-\\u001F) found while parsing a string"
  | .tooDeep => "recursion limit exceeded"

def Fault.isEnd : Fault → Bool
  | .endInValue | .endInObject | .endInList | .endInString => true
  | _ => false

/-- A value as messages about a wrong kind name it. -/
inductive Found
  | null
  | bool (value : Bool)
  | number (value : Number)
  | string (value : String)
  | list
  | map
deriving DecidableEq, Repr

def Found.message : Found → String
  | .null => "null"
  | .bool b => if b then "boolean `true`" else "boolean `false`"
  | .number (.float x) => "floating point `" ++ x.text ++ "`"
  | .number n => "integer `" ++ n.text ++ "`"
  | .string s => "string " ++ Text.quoted s
  | .list => "sequence"
  | .map => "map"

inductive ReadError
  | fault (fault : Fault)
  | wrongKind (found : Found) (expected : String)
  | missingField (name : String)
  | repeatedField (name : String)
  | unknownName (name : String) (known : List String)
  | wrongLength (length : Nat) (expected : String)
deriving DecidableEq, Repr

namespace ReadError

inductive Category
  | syntactic | data | ended
deriving DecidableEq, Repr

def category : ReadError → Category
  | .fault f => if f.isEnd then .ended else .syntactic
  | _ => .data

def known : List String → String
  | [a] => "`" ++ a ++ "`"
  | [a, b] => "`" ++ a ++ "` or `" ++ b ++ "`"
  | names => "one of " ++ Text.join ", " (names.map fun name => "`" ++ name ++ "`")

def message : ReadError → String
  | .fault f => f.message
  | .wrongKind found expected => "invalid type: " ++ found.message ++ ", expected " ++ expected
  | .missingField name => "missing field `" ++ name ++ "`"
  | .repeatedField name => "duplicate field `" ++ name ++ "`"
  | .unknownName name names => "unknown variant `" ++ name ++ "`, expected " ++ known names
  | .wrongLength n expected => "invalid length " ++ toString n ++ ", expected " ++ expected

/-- What the message begins with. -/
def lead : ReadError → String
  | .fault f => f.message
  | .wrongKind _ _ => "invalid type: "
  | .missingField _ => "missing field `"
  | .repeatedField _ => "duplicate field `"
  | .unknownName _ _ => "unknown variant `"
  | .wrongLength _ _ => "invalid length "

theorem leads_append {s t : String} (h : s.toList <+: t.toList) (u : String) :
    s.toList <+: (t ++ u).toList := by
  rw [String.toList_append]
  exact h.trans (List.prefix_append _ _)

theorem lead_leads (e : ReadError) : e.lead.toList <+: e.message.toList := by
  have hself (s : String) : s.toList <+: s.toList := List.prefix_refl _
  cases e with
  | fault f => exact hself _
  | wrongKind found expected => exact leads_append (leads_append (leads_append (hself _) _) _) _
  | missingField name => exact leads_append (leads_append (hself _) _) _
  | repeatedField name => exact leads_append (leads_append (hself _) _) _
  | unknownName name names => exact leads_append (leads_append (leads_append (hself _) _) _) _
  | wrongLength n expected => exact leads_append (leads_append (leads_append (hself _) _) _) _

theorem leads_message_iff {s : String} {e : ReadError} (h : s.toList.length ≤ e.lead.toList.length) :
    s.toList <+: e.message.toList ↔ s.toList <+: e.lead.toList :=
  ⟨fun hs => List.prefix_of_prefix_length_le hs e.lead_leads h, fun hs => hs.trans e.lead_leads⟩

/-- What the messages of the errors about a value begin with. -/
def dataLeads : List String :=
  ["invalid type: ", "missing field `", "duplicate field `", "unknown variant `", "invalid length "]

theorem category_eq_data_iff_lead_mem (e : ReadError) : e.category = .data ↔ e.lead ∈ dataLeads := by
  cases e with
  | fault f => cases f <;> decide
  | _ => exact iff_of_true rfl (by simp [lead, dataLeads])

theorem category_eq_ended_iff (e : ReadError) :
    e.category = .ended ↔ "EOF ".toList <+: e.message.toList := by
  by_cases hdata : e.category = .data
  · have hlead : ∀ s ∈ dataLeads, "EOF ".toList.length ≤ s.toList.length ∧
        ¬ "EOF ".toList <+: s.toList := by decide
    obtain ⟨hlength, hother⟩ := hlead _ ((category_eq_data_iff_lead_mem e).mp hdata)
    rw [leads_message_iff hlength]
    exact iff_of_false (by simp [hdata]) hother
  · cases e with
    | fault f => cases f <;> decide
    | _ => exact absurd rfl hdata

theorem category_eq_data_iff (e : ReadError) :
    e.category = .data ↔ ∃ s ∈ dataLeads, s.toList <+: e.message.toList := by
  cases e with
  | fault f => cases f <;> decide
  | _ => exact iff_of_true rfl ⟨_, (category_eq_data_iff_lead_mem _).mp rfl, lead_leads _⟩

/-- Errors of different categories have different messages. -/
theorem category_eq_of_message_eq {e e' : ReadError} (h : e.message = e'.message) :
    e.category = e'.category := by
  have hended : e.category = .ended ↔ e'.category = .ended := by
    rw [category_eq_ended_iff, category_eq_ended_iff, h]
  have hdata : e.category = .data ↔ e'.category = .data := by
    rw [category_eq_data_iff, category_eq_data_iff, h]
  cases he : e.category <;> cases he' : e'.category <;> simp_all

end ReadError
end ComponentForm
