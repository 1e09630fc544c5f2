import ComponentForm.Proofs.Form.Independence
import ComponentForm.Proofs.Outline.Documents

/-! Forms written and read back. A form is made from the members of its document: four of them have a
meaning of their own, null standing for a missing one, and the others are kept in their order. What is
made in this way is sound, every change keeps it so, and a sound form is read back from the document
that it is written to. -/
namespace ComponentForm

namespace Form

/-- The names of the members that have a meaning of their own, in the order of the document. -/
def memberNames : List String := ["jsonSchema", "uiSchema", "properties", "errors"]

def present (d : Document) : Option Document := if d.isNull then none else some d

theorem present_eq_some_iff {d e : Document} : present d = some e ↔ d = e ∧ e ≠ .null := by
  cases d <;> simp [present, Document.isNull]
  all_goals (rintro rfl; simp)

/-- What has been read once the members have been. -/
def Draft.ofMembers (ms : Members) : Draft where
  schema := ms.value? "jsonSchema"
  layout := ms.value? "uiSchema"
  values := ms.value? "properties"
  messages := (ms.value? "errors").map present
  extra := ms.filter fun e => e.1 ∉ memberNames

def ofMembers (ms : Members) : Form := ofDraft (.ofMembers ms)

section Read
open Outline

theorem readOption_ofDocument {d : Document} (h : d.Distinct) :
    readOption readDocument (Outline.ofDocument d) = .ok (present d) := by
  have hread := readDocument_ofDocument h
  cases d with
  | null => rfl
  | _ => exact congrArg (Except.map some) hread

theorem find?_fields_of_not_mem {k : String} (h : k ∉ memberNames) :
    fields.find? (·.name = k) = none := by
  simp only [memberNames, List.mem_cons, List.not_mem_nil, or_false, not_or] at h
  simp [fields, Ne.symm h.1, Ne.symm h.2.1, Ne.symm h.2.2.1, Ne.symm h.2.2.2]

theorem Draft.ofMembers_congr {ms ns : Members} (h : ∀ name ∈ memberNames, ms.value? name = ns.value? name) :
    Draft.ofMembers ms = { Draft.ofMembers ns with extra := ms.filter fun e => e.1 ∉ memberNames } := by
  simp only [memberNames, List.forall_mem_cons] at h
  simp only [Draft.ofMembers, h.1, h.2.1, h.2.2.1, h.2.2.2.1]

theorem Draft.ofMembers_concat_of_not_mem {k : String} (h : k ∉ memberNames) (front : Members)
    (v : Document) :
    Draft.ofMembers (front ++ [(k, v)]) =
      { Draft.ofMembers front with extra := (Draft.ofMembers front).extra ++ [(k, v)] } := by
  have hvalue : ∀ name ∈ memberNames, (front ++ [(k, v)]).value? name = front.value? name := by
    intro name hname
    have hk : k ≠ name := fun hk => h (hk ▸ hname)
    rw [Entries.value?_append, Entries.value?_cons, if_neg hk, Entries.value?_nil, Option.or_none]
  rw [Draft.ofMembers_congr hvalue, List.filter_append, List.filter_singleton]
  simp [h, Draft.ofMembers]

theorem readFields_cons {front back : Members} {k : String} {v : Document} (hk : k ∉ Entries.names front)
    (hv : v.Distinct) :
    readFields fields keepExtra .closed (.ofMembers front) (Outline.ofMembers ((k, v) :: back)) =
      readFields fields keepExtra .closed (.ofMembers (front ++ [(k, v)])) (Outline.ofMembers back) := by
  have hnone : front.value? k = none := Entries.value?_eq_none_iff.mpr hk
  have hread := readDocument_ofDocument hv
  by_cases hmember : k ∈ memberNames
  · simp only [memberNames, List.mem_cons, List.not_mem_nil, or_false] at hmember
    rcases hmember with rfl | rfl | rfl | rfl <;>
      refine readFields_cons_of_field rfl ?_ ?_ _ <;>
        simp [hread, readOption_ofDocument hv, Except.map, Draft.ofMembers, Entries.value?_append,
          Entries.value?_cons, hnone, memberNames]
  · have hextra : k ∉ Entries.names (Draft.ofMembers front).extra := fun h =>
      hk (List.filter_sublist.map Prod.fst |>.subset h)
    refine readFields_cons_of_other (find?_fields_of_not_mem hmember) ?_ _
    rw [keepExtra, hread, Except.map, Entries.put_of_not_mem_names hextra,
      Draft.ofMembers_concat_of_not_mem hmember]

theorem readFields_ofMembers {front back : Members} (hnames : (Entries.names (front ++ back)).Nodup)
    (hback : ∀ e ∈ back, e.2.Distinct) :
    readFields fields keepExtra .closed (.ofMembers front) (Outline.ofMembers back) =
      .ok (.ofMembers (front ++ back)) := by
  induction back generalizing front with
  | nil => rw [List.append_nil]; rfl
  | cons e back ih =>
    obtain ⟨k, v⟩ := e
    rw [List.forall_mem_cons] at hback
    have hk : k ∉ Entries.names front := Entries.not_mem_names_of_nodup hnames
    have hsplit : front ++ (k, v) :: back = front ++ [(k, v)] ++ back := by simp
    rw [hsplit] at hnames ⊢
    rw [readFields_cons hk hback.1, ih hnames hback.2]

end Read

theorem ofDocument_object {ms : Members} (h : (Document.object ms).Distinct) :
    ofDocument (.object ms) = .ok (ofMembers ms) := by
  rw [Document.distinct_object] at h
  have hread : Outline.readFields fields keepExtra .closed (.ofMembers []) (Outline.ofMembers ms) =
      .ok (.ofMembers ms) := readFields_ofMembers h.1 h.2
  exact congrArg (Except.map ofDraft) hread

/-- The members of a document that a form writes back: those with a meaning in their own order, nulls
left out, and behind them the others. -/
def written (ms : Members) : Members :=
  memberNames.filterMap (fun name => ((ms.value? name).bind present).map (name, ·)) ++
    ms.filter fun e => e.1 ∉ memberNames

theorem join_map_present (messages : Option Document) :
    (messages.map present).join = messages.bind present := by
  cases messages <;> rfl

theorem toDocument_ofMembers (ms : Members) : (ofMembers ms).toDocument = .object (written ms) := by
  have hnull : ∀ name, unlessNull name ((ms.value? name).getD .null) =
      (((ms.value? name).bind present).map (name, ·)).toList := by
    intro name
    cases ms.value? name with
    | none => rfl
    | some v => cases v <;> rfl
  simp only [toDocument, ofMembers, ofDraft, Draft.ofMembers, join_map_present, hnull, written,
    memberNames, List.filterMap_eq_flatMap_toList, List.flatMap_cons, List.flatMap_nil, List.append_nil,
    List.append_assoc]

def known (f : Form) : Members :=
  unlessNull "jsonSchema" f.schema ++ unlessNull "uiSchema" f.layout ++
    unlessNull "properties" f.values ++ (f.messages.map fun d => ("errors", d)).toList

theorem toDocument_eq (f : Form) : f.toDocument = .object (f.known ++ f.extra) := rfl

theorem names_unlessNull_sublist (name : String) (d : Document) :
    (Entries.names (unlessNull name d)).Sublist [name] := by
  rw [unlessNull]
  split
  · exact List.nil_sublist _
  · exact List.Sublist.refl _

theorem names_known_sublist (f : Form) : (Entries.names f.known).Sublist memberNames := by
  have hmessages : (Entries.names (f.messages.map fun d => ("errors", d)).toList).Sublist ["errors"] := by
    cases f.messages with
    | none => exact List.nil_sublist _
    | some d => exact List.Sublist.refl _
  simp only [known, Entries.names, List.map_append]
  exact (((names_unlessNull_sublist _ _).append (names_unlessNull_sublist _ _)).append
    (names_unlessNull_sublist _ _)).append hmessages

theorem mem_unlessNull {name : String} {d : Document} {e : String × Document}
    (h : e ∈ unlessNull name d) : e = (name, d) := by
  rw [unlessNull] at h
  split at h
  · cases h
  · exact List.mem_singleton.mp h

theorem value?_unlessNull (name k : String) (d : Document) :
    Entries.value? (unlessNull name d) k = if name = k then present d else none := by
  cases d <;> simp [unlessNull, present, Document.isNull, Entries.value?_cons]

theorem value?_messages (messages : Option Document) (k : String) :
    Entries.value? (messages.map fun d => ("errors", d)).toList k =
      if "errors" = k then messages else none := by
  cases messages <;> simp [Entries.value?_cons]

theorem value?_known (f : Form) :
    f.known.value? "jsonSchema" = present f.schema ∧ f.known.value? "uiSchema" = present f.layout ∧
      f.known.value? "properties" = present f.values ∧ f.known.value? "errors" = f.messages := by
  refine ⟨?_, ?_, ?_, ?_⟩ <;>
    simp [known, Entries.value?_append, value?_unlessNull, value?_messages]

theorem getD_present (d : Document) : (present d).getD .null = d := by
  cases d <;> rfl

/-- What holds of every form that has been read, and what changes keep: no name twice, no null in the
place of the messages, and no further member that would be read as something else. -/
structure Sound (f : Form) : Prop where
  distinct : f.Distinct
  messages : f.messages ≠ some .null
  extra : ∀ name ∈ memberNames, name ∉ Entries.names f.extra

namespace Sound

variable {f : Form}

theorem ofMembers {ms : Members} (h : (Document.object ms).Distinct) : (ofMembers ms).Sound := by
  have hvalue : ∀ name, ((ms.value? name).getD .null).Distinct := by
    intro name
    cases hv : ms.value? name with
    | none => trivial
    | some v => exact h.value hv
  have hmessages : ∀ d, (Form.ofMembers ms).messages = some d → ms.value? "errors" = some d ∧ d ≠ .null := by
    intro d hd
    obtain ⟨v, hv, hpresent⟩ := Option.bind_eq_some_iff.mp ((join_map_present _).symm.trans hd)
    obtain ⟨rfl, hnull⟩ := present_eq_some_iff.mp hpresent
    exact ⟨hv, hnull⟩
  have hextra : (Document.object (Form.ofMembers ms).extra).Distinct := by
    rw [Document.distinct_object] at h ⊢
    exact ⟨h.1.sublist (List.filter_sublist.map Prod.fst), fun e he => h.2 e (List.mem_of_mem_filter he)⟩
  have hmessagesDistinct : ∀ d ∈ (Form.ofMembers ms).messages, d.Distinct :=
    fun d hd => h.value (hmessages d hd).1
  refine ⟨⟨hvalue _, hvalue _, hvalue _, hmessagesDistinct, hextra⟩, fun hnull => ?_,
    fun name hname hmem => ?_⟩
  · exact (hmessages _ hnull).2 rfl
  · obtain ⟨e, he, rfl⟩ := List.mem_map.mp hmem
    exact absurd hname (of_decide_eq_true (List.mem_filter.mp he).2)

theorem distinct_members (h : f.Sound) : (Document.object (f.known ++ f.extra)).Distinct := by
  have hextra := Document.distinct_object.mp h.distinct.extra
  have hknown : ∀ e ∈ f.known, e.2.Distinct := by
    intro e he
    simp only [known, List.mem_append, Option.mem_toList, Option.map_eq_some_iff] at he
    rcases he with ((he | he) | he) | ⟨d, hd, rfl⟩
    · rw [mem_unlessNull he]; exact h.distinct.schema
    · rw [mem_unlessNull he]; exact h.distinct.layout
    · rw [mem_unlessNull he]; exact h.distinct.values
    · exact h.distinct.messages d hd
  rw [Document.distinct_object, Entries.names, List.map_append]
  refine ⟨List.nodup_append.mpr ⟨?_, hextra.1, ?_⟩, ?_⟩
  · exact (show memberNames.Nodup by decide).sublist f.names_known_sublist
  · rintro name hname _ hmem rfl
    exact h.extra name (f.names_known_sublist.subset hname) hmem
  · exact List.forall_mem_append.mpr ⟨hknown, hextra.2⟩

theorem ofMembers_members (h : f.Sound) : Form.ofMembers (f.known ++ f.extra) = f := by
  have hvalue : ∀ name ∈ memberNames, (f.known ++ f.extra).value? name = f.known.value? name := by
    intro name hname
    rw [Entries.value?_append, Entries.value?_eq_none_iff.mpr (h.extra name hname), Option.or_none]
  have hknown : f.known.filter (fun e => e.1 ∉ memberNames) = [] := by
    rw [List.filter_eq_nil_iff]
    intro e he
    simpa using f.names_known_sublist.subset (List.mem_map_of_mem he)
  have hextra : f.extra.filter (fun e => e.1 ∉ memberNames) = f.extra := by
    rw [List.filter_eq_self]
    exact fun e he => decide_eq_true fun hname => h.extra _ hname (List.mem_map_of_mem he)
  have hmessages : f.messages.bind present = f.messages := by
    cases hm : f.messages with
    | none => rfl
    | some d => exact present_eq_some_iff.mpr ⟨rfl, fun hd => h.messages (hd ▸ hm)⟩
  obtain ⟨hschema, hlayout, hvalues, herrors⟩ := f.value?_known
  rw [Form.ofMembers, Draft.ofMembers_congr hvalue, List.filter_append, hknown, hextra, List.nil_append]
  simp only [ofDraft, Draft.ofMembers, join_map_present, hschema, hlayout, hvalues, herrors, getD_present,
    hmessages]

theorem ofDocument_toDocument (h : f.Sound) : ofDocument f.toDocument = .ok f := by
  rw [toDocument_eq, ofDocument_object h.distinct_members, h.ofMembers_members]

theorem withValues (h : f.Sound) {values : Document} (hvalues : values.Distinct) :
    (f.withValues values).Sound :=
  ⟨{ h.distinct with values := hvalues }, h.messages, h.extra⟩

theorem mergeValues (h : f.Sound) {path : String} {additions : Members}
    (hadd : ∀ e ∈ additions, e.2.Distinct) : (f.mergeValues path additions).2.Sound :=
  h.withValues (h.distinct.values.mergeAt hadd path)

theorem messageMembers (h : f.Sound) : (Document.object f.messageMembers).Distinct := by
  unfold Form.messageMembers
  split
  · next ms hm => exact h.distinct.messages _ hm
  · exact .nil

theorem setMessage (h : f.Sound) (field message : String) : (f.setMessage field message).Sound := by
  refine ⟨{ h.distinct with messages := ?_ }, nofun, h.extra⟩
  rintro d ⟨⟩
  exact h.messageMembers.put trivial

theorem clearMessage (h : f.Sound) (field : String) : (f.clearMessage field).2.Sound := by
  have hclear : (f.clearMessage field).2 = { f with messages := f.messages.map (withoutMessage field) } :=
    congrArg Prod.snd (absorb_checked_ok f field none)
  rw [hclear]
  refine ⟨{ h.distinct with messages := fun d hd => ?_ }, fun hnull => ?_, h.extra⟩
  · obtain ⟨e, he, rfl⟩ := Option.map_eq_some_iff.mp hd
    have hdistinct := h.distinct.messages e he
    cases e with
    | object ms => exact hdistinct.remove
    | _ => exact hdistinct
  · obtain ⟨e, he, hnull⟩ := Option.map_eq_some_iff.mp hnull
    cases e with
    | null => exact h.messages he
    | _ => cases hnull

theorem putInElement (h : f.Sound) (field k : String) {v : Document} (hv : v.Distinct) :
    ((f.putInElement? field k v).getD f).Sound := by
  rw [putInElement?]
  cases he : f.layout.editElement? field fun ms => ms.put k v with
  | none => exact h
  | some layout =>
    have hlayout := h.distinct.layout.editElement? (fun ms hms => hms.put hv) he
    exact ⟨{ h.distinct with layout := hlayout }, h.messages, h.extra⟩

end Sound

inductive Edit
  | setValues (values : Document)
  | merge (path : String) (additions : Members)
  | setMessage (field message : String)
  | clearMessage (field : String)
  | putInElement (field k : String) (v : Document)
  | absorb (o : Outcome)

def Edit.Distinct : Edit → Prop
  | .setValues values => values.Distinct
  | .merge _ additions => (Document.object additions).Distinct
  | .putInElement _ _ v => v.Distinct
  | .absorb (.updated _ values) => (Document.object values).Distinct
  | _ => True

/-- The form that the change leaves, be it made or refused. -/
def edit (f : Form) : Edit → Form
  | .setValues values => f.withValues values
  | .merge path additions => (f.mergeValues path additions).2
  | .setMessage field message => f.setMessage field message
  | .clearMessage field => (f.clearMessage field).2
  | .putInElement field k v => (f.putInElement? field k v).getD f
  | .absorb o => (f.absorb o).2

theorem distinct_entry (c : Choice) : c.entry.Distinct :=
  Document.distinct_object.mpr ⟨by simp [Entries.names], by simp [Document.Distinct]⟩

theorem distinct_titleMap (choices : List Choice) :
    (Document.array (choices.map Choice.entry)).Distinct := by
  refine Document.distinct_array.mpr fun x hx => ?_
  obtain ⟨c, -, rfl⟩ := List.mem_map.mp hx
  exact distinct_entry c

theorem absorb_offered_snd (f : Form) (field : String) (choices : List Choice) :
    (f.absorb (.offered field choices)).2 =
      (f.putInElement? field "titleMap" (.array (choices.map Choice.entry))).getD f := by
  rw [absorb]
  cases f.putInElement? field "titleMap" (.array (choices.map Choice.entry)) <;> rfl

namespace Sound

variable {f : Form}

theorem absorb (h : f.Sound) {o : Outcome} (ho : (Edit.absorb o).Distinct) : (f.absorb o).2.Sound := by
  cases o with
  | checked field verdict comment =>
    cases verdict with
    | ok => exact h.clearMessage field
    | ko => exact h.setMessage field _
  | offered field choices =>
    rw [absorb_offered_snd]
    exact h.putInElement field "titleMap" (distinct_titleMap choices)
  | updated field values => exact h.mergeValues (Document.distinct_object.mp ho).2
  | health verdict comment => exact h
  | fragment kind body => exact h

theorem edit (h : f.Sound) {e : Edit} (he : e.Distinct) : (f.edit e).Sound := by
  cases e with
  | setValues values => exact h.withValues he
  | merge path additions => exact h.mergeValues (Document.distinct_object.mp he).2
  | setMessage field message => exact h.setMessage field message
  | clearMessage field => exact h.clearMessage field
  | putInElement field k v => exact h.putInElement field k he
  | absorb o => exact h.absorb he

theorem edits (h : f.Sound) {edits : List Edit} (hedits : ∀ e ∈ edits, e.Distinct) :
    (edits.foldl Form.edit f).Sound := by
  induction edits generalizing f with
  | nil => exact h
  | cons e edits ih =>
    rw [List.forall_mem_cons] at hedits
    exact ih (h.edit hedits.1) hedits.2

end Sound

/-- Every object is read as a form, which is written with the four members that it has a use for in
their order, nulls left out, and then with all others as they stood; and whatever changes are made to
the form, it is read back exactly from what it is written to. -/
theorem edited_form_is_read_back {ms : Members} (hms : (Document.object ms).Distinct) :
    ∃ f, ofDocument (.object ms) = .ok f ∧ f.toDocument = .object (written ms) ∧
      ∀ edits : List Edit, (∀ e ∈ edits, e.Distinct) →
        ofDocument (edits.foldl edit f).toDocument = .ok (edits.foldl edit f) :=
  ⟨ofMembers ms, ofDocument_object hms, toDocument_ofMembers ms, fun _ hedits =>
    ((Sound.ofMembers hms).edits hedits).ofDocument_toDocument⟩

/-- Null messages are left out, and come back as an empty object once they have held a message. -/
theorem form_without_messages_is_read_back :
    let layout : Document := .array [.object [("key", .string "a"), ("items", .null)]]
    let ms : Members := [("zeta", .null), ("errors", .null), ("properties", .object [("a", .null)]),
      ("uiSchema", layout), ("jsonSchema", .null)]
    let edits : List Edit := [.setMessage "a" "no", .merge "a" [("b", .bool true)], .clearMessage "a",
      .putInElement "a" "items" (.array []), .absorb (.offered "a" [⟨"x", none⟩])]
    (Document.object ms).Distinct ∧ (∀ e ∈ edits, e.Distinct) ∧
      ∃ f, ofDocument (.object ms) = .ok f ∧
        f.toDocument = .object [("uiSchema", layout), ("properties", .object [("a", .null)]),
          ("zeta", .null)] ∧
        (edits.foldl edit f).messages = some (.object []) ∧
        ofDocument (edits.foldl edit f).toDocument = .ok (edits.foldl edit f) := by
  intro layout ms edits
  have hms : (Document.object ms).Distinct := by
    simp [ms, layout, Document.Distinct, Document.DistinctMembers, Document.DistinctItems, Entries.names]
  have hedits : ∀ e ∈ edits, e.Distinct := by
    simp [edits, Edit.Distinct, Document.Distinct, Document.DistinctMembers, Document.DistinctItems,
      Entries.names]
  obtain ⟨f, hread, hwritten, hback⟩ := edited_form_is_read_back hms
  obtain rfl : ofMembers ms = f := Except.ok.inj ((ofDocument_object hms).symm.trans hread)
  exact ⟨hms, hedits, _, hread, hwritten, rfl, hback edits hedits⟩

end Form
end ComponentForm
