import ComponentForm.Proofs.Form.Places

/-! The element of a field in its surroundings. There are two searches for it: one that reads the element
and one that changes it. Both come to an end at the same spot of the layout, so that a layout is that
element and what surrounds it; what is put into the element is read back from it, and the surroundings
stay as they are. -/
namespace ComponentForm

namespace Entries

variable {α : Type u} {k : String}

theorem exists_first_of_mem_names {es : Entries α} (h : k ∈ names es) :
    ∃ front v back, es = front ++ (k, v) :: back ∧ k ∉ names front := by
  induction es with
  | nil => cases h
  | cons e rest ih =>
    obtain ⟨name, w⟩ := e
    rw [names_cons, List.mem_cons] at h
    by_cases hname : k = name
    · exact ⟨[], w, rest, by rw [hname, List.nil_append], List.not_mem_nil⟩
    · obtain ⟨front, v, back, rfl, hfront⟩ := ih (h.resolve_left hname)
      exact ⟨(name, w) :: front, v, back, rfl, not_mem_names_cons.mpr ⟨hname, hfront⟩⟩

/-- What a value makes of entries: it stands where the first of its name stood, or goes last if its name
is new. -/
inductive Puts (k : String) (v : α) : Entries α → Entries α → Prop
  | inPlace {front back : Entries α} {old : α} :
      k ∉ names front → Puts k v (front ++ (k, old) :: back) (front ++ (k, v) :: back)
  | last {es : Entries α} : k ∉ names es → Puts k v es (es ++ [(k, v)])

theorem puts_put (es : Entries α) (k : String) (v : α) : Puts k v es (put es k v) := by
  by_cases hk : k ∈ names es
  · obtain ⟨front, old, back, rfl, hfront⟩ := exists_first_of_mem_names hk
    rw [put_append_of_not_mem hfront, put, if_pos rfl]
    exact .inPlace hfront
  · rw [put_of_not_mem_names hk]
    exact .last hk

end Entries

namespace Document

/-- What surrounds one of the values in a document. -/
inductive Surroundings
  | here
  | item (before : List Document) (rest : Surroundings) (after : List Document)
  | member (before : Members) (name : String) (rest : Surroundings) (after : Members)

namespace Surroundings

def fill : Surroundings → Document → Document
  | .here, d => d
  | .item before rest after, d => .array (before ++ rest.fill d :: after)
  | .member before name rest after, d => .object (before ++ (name, rest.fill d) :: after)

/-- Both searches for the element of the field end at the object in these surroundings, whichever element
for the field that object is. -/
structure Focus (field : String) (c : Surroundings) : Prop where
  element?_fill : ∀ ms, isElement field ms = true → element? field (c.fill (.object ms)) = some ms
  editElement?_fill : ∀ ms, isElement field ms = true → ∀ edit,
    editElement? field edit (c.fill (.object ms)) = some (c.fill (.object (edit ms)))

end Surroundings

section Search
variable {field : String}

theorem isElement_of_element? {d : Document} {ms : Members} (h : element? field d = some ms) :
    isElement field ms = true := by
  rw [element?_eq, Option.map_eq_some_iff] at h
  obtain ⟨c, hc, rfl⟩ := h
  rw [candidate?, firstElement?] at hc
  exact List.find?_some (p := Candidate.isElement field) hc

theorem isSome_editElement? (edit : Members → Members) (d : Document) :
    (editElement? field edit d).isSome = (element? field d).isSome := by
  rw [editElement?_eq, element?_eq, Option.isSome_map, Option.isSome_map]

theorem editElement?_eq_none {d : Document} (h : element? field d = none) (edit : Members → Members) :
    editElement? field edit d = none := by
  rw [← Option.not_isSome_iff_eq_none, isSome_editElement?, h]
  exact Bool.false_ne_true

theorem elementAmong?_append {before : List Document} (h : ∀ x ∈ before, element? field x = none)
    (xs : List Document) : elementAmong? field (before ++ xs) = elementAmong? field xs := by
  induction before with
  | nil => rfl
  | cons x before ih =>
    rw [List.forall_mem_cons] at h
    rw [List.cons_append, elementAmong?, h.1, Option.none_or, ih h.2]

theorem editAmong?_append {before : List Document} (h : ∀ x ∈ before, element? field x = none)
    (edit : Members → Members) (xs : List Document) :
    editAmong? field edit (before ++ xs) = (editAmong? field edit xs).map (before ++ ·) := by
  induction before with
  | nil => exact Option.map_id'.symm
  | cons x before ih =>
    rw [List.forall_mem_cons] at h
    rw [List.cons_append, editAmong?_cons_of_none (editElement?_eq_none h.1 edit), ih h.2, Option.map_map]
    rfl

theorem elementUnder?_append {before : Members} (h : "items" ∉ Entries.names before) (ms : Members) :
    elementUnder? field (before ++ ms) = elementUnder? field ms := by
  induction before with
  | nil => rfl
  | cons e before ih =>
    obtain ⟨name, v⟩ := e
    rw [Entries.not_mem_names_cons] at h
    rw [List.cons_append, elementUnder?, if_neg (Ne.symm h.1), ih h.2]

theorem editUnder?_append {before : Members} (h : "items" ∉ Entries.names before)
    (edit : Members → Members) (ms : Members) :
    editUnder? field edit (before ++ ms) = (editUnder? field edit ms).map (before ++ ·) := by
  induction before with
  | nil => exact Option.map_id'.symm
  | cons e before ih =>
    obtain ⟨name, v⟩ := e
    rw [Entries.not_mem_names_cons] at h
    rw [List.cons_append, editUnder?, if_neg (Ne.symm h.1), ih h.2, Option.map_map]
    rfl

namespace Surroundings.Focus

theorem here : Focus field .here where
  element?_fill ms h := by rw [fill, element?, if_pos h]
  editElement?_fill ms h edit := by rw [fill, editElement?, if_pos h]; rfl

theorem item {c : Surroundings} (hc : c.Focus field) {before : List Document}
    (hbefore : ∀ x ∈ before, element? field x = none) (after : List Document) :
    Focus field (.item before c after) where
  element?_fill ms h := by
    rw [fill, element?, elementAmong?_append hbefore, elementAmong?, hc.element?_fill ms h,
      Option.some_or]
  editElement?_fill ms h edit := by
    rw [fill, editElement?, editAmong?_append hbefore,
      editAmong?_cons_of_some (hc.editElement?_fill ms h edit)]
    rfl

theorem items {c : Surroundings} (hc : c.Focus field) {before after : Members}
    (hbefore : "items" ∉ Entries.names before) {v : Document}
    (hobject : isElement field (before ++ ("items", v) :: after) = false) :
    Focus field (.member before "items" c after) := by
  have hobject (w : Document) : isElement field (before ++ ("items", w) :: after) = false := by
    rw [← hobject]
    refine isElement_congr ?_ field
    rw [Entries.value?_append, Entries.value?_append]
    rfl
  refine ⟨fun ms h => ?_, fun ms h edit => ?_⟩
  · rw [fill, element?, hobject, if_neg Bool.false_ne_true, elementUnder?_append hbefore,
      elementUnder?, if_pos rfl, hc.element?_fill ms h]
  · rw [fill, editElement?_of_not_isElement (hobject _), editUnder?_append hbefore, editUnder?,
      if_pos rfl, hc.editElement?_fill ms h edit]
    rfl

end Surroundings.Focus

mutual
/-- An element that is found stands at a spot where both searches end. -/
theorem exists_focus {d : Document} {ms : Members} (h : element? field d = some ms) :
    ∃ c : Surroundings, c.Focus field ∧ c.fill (.object ms) = d := by
  cases d with
  | array xs =>
    obtain ⟨before, c, after, hbefore, hc, rfl⟩ := exists_focus_among h
    exact ⟨.item before c after, hc.item hbefore after, rfl⟩
  | object ns =>
    rw [element?] at h
    cases hns : isElement field ns with
    | true =>
      rw [if_pos hns, Option.some.injEq] at h
      exact ⟨.here, .here, congrArg object h.symm⟩
    | false =>
      rw [hns, if_neg Bool.false_ne_true] at h
      obtain ⟨before, c, after, hbefore, hc, rfl⟩ := exists_focus_under h
      exact ⟨.member before "items" c after, hc.items hbefore hns, rfl⟩
  | null => cases h
  | bool v => cases h
  | number n => cases h
  | string s => cases h

theorem exists_focus_among {xs : List Document} {ms : Members} (h : elementAmong? field xs = some ms) :
    ∃ (before : List Document) (c : Surroundings) (after : List Document),
      (∀ x ∈ before, element? field x = none) ∧ c.Focus field ∧
        before ++ c.fill (.object ms) :: after = xs := by
  cases xs with
  | nil => cases h
  | cons x xs =>
    rw [elementAmong?] at h
    cases hx : element? field x with
    | some ns =>
      rw [hx, Option.some_or, Option.some.injEq] at h
      subst h
      obtain ⟨c, hc, rfl⟩ := exists_focus hx
      exact ⟨[], c, xs, nofun, hc, rfl⟩
    | none =>
      rw [hx, Option.none_or] at h
      obtain ⟨before, c, after, hbefore, hc, rfl⟩ := exists_focus_among h
      exact ⟨x :: before, c, after, List.forall_mem_cons.mpr ⟨hx, hbefore⟩, hc, rfl⟩

theorem exists_focus_under {es : List (String × Document)} {ms : Members}
    (h : elementUnder? field es = some ms) :
    ∃ (before : Members) (c : Surroundings) (after : Members),
      "items" ∉ Entries.names before ∧ c.Focus field ∧
        before ++ ("items", c.fill (.object ms)) :: after = es := by
  cases es with
  | nil => cases h
  | cons e es =>
    obtain ⟨name, v⟩ := e
    rw [elementUnder?] at h
    by_cases hname : name = "items"
    · rw [if_pos hname] at h
      obtain ⟨c, hc, rfl⟩ := exists_focus h
      exact ⟨[], c, es, List.not_mem_nil, hc, by rw [hname, List.nil_append]⟩
    · rw [if_neg hname] at h
      obtain ⟨before, c, after, hbefore, hc, rfl⟩ := exists_focus_under h
      have hfront : "items" ∉ Entries.names ((name, v) :: before) :=
        Entries.not_mem_names_cons.mpr ⟨Ne.symm hname, hbefore⟩
      exact ⟨(name, v) :: before, c, after, hfront, hc, rfl⟩
end

end Search
end Document

namespace Form

/-- The two searches for the element of a field find one when the other does, and they find it at the
same spot of the layout. A member that the one puts into the element is found there by the other, where
it was before or behind all other members, and the rest of the form is what it was. -/
theorem member_is_put_where_element_is_read (f : Form) (field : String) {k : String} (hkey : k ≠ "key")
    (v : Document) :
    (∀ edit, (f.layout.editElement? field edit).isSome = (f.element? field).isSome) ∧
      ∀ ms, f.element? field = some ms → ∃ (c : Document.Surroundings) (ns : Members),
        c.Focus field ∧ f.layout = c.fill (.object ms) ∧ Entries.Puts k v ms ns ∧
          f.putInElement? field k v = some { f with layout := c.fill (.object ns) } ∧
          Form.element? { f with layout := c.fill (.object ns) } field = some ns := by
  refine ⟨fun edit => Document.isSome_editElement? edit f.layout, fun ms h => ?_⟩
  obtain ⟨c, hc, hfill⟩ := Document.exists_focus h
  have hms : Document.isElement field ms = true := Document.isElement_of_element? h
  have hns : Document.isElement field (ms.put k v) = true :=
    (Document.isElement_congr (Entries.value?_put_of_ne ms v hkey) field).trans hms
  refine ⟨c, ms.put k v, hc, hfill.symm, Entries.puts_put ms k v, ?_, hc.element?_fill _ hns⟩
  rw [putInElement?, ← hfill, hc.editElement?_fill ms hms]
  rfl

/-- One key on three elements: the first, one among its items, and one behind it. The first is found, and
its items give way to what is put there. -/
theorem items_are_put_into_first_element :
    let element : Members := [("key", .array [.string "a", .string "b"]),
      ("items", .array [.object [("key", .string "a.b")]]), ("widget", .string "list")]
    let f : Form := { (default : Form) with
      layout := .array [.object [("key", .string "a"),
        ("items", .array [.object element, .object [("key", .string "a.b")]])]] }
    "items" ≠ "key" ∧ f.element? "a.b" = some element ∧
      ∃ (c : Document.Surroundings) (ns : Members),
        c.Focus "a.b" ∧ f.layout = c.fill (.object element) ∧ Entries.Puts "items" .null element ns ∧
          f.putInElement? "a.b" "items" .null = some { f with layout := c.fill (.object ns) } ∧
          Form.element? { f with layout := c.fill (.object ns) } "a.b" = some ns := by
  intro element f
  have hkey : "items" ≠ "key" := by decide
  have helement : f.element? "a.b" = some element := rfl
  exact ⟨hkey, helement, (member_is_put_where_element_is_read f "a.b" hkey .null).2 element helement⟩

end Form
end ComponentForm
