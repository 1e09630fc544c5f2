import ComponentForm.Proofs.Form.RoundTrip
import ComponentForm.Proofs.Form.TwinLayouts
import ComponentForm.Proofs.Outline.Records

/-! Forms that differ in the order of members. Twin forms are made of twin documents. Every question that
is put to the one gets the answer that the other gives, up to the order of members, and every outcome is
taken over or refused in the same way by both, and leaves twins. -/
namespace ComponentForm
namespace Form

variable {r : Document → Document → Prop} {f g : Form}

theorem same_iff (f g : Form) :
    f.same g = true ↔ f.schema.same g.schema = true ∧ f.layout.same g.layout = true ∧
      f.values.same g.values = true ∧
      Option.Rel (fun d e => d.same e = true) f.messages g.messages ∧
      (Document.object f.extra).same (.object g.extra) = true := by
  obtain ⟨schema, layout, values, messages, extra⟩ := f
  obtain ⟨schema', layout', values', messages', extra'⟩ := g
  simp only [same, Bool.and_eq_true, and_assoc]
  cases messages <;> cases messages' <;> simp

structure Twins (r : Document → Document → Prop) (f g : Form) : Prop where
  schema : Document.Twins r f.schema g.schema
  layout : Document.Twins r f.layout g.layout
  values : Document.Twins r f.values g.values
  messages : Option.Rel (Document.Twins r) f.messages g.messages
  extra : Document.Twins r (.object f.extra) (.object g.extra)

namespace Twins

theorem of_alike (h : f.Alike g) (hf : f.Distinct) (hg : g.Distinct) : Twins Document.Alike f g :=
  ⟨⟨h.schema, hf.schema, hg.schema⟩, ⟨h.layout, hf.layout, hg.layout⟩, ⟨h.values, hf.values, hg.values⟩,
    Document.Twins.rel h.messages hf.messages hg.messages, ⟨h.extra, hf.extra, hg.extra⟩⟩

theorem alike (h : Twins Document.Alike f g) : f.Alike g :=
  ⟨h.schema.related, h.layout.related, h.values.related, rel_imp h.messages fun _ _ h => h.related,
    h.extra.related⟩

theorem of_same (h : f.same g = true) (hf : f.Distinct) (hg : g.Distinct) :
    Twins (fun d e => d.same e = true) f g := by
  obtain ⟨hschema, hlayout, hvalues, hmessages, hextra⟩ := (same_iff f g).mp h
  exact ⟨⟨hschema, hf.schema, hg.schema⟩, ⟨hlayout, hf.layout, hg.layout⟩,
    ⟨hvalues, hf.values, hg.values⟩, Document.Twins.rel hmessages hf.messages hg.messages,
    ⟨hextra, hf.extra, hg.extra⟩⟩

theorem same (h : Twins (fun d e => d.same e = true) f g) : f.same g = true :=
  (same_iff f g).mpr ⟨h.schema.related, h.layout.related, h.values.related,
    rel_imp h.messages fun _ _ h => h.related, h.extra.related⟩

section Questions
variable (hr : Document.Orderless r)
include hr

theorem value? (h : Twins r f g) (path : String) :
    Option.Rel (Document.Twins r) (f.value? path) (g.value? path) :=
  h.values.resolve? hr path

theorem message?_eq (h : Twins r f g) (field : String) : f.message? field = g.message? field := by
  have hfound : Option.Rel (Document.Twins r) (f.messages.bind fun d => d.member? field)
      (g.messages.bind fun d => d.member? field) :=
    rel_bind h.messages fun _ _ hde => hde.member? hr field
  exact bind_eq_of_rel hfound fun _ _ hde => hde.asString? hr

theorem triggers_eq (h : Twins r f g) (field : String) : f.triggers field = g.triggers field := by
  have hdeclared : Option.Rel (Document.Twins r)
      ((f.element? field).bind fun ms => ms.value? "triggers")
      ((g.element? field).bind fun ms => ms.value? "triggers") :=
    rel_bind (h.layout.element? hr field) fun _ _ hms => hms.value? hr "triggers"
  rw [triggers, triggers]
  generalize ((f.element? field).bind fun ms => ms.value? "triggers") = declared at hdeclared
  generalize ((g.element? field).bind fun ms => ms.value? "triggers") = declared' at hdeclared
  cases hdeclared with
  | none => rfl
  | some hde =>
    cases hde.matched hr with
    | array hitems =>
      exact filterMap_eq_of_forall₂ (fun _ _ hde => Trigger.ofDocument?_eq_of_twins hr hde) hitems
    | _ => rfl

theorem body {d e : Document} (h : Document.Twins r d e) (field : String) (trigger : Trigger) :
    Document.Twins r (.object (Firing.body ⟨field, trigger, d⟩))
      (.object (Firing.body ⟨field, trigger, e⟩)) := by
  have hbound : ∀ (parameters : List Trigger.Parameter) (ms ns : Members),
      Document.Twins r (.object ms) (.object ns) →
      Document.Twins r
        (.object (ms.putAll (parameters.filterMap fun p => (d.resolve? p.path).map fun v => (p.key, v))))
        (.object (ns.putAll (parameters.filterMap fun p => (e.resolve? p.path).map fun v => (p.key, v)))) := by
    intro parameters
    induction parameters with
    | nil => exact fun _ _ hms => hms
    | cons p parameters ih =>
      intro ms ns hms
      have hfound := h.resolve? hr p.path
      rw [List.filterMap_cons, List.filterMap_cons]
      generalize d.resolve? p.path = found at hfound
      generalize e.resolve? p.path = found' at hfound
      cases hfound with
      | none => exact ih ms ns hms
      | some hvw => exact ih _ _ (hms.put hr p.key hvw)
  exact hbound trigger.parameters [] [] (.refl hr .nil)

end Questions

section Outcomes
variable (hr : Document.Orderless r)
include hr

theorem messageMembers (h : Twins r f g) :
    Document.Twins r (.object f.messageMembers) (.object g.messageMembers) := by
  have hmessages := h.messages
  rw [Form.messageMembers, Form.messageMembers]
  generalize f.messages = messages at hmessages
  generalize g.messages = messages' at hmessages
  cases hmessages with
  | none => exact .refl hr .nil
  | some hde =>
    cases hde.matched hr with
    | object hagree => exact hde
    | _ => exact .refl hr .nil

theorem absorb (h : Twins r f g) {o : Outcome} (ho : (Edit.absorb o).Distinct) :
    (f.absorb o).1 = (g.absorb o).1 ∧ Twins r (f.absorb o).2 (g.absorb o).2 := by
  cases o with
  | checked field verdict comment =>
    cases verdict with
    | ok =>
      rw [absorb_checked_ok, absorb_checked_ok]
      have hhas := ((Document.Twins.object_iff hr).mp (h.messageMembers hr)).2.2.has_eq field
      refine ⟨congrArg Except.ok hhas, { h with messages := ?_ }⟩
      refine rel_map h.messages fun d e hde => ?_
      cases hde.matched hr with
      | object hagree => exact hde.remove hr field
      | _ => exact hde
    | ko =>
      rw [absorb_checked_ko, absorb_checked_ko]
      have hmessage : (Document.string (comment.getD Outcome.defaultMessage)).Distinct := trivial
      have hmessages := (h.messageMembers hr).put hr field (.refl hr hmessage)
      exact ⟨rfl, { h with messages := .some hmessages }⟩
  | offered field choices =>
    have hlayout := h.layout.editElement? hr
      (fun _ _ hms => hms.put hr "titleMap" (.refl hr (distinct_titleMap choices))) field
    rw [absorb_offered, absorb_offered, tried, tried]
    generalize f.layout.editElement? field _ = layout at hlayout ⊢
    generalize g.layout.editElement? field _ = layout' at hlayout ⊢
    cases hlayout with
    | none => exact ⟨rfl, h⟩
    | some hde => exact ⟨rfl, { h with layout := hde }⟩
  | updated path values =>
    rw [absorb_updated, absorb_updated]
    obtain ⟨houtcome, hleft⟩ := h.values.mergeAt hr (Document.distinct_object.mp ho).2 path
    exact ⟨congrArg (Except.map fun _ => true) houtcome, { h with values := hleft }⟩
  | health verdict comment => exact ⟨rfl, h⟩
  | fragment kind body => exact ⟨rfl, h⟩

end Outcomes

end Twins

/-- No question and no outcome tells the two forms apart, for one who sees documents only up to `r` and
forms only up to `R`. -/
structure Likewise (r : Document → Document → Prop) (R : Form → Form → Prop) (f g : Form) : Prop where
  value : ∀ path, Option.Rel r (f.value? path) (g.value? path)
  message : ∀ field, f.message? field = g.message? field
  triggers : ∀ field, f.triggers field = g.triggers field
  body : ∀ field trigger, r (.object (Firing.body ⟨field, trigger, f.values⟩))
    (.object (Firing.body ⟨field, trigger, g.values⟩))
  told : ∀ o, (Edit.absorb o).Distinct → (f.absorb o).1 = (g.absorb o).1
  left : ∀ o, (Edit.absorb o).Distinct → R (f.absorb o).2 (g.absorb o).2

theorem Twins.likewise (hr : Document.Orderless r) {R : Form → Form → Prop}
    (hR : ∀ {f g}, Twins r f g → R f g) (h : Twins r f g) : Likewise r R f g where
  value path := rel_imp (h.value? hr path) fun _ _ hde => hde.related
  message := h.message?_eq hr
  triggers := h.triggers_eq hr
  body field trigger := (Twins.body hr h.values field trigger).related
  told _ ho := (h.absorb hr ho).1
  left _ ho := hR (h.absorb hr ho).2

/-- The order of members decides nothing. Forms that are alike answer alike, and are alike after every
outcome; and what are only the same forms, with a negative zero in the place of a zero, answer the same
and stay the same. -/
theorem member_order_decides_nothing (hf : f.Distinct) (hg : g.Distinct) :
    (f.Alike g → Likewise Document.Alike Alike f g) ∧
      (f.same g = true →
        Likewise (fun d e => d.same e = true) (fun f g => f.same g = true) f g) := by
  constructor
  · intro halike
    exact (Twins.of_alike halike hf hg).likewise Document.orderless_alike Twins.alike
  · intro hsame
    exact (Twins.of_same hsame hf hg).likewise Document.orderless_same Twins.same

/-- Members may stand in another order in the values, in an element and in a trigger. -/
theorem reordered_form_answers_alike :
    let trigger : Members := [("action", .string "load"), ("type", .string "update"),
      ("family", .string "demo")]
    let trigger' : Members := [("type", .string "update"), ("action", .string "load"),
      ("family", .string "demo")]
    let item : Members := [("x", .null), ("y", .bool true)]
    let item' : Members := [("y", .bool true), ("x", .null)]
    let f : Form := ⟨.null,
      .array [.object [("key", .string "a"), ("triggers", .array [.object trigger])]],
      .object [("a", .array [.object item]), ("b", .null)], none, []⟩
    let g : Form := ⟨.null,
      .array [.object [("triggers", .array [.object trigger']), ("key", .string "a")]],
      .object [("b", .null), ("a", .array [.object item'])], none, []⟩
    let o : Outcome := .updated "a.0.x" [("z", .null)]
    f.Distinct ∧ g.Distinct ∧ f.Alike g ∧ f.same g = true ∧
      f.triggers "a" = g.triggers "a" ∧ f.triggers "a" ≠ [] ∧
      (f.absorb o).1 = .ok true ∧ (f.absorb o).2.Alike (g.absorb o).2 ∧
      (f.absorb o).2.same (g.absorb o).2 = true := by
  intro trigger trigger' item item' f g o
  have hf : f.Distinct := by
    constructor <;> simp [f, trigger, item, Document.Distinct, Document.DistinctMembers,
      Document.DistinctItems, Entries.names]
  have hg : g.Distinct := by
    constructor <;> simp [g, trigger', item', Document.Distinct, Document.DistinctMembers,
      Document.DistinctItems, Entries.names]
  have ho : (Edit.absorb o).Distinct := by
    simp [o, Edit.Distinct, Document.Distinct, Document.DistinctMembers, Entries.names]
  have halike : f.Alike g := by
    refine ⟨.refl _, .array (.cons (.object (.swap _ _ _) ?_) .nil), .object (.swap _ _ _) ?_, .none,
      .refl _⟩
    · exact .cons (.array (.cons (.of_perm (.swap _ _ _)) .nil)) (.cons (.refl _) .nil)
    · exact .cons (.refl _) (.cons (.array (.cons (.of_perm (.swap _ _ _)) .nil)) .nil)
  have hsame : f.same g = true := rfl
  obtain ⟨hlikewise, hlikewise'⟩ := member_order_decides_nothing hf hg
  exact ⟨hf, hg, halike, hsame, (hlikewise halike).triggers "a", by decide, rfl,
    (hlikewise halike).left o ho, (hlikewise' hsame).left o ho⟩

end Form
end ComponentForm
