import ComponentForm.Proofs.Document.Sameness
import ComponentForm.Proofs.Form.RoundTrip

/-! What the answer to an outcome tells of the form. An answer of false is true to the letter: the form
is left as it was. An answer of true says that there was something to take over, and whether that made
a difference depends on what the form had: it makes none if all of it was there already. -/
namespace ComponentForm

theorem Entries.modify_of_value?_eq {α : Type u} (g : α → α) {es : Entries α} {k : String} {v : α}
    (h : value? es k = some v) : modify g es k = put es k (g v) := by
  induction es with
  | nil => cases h
  | cons e rest ih =>
    obtain ⟨name, w⟩ := e
    rw [value?_cons] at h
    rw [modify, put]
    by_cases hk : name = k
    · rw [if_pos hk, Option.some.injEq] at h
      rw [if_pos hk, if_pos hk, h]
    · rw [if_neg hk] at h
      rw [if_neg hk, if_neg hk, ih h]

namespace Document

theorem same_editAt {edit : Members → Members} {p : Place} {d : Document} {ms : Members}
    (hd : d.Distinct) (h : objectAt? p d = some ms) :
    d.same (editAt edit p d) = (object ms).same (object (edit ms)) := by
  induction p generalizing d with
  | nil =>
    cases d with
    | object ns =>
      cases h
      rfl
    | _ => cases h
  | cons step p ih =>
    cases step with
    | item i =>
      cases d with
      | array xs =>
        obtain ⟨item, hitem, hat⟩ := Option.bind_eq_some_iff.mp h
        have hset : xs.modify i (editAt edit p) = xs.set i (editAt edit p item) := by
          rw [List.modify_eq_set_getElem?, hitem]
          rfl
        have hitems : DistinctItems xs := hd
        rw [editAt, hset, same, sameItems_set hitems hitem]
        exact ih (distinct_array.mp hd item (List.mem_of_getElem? hitem)) hat
      | _ => cases h
    | items =>
      cases d with
      | object ns =>
        obtain ⟨items, hitems, hat⟩ := Option.bind_eq_some_iff.mp h
        rw [editAt, Entries.modify_of_value?_eq _ hitems, Bool.eq_iff_iff, same_put hd, has_singleton,
          hitems]
        simp [ih (hd.value hitems) hat]
      | _ => cases h

end Document

namespace Form

section Parts
variable {f : Form}

theorem Distinct.same_self (hf : f.Distinct) : f.same f = true :=
  (Alike.refl f).same hf

theorem same_withParts (hf : f.Distinct) (layout values : Document) :
    f.same { f with layout, values } = (f.layout.same layout && f.values.same values) := by
  obtain ⟨schema, layout', values', messages, extra⟩ := f
  have hmessages := hf.messages
  cases messages with
  | none => simp [same, hf.schema.same_self, hf.extra.same_self]
  | some m => simp [same, hf.schema.same_self, hf.extra.same_self, (hmessages m rfl).same_self]

theorem same_withValues (hf : f.Distinct) (values : Document) :
    f.same (f.withValues values) = f.values.same values := by
  have h := same_withParts hf f.layout values
  rwa [hf.layout.same_self, Bool.true_and] at h

theorem same_withLayout (hf : f.Distinct) (layout : Document) :
    f.same { f with layout } = f.layout.same layout := by
  have h := same_withParts hf layout f.values
  rwa [hf.values.same_self, Bool.and_true] at h

theorem same_withMessages (hf : f.Distinct) (d : Document) :
    f.same { f with messages := some d } = f.messages.any (·.same d) := by
  obtain ⟨schema, layout, values, messages, extra⟩ := f
  cases messages <;>
    simp [same, hf.schema.same_self, hf.layout.same_self, hf.values.same_self, hf.extra.same_self]

end Parts

/-- The form has all that the outcome would bring, in the object that it would go into. -/
def Holds (f : Form) : Outcome → Prop
  | .checked field .ko comment =>
    Document.Has f.messageMembers [(field, .string (comment.getD Outcome.defaultMessage))]
  | .offered field choices => ∃ ms, f.element? field = some ms ∧
    Document.Has ms [("titleMap", .array (choices.map Choice.entry))]
  | .updated path values => ∃ ms, f.values.follow? (Path.route path) = some (.object ms) ∧
    Document.Has ms values
  | _ => False

section Outcomes
variable {f : Form} {field : String}

theorem same_clearMessage (hf : f.Distinct) :
    f.same (f.clearMessage field).2 = true ↔ (f.clearMessage field).1 = false := by
  unfold clearMessage
  split
  · next ms hms =>
    split
    · next hfield =>
      have hlength := Nat.ne_of_gt (Entries.length_remove_lt hfield)
      rw [same_withMessages hf, hms]
      simp [Document.same, hlength]
    · simp [hf.same_self]
  · simp [hf.same_self]

theorem clearMessage_of_false (h : (f.clearMessage field).1 = false) : (f.clearMessage field).2 = f := by
  unfold clearMessage at h ⊢
  split at h
  · split at h
    · cases h
    · next hfield => rw [if_neg hfield]
  · rfl

theorem same_setMessage (hf : f.Distinct) (message : String) :
    f.same (f.setMessage field message) = true ↔
      Document.Has f.messageMembers [(field, .string message)] := by
  rw [setMessage, same_withMessages hf, messageMembers]
  have hmessages := hf.messages
  cases hm : f.messages with
  | none => simp [Document.Has]
  | some d =>
    cases d with
    | object ms =>
      have hms := hmessages _ hm
      simp only [Option.any_some]
      exact Document.same_put hms field _
    | _ => simp [Document.Has, Document.same]

theorem absorb_offered_of_none {choices : List Choice} (hc : f.layout.candidate? field = none) :
    f.absorb (.offered field choices) = (.ok false, f) := by
  rw [absorb_offered, tried, Document.editElement?_eq, hc]
  rfl

theorem absorb_offered_fst_of_some {choices : List Choice} {c : Document.Candidate}
    (hc : f.layout.candidate? field = some c) :
    (f.absorb (.offered field choices)).1 = .ok true := by
  rw [absorb_offered, tried, Document.editElement?_eq, hc]
  rfl

theorem holds_offered {choices : List Choice} :
    f.Holds (.offered field choices) ↔ ∃ c, f.layout.candidate? field = some c ∧
      Document.Has c.members [("titleMap", .array (choices.map Choice.entry))] := by
  rw [Holds, element?, Document.element?_eq]
  cases f.layout.candidate? field <;> simp

theorem same_offered (hf : f.Distinct) (choices : List Choice) {c : Document.Candidate}
    (hc : f.layout.candidate? field = some c) :
    f.same (f.absorb (.offered field choices)).2 = true ↔
      Document.Has c.members [("titleMap", .array (choices.map Choice.entry))] := by
  have hat := Document.objectAt?_of_candidate? hc
  rw [absorb_offered, tried, Document.editElement?_eq, hc, same_withLayout hf]
  simp only [Option.map_some, Option.getD_some]
  rw [Document.same_editAt hf.layout hat]
  exact Document.same_put (hf.layout.objectAt? hat) "titleMap" _

theorem same_updated (hf : f.Distinct) {path : String} {values : Members}
    (hvalues : (Entries.names values).Nodup) (h : (f.mergeValues path values).1 = .ok ()) :
    f.same (f.mergeValues path values).2 = true ↔
      ∃ ms, f.values.follow? (Path.route path) = some (.object ms) ∧ Document.Has ms values := by
  rw [← Document.same_walk hvalues hf.values (walk_ok_of_mergeValues h), ← same_withValues hf]
  rfl

end Outcomes

/-- An answer tells no more than whether there was something to take over: the form is the same
afterwards if there was not, and also if it had all of that already, in which case the answer is true
all the same. -/
theorem answer_tells_change_unless_held {f : Form} {o : Outcome} (hf : f.Distinct)
    (ho : (Edit.absorb o).Distinct) {b : Bool} (h : (f.absorb o).1 = .ok b) :
    (f.same (f.absorb o).2 = true ↔ b = false ∨ f.Holds o) ∧
      (b = false → (f.absorb o).2 = f ∧ ¬ f.Holds o) := by
  cases o with
  | checked field verdict comment =>
    cases verdict with
    | ok =>
      obtain rfl : (f.clearMessage field).1 = b := Except.ok.inj h
      have hclear : (f.absorb (.checked field .ok comment)).2 = (f.clearMessage field).2 := rfl
      rw [hclear, same_clearMessage hf]
      exact ⟨by simp [Holds], fun hfalse => ⟨clearMessage_of_false hfalse, id⟩⟩
    | ko =>
      obtain rfl : true = b := Except.ok.inj h
      exact ⟨(same_setMessage hf _).trans (by simp [Holds]), nofun⟩
  | offered field choices =>
    cases hc : f.layout.candidate? field with
    | none =>
      rw [absorb_offered_of_none hc] at h ⊢
      obtain rfl : false = b := Except.ok.inj h
      have hholds : ¬ f.Holds (.offered field choices) := by simp [holds_offered, hc]
      exact ⟨by simp [hf.same_self], fun _ => ⟨rfl, hholds⟩⟩
    | some c =>
      rw [absorb_offered_fst_of_some hc] at h
      obtain rfl : true = b := Except.ok.inj h
      refine ⟨(same_offered hf choices hc).trans ?_, nofun⟩
      simp [holds_offered, hc]
  | updated path values =>
    have hmerge : (f.mergeValues path values).1 = .ok () ∧ b = true := by
      simp only [absorb] at h
      cases hm : (f.mergeValues path values).1 with
      | error e => rw [hm] at h; cases h
      | ok u => rw [hm] at h; exact ⟨rfl, (Except.ok.inj h).symm⟩
    obtain ⟨hmerge, rfl⟩ := hmerge
    have hvalues := (Document.distinct_object.mp ho).1
    exact ⟨(same_updated hf hvalues hmerge).trans (by simp [Holds]), nofun⟩
  | health verdict comment =>
    obtain rfl : false = b := Except.ok.inj h
    exact ⟨by simp [absorb, hf.same_self], fun _ => ⟨rfl, id⟩⟩
  | fragment kind body =>
    obtain rfl : false = b := Except.ok.inj h
    exact ⟨by simp [absorb, hf.same_self], fun _ => ⟨rfl, id⟩⟩

/-- A zero may take the place of the other zero: that is told as a change, and the form is the same. -/
theorem update_of_held_zero_is_told_as_change :
    let zero (negative : Bool) : Document := .number (.float ⟨negative, 0⟩)
    let f : Form := (default : Form).withValues (.object [("a", .object [("x", zero false)])])
    let o : Outcome := .updated "a." [("x", zero true)]
    f.Distinct ∧ (Edit.absorb o).Distinct ∧ (f.absorb o).1 = .ok true ∧ f.Holds o ∧
      f.same (f.absorb o).2 = true := by
  intro zero f o
  have hf : f.Distinct := by
    constructor <;> simp [f, zero, withValues, default, Document.Distinct, Document.DistinctMembers,
      Entries.names]
  have ho : (Edit.absorb o).Distinct := by
    simp [o, zero, Edit.Distinct, Document.Distinct, Document.DistinctMembers, Entries.names]
  have hok : (f.absorb o).1 = .ok true := rfl
  have hholds : f.Holds o := ⟨[("x", zero false)], rfl, Document.has_singleton.mpr ⟨_, rfl, rfl⟩⟩
  exact ⟨hf, ho, hok, hholds, (answer_tells_change_unless_held hf ho hok).1.mpr (Or.inr hholds)⟩

/-- A message that is there already is told as a change, and so are choices that are on offer and an
update that brings nothing. -/
theorem held_outcomes_are_told_as_changes :
    let titles : Document := .array [.object [("name", .string "A"), ("value", .string "a")]]
    let f : Form := ⟨.null, .array [.object [("key", .string "u"), ("titleMap", titles)]],
      .object [], some (.object [("u", .string "bad")]), []⟩
    ∀ o ∈ [Outcome.checked "u" .ko (some "bad"), .offered "u" [⟨"a", some "A"⟩], .updated "" []],
      (f.absorb o).1 = .ok true ∧ f.same (f.absorb o).2 = true := by
  decide

end Form
end ComponentForm
