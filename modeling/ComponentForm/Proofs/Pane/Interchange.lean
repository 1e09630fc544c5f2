import ComponentForm.Pane.State
import ComponentForm.Proofs.Form.Interchange
import ComponentForm.Server.Failure
import Mathlib.Data.List.Permutation

/-! States and changes of the pane, read back from the documents that they are written to. A change is
written as its tag and its payload, and it is read from any object that holds the two, in either order
and among other members: what comes in between is passed over. Together with triggers, the bodies of
answers and server errors, these are the values that the program and its servers exchange. -/
namespace ComponentForm

open Outline

theorem ServerError.readBack : ReadBack ServerError.read ServerError.toDocument := by
  refine (Ensures.trivial _).readBack fun e _ => ?_
  obtain ⟨code, description⟩ := e
  cases code <;> rfl

namespace Pane

theorem ensures_sound : Ensures (fun p : Pane => ∀ f ∈ p.form, f.Sound) Pane.read := by
  have hfields : ∀ f ∈ fields, f.Keeps fun draft : Draft => ∀ f ∈ draft.form.join, f.Sound := by
    simp only [fields, List.forall_mem_cons, List.not_mem_nil, false_implies, implies_true, and_true]
    refine ⟨keeps_of_slot (.trivial _) ?_, keeps_of_slot Form.ensures_sound.option ?_,
      keeps_of_slot (.trivial _) ?_⟩
    · exact fun _ _ h _ => h
    · exact fun _ _ _ hform => hform
    · exact fun _ _ h _ => h
  have hblank : ∀ f ∈ ({} : Draft).form.join, f.Sound := by rintro f ⟨⟩
  refine (Ensures.record hfields hblank _).bind fun draft p hdraft h => ?_
  obtain ⟨loading, -, h⟩ := bind_eq_ok_iff.mp h
  obtain ⟨submitted, -, h⟩ := bind_eq_ok_iff.mp h
  cases h
  exact hdraft

theorem read_toDocument {p : Pane} (h : ∀ f ∈ p.form, f.Sound) :
    Pane.read (.ofDocument p.toDocument) = .ok p := by
  obtain ⟨loading, form, submitted⟩ := p
  cases form with
  | none => rfl
  | some f =>
    have hform : readOption Form.read (.ofDocument f.toDocument) = .ok (some f) :=
      congrArg (Except.map some) (h f rfl).ofDocument_toDocument
    have hdraft : readRecord "struct DetailState" fields {}
        (.ofDocument (toDocument ⟨loading, some f, submitted⟩)) =
          .ok ⟨some loading, some (some f), some submitted⟩ := by
      simp only [toDocument, Outline.ofDocument, readRecord]
      refine Eq.trans (readFields_cons_of_slot rfl rfl (readBool_bool loading) _) ?_
      refine Eq.trans (readFields_cons_of_slot rfl rfl hform _) ?_
      exact Eq.trans (readFields_cons_of_slot rfl rfl (readBool_bool submitted) _) rfl
    rw [Pane.read, hdraft]
    rfl

theorem readBack : ReadBack Pane.read Pane.toDocument :=
  ensures_sound.readBack fun _ => read_toDocument

end Pane

namespace Change

/-- What the change brings along could have been read. -/
def Sound : Change → Prop
  | .loaded f => f.Sound
  | .submitted values => values.Distinct
  | _ => True

theorem sound_of_readPayload {o : Outline} {tag : Tag} {c : Change} (h : readPayload o tag = .ok c) :
    c.Sound := by
  cases tag with
  | loadStarted =>
    obtain ⟨-, -, rfl⟩ := map_eq_ok_iff.mp h
    trivial
  | loaded =>
    obtain ⟨f, hf, rfl⟩ := map_eq_ok_iff.mp h
    exact Form.ensures_sound hf
  | submitted =>
    obtain ⟨values, hvalues, rfl⟩ := map_eq_ok_iff.mp h
    exact ensures_readDocument hvalues
  | reopened =>
    obtain ⟨-, -, rfl⟩ := map_eq_ok_iff.mp h
    trivial

theorem sound_of_bare {tag : Tag} {c : Change} (h : bare tag = .ok c) : c.Sound := by
  cases tag with
  | loadStarted => cases h; trivial
  | reopened => cases h; trivial
  | loaded => cases h
  | submitted => cases h

theorem sound_of_finish {o : Outline} {tag : Tag} {closing : Closing} {rest : OutlineMembers} {c : Change}
    (h : (readPayload o tag >>= fun c => finish c closing rest) = .ok c) : c.Sound := by
  obtain ⟨read, hread, h⟩ := bind_eq_ok_iff.mp h
  obtain ⟨next, -, h⟩ := bind_eq_ok_iff.mp h
  cases next with
  | none =>
    cases h
    exact sound_of_readPayload hread
  | some next => cases h

theorem sound_of_readTagged {closing : Closing} {ms : OutlineMembers} {c : Change}
    (h : readTagged closing ms = .ok c) : c.Sound := by
  obtain ⟨first, -, h⟩ := bind_eq_ok_iff.mp h
  rcases first with _ | ⟨_ | _, o, rest⟩
  · cases h
  · obtain ⟨-, -, h⟩ := bind_eq_ok_iff.mp h
    obtain ⟨second, -, h⟩ := bind_eq_ok_iff.mp h
    rcases second with _ | ⟨_ | _, o', rest⟩
    · cases h
    · cases h
    · obtain ⟨tag, -, h⟩ := bind_eq_ok_iff.mp h
      exact sound_of_finish h
  · obtain ⟨tag, -, h⟩ := bind_eq_ok_iff.mp h
    obtain ⟨second, -, h⟩ := bind_eq_ok_iff.mp h
    rcases second with _ | ⟨_ | _, o', rest⟩
    · exact sound_of_bare h
    · exact sound_of_finish h
    · cases h

theorem ensures_sound : Ensures Sound Change.read := by
  intro o c h
  cases o with
  | object ms closing => exact sound_of_readTagged h
  | array os closing =>
    cases os with
    | nil =>
      obtain ⟨-, -, h⟩ := bind_eq_ok_iff.mp h
      cases h
    | cons o os =>
      obtain ⟨tag, -, h⟩ := bind_eq_ok_iff.mp h
      rcases os with _ | ⟨payload, _ | ⟨o', os⟩⟩
      · obtain ⟨-, -, h⟩ := bind_eq_ok_iff.mp h
        cases h
      · obtain ⟨c', hc', h⟩ := bind_eq_ok_iff.mp h
        obtain ⟨-, -, h⟩ := bind_eq_ok_iff.mp h
        cases h
        exact sound_of_readPayload hc'
      · obtain ⟨-, -, h⟩ := bind_eq_ok_iff.mp h
        cases h
  | _ =>
    simp only [Change.read] at h
    exact absurd h refuse_ne_ok

def relevant (ns : Members) : Members :=
  ns.filter fun m => m.1 = "type" ∨ m.1 = "payload"

/-- The object of these members says the change: tag and payload are there as they are written, in
either order, and whatever else there is has other names. -/
def SaidBy (c : Change) (ns : Members) : Prop :=
  ∃ ms, c.toDocument = .object ms ∧ (relevant ns).Perm ms

theorem nextRelevant_append {front : Members} (h : relevant front = []) (back : Members) :
    nextRelevant .closed (ofMembers (front ++ back)) = nextRelevant .closed (ofMembers back) := by
  induction front with
  | nil => rfl
  | cons m front ih =>
    obtain ⟨k, v⟩ := m
    rw [relevant, List.filter_eq_nil_iff, List.forall_mem_cons] at h
    have hk : k ≠ "type" ∧ k ≠ "payload" := by simpa using h.1
    have hrest : nextRelevant .closed (ofMembers (front ++ back)) =
        nextRelevant .closed (ofMembers back) := ih (List.filter_eq_nil_iff.mpr h.2)
    rw [List.cons_append, ofMembers, nextRelevant, if_neg hk.1, if_neg hk.2, pass_ofDocument]
    exact hrest

theorem nextRelevant_of_nil {ns : Members} (h : relevant ns = []) :
    nextRelevant .closed (ofMembers ns) = .ok none := by
  have hnext := nextRelevant_append h []
  rwa [List.append_nil] at hnext

theorem exists_nextRelevant (isTag : Bool) {ns ms : Members} {v : Document}
    (h : relevant ns = (if isTag then "type" else "payload", v) :: ms) :
    ∃ back, relevant back = ms ∧
      nextRelevant .closed (ofMembers ns) = .ok (some (isTag, .ofDocument v, ofMembers back)) := by
  obtain ⟨front, back, rfl, hfront, -, hback⟩ := List.filter_eq_cons_iff.mp h
  refine ⟨back, hback, (nextRelevant_append (List.filter_eq_nil_iff.mpr hfront) _).trans ?_⟩
  cases isTag <;> rfl

theorem finish_of_nil {ns : Members} (h : relevant ns = []) (c : Change) :
    finish c .closed (ofMembers ns) = .ok c :=
  bind_eq_ok_iff.mpr ⟨none, nextRelevant_of_nil h, rfl⟩

section Said
variable {ns : Members} {t v : Document} {tag : Tag} {c : Change}
  (htag : Tag.read (.ofDocument t) = .ok tag)
include htag

theorem readTagged_of_tag (hbare : bare tag = .ok c) (h : relevant ns = [("type", t)]) :
    readTagged .closed (ofMembers ns) = .ok c := by
  obtain ⟨back, hback, hnext⟩ := exists_nextRelevant true h
  rw [readTagged]
  refine bind_eq_ok_iff.mpr ⟨_, hnext, bind_eq_ok_iff.mpr ⟨tag, htag, ?_⟩⟩
  exact bind_eq_ok_iff.mpr ⟨none, nextRelevant_of_nil hback, hbare⟩

theorem readTagged_of_perm (hpayload : readPayload (.ofDocument v) tag = .ok c) (hv : v.Distinct)
    (h : (relevant ns).Perm [("type", t), ("payload", v)]) :
    readTagged .closed (ofMembers ns) = .ok c := by
  rcases List.perm_pair.mp h with h | h
  · obtain ⟨back, hback, hnext⟩ := exists_nextRelevant true h
    obtain ⟨rest, hrest, hnext'⟩ := exists_nextRelevant false hback
    rw [readTagged]
    refine bind_eq_ok_iff.mpr ⟨_, hnext, bind_eq_ok_iff.mpr ⟨tag, htag, ?_⟩⟩
    refine bind_eq_ok_iff.mpr ⟨_, hnext', bind_eq_ok_iff.mpr ⟨c, hpayload, ?_⟩⟩
    exact finish_of_nil hrest c
  · obtain ⟨back, hback, hnext⟩ := exists_nextRelevant false h
    obtain ⟨rest, hrest, hnext'⟩ := exists_nextRelevant true hback
    rw [readTagged]
    refine bind_eq_ok_iff.mpr ⟨_, hnext, bind_eq_ok_iff.mpr ⟨v, readDocument_ofDocument hv, ?_⟩⟩
    refine bind_eq_ok_iff.mpr ⟨_, hnext', bind_eq_ok_iff.mpr ⟨tag, htag, ?_⟩⟩
    exact bind_eq_ok_iff.mpr ⟨c, hpayload, finish_of_nil hrest c⟩

end Said

theorem read_of_saidBy {c : Change} (hc : c.Sound) {ns : Members} (h : c.SaidBy ns) :
    Change.read (.ofDocument (.object ns)) = .ok c := by
  obtain ⟨ms, hms, hperm⟩ := h
  cases c with
  | loadStarted =>
    cases hms
    exact readTagged_of_tag rfl rfl (List.perm_singleton.mp hperm)
  | loaded f =>
    cases hms
    have hpayload : readPayload (.ofDocument f.toDocument) .loaded = .ok (.loaded f) :=
      congrArg (Except.map Change.loaded) hc.ofDocument_toDocument
    exact readTagged_of_perm rfl hpayload hc.distinct_members hperm
  | submitted values =>
    cases hms
    have hpayload : readPayload (.ofDocument values) .submitted = .ok (.submitted values) :=
      congrArg (Except.map Change.submitted) (readDocument_ofDocument hc)
    exact readTagged_of_perm rfl hpayload hc hperm
  | reopened =>
    cases hms
    exact readTagged_of_tag rfl rfl (List.perm_singleton.mp hperm)

theorem exists_saidBy (c : Change) : ∃ ms, c.toDocument = .object ms ∧ c.SaidBy ms := by
  cases c <;> exact ⟨_, rfl, _, rfl, .refl _⟩

theorem readBack : ReadBack Change.read Change.toDocument := by
  refine ensures_sound.readBack fun c hc => ?_
  obtain ⟨ms, hms, hsaid⟩ := c.exists_saidBy
  rw [hms]
  exact read_of_saidBy hc hsaid

end Change

/-- What has once been read is read again from the document that it is written to: triggers, changes and
states of the pane, the bodies of answers, and server errors, with every document in them as it was. Of
a change it does not matter which of tag and payload comes first, nor what other members there are. -/
theorem exchanged_values_are_read_back :
    ReadBack Trigger.read Trigger.toDocument ∧
    ReadBack Change.read Change.toDocument ∧
    ReadBack Pane.read Pane.toDocument ∧
    (∀ name, ReadBack (Check.read name) Check.toDocument) ∧
    ReadBack Choices.read Choices.toDocument ∧
    ReadBack ServerError.read ServerError.toDocument ∧
    ∀ o c, Change.read o = .ok c →
      ∀ ns, c.SaidBy ns → Change.read (.ofDocument (.object ns)) = .ok c :=
  ⟨Trigger.readBack, Change.readBack, Pane.readBack, Check.readBack, Choices.readBack,
    ServerError.readBack, fun _ _ hread _ => Change.read_of_saidBy (Change.ensures_sound hread)⟩

/-- A submission of null, a form with a repeated name, a state with an empty form, and a trigger of a
kind of its own. -/
theorem nulls_and_empty_forms_are_read_back :
    let submission : Outline := .array [.string "submit", .null] .closed
    let load : Outline := .array [.string "load_complete", .object [(.ok "errors", .null),
      (.ok "b", .object [(.ok "k", .bool true), (.ok "a", .null), (.ok "k", .null)] .closed)] .closed] .closed
    let form : Form := { (default : Form) with extra := [("b", .object [("k", .null), ("a", .null)])] }
    let state : Outline := .object [(.ok "submitted", .bool true), (.ok "ui_spec", .object [] .closed),
      (.ok "more", .marred .other .numberOutOfRange), (.ok "is_loading", .bool false)] .closed
    let trigger : Outline := .array [.string "act", .string "fam", .string "preview"] .closed
    let said : Members := [("a", .array []), ("payload", .null), ("b", .null), ("type", .string "submit")]
    Change.read submission = .ok (.submitted .null) ∧ (Change.submitted .null).SaidBy said ∧
      Change.read (.ofDocument (.object said)) = .ok (.submitted .null) ∧
      Change.read load = .ok (.loaded form) ∧
      Change.read (.ofDocument (Change.loaded form).toDocument) = .ok (.loaded form) ∧
      Pane.read state = .ok ⟨false, some default, true⟩ ∧
      Pane.read (.ofDocument (Pane.toDocument ⟨false, some default, true⟩)) =
        .ok ⟨false, some default, true⟩ ∧
      Trigger.read trigger = .ok ⟨"act", "fam", .other "preview", []⟩ ∧
      Trigger.read (.ofDocument (Trigger.toDocument ⟨"act", "fam", .other "preview", []⟩)) =
        .ok ⟨"act", "fam", .other "preview", []⟩ := by
  intro submission load form state trigger said
  have hsubmission : Change.read submission = .ok (.submitted .null) := rfl
  have hload : Change.read load = .ok (.loaded form) := rfl
  have hstate : Pane.read state = .ok ⟨false, some default, true⟩ := rfl
  have htrigger : Trigger.read trigger = .ok ⟨"act", "fam", .other "preview", []⟩ := rfl
  have hsaid : (Change.submitted .null).SaidBy said := ⟨_, rfl, .swap _ _ _⟩
  obtain ⟨htriggers, hchanges, hstates, -, -, -, horder⟩ := exchanged_values_are_read_back
  exact ⟨hsubmission, hsaid, horder _ _ hsubmission _ hsaid, hload, hchanges hload, hstate,
    hstates hstate, htrigger, htriggers htrigger⟩

end ComponentForm
