import ComponentForm.Proofs.Form.RoundTrip
import ComponentForm.Proofs.Outline.ReadBack

/-! Forms, triggers and the bodies of answers, read back from the documents that they are written to.
Triggers write their kind as a name, which is read back as the kind of that name, so a kind that has
been read is never one of the known ones under another cover. Forms are read back if they are sound,
and every form that has been read is. -/
namespace ComponentForm

open Outline

namespace Trigger

/-- The kind is the one that its name stands for. -/
def Kind.Named (k : Kind) : Prop := ofName k.name = k

theorem Kind.ensures_named : Ensures Named Kind.read :=
  (Ensures.trivial readString).map fun s _ => congrArg ofName (name_ofName s)

/-- A kind of one's own that has a known name comes back as the known one. -/
example : Kind.read (.ofDocument (Kind.other "update").toDocument) = .ok .update := rfl

theorem Kind.ofName_name {k : Kind} (h : k.isOther = false) : ofName k.name = k := by
  cases k with
  | other s => cases h
  | _ => rfl

theorem Kind.isOther_ofName {s : String} :
    (ofName s).isOther = true ↔ ∀ k : Kind, k.isOther = false → k.name ≠ s := by
  constructor
  · rintro h k hk rfl
    rw [ofName_name hk, hk] at h
    cases h
  · intro h
    rw [← Bool.not_eq_false]
    exact fun hknown => h (ofName s) hknown (name_ofName s)

/-- Kinds of one's own go by names that no known kind has. -/
theorem Kind.named_iff {k : Kind} :
    k.Named ↔ (k.isOther = true → ∀ k' : Kind, k'.isOther = false → k'.name ≠ k.name) := by
  rw [← isOther_ofName]
  constructor
  · intro h hother
    rw [Named] at h
    rwa [h]
  · intro h
    cases k with
    | other s =>
      have hother : (ofName s).isOther = true := h rfl
      have hname : (ofName s).name = s := name_ofName s
      rw [Named, name]
      cases hs : ofName s with
      | other s' => rw [hs] at hname; exact congrArg other hname
      | _ => rw [hs] at hother; cases hother
    | _ => rfl

theorem Parameter.read_toDocument (p : Parameter) : Parameter.read (.ofDocument p.toDocument) = .ok p :=
  rfl

theorem ensures_named : Ensures (fun t : Trigger => t.kind.Named) Trigger.read := by
  have hfields : ∀ f ∈ fields, f.Keeps fun draft : Draft => ∀ k ∈ draft.kind, k.Named := by
    simp only [fields, List.forall_mem_cons, List.not_mem_nil, false_implies, implies_true, and_true]
    refine ⟨keeps_of_slot (.trivial _) ?_, keeps_of_slot (.trivial _) ?_,
      keeps_of_slot Kind.ensures_named ?_, keeps_of_slot (.trivial _) ?_⟩
    · exact fun _ _ h _ => h
    · exact fun _ _ h _ => h
    · rintro draft k - hk _ ⟨⟩
      exact hk
    · exact fun _ _ h _ => h
  have hblank : ∀ k ∈ ({} : Draft).kind, k.Named := by rintro k ⟨⟩
  refine (Ensures.record hfields hblank _).bind fun draft t hdraft h => ?_
  obtain ⟨action, -, h⟩ := bind_eq_ok_iff.mp h
  obtain ⟨family, -, h⟩ := bind_eq_ok_iff.mp h
  obtain ⟨kind, hkind, h⟩ := bind_eq_ok_iff.mp h
  cases h
  exact hdraft kind (require_eq_ok_iff.mp hkind)

theorem read_toDocument {t : Trigger} (h : t.kind.Named) : Trigger.read (.ofDocument t.toDocument) = .ok t := by
  have hkind : Kind.read (.ofDocument t.kind.toDocument) = .ok t.kind := congrArg Except.ok h
  have hparameters : readList Parameter.read
      (.ofDocument (.array (t.parameters.map Parameter.toDocument))) = .ok t.parameters :=
    readItems_ofItems_map Parameter.read_toDocument t.parameters
  have hdraft : readRecord "struct TriggerDefinition" fields {} (.ofDocument t.toDocument) =
      .ok ⟨some t.action, some t.family, some t.kind, some t.parameters⟩ := by
    simp only [toDocument, Outline.ofDocument, ofMembers, readRecord]
    refine Eq.trans (readFields_cons_of_slot rfl rfl (readString_string t.action) _) ?_
    refine Eq.trans (readFields_cons_of_slot rfl rfl (readString_string t.family) _) ?_
    refine Eq.trans (readFields_cons_of_slot rfl rfl hkind _) ?_
    refine Eq.trans (readFields_cons_of_slot rfl rfl hparameters _) ?_
    rfl
  rw [Trigger.read, hdraft]
  rfl

theorem readBack : ReadBack Trigger.read Trigger.toDocument :=
  ensures_named.readBack fun _ => read_toDocument

end Trigger

theorem Check.readBack (name : String) : ReadBack (Check.read name) Check.toDocument := by
  refine (Ensures.trivial _).readBack fun c _ => ?_
  obtain ⟨verdict, comment⟩ := c
  cases verdict <;> cases comment <;> rfl

theorem Choice.read_toDocument (c : Choice) : Choice.read (.ofDocument c.toDocument) = .ok c := by
  obtain ⟨id, label⟩ := c
  cases label <;> rfl

theorem Choices.readBack : ReadBack Choices.read Choices.toDocument := by
  refine (Ensures.trivial _).readBack fun c _ => ?_
  have hitems : readList Choice.read (.ofDocument (.array (c.items.map Choice.toDocument))) = .ok c.items :=
    readItems_ofItems_map Choice.read_toDocument c.items
  have hdraft : readRecord "struct ValuesResponse" fields none (.ofDocument c.toDocument) =
      .ok (some c.items) := by
    simp only [toDocument, Outline.ofDocument, ofMembers, readRecord]
    exact Eq.trans (readFields_cons_of_slot rfl rfl hitems _) rfl
  rw [Choices.read, hdraft]
  rfl

namespace Form

theorem ensures_messages :
    Ensures (fun messages => (∀ d ∈ messages, d.Distinct) ∧ messages ≠ some .null)
      (readOption readDocument) := by
  intro o messages h
  refine ⟨ensures_readDocument.option h, ?_⟩
  rcases cases_of_readOption h with ⟨-, rfl⟩ | ⟨d, hd, rfl⟩
  · rintro ⟨⟩
  · rintro ⟨⟩
    rw [null_of_readDocument hd] at h
    cases h

theorem blank_sound : (ofDraft {}).Sound where
  distinct := ⟨trivial, trivial, trivial, by rintro d ⟨⟩, .nil⟩
  messages := by rintro ⟨⟩
  extra := by rintro name - ⟨⟩

theorem ensures_sound : Ensures Sound Form.read := by
  have hfields : ∀ f ∈ fields, f.Keeps fun draft : Draft => (ofDraft draft).Sound := by
    simp only [fields, List.forall_mem_cons, List.not_mem_nil, false_implies, implies_true, and_true]
    refine ⟨keeps_of_slot ensures_readDocument ?_, keeps_of_slot ensures_readDocument ?_,
      keeps_of_slot ensures_readDocument ?_, keeps_of_slot ensures_messages ?_⟩
    · exact fun draft d h hd => ⟨{ h.distinct with schema := hd }, h.messages, h.extra⟩
    · exact fun draft d h hd => ⟨{ h.distinct with layout := hd }, h.messages, h.extra⟩
    · exact fun draft d h hd => ⟨{ h.distinct with values := hd }, h.messages, h.extra⟩
    · exact fun draft messages h hm => ⟨{ h.distinct with messages := hm.1 }, hm.2, h.extra⟩
  have hextra : ∀ (draft : Draft) k, (ofDraft draft).Sound → (∀ f ∈ fields, f.name ≠ k) →
      Ensures (fun draft => (ofDraft draft).Sound) (keepExtra draft k) := by
    intro draft k h hk
    have hk' : k ∉ memberNames := by simpa [fields, memberNames, eq_comm] using hk
    refine ensures_readDocument.map fun v hv => ⟨{ h.distinct with extra := ?_ }, h.messages, ?_⟩
    · exact h.distinct.extra.put hv
    · intro name hname hmem
      obtain ⟨e, he, rfl⟩ := List.mem_map.mp hmem
      rcases Entries.mem_put he with rfl | he
      · exact hk' hname
      · exact h.extra e.1 hname (List.mem_map_of_mem he)
  intro o f h
  cases o with
  | object ms closing =>
    obtain ⟨draft, hdraft, rfl⟩ := map_eq_ok_iff.mp h
    exact keeps_readFields (p := fun draft => (ofDraft draft).Sound) hfields hextra blank_sound hdraft
  | _ =>
    simp only [Form.read] at h
    exact absurd h refuse_ne_ok

end Form
end ComponentForm
