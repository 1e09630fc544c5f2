import ComponentForm.Proofs.Document.Parting
import ComponentForm.Proofs.Form.Elements

/-! Outcomes that do not meet. Checks keep to the messages, offers to the layout and updates to the
values, so only two outcomes of one kind can meet, and those that go to different places may be
absorbed in either order. -/
namespace ComponentForm

/-- The outcomes concern different parts of a form: another kind of thing, another field, or a route
that parts from the other. Health reports and fragments concern no part at all. -/
def Outcome.Independent : Outcome → Outcome → Prop
  | .checked a _ _, .checked b _ _ => a ≠ b
  | .offered a _, .offered b _ => a ≠ b
  | .updated a _, .updated b _ => Path.Part (Path.route a) (Path.route b)
  | _, _ => True

/-- A partial change that is left out where it is not possible, and whether it was. -/
def tried {σ : Type u} (f : σ → Option σ) (s : σ) : Bool × σ :=
  ((f s).isSome, (f s).getD s)

theorem Square.commute {σ : Type u} {f g : σ → Option σ} {s : σ} (h : Square f g s) :
    Commute Eq (tried f) (tried g) s := by
  cases h with
  | neither hf hg => constructor <;> simp [tried, hf, hg]
  | first hf hg hfg => constructor <;> simp [tried, hf, hg, hfg]
  | second hf hg hgf => constructor <;> simp [tried, hf, hg, hgf]
  | both hf hg hfg hgf => constructor <;> simp [tried, hf, hg, hfg, hgf]

namespace Form

theorem Alike.withValues (f : Form) {d e : Document} (h : d.Alike e) :
    Alike (f.withValues d) (f.withValues e) :=
  ⟨.refl _, .refl _, h, alike_messages_refl _, .refl _⟩

theorem Alike.withMessages (f : Form) {m m' : Option Document} (h : Option.Rel Document.Alike m m') :
    Alike { f with messages := m } { f with messages := m' } :=
  ⟨.refl _, .refl _, .refl _, h, .refl _⟩

section Messages

def withoutMessage (field : String) : Document → Document
  | .object ms => .object (Entries.remove ms field)
  | d => d

variable (f : Form) (field : String) (comment : Option String)

theorem messageMembers_withoutMessage :
    { f with messages := f.messages.map (withoutMessage field) }.messageMembers =
      Entries.remove f.messageMembers field := by
  rcases f with ⟨schema, layout, values, _ | d, extra⟩
  · rfl
  · cases d <;> rfl

theorem messageMembers_some (ms : Members) :
    { f with messages := some (.object ms) }.messageMembers = ms := rfl

theorem absorb_checked_ok :
    f.absorb (.checked field .ok comment) =
      (.ok (Entries.has f.messageMembers field),
        { f with messages := f.messages.map (withoutMessage field) }) := by
  rcases f with ⟨schema, layout, values, _ | d, extra⟩
  · rfl
  · cases d with
    | object ms =>
      cases h : Entries.has ms field with
      | true => simp [absorb, clearMessage, messageMembers, withoutMessage, h]
      | false =>
        simp [absorb, clearMessage, messageMembers, withoutMessage, h, Entries.remove_of_not_has h]
    | null => rfl
    | bool v => rfl
    | number n => rfl
    | string s => rfl
    | array xs => rfl

theorem absorb_checked_ko :
    f.absorb (.checked field .ko comment) =
      (.ok true, { f with messages := some (.object
        (f.messageMembers.put field (.string (comment.getD Outcome.defaultMessage)))) }) := rfl

end Messages

variable {a b : String}

theorem commute_checked (hne : a ≠ b) (v w : Verdict) (c e : Option String) (f : Form) :
    Commute Alike (absorb · (.checked a v c)) (absorb · (.checked b w e)) f := by
  cases v with
  | ok =>
    cases w with
    | ok =>
      refine ⟨?_, ?_, ?_⟩
      · simp only [absorb_checked_ok, messageMembers_withoutMessage,
          Entries.has_remove_of_ne _ (Ne.symm hne)]
      · simp only [absorb_checked_ok, messageMembers_withoutMessage, Entries.has_remove_of_ne _ hne]
      · have hcomm : withoutMessage b ∘ withoutMessage a = withoutMessage a ∘ withoutMessage b := by
          funext d
          cases d with
          | object ms => exact congrArg Document.object (Entries.remove_remove_of_ne ms hne)
          | _ => rfl
        simp only [absorb_checked_ok, Option.map_map, hcomm]
        exact .refl _
    | ko =>
      refine ⟨?_, rfl, ?_⟩
      · simp only [absorb_checked_ok, absorb_checked_ko, messageMembers_some,
          Entries.has_put_of_ne _ _ (Ne.symm hne)]
      · simp only [absorb_checked_ok, absorb_checked_ko, messageMembers_withoutMessage,
          Option.map_some, withoutMessage, Entries.remove_put_of_ne _ _ (Ne.symm hne)]
        exact .refl _
  | ko =>
    cases w with
    | ok =>
      refine ⟨rfl, ?_, ?_⟩
      · simp only [absorb_checked_ok, absorb_checked_ko, messageMembers_some,
          Entries.has_put_of_ne _ _ hne]
      · simp only [absorb_checked_ok, absorb_checked_ko, messageMembers_withoutMessage,
          Option.map_some, withoutMessage, Entries.remove_put_of_ne _ _ hne]
        exact .refl _
    | ko => exact ⟨rfl, rfl, .withMessages f (.some (.of_perm (Entries.put_put_perm _ _ _ hne)))⟩

theorem absorb_offered (f : Form) (field : String) (choices : List Choice) :
    f.absorb (.offered field choices) =
      (.ok (tried (Document.editElement? field
          (·.put "titleMap" (.array (choices.map Choice.entry)))) f.layout).1,
        { f with layout := (tried (Document.editElement? field
          (·.put "titleMap" (.array (choices.map Choice.entry)))) f.layout).2 }) := by
  simp only [absorb, putInElement?, tried]
  cases Document.editElement? field (·.put "titleMap" (.array (choices.map Choice.entry))) f.layout with
  | none => rfl
  | some layout => rfl

theorem commute_offered (hne : a ≠ b) (choices choices' : List Choice) (f : Form) :
    Commute Alike (absorb · (.offered a choices)) (absorb · (.offered b choices')) f :=
  (Document.square_editElement hne (by decide) (by decide) f.layout).commute.lift
    (fun layout => { f with layout }) .ok .ok (absorb_offered f _ _) (absorb_offered f _ _)
    (fun layout => absorb_offered { f with layout } _ _)
    (fun layout => absorb_offered { f with layout } _ _) fun h => h ▸ .refl _

theorem absorb_updated (f : Form) (path : String) (values : Members) :
    f.absorb (.updated path values) = ((f.values.mergeAt path values).1.map fun _ => true,
      f.withValues (f.values.mergeAt path values).2) := rfl

theorem commute_updated (hpart : Path.Part (Path.route a) (Path.route b)) (values values' : Members)
    (f : Form) : Commute Alike (absorb · (.updated a values)) (absorb · (.updated b values')) f :=
  (Document.commute_mergeAt hpart f.values).lift f.withValues (Except.map fun _ => true)
    (Except.map fun _ => true) (absorb_updated f _ _) (absorb_updated f _ _)
    (fun d => absorb_updated (f.withValues d) _ _) (fun d => absorb_updated (f.withValues d) _ _)
    (.withValues f)

section Kinds

variable (f : Form) (v : Verdict) (c : Option String) (choices : List Choice) (values : Members)

theorem commute_checked_offered :
    Commute Eq (absorb · (.checked a v c)) (absorb · (.offered b choices)) f := by
  cases v with
  | ok => constructor <;> simp only [absorb_checked_ok, absorb_offered, messageMembers]
  | ko => constructor <;> simp only [absorb_checked_ko, absorb_offered, messageMembers]

theorem commute_checked_updated :
    Commute Eq (absorb · (.checked a v c)) (absorb · (.updated b values)) f := by
  cases v with
  | ok => constructor <;> simp only [absorb_checked_ok, absorb_updated, withValues, messageMembers]
  | ko => constructor <;> simp only [absorb_checked_ko, absorb_updated, withValues, messageMembers]

theorem commute_offered_updated :
    Commute Eq (absorb · (.offered a choices)) (absorb · (.updated b values)) f := by
  constructor <;> simp only [absorb_offered, absorb_updated, withValues]

end Kinds

/-- Independent outcomes may be absorbed in either order: each comes to the same, be it an error, and
the forms in the end differ at most in the order of members. -/
theorem independent_outcomes_commute {o o' : Outcome} (h : o.Independent o') (f : Form) :
    Commute Alike (absorb · o) (absorb · o') f := by
  cases o with
  | checked a v c =>
    cases o' with
    | checked b w e => exact commute_checked h v w c e f
    | offered b choices => exact (commute_checked_offered f v c choices).alike_of_eq .refl
    | updated b values => exact (commute_checked_updated f v c values).alike_of_eq .refl
    | health w e => exact ⟨rfl, rfl, .refl _⟩
    | fragment kind body => exact ⟨rfl, rfl, .refl _⟩
  | offered a choices =>
    cases o' with
    | checked b w e => exact (commute_checked_offered f w e choices).symm.alike_of_eq .refl
    | offered b choices' => exact commute_offered h choices choices' f
    | updated b values => exact (commute_offered_updated f choices values).alike_of_eq .refl
    | health w e => exact ⟨rfl, rfl, .refl _⟩
    | fragment kind body => exact ⟨rfl, rfl, .refl _⟩
  | updated a values =>
    cases o' with
    | checked b w e => exact (commute_checked_updated f w e values).symm.alike_of_eq .refl
    | offered b choices => exact (commute_offered_updated f choices values).symm.alike_of_eq .refl
    | updated b values' => exact commute_updated h values values' f
    | health w e => exact ⟨rfl, rfl, .refl _⟩
    | fragment kind body => exact ⟨rfl, rfl, .refl _⟩
  | health v c => exact ⟨rfl, rfl, .refl _⟩
  | fragment kind body => exact ⟨rfl, rfl, .refl _⟩

/-- Two updates that part below a null open it up for each other. -/
theorem updates_below_null_commute :
    (Outcome.updated "a.b" [("x", .bool true)]).Independent (.updated "a..c" [("x", .null)]) ∧
    Commute Alike (absorb · (.updated "a.b" [("x", .bool true)]))
      (absorb · (.updated "a..c" [("x", .null)])) default :=
  have hpart : (Outcome.updated "a.b" [("x", .bool true)]).Independent
      (.updated "a..c" [("x", .null)]) :=
    ⟨["a"], "b", "c", [], [], by decide, by decide, by decide, by decide⟩
  ⟨hpart, independent_outcomes_commute hpart default⟩

end Form
end ComponentForm
