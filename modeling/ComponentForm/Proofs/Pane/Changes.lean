import ComponentForm.Pane.Screen
import Mathlib.Data.List.Induction
import Mathlib.Data.List.TakeWhile

/-! What a pane remembers of its changes. A form that comes in wipes out what was before it. After
that the pane keeps three things: whether a load has begun since, the values submitted last before
it began, and whether the form was reopened after that submission. -/
namespace ComponentForm
namespace Change

def submission? : Change → Option Document
  | .submitted values => some values
  | _ => none

def startsLoad : Change → Bool
  | .loadStarted => true
  | _ => false

def beforeLoad (cs : List Change) : List Change :=
  cs.takeWhile fun c => !c.startsLoad

def lastSubmission? (cs : List Change) : Option Document :=
  (cs.filterMap submission?).getLast?

/-- The values are the last ones submitted before the next load begins, and nothing has reopened the
form since, not even during the load. -/
def Stands (cs : List Change) (values : Document) : Prop :=
  ∃ front back, cs = front ++ .submitted values :: back ∧ .loadStarted ∉ front ∧
    (∀ c ∈ beforeLoad back, c.submission? = none) ∧ .reopened ∉ back

section Concat
variable {cs : List Change} {c : Change}

theorem submission?_of_startsLoad (h : c.startsLoad = true) : c.submission? = none := by
  cases c with
  | submitted values => simp [startsLoad] at h
  | _ => rfl

theorem forall_not_startsLoad (h : .loadStarted ∉ cs) : ∀ d ∈ cs, (!d.startsLoad) = true := by
  intro d hd
  cases d with
  | loadStarted => exact absurd hd h
  | loaded f => rfl
  | submitted values => rfl
  | reopened => rfl

theorem beforeLoad_of_not_mem (h : .loadStarted ∉ cs) : beforeLoad cs = cs :=
  List.takeWhile_eq_self_iff.mpr (forall_not_startsLoad h)

theorem beforeLoad_concat_of_not_mem (h : .loadStarted ∉ cs) :
    beforeLoad (cs ++ [c]) = if c.startsLoad then cs else cs ++ [c] := by
  rw [beforeLoad, List.takeWhile_append_of_pos (forall_not_startsLoad h)]
  cases hc : c.startsLoad <;> simp [hc]

theorem beforeLoad_concat_of_mem (h : .loadStarted ∈ cs) : beforeLoad (cs ++ [c]) = beforeLoad cs := by
  obtain ⟨front, back, rfl⟩ := List.append_of_mem h
  simp only [beforeLoad, List.append_assoc, List.takeWhile_append, List.cons_append,
    List.takeWhile_cons, startsLoad]
  simp

theorem lastSubmission?_beforeLoad_concat (hc : c.submission? = none ∨ .loadStarted ∈ cs) :
    lastSubmission? (beforeLoad (cs ++ [c])) = lastSubmission? (beforeLoad cs) := by
  by_cases h : .loadStarted ∈ cs
  · rw [beforeLoad_concat_of_mem h]
  · have hnone : c.submission? = none := hc.resolve_right h
    rw [beforeLoad_concat_of_not_mem h, beforeLoad_of_not_mem h]
    cases c.startsLoad <;> simp [lastSubmission?, hnone]

theorem lastSubmission?_beforeLoad_submitted (h : .loadStarted ∉ cs) (values : Document) :
    lastSubmission? (beforeLoad (cs ++ [.submitted values])) = some values := by
  rw [beforeLoad_concat_of_not_mem h]
  simp [startsLoad, lastSubmission?, submission?]

theorem forall_beforeLoad_concat :
    (∀ d ∈ beforeLoad (cs ++ [c]), d.submission? = none) ↔
      (∀ d ∈ beforeLoad cs, d.submission? = none) ∧ (c.submission? = none ∨ .loadStarted ∈ cs) := by
  by_cases h : .loadStarted ∈ cs
  · simp [beforeLoad_concat_of_mem h, h]
  · rw [beforeLoad_concat_of_not_mem h, beforeLoad_of_not_mem h]
    cases hc : c.startsLoad with
    | true => simp [submission?_of_startsLoad hc]
    | false => simp only [Bool.false_eq_true, if_false, List.forall_mem_append,
        List.forall_mem_singleton, h, or_false]

theorem not_stands_nil {values : Document} : ¬ Stands [] values := by
  rintro ⟨front, back, h, -⟩
  simp at h

/-- A submission stands if it has just been made, or if it stood before and the last change lets it
stand. -/
theorem stands_concat {values : Document} :
    Stands (cs ++ [c]) values ↔
      (c = .submitted values ∧ .loadStarted ∉ cs) ∨
      (Stands cs values ∧ c ≠ .reopened ∧ (c.submission? = none ∨ .loadStarted ∈ cs)) := by
  constructor
  · rintro ⟨front, back, h, hfront, hlast, hreopened⟩
    rcases back.eq_nil_or_concat with rfl | ⟨middle, d, rfl⟩
    · obtain ⟨rfl, hc⟩ := List.append_inj' h rfl
      exact Or.inl ⟨by simpa using hc, hfront⟩
    · rw [List.concat_eq_append, ← List.cons_append, ← List.append_assoc] at h
      obtain ⟨rfl, hc⟩ := List.append_inj' h rfl
      obtain rfl : c = d := by simpa using hc
      rw [List.concat_eq_append, forall_beforeLoad_concat] at hlast
      simp only [List.concat_eq_append, List.mem_append, List.mem_singleton, not_or] at hreopened
      refine Or.inr ⟨⟨front, middle, rfl, hfront, hlast.1, hreopened.1⟩, Ne.symm hreopened.2, ?_⟩
      exact hlast.2.imp_right fun hmem => List.mem_append_right _ (List.mem_cons_of_mem _ hmem)
  · rintro (⟨rfl, hcs⟩ | ⟨⟨front, back, rfl, hfront, hlast, hreopened⟩, hc, hsubmission⟩)
    · exact ⟨cs, [], rfl, hcs, by simp [beforeLoad], by simp⟩
    · refine ⟨front, back ++ [c], by simp, hfront, forall_beforeLoad_concat.mpr ⟨hlast, ?_⟩, ?_⟩
      · exact hsubmission.imp_right fun hmem => by simpa [hfront] using hmem
      · simp [hreopened, Ne.symm hc]

end Concat
end Change

namespace Pane

open Change

/-- The invariant of changes that bring no form to a pane without one. -/
structure Unfilled (changes : List Change) (p : Pane) : Prop where
  form : p.form = none
  submitted : p.submitted = false
  loading : p.loading = true ↔ .loadStarted ∈ changes

/-- The form that the last load brought, with the values submitted last. -/
def shownForm (f : Form) (later : List Change) : Form :=
  ((lastSubmission? (beforeLoad later)).map f.withValues).getD f

/-- The invariant of the changes after a form has come in. -/
structure Tells (f : Form) (later : List Change) (p : Pane) : Prop where
  form : p.form = some (shownForm f later)
  submitted : p.submitted = true ↔ ∃ values, Stands later values
  loading : p.loading = true ↔ .loadStarted ∈ later

theorem Unfilled.step {changes : List Change} {p : Pane} (h : Unfilled changes p) {c : Change}
    (hc : ∀ f, c ≠ .loaded f) : Unfilled (changes ++ [c]) (p.after c) := by
  cases c with
  | loadStarted => exact ⟨h.form, h.submitted, by simp⟩
  | loaded f => exact absurd rfl (hc f)
  | submitted values =>
    rw [after_submitted, if_neg (by simp [h.form])]
    exact ⟨h.form, h.submitted, by simp [h.loading]⟩
  | reopened => exact ⟨h.form, rfl, by simp [h.loading]⟩

theorem Tells.step {f : Form} {later : List Change} {p : Pane} (h : Tells f later p) {c : Change}
    (hc : ∀ g, c ≠ .loaded g) : Tells f (later ++ [c]) (p.after c) := by
  cases c with
  | loadStarted =>
    refine ⟨?_, ?_, by simp⟩
    · rw [shownForm, lastSubmission?_beforeLoad_concat (Or.inl rfl)]
      exact h.form
    · simp [stands_concat, submission?, h.submitted]
  | loaded g => exact absurd rfl (hc g)
  | submitted values =>
    by_cases hmem : .loadStarted ∈ later
    · have hloading : p.loading = true := h.loading.mpr hmem
      rw [after_submitted, if_neg (by simp [hloading])]
      refine ⟨?_, ?_, by simp [h.loading]⟩
      · rw [shownForm, lastSubmission?_beforeLoad_concat (Or.inr hmem)]
        exact h.form
      · simp [stands_concat, hmem, h.submitted]
    · have hloading : p.loading = false := by
        rw [← Bool.not_eq_true, h.loading]
        exact hmem
      rw [after_submitted, if_pos (by simp [h.form, hloading])]
      refine ⟨?_, ?_, by simp [h.loading]⟩
      · rw [shownForm, lastSubmission?_beforeLoad_submitted hmem]
        simp only [h.form, shownForm]
        cases lastSubmission? (beforeLoad later) <;> rfl
      · simp [stands_concat, hmem]
  | reopened =>
    refine ⟨?_, ?_, by simp [h.loading]⟩
    · rw [shownForm, lastSubmission?_beforeLoad_concat (Or.inl rfl)]
      exact h.form
    · simp [stands_concat]

theorem Unfilled.run {changes : List Change} (hchanges : ∀ f, .loaded f ∉ changes) :
    Unfilled changes (changes.foldl after empty) := by
  induction changes using List.reverseRecOn with
  | nil => exact ⟨rfl, rfl, by simp [empty]⟩
  | append_singleton changes c ih =>
    simp only [List.mem_append, List.mem_singleton, not_or] at hchanges
    rw [List.foldl_append, List.foldl_cons, List.foldl_nil]
    exact (ih fun f => (hchanges f).1).step fun f => Ne.symm (hchanges f).2

theorem Tells.run {f : Form} {later : List Change} (hlater : ∀ g, .loaded g ∉ later) (p : Pane) :
    Tells f later (later.foldl after (p.after (.loaded f))) := by
  induction later using List.reverseRecOn with
  | nil => exact ⟨rfl, by simp [not_stands_nil], by simp⟩
  | append_singleton later c ih =>
    simp only [List.mem_append, List.mem_singleton, not_or] at hlater
    rw [List.foldl_append, List.foldl_cons, List.foldl_nil]
    exact (ih fun g => (hlater g).1).step fun g => Ne.symm (hlater g).2

theorem exists_last_loaded {changes : List Change} (h : ¬ ∀ f, .loaded f ∉ changes) :
    ∃ earlier f later, changes = earlier ++ .loaded f :: later ∧ ∀ g, .loaded g ∉ later := by
  induction changes using List.reverseRecOn with
  | nil => exact absurd (fun f => List.not_mem_nil) h
  | append_singleton changes c ih =>
    by_cases hc : ∃ f, c = .loaded f
    · obtain ⟨f, rfl⟩ := hc
      exact ⟨changes, f, [], rfl, fun g => List.not_mem_nil⟩
    · have hchanges : ¬ ∀ f, .loaded f ∉ changes := by
        intro hnone
        refine h fun f hf => ?_
        rcases List.mem_append.mp hf with hf | hf
        · exact hnone f hf
        · exact hc ⟨f, (List.mem_singleton.mp hf).symm⟩
      obtain ⟨earlier, f, later, rfl, hlater⟩ := ih hchanges
      refine ⟨earlier, f, later ++ [c], by simp, fun g hg => ?_⟩
      rcases List.mem_append.mp hg with hg | hg
      · exact hlater g hg
      · exact hc ⟨g, (List.mem_singleton.mp hg).symm⟩

theorem shownForm_of_stands {f : Form} {later : List Change} {values : Document}
    (h : Stands later values) : shownForm f later = f.withValues values := by
  obtain ⟨front, back, rfl, hfront, hback, -⟩ := h
  have hsplit : beforeLoad (front ++ .submitted values :: back) =
      front ++ .submitted values :: beforeLoad back := by
    rw [beforeLoad, List.takeWhile_append_of_pos (forall_not_startsLoad hfront)]
    rfl
  have hnone : (beforeLoad back).filterMap submission? = [] :=
    List.filterMap_eq_nil_iff.mpr hback
  simp [shownForm, lastSubmission?, hsplit, hnone, submission?]

theorem Unfilled.screen {changes : List Change} {p : Pane} (h : Unfilled changes p) :
    (.loadStarted ∈ changes → Screen.ofPane p = .loading) ∧
    (.loadStarted ∉ changes → Screen.ofPane p = .empty) := by
  rw [← h.loading]
  refine ⟨fun hloading => by simp [Screen.ofPane, hloading], fun hloading => ?_⟩
  rw [Screen.ofPane_eq_empty_iff]
  exact ⟨Bool.eq_false_iff.mpr hloading, h.form⟩

theorem Tells.screen {f : Form} {later : List Change} {p : Pane} (h : Tells f later p) :
    (.loadStarted ∈ later → Screen.ofPane p = .loading) ∧
    (.loadStarted ∉ later →
      (∀ values, Stands later values → ∃ g, Screen.ofPane p = .submitted g ∧
        Screen.result g = values.indented 0) ∧
      ((∀ values, ¬ Stands later values) → Screen.ofPane p = .form (shownForm f later))) := by
  rw [← h.loading]
  refine ⟨fun hloading => by simp [Screen.ofPane, hloading], fun hloading => ⟨?_, ?_⟩⟩
  · intro values hstands
    have hsubmitted : p.submitted = true := h.submitted.mpr ⟨values, hstands⟩
    refine ⟨f.withValues values, ?_, rfl⟩
    simp [Screen.ofPane, hloading, h.form, hsubmitted, shownForm_of_stands hstands]
  · intro hnone
    have hsubmitted : ¬ p.submitted = true := by simpa [h.submitted] using hnone
    simp [Screen.ofPane, hloading, h.form, hsubmitted]

/-- After any changes the pane is told by them. Without a form that came in it has none, and loads if
a load has begun. Otherwise it has the last form that came in, with the values submitted last before
the next load began; it counts as submitted as long as that submission stands; and it loads if a load
has begun since. The screen follows suit. -/
theorem pane_tells_changes (changes : List Change) :
    let p := changes.foldl after empty
    ((∀ f, .loaded f ∉ changes) ∧ Unfilled changes p ∧
      (.loadStarted ∈ changes → Screen.ofPane p = .loading) ∧
      (.loadStarted ∉ changes → Screen.ofPane p = .empty)) ∨
    ∃ earlier f later, changes = earlier ++ .loaded f :: later ∧ (∀ g, .loaded g ∉ later) ∧
      Tells f later p ∧
      (.loadStarted ∈ later → Screen.ofPane p = .loading) ∧
      (.loadStarted ∉ later →
        (∀ values, Stands later values → ∃ g, Screen.ofPane p = .submitted g ∧
          Screen.result g = values.indented 0) ∧
        ((∀ values, ¬ Stands later values) → Screen.ofPane p = .form (shownForm f later))) := by
  intro p
  by_cases hloaded : ∀ f, .loaded f ∉ changes
  · have hunfilled : Unfilled changes p := Unfilled.run hloaded
    exact Or.inl ⟨hloaded, hunfilled, hunfilled.screen⟩
  · obtain ⟨earlier, f, later, hchanges, hlater⟩ := exists_last_loaded hloaded
    have htells : Tells f later p := by
      have hp : p = later.foldl after ((earlier.foldl after empty).after (.loaded f)) := by
        simp only [p, hchanges, List.foldl_append, List.foldl_cons]
      rw [hp]
      exact Tells.run hlater _
    exact Or.inr ⟨earlier, f, later, hchanges, hlater, htells, htells.screen⟩

/-- A submission during a load is lost, and reopening the form there still counts. -/
example : [Change.loaded default, .submitted (.bool true), .loadStarted, .submitted .null,
      .reopened].foldl after empty =
    ⟨true, some ((default : Form).withValues (.bool true)), false⟩ := rfl

end Pane
end ComponentForm
