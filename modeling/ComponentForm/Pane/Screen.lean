import ComponentForm.Form.Lines
import ComponentForm.Pane.State

/-! What the pane shows. Loading wins over everything, then the absence of a form, then the submitted
values. -/
namespace ComponentForm

inductive Screen
  | loading
  | empty
  | submitted (form : Form)
  | form (form : Form)

namespace Screen

def ofPane (p : Pane) : Screen :=
  if p.loading then .loading
  else match p.form with
    | none => .empty
    | some f => if p.submitted then .submitted f else .form f

theorem ofPane_eq_empty_iff (p : Pane) :
    ofPane p = .empty ↔ p.loading = false ∧ p.form = none := by
  obtain ⟨loading, form, submitted⟩ := p
  cases loading <;> cases form <;> cases submitted <;> simp [ofPane]

def result (f : Form) : String :=
  f.values.indented 0

def lines : Screen → List String
  | .loading => ["Loading..."]
  | .empty => ["# No component selected", "Click on a component to see its form"]
  | .submitted f => [result f, "[Back to form]"]
  | .form f => f.lines

end Screen

/-- Each line with the line end after it. -/
def linesText (lines : List String) : String :=
  lines.foldl (fun text line => text ++ line ++ "\n") ""

end ComponentForm
