import ComponentForm.Form.Layout

/-! Changes of two elements. The element of a field is found by its key alone, and a change that leaves
keys and items as they are is in no way of the search for another field, not even where the one
element stands under the other. -/
namespace ComponentForm

/-- Two partial changes of a state do not get in each other's way: each is possible after the other
exactly when it is possible at once, and where both are possible they lead to one state. -/
inductive Square {σ : Type u} (f g : σ → Option σ) (s : σ) : Prop
  | neither : f s = none → g s = none → Square f g s
  | first {x : σ} : f s = some x → g s = none → g x = none → Square f g s
  | second {y : σ} : f s = none → g s = some y → f y = none → Square f g s
  | both {x y z : σ} : f s = some x → g s = some y → g x = some z → f y = some z → Square f g s

namespace Square

variable {σ τ : Type u} {f g : σ → Option σ} {F G : τ → Option τ} {s : σ}

theorem symm (h : Square f g s) : Square g f s := by
  cases h with
  | neither hf hg => exact .neither hg hf
  | first hf hg hfg => exact .second hg hf hfg
  | second hf hg hgf => exact .first hg hf hgf
  | both hf hg hfg hgf => exact .both hg hf hgf hfg

theorem lift (h : Square f g s) (whole : σ → τ) (hF : ∀ s, F (whole s) = (f s).map whole)
    (hG : ∀ s, G (whole s) = (g s).map whole) : Square F G (whole s) := by
  cases h with
  | neither hf hg => exact .neither (by simp [hF, hf]) (by simp [hG, hg])
  | first hf hg hfg => exact .first (by simp [hF, hf]; rfl) (by simp [hG, hg]) (by simp [hG, hfg])
  | second hf hg hgf => exact .second (by simp [hF, hf]) (by simp [hG, hg]; rfl) (by simp [hF, hgf])
  | both hf hg hfg hgf =>
    exact .both (by simp [hF, hf]; rfl) (by simp [hG, hg]; rfl) (by simp [hG, hfg]; rfl)
      (by simp [hF, hgf])

end Square

namespace Document

theorem designates_unique {key : Document} {a b : String} (ha : key.designates a = true)
    (hb : key.designates b = true) : a = b := by
  cases key with
  | string key =>
    simp only [designates, decide_eq_true_eq] at ha hb
    exact ha.symm.trans hb
  | array pieces =>
    simp only [designates] at ha hb
    cases hp : pieces.mapM asString? with
    | none => simp [hp] at ha
    | some pieces =>
      simp only [hp, decide_eq_true_eq] at ha hb
      exact ha.symm.trans hb
  | null => simp [designates] at ha
  | bool v => simp [designates] at ha
  | number n => simp [designates] at ha
  | object ms => simp [designates] at ha

theorem isElement_unique {ms : Members} {a b : String} (ha : isElement a ms = true)
    (hb : isElement b ms = true) : a = b := by
  unfold isElement at ha hb
  cases hkey : Entries.value? ms "key" with
  | none => simp [hkey] at ha
  | some key =>
    rw [hkey] at ha hb
    exact designates_unique ha hb

theorem isElement_congr {ms ns : Members} (h : Entries.value? ns "key" = Entries.value? ms "key")
    (field : String) : isElement field ns = isElement field ms := by
  rw [isElement, isElement, h]

theorem value?_editUnder? {field k : String} {edit : Members → Members} (hitems : k ≠ "items")
    {ms ns : List (String × Document)} (h : editUnder? field edit ms = some ns) :
    Entries.value? ns k = Entries.value? ms k := by
  induction ms generalizing ns with
  | nil => simp [editUnder?] at h
  | cons e rest ih =>
    obtain ⟨name, v⟩ := e
    rw [editUnder?] at h
    by_cases hname : name = "items"
    · subst hname
      simp only [if_true, Option.map_eq_some_iff] at h
      obtain ⟨w, -, rfl⟩ := h
      simp only [Entries.value?_cons, if_neg (Ne.symm hitems)]
    · simp only [if_neg hname, Option.map_eq_some_iff] at h
      obtain ⟨left, hleft, rfl⟩ := h
      simp only [Entries.value?_cons, ih hleft]

theorem editUnder?_put {field k : String} (edit : Members → Members) (v : Document)
    (hitems : k ≠ "items") (ms : Members) :
    editUnder? field edit (ms.put k v) = (editUnder? field edit ms).map fun ns => Entries.put ns k v := by
  induction ms with
  | nil => simp [Entries.put, editUnder?, hitems]
  | cons e rest ih =>
    obtain ⟨name, w⟩ := e
    by_cases hname : name = k
    · subst hname
      simp [Entries.put, editUnder?, hitems, Function.comp_def]
    · by_cases hn : name = "items"
      · simp [Entries.put, editUnder?, hn, Ne.symm hitems, Function.comp_def]
      · simp [Entries.put, editUnder?, hn, hname, ih, Function.comp_def]

theorem isElement_editUnder? {field : String} {edit : Members → Members}
    {ms ns : List (String × Document)} (h : editUnder? field edit ms = some ns) (other : String) :
    isElement other ns = isElement other ms :=
  isElement_congr (value?_editUnder? (by decide) h) other

theorem editElement?_of_not_isElement {field : String} {edit : Members → Members} {ms : Members}
    (h : isElement field ms = false) :
    editElement? field edit (.object ms) = (editUnder? field edit ms).map .object := by
  simp [editElement?, h]

theorem editAmong?_cons_of_some {field : String} {edit : Members → Members} {x y : Document}
    (h : editElement? field edit x = some y) (xs : List Document) :
    editAmong? field edit (x :: xs) = some (y :: xs) := by
  simp [editAmong?, h]

theorem editAmong?_cons_of_none {field : String} {edit : Members → Members} {x : Document}
    (h : editElement? field edit x = none) (xs : List Document) :
    editAmong? field edit (x :: xs) = (editAmong? field edit xs).map (x :: ·) := by
  simp [editAmong?, h]

section Edits
variable {a b k : String} {v w : Document}

theorem square_element {ms : Members} (hne : a ≠ b) (hkey : k ≠ "key") (hitems : k ≠ "items")
    (ha : isElement a ms = true) :
    Square (editElement? a (·.put k v)) (editElement? b (·.put k w)) (.object ms) := by
  have hb : isElement b ms = false := Bool.eq_false_iff.mpr fun hb => hne (isElement_unique ha hb)
  have hb' : isElement b (ms.put k v) = false :=
    (isElement_congr (Entries.value?_put_of_ne ms v hkey) b).trans hb
  have hfirst : editElement? a (·.put k v) (.object ms) = some (.object (ms.put k v)) := by
    simp [editElement?, ha]
  cases hunder : editUnder? b (·.put k w) ms with
  | none =>
    refine .first hfirst ?_ ?_
    · rw [editElement?_of_not_isElement hb, hunder]; rfl
    · rw [editElement?_of_not_isElement hb', editUnder?_put _ v hitems, hunder]; rfl
  | some ns =>
    refine .both (y := .object ns) (z := .object (Entries.put ns k v)) hfirst ?_ ?_ ?_
    · rw [editElement?_of_not_isElement hb, hunder]; rfl
    · rw [editElement?_of_not_isElement hb', editUnder?_put _ v hitems, hunder]; rfl
    · simp [editElement?, (isElement_editUnder? hunder a).trans ha]

theorem square_no_element {ms : Members} {f g : Members → Members} (ha : isElement a ms = false)
    (hb : isElement b ms = false) (h : Square (editUnder? a f) (editUnder? b g) ms) :
    Square (editElement? a f) (editElement? b g) (.object ms) := by
  cases h with
  | neither hf hg =>
    exact .neither (by rw [editElement?_of_not_isElement ha, hf]; rfl)
      (by rw [editElement?_of_not_isElement hb, hg]; rfl)
  | first hf hg hfg =>
    have hb' := (isElement_editUnder? hf b).trans hb
    exact .first (by rw [editElement?_of_not_isElement ha, hf]; rfl)
      (by rw [editElement?_of_not_isElement hb, hg]; rfl)
      (by rw [editElement?_of_not_isElement hb', hfg]; rfl)
  | second hf hg hgf =>
    have ha' := (isElement_editUnder? hg a).trans ha
    exact .second (by rw [editElement?_of_not_isElement ha, hf]; rfl)
      (by rw [editElement?_of_not_isElement hb, hg]; rfl)
      (by rw [editElement?_of_not_isElement ha', hgf]; rfl)
  | both hf hg hfg hgf =>
    have ha' := (isElement_editUnder? hg a).trans ha
    have hb' := (isElement_editUnder? hf b).trans hb
    exact .both (by rw [editElement?_of_not_isElement ha, hf]; rfl)
      (by rw [editElement?_of_not_isElement hb, hg]; rfl)
      (by rw [editElement?_of_not_isElement hb', hfg]; rfl)
      (by rw [editElement?_of_not_isElement ha', hgf]; rfl)

theorem square_cons {x : Document} {xs : List Document} {f g : Members → Members}
    (hx : Square (editElement? a f) (editElement? b g) x)
    (hxs : Square (editAmong? a f) (editAmong? b g) xs) :
    Square (editAmong? a f) (editAmong? b g) (x :: xs) := by
  cases hx with
  | neither hf hg => exact hxs.lift (x :: ·) (editAmong?_cons_of_none hf) (editAmong?_cons_of_none hg)
  | first hf hg hfg =>
    cases hrest : editAmong? b g xs with
    | none =>
      exact .first (editAmong?_cons_of_some hf xs) (by rw [editAmong?_cons_of_none hg, hrest]; rfl)
        (by rw [editAmong?_cons_of_none hfg, hrest]; rfl)
    | some ys =>
      exact .both (editAmong?_cons_of_some hf xs) (by rw [editAmong?_cons_of_none hg, hrest]; rfl)
        (by rw [editAmong?_cons_of_none hfg, hrest]; rfl) (editAmong?_cons_of_some hf ys)
  | second hf hg hgf =>
    cases hrest : editAmong? a f xs with
    | none =>
      exact .second (by rw [editAmong?_cons_of_none hf, hrest]; rfl) (editAmong?_cons_of_some hg xs)
        (by rw [editAmong?_cons_of_none hgf, hrest]; rfl)
    | some ys =>
      exact .both (by rw [editAmong?_cons_of_none hf, hrest]; rfl) (editAmong?_cons_of_some hg xs)
        (editAmong?_cons_of_some hg ys) (by rw [editAmong?_cons_of_none hgf, hrest]; rfl)
  | both hf hg hfg hgf =>
    exact .both (editAmong?_cons_of_some hf xs) (editAmong?_cons_of_some hg xs)
      (editAmong?_cons_of_some hfg xs) (editAmong?_cons_of_some hgf xs)

mutual
/-- Changes of the elements of two fields are possible in either order, and lead to one layout. -/
theorem square_editElement (hne : a ≠ b) (hkey : k ≠ "key") (hitems : k ≠ "items") (d : Document) :
    Square (editElement? a (·.put k v)) (editElement? b (·.put k w)) d := by
  cases d with
  | array xs =>
    exact (square_editAmong hne hkey hitems xs).lift Document.array (fun _ => by rw [editElement?])
      fun _ => by rw [editElement?]
  | object ms =>
    cases ha : isElement a ms with
    | true => exact square_element hne hkey hitems ha
    | false =>
      cases hb : isElement b ms with
      | true => exact (square_element (Ne.symm hne) hkey hitems hb).symm
      | false => exact square_no_element ha hb (square_editUnder hne hkey hitems ms)
  | null => exact .neither rfl rfl
  | bool v => exact .neither rfl rfl
  | number n => exact .neither rfl rfl
  | string s => exact .neither rfl rfl

theorem square_editAmong (hne : a ≠ b) (hkey : k ≠ "key") (hitems : k ≠ "items")
    (xs : List Document) :
    Square (editAmong? a (·.put k v)) (editAmong? b (·.put k w)) xs := by
  cases xs with
  | nil => exact .neither rfl rfl
  | cons x xs =>
    exact square_cons (square_editElement hne hkey hitems x) (square_editAmong hne hkey hitems xs)

theorem square_editUnder (hne : a ≠ b) (hkey : k ≠ "key") (hitems : k ≠ "items")
    (ms : List (String × Document)) :
    Square (editUnder? a (·.put k v)) (editUnder? b (·.put k w)) ms := by
  cases ms with
  | nil => exact .neither rfl rfl
  | cons e rest =>
    obtain ⟨name, d⟩ := e
    by_cases hname : name = "items"
    · exact (square_editElement hne hkey hitems d).lift (fun d => (name, d) :: rest)
        (fun d => by rw [editUnder?, if_pos hname]) fun d => by rw [editUnder?, if_pos hname]
    · exact (square_editUnder hne hkey hitems rest).lift ((name, d) :: ·)
        (fun ms => by rw [editUnder?, if_neg hname]) fun ms => by rw [editUnder?, if_neg hname]
end

end Edits
end Document
end ComponentForm
