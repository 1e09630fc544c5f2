import ComponentForm.Proofs.Document.Step

/-! What a merge writes. A walk that succeeds comes to an object, or makes one of a null or of nothing,
and adds its values there. Every route that leaves the walk's route leads where it led before, and the
containers on the route keep their names and their items in order. -/
namespace ComponentForm
namespace Document

/-- The members of the object that a walk meets, or makes where nothing or null is. -/
inductive Opens : Option Document → Members → Prop
  | missing : Opens none []
  | null : Opens (some .null) []
  | object (ms : Members) : Opens (some (.object ms)) ms

/-- The second route takes the steps of the first from the value up to a container and then another
step: another member, another item, or no item. Names that count the same item are one step. -/
inductive Leaves : Document → List String → List String → Prop
  | here {d : Document} {s t : String} (route p : List String) :
    ¬ d.SameStep s t → Leaves d (s :: route) (t :: p)
  | later {d : Document} {s t : String} {route p : List String} :
    d.SameStep s t → Leaves (d.childAt s) route p → Leaves d (s :: route) (t :: p)

/-- A container on a route, and what it has become after a child was put under the segment: a name that
is there stays where it is, a missing one goes last, and an array keeps its length. -/
inductive Extends (segment : String) : Option Document → Document → Prop
  | object {found : Option Document} {ms ns : Members} : Opens found ms →
    Entries.names ns =
      (if Entries.has ms segment then Entries.names ms else Entries.names ms ++ [segment]) →
    Extends segment found (.object ns)
  | array {xs ys : List Document} : ys.length = xs.length →
    Extends segment (some (.array xs)) (.array ys)

theorem opens_of_getD_null {found : Option Document} (h : found.getD .null = .null) :
    Opens found [] := by
  cases found with
  | none => exact .missing
  | some d =>
    rw [Option.getD_some] at h
    rw [h]
    exact .null

theorem opens_of_getD_object {found : Option Document} {ms : Members}
    (h : found.getD .null = .object ms) : Opens found ms := by
  cases found with
  | none => cases h
  | some d =>
    rw [Option.getD_some] at h
    rw [h]
    exact .object ms

theorem extends_withChild {found : Option Document} {segment : String}
    (h : (found.getD .null).Takes segment) (c : Document) :
    Extends segment found ((found.getD .null).withChild segment c) := by
  generalize hd : found.getD .null = d at h
  cases h with
  | null =>
    exact .object (opens_of_getD_null hd) (by simp [Entries.names, Entries.has])
  | object ms =>
    exact .object (opens_of_getD_object hd) (Entries.names_put ms segment c)
  | @array xs _ i item hi hitem =>
    cases found with
    | none => cases hd
    | some d =>
      rw [Option.getD_some] at hd
      subst hd
      simp only [withChild, hi]
      exact .array List.length_set

section Walk
variable {values : Members} {d : Document}

theorem follow?_walk_append {front rest : List String}
    (h : (walk values d (front ++ rest)).1 = .ok ()) :
    (walk values ((d.follow? front).getD .null) rest).1 = .ok () ∧
      (walk values d (front ++ rest)).2.follow? front =
        some (walk values ((d.follow? front).getD .null) rest).2 := by
  induction front generalizing d with
  | nil => exact ⟨h, rfl⟩
  | cons segment front ih =>
    rw [List.cons_append] at h ⊢
    have htakes := takes_of_walk_ok h
    obtain ⟨hok, hfollow⟩ := ih (walk_childAt_ok h)
    rw [walk_of_takes htakes, getD_follow?_cons]
    refine ⟨hok, ?_⟩
    rw [follow?, step?_withChild_self htakes, Option.bind_some, hfollow]

theorem exists_opens_of_walk_ok {route : List String} (h : (walk values d route).1 = .ok ()) :
    ∃ ms, Opens (d.follow? route) ms ∧
      (walk values d route).2.follow? route = some (.object (Entries.putAll ms values)) := by
  rw [← List.append_nil route] at h
  obtain ⟨hok, hfollow⟩ := follow?_walk_append h
  rw [List.append_nil] at hfollow
  rw [hfollow]
  generalize hd : (d.follow? route).getD .null = target at hok
  cases target with
  | null => exact ⟨[], opens_of_getD_null hd, rfl⟩
  | object ms => exact ⟨ms, opens_of_getD_object hd, rfl⟩
  | array xs => cases hok
  | bool v => cases hok
  | number n => cases hok
  | string v => cases hok

/-- Whoever leaves the route of a walk sees nothing of it. -/
theorem follow?_walk_of_leaves {route p : List String} (h : (walk values d route).1 = .ok ())
    (hp : d.Leaves route p) : (walk values d route).2.follow? p = d.follow? p := by
  induction hp with
  | here route p hne =>
    have htakes := takes_of_walk_ok h
    rw [walk_of_takes htakes, follow?, step?_withChild_of_not_sameStep htakes _ hne, follow?]
  | @later d s t route p hsame hp ih =>
    have htakes := takes_of_walk_ok h
    have hrest := ih (walk_childAt_ok h)
    rw [walk_of_takes htakes, follow?, ← step?_eq_of_sameStep (sameStep_withChild htakes _ hsame),
      step?_withChild_self htakes, Option.bind_some, hrest, follow?, ← step?_eq_of_sameStep hsame,
      childAt]
    cases d.step? s with
    | some child => rfl
    | none =>
      cases hp <;> rfl

theorem extends_of_walk_ok {front rest : List String} {segment : String}
    (h : (walk values d (front ++ segment :: rest)).1 = .ok ()) :
    ∃ container, (walk values d (front ++ segment :: rest)).2.follow? front = some container ∧
      Extends segment (d.follow? front) container := by
  obtain ⟨hok, hfollow⟩ := follow?_walk_append h
  have htakes := takes_of_walk_ok hok
  refine ⟨_, hfollow, ?_⟩
  rw [walk_of_takes htakes]
  exact extends_withChild htakes _

end Walk
end Document

namespace Form

theorem walk_ok_of_mergeValues {f : Form} {path : String} {additions : Members}
    (h : (f.mergeValues path additions).1 = .ok ()) :
    (Document.walk additions f.values (Path.route path)).1 = .ok () := by
  simp only [mergeValues, Document.mergeAt, ← Path.route.eq_1] at h
  cases hw : (Document.walk additions f.values (Path.route path)).1 with
  | ok u => rfl
  | error e => rw [hw] at h; cases h

/-- A merge that succeeds changes nothing but the values of the form. Where its route leads to, it adds
to the object that was there, to an empty one if there was null or nothing. What is not on the way
there is as it was, and the containers on the way keep their order. -/
theorem merge_writes_target_only {f : Form} {path : String} {additions : Members}
    (hnames : (Entries.names additions).Nodup) (h : (f.mergeValues path additions).1 = .ok ()) :
    ∃ d, (f.mergeValues path additions).2 = f.withValues d ∧
      (∃ ms, Document.Opens (f.values.follow? (Path.route path)) ms ∧
        d.follow? (Path.route path) = some (.object (Entries.putAll ms additions)) ∧
        Entries.Merged ms additions (Entries.putAll ms additions)) ∧
      (∀ p, f.values.Leaves (Path.route path) p → d.follow? p = f.values.follow? p) ∧
      ∀ front segment rest, Path.route path = front ++ segment :: rest →
        ∃ container, d.follow? front = some container ∧
          Document.Extends segment (f.values.follow? front) container := by
  have hwalk := walk_ok_of_mergeValues h
  obtain ⟨ms, hopens, htarget⟩ := Document.exists_opens_of_walk_ok hwalk
  refine ⟨(Document.walk additions f.values (Path.route path)).2, rfl, ?_, fun p hp => ?_, ?_⟩
  · exact ⟨ms, hopens, htarget, Entries.merged_putAll hnames ms⟩
  · exact Document.follow?_walk_of_leaves hwalk hp
  · intro front segment rest hroute
    rw [hroute] at hwalk ⊢
    exact Document.extends_of_walk_ok hwalk

/-- The other members of an item are left alone, under whatever name the item goes. -/
theorem merge_into_item_leaves_its_members :
    let item : Document := .object [("b", .bool true)]
    let f : Form := (default : Form).withValues (.object [("t", .array [.null, item])])
    let additions : Members := [("x", .null)]
    (Entries.names additions).Nodup ∧ (f.mergeValues ".t.+1..a" additions).1 = .ok () ∧
      ∃ d, (f.mergeValues ".t.+1..a" additions).2 = f.withValues d ∧
        (∃ ms, d.follow? ["t", "+1", "a"] = some (.object (Entries.putAll ms additions))) ∧
        d.follow? ["t", "01", "b"] = some (.bool true) := by
  intro item f additions
  have hnames : (Entries.names additions).Nodup := by decide
  have hok : (f.mergeValues ".t.+1..a" additions).1 = .ok () := rfl
  have hroute : Path.route ".t.+1..a" = ["t", "+1", "a"] := by decide
  have hmember : ¬ item.SameStep "a" "b" := show "a" ≠ "b" by decide
  have hleaves : f.values.Leaves ["t", "+1", "a"] ["t", "01", "b"] :=
    .later rfl (.later rfl (.here [] [] hmember))
  obtain ⟨d, hd, ⟨ms, -, htarget, -⟩, hleave, -⟩ := merge_writes_target_only hnames hok
  rw [hroute] at htarget hleave
  exact ⟨hnames, hok, d, hd, ⟨ms, htarget⟩, hleave _ hleaves⟩

end Form
end ComponentForm
