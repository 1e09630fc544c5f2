import ComponentForm.Proofs.Document.Target

/-! Reading what was merged. A merge leaves out the empty pieces of its path and a reading does not: to a
reading an empty piece is a member with an empty name. On a path without empty pieces the two go the
same way, so that the one finds what the other has written. -/
namespace ComponentForm

/-- The path without its empty pieces. -/
def Path.plain (path : String) : String :=
  Text.join "." (Path.route path)

namespace Path

theorem not_mem_of_mem_route {path segment : String} (h : segment ∈ route path) :
    '.' ∉ segment.toList :=
  Text.not_mem_of_mem_cut (List.mem_of_mem_filter h)

theorem empty_not_mem_route (path : String) : "" ∉ route path := by
  simp [route]

theorem segments_plain {path : String} (h : route path ≠ []) : segments (plain path) = route path :=
  Text.cut_join h fun _ => not_mem_of_mem_route

theorem plain_eq_self {path : String} (h : path = "" ∨ "" ∉ segments path) : plain path = path := by
  rcases h with rfl | h
  · rfl
  · have hroute : route path = segments path := List.filter_eq_self.mpr fun s hs =>
      decide_eq_true fun hempty => h (hempty ▸ hs)
    rw [plain, hroute]
    exact Text.join_cut '.' path

end Path

namespace Document

theorem resolve?_plain (d : Document) (path : String) :
    d.resolve? (Path.plain path) = d.follow? (Path.route path) := by
  by_cases h : Path.route path = []
  · rw [Path.plain, h]
    rfl
  · have hne : Path.plain path ≠ "" := by
      intro hempty
      have hsegments := Path.segments_plain h
      rw [hempty] at hsegments
      exact Path.empty_not_mem_route path (hsegments ▸ List.mem_singleton_self "")
    rw [resolve?, if_neg hne, Path.segments_plain h]

theorem takes_of_step? {d child : Document} {segment : String} (h : d.step? segment = some child) :
    d.Takes segment := by
  cases d with
  | object ms => exact .object ms segment
  | array xs =>
    obtain ⟨i, hi, hitem⟩ := Option.bind_eq_some_iff.mp h
    exact .array hi hitem
  | null => cases h
  | bool v => cases h
  | number n => cases h
  | string v => cases h

theorem walk_ok_of_follow? {d : Document} {route : List String} {ms : Members}
    (h : d.follow? route = some (.object ms)) (values : Members) :
    (walk values d route).1 = .ok () := by
  induction route generalizing d with
  | nil =>
    cases h
    rfl
  | cons segment rest ih =>
    obtain ⟨child, hstep, hrest⟩ := Option.bind_eq_some_iff.mp h
    rw [walk_of_takes (takes_of_step? hstep), childAt, hstep]
    exact ih hrest

theorem follow?_walk_of_object {d : Document} {route : List String} {ms : Members}
    (h : d.follow? route = some (.object ms)) (values : Members) :
    (walk values d route).2.follow? route = some (.object (Entries.putAll ms values)) := by
  obtain ⟨ms', hopens, htarget⟩ := exists_opens_of_walk_ok (walk_ok_of_follow? h values)
  rw [h] at hopens
  cases hopens
  exact htarget

end Document

namespace Form

/-- Of a path without empty pieces, readings and merges speak alike: what was merged is read there, and
an object that is read there is the one that is merged into. On other paths it is so of the path
without its empty pieces. -/
theorem merges_are_read_back {additions : Members} (hnames : (Entries.names additions).Nodup) (f : Form)
    (path : String) :
    ((f.mergeValues path additions).1 = .ok () →
      ∃ ns, (f.mergeValues path additions).2.value? (Path.plain path) = some (.object ns) ∧
        ∀ k v, (k, v) ∈ additions → Entries.value? ns k = some v) ∧
    (∀ ms, f.value? (Path.plain path) = some (.object ms) →
      (f.mergeValues path additions).1 = .ok () ∧
        (f.mergeValues path additions).2.value? (Path.plain path) =
          some (.object (Entries.putAll ms additions)) ∧
        Entries.Merged ms additions (Entries.putAll ms additions)) ∧
    (path = "" ∨ "" ∉ Path.segments path → Path.plain path = path) := by
  simp only [value?, Document.resolve?_plain]
  refine ⟨fun hok => ?_, fun ms hms => ?_, Path.plain_eq_self⟩
  · obtain ⟨ms, -, htarget⟩ := Document.exists_opens_of_walk_ok (walk_ok_of_mergeValues hok)
    exact ⟨_, htarget, (Entries.merged_putAll hnames ms).added⟩
  · have hwalk := Document.walk_ok_of_follow? hms additions
    refine ⟨?_, Document.follow?_walk_of_object hms additions, Entries.merged_putAll hnames ms⟩
    simp only [mergeValues, Document.mergeAt, ← Path.route.eq_1, hwalk]
    rfl

/-- A merge on a path with an empty piece is read back without it. -/
theorem merge_past_empty_piece_is_read_back :
    let f : Form := (default : Form).withValues (.object [("a", .array [.null])])
    let additions : Members := [("y", .null), ("x", .bool true)]
    (Entries.names additions).Nodup ∧ (f.mergeValues ".a.0." additions).1 = .ok () ∧
      Path.plain ".a.0." = "a.0" ∧
      ∃ ns, (f.mergeValues ".a.0." additions).2.value? "a.0" = some (.object ns) ∧
        Entries.value? ns "x" = some (.bool true) := by
  intro f additions
  have hnames : (Entries.names additions).Nodup := by decide
  have hok : (f.mergeValues ".a.0." additions).1 = .ok () := rfl
  have hplain : Path.plain ".a.0." = "a.0" := by decide
  obtain ⟨ns, hns, hadded⟩ := (merges_are_read_back hnames f ".a.0.").1 hok
  rw [hplain] at hns
  exact ⟨hnames, hok, hplain, ns, hns, hadded "x" (.bool true) (by simp [additions])⟩

/-- A reading finds an object behind an empty name, and a merge on the same path passes it by. -/
theorem merge_passes_object_of_empty_name :
    let f : Form := (default : Form).withValues
      (.object [("a", .object [("", .object [("b", .object [])])])])
    let additions : Members := [("x", .bool true)]
    (Entries.names additions).Nodup ∧ f.value? "a..b" = some (.object []) ∧
      (f.mergeValues "a..b" additions).1 = .ok () ∧
      (f.mergeValues "a..b" additions).2.value? "a..b" ≠
        some (.object (Entries.putAll [] additions)) ∧
      ¬ ∃ ns, (f.mergeValues "a..b" additions).2.value? "a..b" = some (.object ns) ∧
        ∀ k v, (k, v) ∈ additions → Entries.value? ns k = some v := by
  intro f additions
  have hafter : (f.mergeValues "a..b" additions).2.value? "a..b" = some (.object []) := rfl
  refine ⟨by decide, rfl, rfl, ?_, ?_⟩
  · rw [hafter]
    simp [additions, Entries.put]
  · rintro ⟨ns, hns, hadded⟩
    rw [hafter] at hns
    cases hns
    have hx := hadded "x" (.bool true) List.mem_cons_self
    cases hx

end Form
end ComponentForm
