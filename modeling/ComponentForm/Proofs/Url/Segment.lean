import ComponentForm.Proofs.Url.Percent
import ComponentForm.Url.Parser

/-! Ids as segments of a path. The escapes leave nothing in a segment that would end it, and they are
undone to the id, so a path with the segment at its end tells the id. Not all ids come that far: one
dot or two are no segment, and tabs and line ends are left out before the rest is escaped. -/
namespace ComponentForm.Url

def withoutSkipped (id : String) : String :=
  String.ofList (id.toList.filter fun c => !isSkipped c)

/-- Every character of the id counts, and they are not one dot or two. -/
structure Plain (id : String) : Prop where
  counts : withoutSkipped id = id
  ne_dot : id ≠ "."
  ne_dots : id ≠ ".."

instance (id : String) : Decidable (Plain id) :=
  decidable_of_iff (withoutSkipped id = id ∧ id ≠ "." ∧ id ≠ "..")
    ⟨fun h => ⟨h.1, h.2.1, h.2.2⟩, fun h => ⟨h.counts, h.ne_dot, h.ne_dots⟩⟩

/-- The segments that an id follows. An empty last one is left out, and two slashes alone count as
one. -/
def front (u : Url) : List String :=
  if u.pathSegments = ["", ""] then []
  else if u.pathSegments.getLast? = some "" then u.pathSegments.dropLast
  else u.pathSegments

theorem front_eq (u : Url) :
    (if popEmpty u.pathSegments = [""] then [] else popEmpty u.pathSegments) = u.front := by
  rw [front, popEmpty]
  generalize u.pathSegments = ss
  by_cases hlast : ss.getLast? = some ""
  · obtain ⟨before, rfl⟩ := List.getLast?_eq_some_iff.mp hlast
    cases before with
    | nil => rfl
    | cons s before =>
      have hdrop : (s :: before ++ [""]).dropLast = s :: before := List.dropLast_concat
      rw [List.cons_append] at hlast hdrop ⊢
      simp [hlast, hdrop]
  · have hone : ss ≠ [""] := by
      rintro rfl
      exact hlast rfl
    have htwo : ss ≠ ["", ""] := by
      rintro rfl
      exact hlast rfl
    simp [hlast, hone, htwo]

/-- The text that stands for an id in a path of a special scheme. -/
def segmentOf (id : String) : String :=
  String.ofList (escape specialSegmentSet id.toList)

theorem decoded?_segmentOf (id : String) : decoded? (segmentOf id) = some id := by
  rw [segmentOf, decoded?_escape (by decide), String.ofList_toList]

/-- A text that a path of a special scheme has as a segment: it does not end the segment or the path,
and does not lead out of it. -/
structure IsSegment (s : String) : Prop where
  unbroken : ∀ c ∈ s.toList, isSlash c = false ∧ endsPath c = false
  not_dot : isSingleDot s.toList = false
  not_dots : isDoubleDot s.toList = false

theorem isSingleDot_segmentOf (id : String) : isSingleDot (segmentOf id).toList = true ↔ id = "." := by
  constructor
  · intro h
    have hall : ∀ s ∈ [".", "%2e", "%2E"], decoded? s = some "." := by decide +kernel
    rw [isSingleDot, String.ofList_toList, decide_eq_true_eq] at h
    exact Option.some.inj ((decoded?_segmentOf id).symm.trans (hall _ h))
  · rintro rfl
    decide +kernel

theorem isDoubleDot_segmentOf (id : String) :
    isDoubleDot (segmentOf id).toList = true ↔ id = ".." := by
  constructor
  · intro h
    have hall : ∀ s ∈ ["..", "%2e%2e", "%2e%2E", "%2E%2e", "%2E%2E", "%2e.", "%2E.", ".%2e", ".%2E"],
        decoded? s = some ".." := by decide +kernel
    rw [isDoubleDot, String.ofList_toList, decide_eq_true_eq] at h
    exact Option.some.inj ((decoded?_segmentOf id).symm.trans (hall _ h))
  · rintro rfl
    decide +kernel

theorem isSegment_segmentOf {id : String} (h : Plain id) : IsSegment (segmentOf id) where
  unbroken := by
    rw [segmentOf, String.toList_ofList]
    refine forall_mem_escape (fun c hc => ?_) (by decide) (by decide) id.toList
    simp only [specialSegmentSet, segmentSet, pathSet, Bool.decide_or, Bool.decide_eq_true,
      Bool.or_eq_false_iff, decide_eq_false_iff_not, List.mem_cons] at hc
    simp [isSlash, endsPath, hc]
  not_dot := Bool.eq_false_iff.mpr fun hdot => h.ne_dot ((isSingleDot_segmentOf id).mp hdot)
  not_dots := Bool.eq_false_iff.mpr fun hdots => h.ne_dots ((isDoubleDot_segmentOf id).mp hdots)

theorem path_eq {u : Url} (hpath : u.isOpaque = false) : u.path = .segments u.pathSegments := by
  rw [isOpaque] at hpath
  rw [pathSegments]
  split at hpath
  case h_1 => simp at hpath
  case h_2 ss h => rw [h]

theorem pushId_of_ne {u : Url} (hpath : u.isOpaque = false)
    (hscheme : u.scheme = "http" ∨ u.scheme = "https") {id : String} (hdot : id ≠ ".")
    (hdots : id ≠ "..") :
    (u.pushId id).path =
      .segments (pushSegment false true u.front (segmentOf (withoutSkipped id)).toList) := by
  have hspecial : isSpecial u.scheme = true := by
    obtain h | h := hscheme <;> simp [isSpecial, h]
  have hfile : u.scheme ≠ "file" := by
    obtain h | h := hscheme <;> simp [h]
  simp only [pushId, path_eq hpath, hdot, hdots, or_self, if_false, hspecial, if_true, hfile,
    decide_false, segmentOf, withoutSkipped, String.toList_ofList, ← front_eq]

theorem pushId_of_dots {u : Url} (hpath : u.isOpaque = false) {id : String}
    (hid : id = "." ∨ id = "..") : (u.pushId id).path = .segments (popEmpty u.pathSegments) := by
  simp only [pushId, path_eq hpath, hid, if_true]

theorem pushSegment_segmentOf {id : String} (h : Plain id) (ss : List String) :
    pushSegment false true ss (segmentOf id).toList = ss ++ [segmentOf id] := by
  have hsegment := isSegment_segmentOf h
  simp [pushSegment, hsegment.not_dot, hsegment.not_dots]

theorem pushSegment_dot (ss : List String) :
    pushSegment false true ss (segmentOf ".").toList = ss ++ [""] := by
  have hdots : isDoubleDot (segmentOf ".").toList = false := by decide +kernel
  simp [pushSegment, hdots, (isSingleDot_segmentOf ".").mpr rfl]

theorem pushSegment_dots (ss : List String) :
    pushSegment false true ss (segmentOf "..").toList = shorten ss ++ [""] := by
  simp [pushSegment, (isDoubleDot_segmentOf "..").mpr rfl]

theorem segmentsText_concat (ss : List String) (s : String) :
    segmentsText (ss ++ [s]) = segmentsText ss ++ ("/" ++ s) := by
  simp [segmentsText]

/-- After a host the text of the path ends with its last segment, which therefore can be told from the
text of the URL. -/
theorem text_concat_inj {u : Url} (hhost : u.host.isSome = true) {ss : List String} {s s' : String}
    (h : { u with path := .segments (ss ++ [s]) }.text =
      { u with path := .segments (ss ++ [s']) }.text) : s = s' := by
  have htext : ∀ s, { u with path := .segments (ss ++ [s]) }.text =
      u.scheme ++ ":" ++ u.authorityText ++ segmentsText ss ++ "/" ++ s ++
        (u.queryText ++ u.fragmentText) := by
    intro s
    have hnone : u.host.isNone = false := by simpa using hhost
    simp [text, pathText, segmentsText_concat, authorityText, credentialsText, queryText, fragmentText, hnone,
      String.append_assoc]
  rw [htext, htext, String.append_left_inj, String.append_right_inj] at h
  exact h

end ComponentForm.Url
