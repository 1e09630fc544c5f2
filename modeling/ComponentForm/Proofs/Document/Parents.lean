import ComponentForm.Document.Path

/-! Paths put together and taken apart. A dot between two paths leads a reading along the one and then
along the other, and the last dot of a path parts the place of a value from the piece that leads on to
it. An empty text is no piece but the whole document, so that a dot has to have something on its
left. -/
namespace ComponentForm

namespace Path

variable {path front back : String}

/-- The path has a last dot, with something before it. -/
def HasParent (path : String) : Prop :=
  ∃ front back, path = front ++ "." ++ back ∧ front ≠ "" ∧ '.' ∉ back.toList

theorem toList_append_dot (p q : String) : (p ++ "." ++ q).toList = p.toList ++ '.' :: q.toList := by
  simp

theorem append_dot_ne_empty (p q : String) : p ++ "." ++ q ≠ "" := by
  intro h
  have hlist := toList_append_dot p q
  rw [h] at hlist
  exact List.append_ne_nil_of_right_ne_nil _ (List.cons_ne_nil _ _) hlist.symm

theorem segments_append_dot (p q : String) :
    segments (p ++ "." ++ q) = segments p ++ segments q := by
  rw [segments, Text.cut, toList_append_dot, Text.pieces_append_sep, List.map_append]
  rfl

theorem segments_of_not_mem (h : '.' ∉ path.toList) : segments path = [path] := by
  rw [segments, Text.cut, Text.pieces_of_not_mem h, List.map_singleton, String.ofList_toList]

theorem lastPiece_append {cs : List Char} (h : '.' ∉ cs) (front : List Char) :
    ((front ++ cs).reverse.takeWhile (· ≠ '.')).reverse =
      (front.reverse.takeWhile (· ≠ '.')).reverse ++ cs := by
  have hall : ∀ c ∈ cs.reverse, decide (c ≠ '.') = true := fun c hc =>
    decide_eq_true fun hdot => h (hdot ▸ List.mem_reverse.mp hc)
  rw [List.reverse_append, List.takeWhile_append_of_pos hall, List.reverse_append, List.reverse_reverse]

theorem splitParent_of_not_mem (h : '.' ∉ path.toList) : splitParent path = ("", path) := by
  have hleaf : (path.toList.reverse.takeWhile (· ≠ '.')).reverse = path.toList := lastPiece_append h []
  simp only [splitParent, hleaf, Nat.sub_self, Nat.zero_sub, List.take_zero, String.ofList_toList,
    String.ofList_nil]

theorem splitParent_append_dot (h : '.' ∉ back.toList) :
    splitParent (front ++ "." ++ back) = (front, back) := by
  have hleaf : ((front ++ "." ++ back).toList.reverse.takeWhile (· ≠ '.')).reverse = back.toList := by
    have hlast := lastPiece_append h (front.toList ++ ['.'])
    rw [List.append_assoc, List.singleton_append, ← toList_append_dot] at hlast
    rw [hlast, List.reverse_append]
    simp
  have hlength : (front.toList ++ '.' :: back.toList).length - back.toList.length - 1 =
      front.toList.length := by
    rw [List.length_append, List.length_cons]
    omega
  simp only [splitParent, hleaf]
  rw [toList_append_dot, hlength, List.take_left, String.ofList_toList, String.ofList_toList]

end Path

namespace Document

variable {path : String}

theorem resolve?_of_ne (h : path ≠ "") (d : Document) :
    d.resolve? path = d.follow? (Path.segments path) :=
  if_neg h

theorem resolve?_append_dot {p q : String} (hp : p ≠ "") (hq : q ≠ "") (d : Document) :
    d.resolve? (p ++ "." ++ q) = (d.resolve? p).bind fun e => e.resolve? q := by
  rw [resolve?_of_ne (Path.append_dot_ne_empty p q), Path.segments_append_dot, follow?_append,
    ← resolve?_of_ne hp]
  exact congrArg _ (funext fun e => (resolve?_of_ne hq e).symm)

theorem follow?_singleton (d : Document) (segment : String) : d.follow? [segment] = d.step? segment :=
  Option.bind_fun_some (d.step? segment)

/-- The last piece of a path is one step on from where the path before it leads. Here the piece may be
empty, where a path may not. -/
theorem resolve?_append_piece {p piece : String} (hp : p ≠ "") (hpiece : '.' ∉ piece.toList)
    (d : Document) : d.resolve? (p ++ "." ++ piece) = (d.resolve? p).bind fun e => e.step? piece := by
  rw [resolve?_of_ne (Path.append_dot_ne_empty p piece), Path.segments_append_dot,
    Path.segments_of_not_mem hpiece, follow?_append, ← resolve?_of_ne hp]
  simp only [follow?_singleton]

theorem resolve?_of_not_mem (hpath : path ≠ "") (h : '.' ∉ path.toList) (d : Document) :
    d.resolve? path = d.step? path := by
  rw [resolve?_of_ne hpath, Path.segments_of_not_mem h, follow?_singleton]

/-- Readings go along a path piece by piece: what two paths with a dot between them lead to is what the
second leads to from where the first one does, and a path leads one step on from its parent, which is
the document itself for a path of one piece. -/
theorem paths_are_read_in_parts (d : Document) :
    (∀ p q, p ≠ "" → q ≠ "" →
      d.resolve? (p ++ "." ++ q) = (d.resolve? p).bind fun e => e.resolve? q) ∧
    ∀ path, path ≠ "" → ('.' ∉ path.toList ∨ Path.HasParent path) →
      ∃ parent leaf, Path.splitParent path = (parent, leaf) ∧ '.' ∉ leaf.toList ∧
        path = (if parent = "" then leaf else parent ++ "." ++ leaf) ∧
        d.resolve? path = (d.resolve? parent).bind fun e => e.step? leaf := by
  refine ⟨fun p q hp hq => resolve?_append_dot hp hq d, fun path hpath h => ?_⟩
  rcases h with hdot | ⟨front, back, rfl, hfront, hback⟩
  · exact ⟨"", path, Path.splitParent_of_not_mem hdot, hdot, rfl, resolve?_of_not_mem hpath hdot d⟩
  · refine ⟨front, back, Path.splitParent_append_dot hback, hback, ?_, ?_⟩
    · rw [if_neg hfront]
    · exact resolve?_append_piece hfront hback d

/-- A piece between two dots is a member with an empty name, on the way and at the end. -/
theorem empty_pieces_are_read_in_parts :
    let d : Document := .object [("a", .array [.object [("", .object [("b", .bool true)])]])]
    "a.0" ≠ "" ∧ ".b" ≠ "" ∧ d.resolve? "a.0..b" = some (.bool true) ∧
      d.resolve? ("a.0" ++ "." ++ ".b") = ((d.resolve? "a.0").bind fun e => e.resolve? ".b") ∧
      Path.HasParent "a.0." ∧ d.resolve? "a.0." = some (.object [("b", .bool true)]) ∧
      ∃ parent leaf, Path.splitParent "a.0." = (parent, leaf) ∧ '.' ∉ leaf.toList ∧
        "a.0." = (if parent = "" then leaf else parent ++ "." ++ leaf) ∧
        d.resolve? "a.0." = (d.resolve? parent).bind fun e => e.step? leaf := by
  intro d
  have hparent : Path.HasParent "a.0." := ⟨"a.0", "", by decide, by decide, by decide⟩
  obtain ⟨hcompose, hsplit⟩ := paths_are_read_in_parts d
  exact ⟨by decide, by decide, rfl, hcompose "a.0" ".b" (by decide) (by decide), hparent, rfl,
    hsplit "a.0." (by decide) (Or.inr hparent)⟩

/-- With nothing before its last dot, a path goes by a member with an empty name, and not by the
document. -/
example :
    let d : Document := .object [("a", .null)]
    Path.splitParent ".a" = ("", "a") ∧ d.resolve? ".a" = none ∧
      ((d.resolve? "").bind fun e => e.step? "a") = some .null :=
  ⟨by decide, rfl, rfl⟩

end Document
end ComponentForm
