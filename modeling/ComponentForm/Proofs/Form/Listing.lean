import ComponentForm.Form.Lines
import ComponentForm.Proofs.Document.Leaves
import ComponentForm.Proofs.Document.Reading
import Mathlib.Data.List.Nodup

/-! The values that a form lists, and their paths. The path of a leaf is made on the way to it, one name
after the other; a null whose path is empty is taken for a document without values and is not listed.
As long as names are neither empty nor cut by dots, only the root has an empty path, and a path leads a
reading back to the leaf. -/
namespace ComponentForm

namespace Path

/-- A name that is found again when the path that it is a piece of is cut. -/
def Piece (k : String) : Prop := k ≠ "" ∧ '.' ∉ k.toList

theorem route_join {ks : List String} (h : ∀ k ∈ ks, Piece k) : route (Text.join "." ks) = ks := by
  cases ks with
  | nil => rfl
  | cons k rest =>
    have hcut : segments (Text.join "." (k :: rest)) = k :: rest :=
      Text.cut_join (List.cons_ne_nil k rest) fun s hs => (h s hs).2
    rw [route, hcut, List.filter_eq_self]
    exact fun s hs => decide_eq_true (h s hs).1

theorem foldl_member {path : String} (h : path ≠ "") (ks : List String) :
    ks.foldl member path = Text.join "." (path :: ks) := by
  induction ks generalizing path with
  | nil => rfl
  | cons k ks ih =>
    have hpath : path ++ "." ++ k ≠ "" := by simp
    rw [List.foldl_cons, member, if_neg h, ih hpath]
    cases ks with
    | nil => rfl
    | cons k' ks => simp only [Text.join, String.append_assoc]

theorem foldl_member_of_pieces {ks : List String} (h : ∀ k ∈ ks, Piece k) :
    ks.foldl member "" = Text.join "." ks := by
  cases ks with
  | nil => rfl
  | cons k ks =>
    have hk : k ≠ "" := (h k List.mem_cons_self).1
    rw [List.foldl_cons, member, if_pos rfl, foldl_member hk]

theorem member_eq_empty_iff {path k : String} : member path k = "" ↔ path = "" ∧ k = "" := by
  rw [member]
  split
  · next h => simp [h]
  · next h => simp [h]

theorem foldl_member_eq_empty_iff {path : String} {ks : List String} :
    ks.foldl member path = "" ↔ path = "" ∧ ∀ k ∈ ks, k = "" := by
  induction ks generalizing path with
  | nil => simp
  | cons k ks ih => rw [List.foldl_cons, ih, member_eq_empty_iff, List.forall_mem_cons, and_assoc]

end Path

namespace Document

/-- A null with an empty path is taken for a root without values. -/
def isPathlessNull (l : String × Document) : Bool := l.2.isNull && l.1 = ""

/-- A null to which only empty names lead, or no name at all. -/
def isUnnamedNull (l : List String × Document) : Bool := l.2.isNull && l.1.all (· = "")

theorem isPathlessNull_map (l : List String × Document) :
    isPathlessNull (l.1.foldl Path.member "", l.2) = isUnnamedNull l := by
  have hempty : l.1.foldl Path.member "" = "" ↔ ∀ k ∈ l.1, k = "" :=
    Path.foldl_member_eq_empty_iff.trans (and_iff_right rfl)
  rw [isPathlessNull, isUnnamedNull, Bool.eq_iff_iff]
  simp [hempty]

def withPath (path : String) : List String × Document → String × Document :=
  Prod.map (·.foldl Path.member path) id

theorem leaves_of_isLeaf {d : Document} (hd : d.isLeaf = true) (path : String) :
    leaves path d = (d.leafRoutes.map (withPath path)).filter (!isPathlessNull ·) := by
  rw [leafRoutes_of_isLeaf hd]
  cases d with
  | null => by_cases h : path = "" <;> simp [leaves, isPathlessNull, withPath, isNull, h]
  | object ms =>
    cases ms with
    | nil => rfl
    | cons m ms => cases hd
  | _ => rfl

mutual
theorem leaves_eq (path : String) (d : Document) :
    leaves path d = (d.leafRoutes.map (withPath path)).filter (!isPathlessNull ·) := by
  cases d with
  | object ms =>
    cases ms with
    | nil => exact leaves_of_isLeaf rfl path
    | cons m ms => exact leavesOf_eq path (m :: ms)
  | array xs => exact leaves_of_isLeaf rfl path
  | null => exact leaves_of_isLeaf rfl path
  | bool v => exact leaves_of_isLeaf rfl path
  | number n => exact leaves_of_isLeaf rfl path
  | string s => exact leaves_of_isLeaf rfl path

theorem leavesOf_eq (path : String) (ms : List (String × Document)) :
    leavesOf path ms = ((leafRoutesOf ms).map (withPath path)).filter (!isPathlessNull ·) := by
  cases ms with
  | nil => rfl
  | cons m ms =>
    obtain ⟨k, v⟩ := m
    rw [leavesOf, leaves_eq (Path.member path k) v, leavesOf_eq path ms, leafRoutesOf, List.map_append,
      List.filter_append, List.map_map]
    rfl
end

/-- All names of objects that are reached through objects are pieces of paths. -/
def PlainNames (d : Document) : Prop :=
  ∀ route ms, d.Through route (.object ms) → ∀ k ∈ Entries.names ms, Path.Piece k

theorem PlainNames.member {ms : Members} (h : PlainNames (.object ms)) {k : String} {v : Document}
    (hmem : (k, v) ∈ ms) : PlainNames v :=
  fun route ns hthrough => h (k :: route) ns (.member hmem hthrough)

theorem plainNames_object {ms : Members} :
    PlainNames (.object ms) ↔ ∀ e ∈ ms, Path.Piece e.1 ∧ PlainNames e.2 := by
  constructor
  · exact fun h e he => ⟨h [] ms (.here _) e.1 (List.mem_map_of_mem he), h.member he⟩
  · intro h route ns hthrough k hk
    cases hthrough with
    | here =>
      obtain ⟨e, he, rfl⟩ := List.mem_map.mp hk
      exact (h e he).1
    | @member _ k' v _ rest hmem hrest => exact (h (k', v) hmem).2 rest ns hrest k hk

theorem plainNames_of_isLeaf {d : Document} (hd : d.isLeaf = true) : d.PlainNames := by
  intro route ms hthrough k hk
  obtain ⟨-, rfl⟩ := (through_of_isLeaf hd).mp hthrough
  cases ms with
  | nil => cases hk
  | cons m ms => cases hd

theorem PlainNames.route {d e : Document} {route : List String} (h : d.PlainNames)
    (hthrough : d.Through route e) : ∀ k ∈ route, Path.Piece k := by
  induction hthrough with
  | here d => nofun
  | @member ms k v e route hmem hrest ih =>
    have hk : Path.Piece k := h [] ms (.here _) k (List.mem_map_of_mem hmem)
    exact List.forall_mem_cons.mpr ⟨hk, ih (h.member hmem)⟩

theorem PlainNames.isUnnamedNull_eq {d e : Document} {route : List String} (h : d.PlainNames)
    (hthrough : d.Through route e) : isUnnamedNull (route, e) = d.isNull := by
  cases hthrough with
  | here => rw [isUnnamedNull, List.all_nil, Bool.and_true]
  | @member ms k v e rest hmem hrest =>
    have hk : k ≠ "" := (h [] ms (.here _) k (List.mem_map_of_mem hmem)).1
    simp [isUnnamedNull, isNull, hk]

theorem resolve?_join {route : List String} (h : ∀ k ∈ route, Path.Piece k) (d : Document) :
    d.resolve? (Text.join "." route) = d.follow? route := by
  have hplain := resolve?_plain d (Text.join "." route)
  rwa [Path.plain, Path.route_join h] at hplain

end Document

namespace Form

def listed (f : Form) : List (String × String) :=
  (f.values.leaves "").map (Prod.map id Document.compact)

def remarks (f : Form) (path : String) : String :=
  (match f.message? path with
    | some m => "  ! " ++ m
    | none => "") ++
  (if (f.triggers path).isEmpty then ""
    else "  [" ++ Text.join ", " ((f.triggers path).map fun t => t.kind.name) ++ "]")

theorem lines_eq (f : Form) :
    f.lines = (f.listed.map fun e => e.1 ++ " = " ++ e.2 ++ f.remarks e.1) ++ ["[Submit]"] := by
  have hline (l : String × Document) :
      f.line l.1 l.2 = l.1 ++ " = " ++ l.2.compact ++ f.remarks l.1 := String.append_assoc
  simp only [lines, listed, List.map_map, Function.comp_def, Prod.map, id, hline]

theorem listed_eq (f : Form) :
    f.listed = (f.values.leafRoutes.filter (!Document.isUnnamedNull ·)).map
      fun l => (l.1.foldl Path.member "", l.2.compact) := by
  have hnull : (!Document.isPathlessNull ·) ∘ Document.withPath "" = (!Document.isUnnamedNull ·) :=
    funext fun l => congrArg not (Document.isPathlessNull_map l)
  rw [listed, Document.leaves_eq, List.filter_map, hnull, List.map_map]
  rfl

theorem listed_eq_of_plainNames {f : Form} (hnames : f.values.PlainNames) :
    f.listed = (if f.values.isNull then [] else f.values.leafRoutes).map
      fun l => (Text.join "." l.1, l.2.compact) := by
  have hleaves := Document.listsLeaves_leafRoutes f.values
  have hfilter : f.values.leafRoutes.filter (!Document.isUnnamedNull ·) =
      f.values.leafRoutes.filter fun _ => !f.values.isNull := by
    refine List.filter_congr fun l hl => ?_
    rw [hnames.isUnnamedNull_eq (hleaves.through hl)]
  have hif : (f.values.leafRoutes.filter fun _ => !f.values.isNull) =
      if f.values.isNull then [] else f.values.leafRoutes := by
    cases f.values.isNull <;> simp
  rw [listed_eq, hfilter, hif]
  refine List.map_congr_left fun l hl => ?_
  have hl : l ∈ f.values.leafRoutes := by
    split at hl
    · cases hl
    · exact hl
  rw [Path.foldl_member_of_pieces (hnames.route (hleaves.through hl))]

/-- With plain names every leaf is listed once, in the order of the document, with its text and with a
path that leads a reading to it; only a document without values lists none. -/
theorem listed_values_are_read_at_their_paths {f : Form} (hf : f.values.Distinct)
    (hnames : f.values.PlainNames) :
    f.lines = (f.listed.map fun e => e.1 ++ " = " ++ e.2 ++ f.remarks e.1) ++ ["[Submit]"] ∧
      (f.listed.map Prod.fst).Nodup ∧
      ∃ leaves, f.values.ListsLeaves leaves ∧
        f.listed = (if f.values.isNull then [] else leaves).map
          (fun l => (Text.join "." l.1, l.2.compact)) ∧
        ∀ l ∈ leaves, f.value? (Text.join "." l.1) = some l.2 := by
  have hleaves := Document.listsLeaves_leafRoutes f.values
  have hpieces : ∀ l ∈ f.values.leafRoutes, ∀ k ∈ l.1, Path.Piece k := fun l hl =>
    hnames.route (hleaves.through hl)
  refine ⟨f.lines_eq, ?_, f.values.leafRoutes, hleaves, listed_eq_of_plainNames hnames, ?_⟩
  · have hroutes : (f.values.leafRoutes.map fun l => Path.route (Text.join "." l.1)).Nodup := by
      rw [List.map_congr_left fun l hl => Path.route_join (hpieces l hl)]
      exact hleaves.nodup hf
    have hpaths : (f.values.leafRoutes.map fun l => Text.join "." l.1).Nodup := by
      refine List.Nodup.of_map Path.route ?_
      rwa [List.map_map]
    rw [listed_eq_of_plainNames hnames, List.map_map]
    split
    · exact .nil
    · exact hpaths
  · intro l hl
    rw [value?, Document.resolve?_join (hpieces l hl)]
    exact Document.follow?_of_through hf (hleaves.through hl)

/-- Leaves of all kinds, at the root and further down. -/
theorem nested_values_are_read_at_their_paths :
    let f : Form := (default : Form).withValues (.object [
      ("a", .object [("b", .null), ("c d", .array [.object [("x.y", .null)]]), ("e", .object [])]),
      ("f", .string "g")])
    f.values.Distinct ∧ f.values.PlainNames ∧
      f.listed = [("a.b", "null"), ("a.c d", "[\x7b\"x.y\":null\x7d]"), ("a.e", "\x7b\x7d"),
        ("f", "\"g\"")] ∧
      (f.listed.map Prod.fst).Nodup ∧
      ∃ leaves, f.values.ListsLeaves leaves ∧
        f.listed = (if f.values.isNull then [] else leaves).map
          (fun l => (Text.join "." l.1, l.2.compact)) ∧
        ∀ l ∈ leaves, f.value? (Text.join "." l.1) = some l.2 := by
  intro f
  have hf : f.values.Distinct := by
    simp [f, Document.Distinct, Document.DistinctMembers, Document.DistinctItems, Entries.names]
  have hnames : f.values.PlainNames := by
    have hnull : Document.null.PlainNames := Document.plainNames_of_isLeaf rfl
    have harray (xs : List Document) : (Document.array xs).PlainNames :=
      Document.plainNames_of_isLeaf rfl
    have hstring (s : String) : (Document.string s).PlainNames := Document.plainNames_of_isLeaf rfl
    simp [f, Document.plainNames_object, Path.Piece, hnull, harray, hstring]
  exact ⟨hf, hnames, rfl, (listed_values_are_read_at_their_paths hf hnames).2⟩

/-- Every leaf is listed once, in the order of the document, but for the nulls to which only empty names
lead. -/
theorem listed_values_are_leaves_with_path {f : Form} (hf : f.values.Distinct) :
    f.lines = (f.listed.map fun e => e.1 ++ " = " ++ e.2 ++ f.remarks e.1) ++ ["[Submit]"] ∧
      ∃ leaves, f.values.ListsLeaves leaves ∧ (leaves.map Prod.fst).Nodup ∧
        f.listed.map Prod.snd =
          (leaves.filter (!Document.isUnnamedNull ·)).map fun l => l.2.compact := by
  refine ⟨f.lines_eq, f.values.leafRoutes, ?_, ?_, ?_⟩
  · exact Document.listsLeaves_leafRoutes f.values
  · exact (Document.listsLeaves_leafRoutes f.values).nodup hf
  · rw [listed_eq, List.map_map]
    rfl

/-- Of three nulls the one is not listed that has no name on its route. -/
theorem named_nulls_are_listed :
    let f : Form := (default : Form).withValues (.object [
      ("", .object [("", .null), ("a", .null)]), ("b", .object [("", .null)])])
    f.values.Distinct ∧ f.listed.map Prod.snd = ["null", "null"] ∧
      ∃ leaves, f.values.ListsLeaves leaves ∧ (leaves.map Prod.fst).Nodup ∧
        f.listed.map Prod.snd =
          (leaves.filter (!Document.isUnnamedNull ·)).map fun l => l.2.compact := by
  intro f
  have hf : f.values.Distinct := by
    simp [f, Document.Distinct, Document.DistinctMembers, Entries.names]
  exact ⟨hf, rfl, (listed_values_are_leaves_with_path hf).2⟩

/-- A null under an empty name is a leaf that is not listed, though any other value there is. -/
theorem null_under_empty_name_is_not_listed :
    let f (leaf : Document) : Form := (default : Form).withValues (.object [("", leaf)])
    (f .null).values ≠ .null ∧ (f .null).values.Distinct ∧
      (f (.bool true)).lines = [" = true", "[Submit]"] ∧ (f .null).lines = ["[Submit]"] ∧
      ¬ ∃ leaves, (f .null).values.ListsLeaves leaves ∧
        (f .null).listed.map Prod.snd = leaves.map fun l => l.2.compact := by
  intro f
  refine ⟨nofun, ?_, rfl, rfl, ?_⟩
  · simp [f, Document.Distinct, Document.DistinctMembers, Entries.names]
  · rintro ⟨leaves, hleaves, hlisted⟩
    have hnil : leaves = [] := List.map_eq_nil_iff.mp hlisted.symm
    have hmem : ([""], Document.null) ∈ leaves :=
      (hleaves.mem_iff [""] .null).mpr ⟨.member List.mem_cons_self (.here _), rfl⟩
    rw [hnil] at hmem
    cases hmem

end Form
end ComponentForm
