import ComponentForm.Proofs.Document.Distinct

/-! Leaves of a document: the values that are reached from its root through objects alone and have no
members themselves. A leaf is known by its route, the names on the way to it, and the order of the
document is the order in which the routes part. -/
namespace ComponentForm.Document

/-- The route leads to the value through members of objects and through nothing else. -/
inductive Through : Document → List String → Document → Prop
  | here (d : Document) : Through d [] d
  | member {ms : Members} {k : String} {v e : Document} {route : List String} :
      (k, v) ∈ ms → Through v route e → Through (.object ms) (k :: route) e

/-- Only an object with members is none. -/
def isLeaf : Document → Bool
  | .object (_ :: _) => false
  | _ => true

/-- The first route goes off to an earlier member than the second, where they part. -/
inductive Before : Document → List String → List String → Prop
  | parting {front back : Members} {k k' : String} {v : Document} {p q : List String} :
      k' ∈ Entries.names back → Before (.object (front ++ (k, v) :: back)) (k :: p) (k' :: q)
  | within {ms : Members} {k : String} {v : Document} {p q : List String} :
      (k, v) ∈ ms → Before v p q → Before (.object ms) (k :: p) (k :: q)

/-- A list of exactly the leaves of the document, with their routes, in the order of the document. -/
structure ListsLeaves (d : Document) (leaves : List (List String × Document)) : Prop where
  mem_iff : ∀ route leaf, (route, leaf) ∈ leaves ↔ d.Through route leaf ∧ leaf.isLeaf = true
  ordered : leaves.Pairwise fun a b => d.Before a.1 b.1

theorem through_object {ms : Members} {route : List String} {e : Document} :
    Through (.object ms) route e ↔
      (route = [] ∧ e = .object ms) ∨
        ∃ k v rest, route = k :: rest ∧ (k, v) ∈ ms ∧ Through v rest e := by
  constructor
  · intro h
    cases h with
    | here => exact .inl ⟨rfl, rfl⟩
    | member hmem hrest => exact .inr ⟨_, _, _, rfl, hmem, hrest⟩
  · rintro (⟨rfl, rfl⟩ | ⟨k, v, rest, rfl, hmem, hrest⟩)
    · exact .here _
    · exact .member hmem hrest

theorem through_of_isLeaf {d e : Document} {route : List String} (hd : d.isLeaf = true) :
    d.Through route e ↔ route = [] ∧ e = d := by
  constructor
  · intro h
    cases h with
    | here => exact ⟨rfl, rfl⟩
    | @member ms k v e route hmem _ =>
      cases ms with
      | nil => cases hmem
      | cons m ms => cases hd
  · rintro ⟨rfl, rfl⟩
    exact .here e

/-- Where no name comes twice, the value on a route is the one that a reading finds there. -/
theorem follow?_of_through {d e : Document} {route : List String} (hd : d.Distinct)
    (h : d.Through route e) : d.follow? route = some e := by
  induction h with
  | here d => rfl
  | @member ms k v e route hmem hrest ih =>
    obtain ⟨hnames, hmembers⟩ := distinct_object.mp hd
    have hstep : (object ms).step? k = some v := Entries.value?_of_mem hnames hmem
    rw [follow?, hstep, Option.bind_some]
    exact ih (hmembers (k, v) hmem)

theorem Before.ne {d : Document} {p q : List String} (h : d.Before p q) (hd : d.Distinct) : p ≠ q := by
  induction h with
  | @parting front back k k' v p q hback =>
    have hnames := (distinct_object.mp hd).1
    rw [Entries.names, List.map_append, List.map_cons] at hnames
    have hrest : (k :: Entries.names back).Nodup := (List.nodup_append.mp hnames).2.1
    have hk : k ∉ Entries.names back := (List.nodup_cons.mp hrest).1
    intro heq
    exact hk ((List.cons.inj heq).1 ▸ hback)
  | @within ms k v p q hmem hpq ih =>
    have hv : v.Distinct := (distinct_object.mp hd).2 (k, v) hmem
    exact fun heq => ih hv (List.cons.inj heq).2

namespace ListsLeaves

variable {d : Document} {leaves : List (List String × Document)}

theorem through (h : d.ListsLeaves leaves) {l : List String × Document} (hl : l ∈ leaves) :
    d.Through l.1 l.2 :=
  ((h.mem_iff l.1 l.2).mp hl).1

theorem nodup (h : d.ListsLeaves leaves) (hd : d.Distinct) : (leaves.map Prod.fst).Nodup :=
  List.pairwise_map.mpr (h.ordered.imp fun hbefore => hbefore.ne hd)

end ListsLeaves

mutual
def leafRoutes : Document → List (List String × Document)
  | .object (m :: ms) => leafRoutesOf (m :: ms)
  | d => [([], d)]

def leafRoutesOf : List (String × Document) → List (List String × Document)
  | [] => []
  | (k, v) :: ms => (leafRoutes v).map (Prod.map (k :: ·) id) ++ leafRoutesOf ms
end

theorem leafRoutes_of_isLeaf {d : Document} (hd : d.isLeaf = true) : leafRoutes d = [([], d)] := by
  cases d with
  | object ms =>
    cases ms with
    | nil => rfl
    | cons m ms => cases hd
  | _ => rfl

theorem mem_leafRoutes_of_isLeaf {d leaf : Document} {route : List String} (hd : d.isLeaf = true) :
    (route, leaf) ∈ leafRoutes d ↔ d.Through route leaf ∧ leaf.isLeaf = true := by
  rw [leafRoutes_of_isLeaf hd, List.mem_singleton, Prod.mk.injEq, through_of_isLeaf hd]
  exact ⟨fun h => ⟨h, h.2 ▸ hd⟩, And.left⟩

theorem mem_leafRoutesOf_cons {k : String} {v : Document} {ms : List (String × Document)}
    {l : List String × Document} :
    l ∈ leafRoutesOf ((k, v) :: ms) ↔
      (∃ rest, l.1 = k :: rest ∧ (rest, l.2) ∈ leafRoutes v) ∨ l ∈ leafRoutesOf ms := by
  obtain ⟨route, leaf⟩ := l
  rw [leafRoutesOf, List.mem_append, List.mem_map]
  refine or_congr_left ⟨?_, ?_⟩
  · rintro ⟨⟨rest, e⟩, hmem, heq⟩
    cases heq
    exact ⟨rest, rfl, hmem⟩
  · rintro ⟨rest, rfl, hmem⟩
    exact ⟨(rest, leaf), hmem, rfl⟩

mutual
theorem mem_leafRoutes {leaf : Document} {route : List String} (d : Document) :
    (route, leaf) ∈ leafRoutes d ↔ d.Through route leaf ∧ leaf.isLeaf = true := by
  cases d with
  | object ms =>
    cases ms with
    | nil => exact mem_leafRoutes_of_isLeaf rfl
    | cons m ms =>
      rw [leafRoutes, mem_leafRoutesOf (m :: ms), through_object]
      refine and_congr_left fun hleaf => (or_iff_right ?_).symm
      rintro ⟨-, rfl⟩
      cases hleaf
  | array xs => exact mem_leafRoutes_of_isLeaf rfl
  | null => exact mem_leafRoutes_of_isLeaf rfl
  | bool v => exact mem_leafRoutes_of_isLeaf rfl
  | number n => exact mem_leafRoutes_of_isLeaf rfl
  | string s => exact mem_leafRoutes_of_isLeaf rfl

theorem mem_leafRoutesOf {leaf : Document} {route : List String} (ms : List (String × Document)) :
    (route, leaf) ∈ leafRoutesOf ms ↔
      (∃ k v rest, route = k :: rest ∧ (k, v) ∈ ms ∧ v.Through rest leaf) ∧ leaf.isLeaf = true := by
  cases ms with
  | nil => simp [leafRoutesOf]
  | cons m ms =>
    obtain ⟨k, v⟩ := m
    rw [mem_leafRoutesOf_cons, mem_leafRoutesOf ms]
    constructor
    · rintro (⟨rest, rfl, hrest⟩ | ⟨⟨k', v', rest, rfl, hmem, hrest⟩, hleaf⟩)
      · obtain ⟨hthrough, hleaf⟩ := (mem_leafRoutes v).mp hrest
        exact ⟨⟨k, v, rest, rfl, List.mem_cons_self, hthrough⟩, hleaf⟩
      · exact ⟨⟨k', v', rest, rfl, List.mem_cons_of_mem _ hmem, hrest⟩, hleaf⟩
    · rintro ⟨⟨k', v', rest, rfl, hmem, hrest⟩, hleaf⟩
      rcases List.mem_cons.mp hmem with heq | hmem
      · cases heq
        exact .inl ⟨rest, rfl, (mem_leafRoutes v).mpr ⟨hrest, hleaf⟩⟩
      · exact .inr ⟨⟨k', v', rest, rfl, hmem, hrest⟩, hleaf⟩
end

mutual
theorem pairwise_leafRoutes (d : Document) : (leafRoutes d).Pairwise fun a b => d.Before a.1 b.1 := by
  cases d with
  | object ms =>
    cases ms with
    | nil => exact List.pairwise_singleton _ _
    | cons m ms => exact pairwise_leafRoutesOf [] (m :: ms)
  | array xs => exact List.pairwise_singleton _ _
  | null => exact List.pairwise_singleton _ _
  | bool v => exact List.pairwise_singleton _ _
  | number n => exact List.pairwise_singleton _ _
  | string s => exact List.pairwise_singleton _ _

/-- Members further to the right are further on in the order of the object. -/
theorem pairwise_leafRoutesOf (front : Members) (ms : List (String × Document)) :
    (leafRoutesOf ms).Pairwise fun a b => Before (.object (front ++ ms)) a.1 b.1 := by
  cases ms with
  | nil => exact .nil
  | cons m ms =>
    obtain ⟨k, v⟩ := m
    have hk : (k, v) ∈ front ++ (k, v) :: ms := List.mem_append_right front List.mem_cons_self
    have hfirst : ((leafRoutes v).map (Prod.map (k :: ·) id)).Pairwise fun a b =>
        Before (.object (front ++ (k, v) :: ms)) a.1 b.1 :=
      List.pairwise_map.mpr ((pairwise_leafRoutes v).imp fun hbefore => .within hk hbefore)
    have hlater := pairwise_leafRoutesOf (front ++ [(k, v)]) ms
    rw [List.append_assoc] at hlater
    rw [leafRoutesOf, List.pairwise_append]
    refine ⟨hfirst, hlater, ?_⟩
    rintro a ha ⟨route, leaf⟩ hb
    obtain ⟨l, -, rfl⟩ := List.mem_map.mp ha
    obtain ⟨⟨k', v', rest, rfl, hmem, -⟩, -⟩ := (mem_leafRoutesOf ms).mp hb
    exact .parting (List.mem_map_of_mem hmem)
end

theorem listsLeaves_leafRoutes (d : Document) : d.ListsLeaves d.leafRoutes :=
  ⟨fun _ _ => mem_leafRoutes d, pairwise_leafRoutes d⟩

end ComponentForm.Document
