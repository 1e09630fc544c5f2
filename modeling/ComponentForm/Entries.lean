/-! Records whose names keep the order of their first insertion.
A later value takes the place of the earlier one of its name, a new name goes last, and taking a
name away leaves the order of the others. -/
namespace ComponentForm

abbrev Entries (α : Type u) := List (String × α)

namespace Entries

variable {α : Type u}

def value? : Entries α → String → Option α
  | [], _ => none
  | (name, v) :: rest, k => if name = k then some v else value? rest k

def put : Entries α → String → α → Entries α
  | [], k, v => [(k, v)]
  | (name, w) :: rest, k, v => if name = k then (name, v) :: rest else (name, w) :: put rest k v

def remove : Entries α → String → Entries α
  | [], _ => []
  | (name, v) :: rest, k => if name = k then rest else (name, v) :: remove rest k

def putAll (es additions : Entries α) : Entries α :=
  additions.foldl (fun acc e => put acc e.1 e.2) es

def names (es : Entries α) : List String :=
  es.map Prod.fst

def has (es : Entries α) (k : String) : Bool :=
  (value? es k).isSome

@[simp] theorem value?_nil (k : String) : value? ([] : Entries α) k = none := rfl

theorem value?_cons (name k : String) (v : α) (rest : Entries α) :
    value? ((name, v) :: rest) k = if name = k then some v else value? rest k := rfl

@[simp] theorem putAll_nil (es : Entries α) : putAll es [] = es := rfl

@[simp] theorem putAll_cons (es rest : Entries α) (k : String) (v : α) :
    putAll es ((k, v) :: rest) = putAll (put es k v) rest := rfl

theorem value?_put_self (es : Entries α) (k : String) (v : α) :
    value? (put es k v) k = some v := by
  induction es with
  | nil => simp [put, value?]
  | cons e rest ih => by_cases h : e.1 = k <;> simp [put, value?, h, ih]

theorem value?_put_of_ne (es : Entries α) {k k' : String} (v : α) (hne : k ≠ k') :
    value? (put es k v) k' = value? es k' := by
  induction es with
  | nil => simp [put, value?, hne]
  | cons e rest ih =>
    by_cases h : e.1 = k
    · subst h; simp [put, value?, hne]
    · simp only [put, h, if_false, value?, ih]

theorem put_of_value?_eq {es : Entries α} {k : String} {v : α} (h : value? es k = some v) :
    put es k v = es := by
  induction es with
  | nil => simp at h
  | cons e rest ih =>
    obtain ⟨name, w⟩ := e
    rw [value?_cons] at h
    by_cases hk : name = k
    · rw [if_pos hk, Option.some.injEq] at h
      rw [put, if_pos hk, h]
    · rw [if_neg hk] at h
      rw [put, if_neg hk, ih h]

theorem put_put_self (es : Entries α) (k : String) (v w : α) : put (put es k v) k w = put es k w := by
  induction es with
  | nil => simp [put]
  | cons e rest ih => by_cases h : e.1 = k <;> simp [put, h, ih]

/-- Values under two names may be put in either order, up to the order of new names. -/
theorem put_put_perm (es : Entries α) {k k' : String} (v v' : α) (hne : k ≠ k') :
    (put (put es k v) k' v').Perm (put (put es k' v') k v) := by
  induction es with
  | nil =>
    simp only [put, if_neg hne, if_neg (Ne.symm hne)]
    exact .swap _ _ _
  | cons e rest ih =>
    obtain ⟨name, w⟩ := e
    by_cases h : name = k
    · subst h
      simp [put, hne]
    · by_cases h' : name = k'
      · subst h'
        simp [put, h]
      · simp only [put, if_neg h, if_neg h']
        exact ih.cons _

theorem value?_remove_of_ne (es : Entries α) {k k' : String} (hne : k ≠ k') :
    value? (remove es k) k' = value? es k' := by
  induction es with
  | nil => rfl
  | cons e rest ih =>
    by_cases h : e.1 = k
    · subst h; simp [remove, value?, hne]
    · simp only [remove, h, if_false, value?, ih]

theorem has_put_of_ne (es : Entries α) {k k' : String} (v : α) (hne : k ≠ k') :
    has (put es k v) k' = has es k' := by
  rw [has, has, value?_put_of_ne es v hne]

theorem has_remove_of_ne (es : Entries α) {k k' : String} (hne : k ≠ k') :
    has (remove es k) k' = has es k' := by
  rw [has, has, value?_remove_of_ne es hne]

theorem remove_of_not_has {es : Entries α} {k : String} (h : has es k = false) : remove es k = es := by
  induction es with
  | nil => rfl
  | cons e rest ih =>
    obtain ⟨name, v⟩ := e
    rw [has, value?_cons] at h
    by_cases hk : name = k
    · simp [hk] at h
    · rw [if_neg hk] at h
      rw [remove, if_neg hk, ih h]

theorem remove_put_of_ne (es : Entries α) {k k' : String} (v : α) (hne : k ≠ k') :
    remove (put es k v) k' = put (remove es k') k v := by
  induction es with
  | nil => simp [put, remove, hne]
  | cons e rest ih =>
    obtain ⟨name, w⟩ := e
    by_cases h : name = k
    · subst h
      simp [put, remove, hne]
    · by_cases h' : name = k'
      · subst h'
        simp [put, remove, h]
      · simp only [put, remove, if_neg h, if_neg h', ih]

theorem remove_remove_of_ne (es : Entries α) {k k' : String} (hne : k ≠ k') :
    remove (remove es k) k' = remove (remove es k') k := by
  induction es with
  | nil => rfl
  | cons e rest ih =>
    obtain ⟨name, w⟩ := e
    by_cases h : name = k
    · subst h
      simp [remove, hne]
    · by_cases h' : name = k'
      · subst h'
        simp [remove, h]
      · simp only [remove, if_neg h, if_neg h', ih]

theorem has_iff_mem_names (es : Entries α) (k : String) : has es k = true ↔ k ∈ names es := by
  induction es with
  | nil => simp [has, names, value?]
  | cons e rest ih =>
    by_cases h : e.1 = k
    · simp [has, names, value?, h]
    · simpa [has, names, value?, h, Ne.symm h] using ih

theorem value?_eq_none_iff {es : Entries α} {k : String} : value? es k = none ↔ k ∉ names es := by
  rw [← has_iff_mem_names, has, Option.not_isSome_iff_eq_none]

theorem names_cons (k : String) (v : α) (rest : Entries α) :
    names ((k, v) :: rest) = k :: names rest := rfl

theorem not_mem_names_cons {name k : String} {v : α} {rest : Entries α} :
    k ∉ names ((name, v) :: rest) ↔ k ≠ name ∧ k ∉ names rest := by
  rw [names_cons, List.mem_cons, not_or]

theorem value?_append (es fs : Entries α) (k : String) :
    value? (es ++ fs) k = (value? es k).or (value? fs k) := by
  induction es with
  | nil => rfl
  | cons e rest ih =>
    rw [List.cons_append, value?_cons, value?_cons]
    split
    · rfl
    · exact ih

theorem put_append_of_not_mem {front : Entries α} {k : String} (h : k ∉ names front) (rest : Entries α)
    (v : α) : put (front ++ rest) k v = front ++ put rest k v := by
  induction front with
  | nil => rfl
  | cons e front ih =>
    obtain ⟨name, w⟩ := e
    rw [not_mem_names_cons] at h
    rw [List.cons_append, put, if_neg (Ne.symm h.1), ih h.2, List.cons_append]

theorem put_of_not_mem_names {es : Entries α} {k : String} (h : k ∉ names es) (v : α) :
    put es k v = es ++ [(k, v)] := by
  have hput := put_append_of_not_mem h [] v
  rwa [List.append_nil] at hput

theorem value?_of_mem {es : Entries α} (hnames : (names es).Nodup) {k : String} {v : α}
    (h : (k, v) ∈ es) : value? es k = some v := by
  induction es with
  | nil => cases h
  | cons e rest ih =>
    obtain ⟨name, w⟩ := e
    rw [names, List.map_cons, List.nodup_cons] at hnames
    rw [value?_cons]
    rcases List.mem_cons.mp h with heq | hmem
    · cases heq
      exact if_pos rfl
    · have hk : k ∈ rest.map Prod.fst := List.mem_map_of_mem hmem
      have hne : name ≠ k := fun h => hnames.1 (h ▸ hk)
      rw [if_neg hne]
      exact ih hnames.2 hmem

/-- A present name stays where it is, a new one goes last. -/
theorem names_put (es : Entries α) (k : String) (v : α) :
    names (put es k v) = if has es k then names es else names es ++ [k] := by
  induction es with
  | nil => simp [put, names, has]
  | cons e rest ih =>
    by_cases h : e.1 = k
    · simp [put, names, has, value?, h]
    · simp only [put, h, if_false, names, List.map_cons] at ih ⊢
      rw [ih]
      by_cases hk : (value? rest k).isSome <;> simp [has, value?, h, hk]

theorem names_remove (es : Entries α) (k : String) : names (remove es k) = (names es).erase k := by
  induction es with
  | nil => rfl
  | cons e rest ih =>
    by_cases h : e.1 = k
    · simp [remove, names, h]
    · simp only [remove, h, if_false, names, List.map_cons] at ih ⊢
      rw [ih, List.erase_cons_tail (by simpa using h)]

theorem nodup_names_put {es : Entries α} (h : (names es).Nodup) (k : String) (v : α) :
    (names (put es k v)).Nodup := by
  rw [names_put]
  split
  · exact h
  · next hk =>
    rw [has_iff_mem_names] at hk
    exact List.nodup_append.mpr ⟨h, List.pairwise_singleton _ k, fun a ha b hb hab =>
      hk (List.mem_singleton.mp hb ▸ hab ▸ ha)⟩

theorem has_put_of_has {es : Entries α} {k : String} (h : has es k = true) (k' : String) (v : α) :
    has (put es k' v) k = true := by
  by_cases hk : k' = k
  · rw [has, hk, value?_put_self, Option.isSome_some]
  · rw [has_put_of_ne es v hk, h]

theorem has_putAll_of_has {es : Entries α} {k : String} (h : has es k = true) (additions : Entries α) :
    has (putAll es additions) k = true := by
  induction additions generalizing es with
  | nil => exact h
  | cons e rest ih => exact ih (has_put_of_has h e.1 e.2)

theorem value?_putAll_of_not_mem {additions : Entries α} {k : String} (h : k ∉ names additions)
    (es : Entries α) : value? (putAll es additions) k = value? es k := by
  induction additions generalizing es with
  | nil => rfl
  | cons e rest ih =>
    obtain ⟨name, v⟩ := e
    rw [not_mem_names_cons] at h
    rw [putAll_cons, ih h.2, value?_put_of_ne es v (Ne.symm h.1)]

theorem value?_putAll_of_mem {additions : Entries α} (hnames : (names additions).Nodup) {k : String}
    {v : α} (h : (k, v) ∈ additions) (es : Entries α) :
    value? (putAll es additions) k = some v := by
  induction additions generalizing es with
  | nil => cases h
  | cons e rest ih =>
    obtain ⟨name, w⟩ := e
    rw [names_cons, List.nodup_cons] at hnames
    rw [putAll_cons]
    rcases List.mem_cons.mp h with heq | hmem
    · cases heq
      rw [value?_putAll_of_not_mem hnames.1, value?_put_self]
    · exact ih hnames.2 hmem _

/-- Of the additions only the new names go last, in their own order. -/
theorem names_putAll {additions : Entries α} (hnames : (names additions).Nodup) (es : Entries α) :
    names (putAll es additions) = names es ++ (names additions).filter (· ∉ names es) := by
  induction additions generalizing es with
  | nil => simp [names]
  | cons e rest ih =>
    obtain ⟨k, v⟩ := e
    rw [names_cons, List.nodup_cons] at hnames
    rw [putAll_cons, ih hnames.2, names_put]
    by_cases hk : has es k = true
    · have hmem : k ∈ names es := (has_iff_mem_names es k).mp hk
      rw [if_pos hk, names_cons, List.filter_cons_of_neg (by simpa using hmem)]
    · have hmem : k ∉ names es := fun h => hk ((has_iff_mem_names es k).mpr h)
      have hrest : (names rest).filter (· ∉ names es ++ [k]) = (names rest).filter (· ∉ names es) := by
        refine List.filter_congr fun name hname => ?_
        have hne : name ≠ k := fun h => hnames.1 (h ▸ hname)
        simp [hne]
      rw [if_neg hk, hrest, names_cons, List.filter_cons_of_pos (by simpa using hmem), List.append_assoc]
      rfl

/-- What additions make of entries: the names that were there stay in their places and the new ones
follow in their own order, what was added has its new value, and all else the value it had. -/
structure Merged (es additions merged : Entries α) : Prop where
  names_eq : names merged = names es ++ (names additions).filter (· ∉ names es)
  added : ∀ k v, (k, v) ∈ additions → value? merged k = some v
  kept : ∀ k, k ∉ names additions → value? merged k = value? es k

theorem merged_putAll {additions : Entries α} (hnames : (names additions).Nodup) (es : Entries α) :
    Merged es additions (putAll es additions) :=
  ⟨names_putAll hnames es, fun _ _ h => value?_putAll_of_mem hnames h es,
    fun _ h => value?_putAll_of_not_mem h es⟩

/-- A value may be put before or after that of another name, if the name was there. -/
theorem put_put_of_has {es : Entries α} {k k' : String} (hk : has es k = true) (hne : k ≠ k')
    (v v' : α) : put (put es k v) k' v' = put (put es k' v') k v := by
  induction es with
  | nil => cases hk
  | cons e rest ih =>
    obtain ⟨name, w⟩ := e
    by_cases h : name = k
    · subst h
      simp [put, hne]
    · have hrest : has rest k = true := by simpa [has, value?_cons, h] using hk
      by_cases h' : name = k'
      · subst h'
        simp [put, h]
      · simp only [put, if_neg h, if_neg h', ih hrest]

/-- What is put again later need not have been put before, if the name was there. -/
theorem putAll_put_of_mem {es additions : Entries α} {k : String} (hk : has es k = true)
    (h : k ∈ names additions) (v : α) : putAll (put es k v) additions = putAll es additions := by
  induction additions generalizing es with
  | nil => cases h
  | cons e rest ih =>
    obtain ⟨name, w⟩ := e
    rw [putAll_cons, putAll_cons]
    by_cases hname : k = name
    · subst hname
      rw [put_put_self]
    · rw [names_cons, List.mem_cons, or_iff_right hname] at h
      rw [put_put_of_has hk hname, ih ((has_put_of_ne es w (Ne.symm hname)).trans hk) h]

theorem putAll_putAll_self (es additions : Entries α) :
    putAll (putAll es additions) additions = putAll es additions := by
  induction additions generalizing es with
  | nil => rfl
  | cons e rest ih =>
    obtain ⟨k, v⟩ := e
    rw [putAll_cons, putAll_cons]
    by_cases hmem : k ∈ names rest
    · have hput : has (put es k v) k = true := by rw [has, value?_put_self, Option.isSome_some]
      rw [putAll_put_of_mem (has_putAll_of_has hput rest) hmem, ih]
    · have hv : value? (putAll (put es k v) rest) k = some v := by
        rw [value?_putAll_of_not_mem hmem, value?_put_self]
      rw [put_of_value?_eq hv, ih]

/-- Names are kept once, so that taking one away leaves none of it. -/
theorem value?_remove_self {es : Entries α} (h : (names es).Nodup) (k : String) :
    value? (remove es k) k = none := by
  have hk : has (remove es k) k = false := by
    rw [Bool.eq_false_iff, ne_eq, has_iff_mem_names, names_remove]
    exact h.not_mem_erase
  simpa [has] using hk

theorem length_remove_lt {es : Entries α} {k : String} (h : has es k = true) :
    (remove es k).length < es.length := by
  induction es with
  | nil => cases h
  | cons e rest ih =>
    by_cases hk : e.1 = k
    · simp [remove, hk]
    · have hrest : has rest k = true := by simpa [has, value?, hk] using h
      simpa [remove, hk] using ih hrest

theorem nodup_names_remove {es : Entries α} (h : (names es).Nodup) (k : String) :
    (names (remove es k)).Nodup := by
  rw [names_remove]
  exact h.erase k

end Entries
end ComponentForm
