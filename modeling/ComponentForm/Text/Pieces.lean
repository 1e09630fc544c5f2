/-! Texts cut at a separator. Cutting and joining are inverse, and a cut never loses a character:
a text with n separators has n + 1 pieces, empty ones included. -/
namespace ComponentForm.Text

/-- The pieces between the separators. -/
def pieces (sep : Char) : List Char → List (List Char)
  | [] => [[]]
  | c :: cs =>
    if c = sep then [] :: pieces sep cs
    else match pieces sep cs with
      | [] => [[c]]
      | p :: ps => (c :: p) :: ps

def joined (sep : Char) : List (List Char) → List Char
  | [] => []
  | [p] => p
  | p :: ps => p ++ sep :: joined sep ps

theorem pieces_ne_nil (sep : Char) (cs : List Char) : pieces sep cs ≠ [] := by
  cases cs with
  | nil => simp [pieces]
  | cons c cs =>
    simp only [pieces]
    split
    · simp
    · split <;> simp

theorem joined_pieces (sep : Char) (cs : List Char) : joined sep (pieces sep cs) = cs := by
  induction cs with
  | nil => rfl
  | cons c cs ih =>
    simp only [pieces]
    cases h : pieces sep cs with
    | nil => exact absurd h (pieces_ne_nil sep cs)
    | cons p ps =>
      rw [h] at ih
      split
      · next hc => simp [joined, ih, hc]
      · cases ps with
        | nil => simpa [joined] using ih
        | cons q qs => simpa [joined] using ih

theorem pieces_append_sep (sep : Char) (a b : List Char) :
    pieces sep (a ++ sep :: b) = pieces sep a ++ pieces sep b := by
  induction a with
  | nil => simp [pieces]
  | cons c cs ih =>
    simp only [List.cons_append, pieces, ih]
    split
    · simp
    · cases h : pieces sep cs with
      | nil => exact absurd h (pieces_ne_nil sep cs)
      | cons p ps => simp

theorem pieces_of_not_mem {sep : Char} {cs : List Char} (h : sep ∉ cs) : pieces sep cs = [cs] := by
  induction cs with
  | nil => rfl
  | cons c cs ih =>
    have hc : c ≠ sep := fun e => h (e ▸ List.mem_cons_self)
    simp [pieces, hc, ih fun hm => h (List.mem_cons_of_mem c hm)]

theorem not_mem_of_mem_pieces {sep : Char} {cs p : List Char} (h : p ∈ pieces sep cs) : sep ∉ p := by
  induction cs generalizing p with
  | nil =>
    rw [pieces, List.mem_singleton] at h
    simp [h]
  | cons c cs ih =>
    simp only [pieces] at h
    split at h
    · rcases List.mem_cons.mp h with rfl | h
      · exact List.not_mem_nil
      · exact ih h
    · next hc =>
      cases hp : pieces sep cs with
      | nil => exact absurd hp (pieces_ne_nil sep cs)
      | cons q qs =>
        rw [hp] at h ih
        rcases List.mem_cons.mp h with rfl | h
        · simp [Ne.symm hc, ih List.mem_cons_self]
        · exact ih (List.mem_cons_of_mem q h)

theorem pieces_joined {sep : Char} {ps : List (List Char)} (hne : ps ≠ [])
    (hsep : ∀ p ∈ ps, sep ∉ p) : pieces sep (joined sep ps) = ps := by
  induction ps with
  | nil => exact absurd rfl hne
  | cons p ps ih =>
    rw [List.forall_mem_cons] at hsep
    cases ps with
    | nil => exact pieces_of_not_mem hsep.1
    | cons q qs =>
      rw [joined, pieces_append_sep, pieces_of_not_mem hsep.1, ih (List.cons_ne_nil q qs) hsep.2]
      · rfl
      · exact List.cons_ne_nil q qs

def cut (sep : Char) (s : String) : List String :=
  (pieces sep s.toList).map String.ofList

def join (sep : String) : List String → String
  | [] => ""
  | [s] => s
  | s :: rest => s ++ sep ++ join sep rest

theorem toList_join (sep : Char) (ss : List String) :
    (join (String.singleton sep) ss).toList = joined sep (ss.map String.toList) := by
  induction ss with
  | nil => rfl
  | cons s ss ih =>
    cases ss with
    | nil => rfl
    | cons s' ss => simp [join, joined, ih]

theorem join_cut (sep : Char) (s : String) : join (String.singleton sep) (cut sep s) = s := by
  have hlist : (cut sep s).map String.toList = pieces sep s.toList := by
    simp [cut, Function.comp_def]
  rw [← String.toList_inj, toList_join, hlist, joined_pieces]

theorem cut_join {sep : Char} {ss : List String} (hne : ss ≠ []) (hsep : ∀ s ∈ ss, sep ∉ s.toList) :
    cut sep (join (String.singleton sep) ss) = ss := by
  rw [cut, toList_join, pieces_joined]
  · simp [Function.comp_def]
  · simpa using hne
  · simpa using hsep

theorem not_mem_of_mem_cut {sep : Char} {s t : String} (h : t ∈ cut sep s) : sep ∉ t.toList := by
  obtain ⟨p, hp, rfl⟩ := List.mem_map.mp h
  rw [String.toList_ofList]
  exact not_mem_of_mem_pieces hp

end ComponentForm.Text
