import ComponentForm.Proofs.Document.Distinct

/-! Documents read from their own outlines. The reader gives back every document without repeated names,
members in their order. -/
namespace ComponentForm

namespace Entries

variable {α : Type u} {k : String}

theorem not_mem_names_of_nodup {front back : Entries α} {v : α}
    (h : (names (front ++ (k, v) :: back)).Nodup) : k ∉ names front := by
  rw [names, List.map_append, List.map_cons] at h
  exact fun hk => (List.nodup_append.mp h).2.2 k hk k List.mem_cons_self rfl

end Entries

namespace Outline

open Document

mutual
theorem readDocument_ofDocument {d : Document} (h : d.Distinct) :
    readDocument (ofDocument d) = .ok d := by
  cases d with
  | array xs =>
    rw [Distinct] at h
    rw [ofDocument, readDocument, readDocuments_ofItems h]
  | object ms =>
    rw [Distinct] at h
    have hread : readMembers .closed (ofMembers ms) [] = .ok ms := readMembers_ofMembers h.2 h.1
    rw [ofDocument, readDocument, hread]
  | null => rfl
  | bool v => rfl
  | number n => rfl
  | string s => rfl

theorem readDocuments_ofItems {xs : List Document} (h : DistinctItems xs) :
    readDocuments .closed (ofItems xs) = .ok xs := by
  cases xs with
  | nil => rfl
  | cons x xs =>
    rw [DistinctItems] at h
    simp only [ofItems, readDocuments, readDocument_ofDocument h.1, readDocuments_ofItems h.2]

/-- Members whose names are new are taken up behind those that were read before. -/
theorem readMembers_ofMembers {ms acc : List (String × Document)} (h : DistinctMembers ms)
    (hnames : (Entries.names (acc ++ ms)).Nodup) :
    readMembers .closed (ofMembers ms) acc = .ok (acc ++ ms) := by
  cases ms with
  | nil => rw [List.append_nil]; rfl
  | cons e ms =>
    obtain ⟨k, v⟩ := e
    rw [DistinctMembers] at h
    have hk : k ∉ Entries.names acc := Entries.not_mem_names_of_nodup hnames
    have hsplit : acc ++ (k, v) :: ms = acc ++ [(k, v)] ++ ms := by simp
    rw [hsplit] at hnames ⊢
    simp only [ofMembers, readMembers, readDocument_ofDocument h.1,
      Entries.put_of_not_mem_names hk, readMembers_ofMembers h.2 hnames]
end

section Records
variable {δ : Type} {fields : List (RecordField δ)} {other : δ → String → Outline → Reading δ}
  {closing : Closing} {draft draft' : δ} {k : String} {o : Outline}

theorem readFields_cons_of_field {f : RecordField δ} (hfind : fields.find? (·.name = k) = some f)
    (hheld : f.held draft = false) (hread : f.read draft o = .ok draft')
    (rest : List (Except Fault String × Outline)) :
    readFields fields other closing draft ((.ok k, o) :: rest) =
      readFields fields other closing draft' rest := by
  rw [readFields]
  simp only [hfind, hheld, hread, Bool.false_eq_true, if_false]

theorem readFields_cons_of_other (hfind : fields.find? (·.name = k) = none)
    (hother : other draft k o = .ok draft') (rest : List (Except Fault String × Outline)) :
    readFields fields other closing draft ((.ok k, o) :: rest) =
      readFields fields other closing draft' rest := by
  rw [readFields]
  simp only [hfind, hother]

end Records

end Outline
end ComponentForm
