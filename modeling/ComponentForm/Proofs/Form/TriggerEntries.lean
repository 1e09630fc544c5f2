import ComponentForm.Proofs.Form.SearchOrder
import ComponentForm.Proofs.Outline.Slots

/-! The entries of a layout that are triggers. An object is one by its members of four names, wherever they
stand and whatever else there is, and a list by its items; action, family and kind are texts, and
parameters are objects or lists of two texts. Everything else in a list of triggers is passed over. -/
namespace ComponentForm

open Document

namespace Trigger

open Outline

theorem Parameter.toOption_readRecord {ms : Members} (hnames : (Entries.names ms).Nodup) (name : String) :
    (readRecord name Parameter.fields {} (ofDocument (.object ms))).toOption =
      (slot? ms "key" readString).bind fun key => (slot? ms "path" readString).map fun path => ⟨key, path⟩ := by
  rw [Outline.toOption_readRecord apart_fields (by decide) hnames, Parameter.fields, List.foldl_cons,
    takeFrom?_slot rfl, foldl_takeFrom?, Option.bind_map]
  refine Option.bind_congr fun key _ => ?_
  rw [Function.comp_apply, List.foldl_cons, List.foldl_nil, takeFrom?_slot (by cases key <;> rfl)]
  refine congrArg (fun f => Option.map f _) (funext fun path => ?_)
  cases key <;> cases path <;> rfl

/-- The document says the parameter: in members of these names, or as a list of the two texts. -/
inductive Parameter.Says : Document → Parameter → Prop
  | object {ms : Members} {key path : String} (hkey : Entries.value? ms "key" = some (.string key))
      (hpath : Entries.value? ms "path" = some (.string path)) : Says (.object ms) ⟨key, path⟩
  | array (key path : String) : Says (.array [.string key, .string path]) ⟨key, path⟩

theorem Parameter.read_eq_some_iff_record {o : Outline} {p : Parameter} :
    (Parameter.read o).toOption = some p ↔
      (readRecord "struct TriggerParameter" Parameter.fields {} o).toOption =
        some ⟨some p.key, some p.path⟩ := by
  rw [Parameter.read, toOption_bind]
  constructor
  · intro h
    obtain ⟨⟨key, path⟩, hdraft, h⟩ := Option.bind_eq_some_iff.mp h
    cases key with
    | none => cases h
    | some key =>
      cases path with
      | none => cases h
      | some path =>
        cases h
        exact hdraft
  · intro h
    rw [h]
    rfl

theorem Parameter.read_object_eq_some_iff {ms : Members} (hnames : (Entries.names ms).Nodup)
    {p : Parameter} :
    (Parameter.read (ofDocument (.object ms))).toOption = some p ↔
      Entries.value? ms "key" = some (.string p.key) ∧
        Entries.value? ms "path" = some (.string p.path) := by
  rw [read_eq_some_iff_record, Parameter.toOption_readRecord hnames, ← slot?_string_eq_some_iff,
    ← slot?_string_eq_some_iff]
  constructor
  · intro h
    obtain ⟨key, hkey, h⟩ := Option.bind_eq_some_iff.mp h
    obtain ⟨path, hpath, h⟩ := Option.map_eq_some_iff.mp h
    cases h
    exact ⟨hkey, hpath⟩
  · rintro ⟨hkey, hpath⟩
    rw [hkey, hpath]
    rfl

theorem Parameter.read_array_eq_some_iff {xs : List Document} {p : Parameter} :
    (Parameter.read (ofDocument (.array xs))).toOption = some p ↔
      xs = [.string p.key, .string p.path] := by
  rw [read_eq_some_iff_record]
  constructor
  · intro h
    rcases xs with _ | ⟨x, xs⟩
    · cases h
    obtain ⟨key, hkey, h⟩ := readColumns_cons_of_slot.mp h
    rcases xs with _ | ⟨y, xs⟩
    · cases h
    obtain ⟨path, hpath, h⟩ := readColumns_cons_of_slot.mp h
    rcases xs with _ | ⟨z, xs⟩
    · cases h
      rw [toOption_readString, asString?_eq_some_iff] at hkey hpath
      rw [hkey, hpath]
    · cases h
  · rintro rfl
    rfl

theorem Parameter.read_eq_some_iff {d : Document} (h : d.Distinct) {p : Parameter} :
    (Parameter.read (ofDocument d)).toOption = some p ↔ Says d p := by
  cases d with
  | object ms =>
    rw [read_object_eq_some_iff (distinct_object.mp h).1]
    constructor
    · rintro ⟨hkey, hpath⟩
      exact .object hkey hpath
    · rintro ⟨hkey, hpath⟩
      exact ⟨hkey, hpath⟩
  | array xs =>
    rw [read_array_eq_some_iff]
    constructor
    · rintro rfl
      exact .array p.key p.path
    · rintro ⟨⟩
      rfl
  | _ =>
    simp only [read_eq_some_iff_record, ofDocument, readRecord, toOption_refuse]
    exact iff_of_false (by simp) (by rintro ⟨⟩)

/-- No document stands for no parameters, and a list for those that its items say. -/
inductive Parameter.SaysAll : Option Document → List Parameter → Prop
  | none : SaysAll none []
  | some {xs : List Document} {ps : List Parameter} (h : List.Forall₂ Says xs ps) :
      SaysAll (some (.array xs)) ps

/-- The document says the trigger: in members of these names, or as a list of their values. Kinds are said by
their names, and the parameters may be left out. -/
inductive Says : Document → Trigger → Prop
  | object {ms : Members} {action family kind : String} {ps : List Parameter}
      (haction : Entries.value? ms "action" = some (.string action))
      (hfamily : Entries.value? ms "family" = some (.string family))
      (hkind : Entries.value? ms "type" = some (.string kind))
      (hps : Parameter.SaysAll (Entries.value? ms "parameters") ps) :
      Says (.object ms) ⟨action, family, .ofName kind, ps⟩
  | array (action family kind : String) {parameters : Option Document} {ps : List Parameter}
      (hps : Parameter.SaysAll parameters ps) :
      Says (.array ([.string action, .string family, .string kind] ++ parameters.toList))
        ⟨action, family, .ofName kind, ps⟩

theorem toOption_readRecord {ms : Members} (hnames : (Entries.names ms).Nodup) (name : String) :
    (readRecord name Trigger.fields {} (ofDocument (.object ms))).toOption =
      (slot? ms "action" readString).bind fun action => (slot? ms "family" readString).bind fun family =>
        (slot? ms "type" Kind.read).bind fun kind =>
          (slot? ms "parameters" (readList Parameter.read)).map fun ps => ⟨action, family, kind, ps⟩ := by
  rw [Outline.toOption_readRecord apart_fields (by decide) hnames, Trigger.fields, List.foldl_cons,
    takeFrom?_slot rfl, foldl_takeFrom?, Option.bind_map]
  refine Option.bind_congr fun action _ => ?_
  rw [Function.comp_apply, List.foldl_cons, takeFrom?_slot (by cases action <;> rfl), foldl_takeFrom?,
    Option.bind_map]
  refine Option.bind_congr fun family _ => ?_
  rw [Function.comp_apply, List.foldl_cons,
    takeFrom?_slot (by cases action <;> cases family <;> rfl), foldl_takeFrom?, Option.bind_map]
  refine Option.bind_congr fun kind _ => ?_
  rw [Function.comp_apply, List.foldl_cons, List.foldl_nil,
    takeFrom?_slot (by cases action <;> cases family <;> cases kind <;> rfl)]
  refine congrArg (fun f => Option.map f _) (funext fun ps => ?_)
  cases action <;> cases family <;> cases kind <;> cases ps <;> rfl

theorem Kind.read_eq_some_iff {d : Document} {k : Kind} :
    (Kind.read (ofDocument d)).toOption = some k ↔ ∃ s, d = .string s ∧ ofName s = k := by
  rw [Kind.read, toOption_map, toOption_readString, Option.map_eq_some_iff]
  simp only [asString?_eq_some_iff]

theorem slot?_kind_eq_some_iff {ms : Members} {name : String} {k : Kind} :
    slot? ms name Kind.read = some (some k) ↔
      ∃ s, Entries.value? ms name = some (.string s) ∧ .ofName s = k := by
  simp only [slot?_eq_some_iff, Kind.read_eq_some_iff]
  constructor
  · rintro ⟨-, hv, s, rfl, hs⟩
    exact ⟨s, hv, hs⟩
  · rintro ⟨s, hv, hs⟩
    exact ⟨.string s, hv, s, rfl, hs⟩

theorem Parameter.forall₂_said {xs : List Document} (h : ∀ x ∈ xs, x.Distinct) {ps : List Parameter} :
    List.Forall₂ (fun x p => (Parameter.read (ofDocument x)).toOption = some p) xs ps ↔
      List.Forall₂ Says xs ps := by
  induction xs generalizing ps with
  | nil => rw [List.forall₂_nil_left_iff, List.forall₂_nil_left_iff]
  | cons x xs ih =>
    rw [List.forall_mem_cons] at h
    simp only [List.forall₂_cons_left_iff, read_eq_some_iff h.1, ih h.2]

theorem Parameter.readAll_eq_some_iff {d : Document} (h : d.Distinct) {ps : List Parameter} :
    (readList Parameter.read (ofDocument d)).toOption = some ps ↔ SaysAll (some d) ps := by
  rw [readList_eq_some_iff]
  constructor
  · rintro ⟨xs, rfl, hread⟩
    exact .some ((forall₂_said (distinct_array.mp h)).mp hread)
  · rintro ⟨⟩
    next xs hsaid => exact ⟨xs, rfl, (forall₂_said (distinct_array.mp h)).mpr hsaid⟩

theorem slot?_parameters_eq_some_iff {ms : Members} (h : (Document.object ms).Distinct) {ps : List Parameter} :
    (∃ held, slot? ms "parameters" (readList Parameter.read) = some held ∧ held.getD [] = ps) ↔
      Parameter.SaysAll (Entries.value? ms "parameters") ps := by
  rw [slot?]
  cases hv : Entries.value? ms "parameters" with
  | none =>
    constructor
    · rintro ⟨held, hheld, rfl⟩
      cases hheld
      exact .none
    · rintro ⟨⟩
      exact ⟨none, rfl, rfl⟩
  | some v =>
    rw [← Parameter.readAll_eq_some_iff (h.value hv)]
    constructor
    · rintro ⟨held, hheld, rfl⟩
      obtain ⟨ps, hps, rfl⟩ := Option.map_eq_some_iff.mp hheld
      exact hps
    · intro hps
      exact ⟨some ps, congrArg (Option.map some) hps, rfl⟩

theorem ofDocument?_eq_some_iff_record {d : Document} {t : Trigger} :
    ofDocument? d = some t ↔
      ∃ held, (readRecord "struct TriggerDefinition" Trigger.fields {} (ofDocument d)).toOption =
        some ⟨some t.action, some t.family, some t.kind, held⟩ ∧ held.getD [] = t.parameters := by
  rw [ofDocument?, Trigger.read, toOption_bind]
  constructor
  · intro h
    obtain ⟨⟨action, family, kind, held⟩, hdraft, h⟩ := Option.bind_eq_some_iff.mp h
    cases action with
    | none => cases h
    | some action =>
      cases family with
      | none => cases h
      | some family =>
        cases kind with
        | none => cases h
        | some kind =>
          cases h
          exact ⟨held, hdraft, rfl⟩
  · rintro ⟨held, hdraft, hheld⟩
    rw [hdraft]
    exact congrArg (fun ps => some (Trigger.mk t.action t.family t.kind ps)) hheld

theorem ofDocument?_object_eq_some_iff {ms : Members} (h : (Document.object ms).Distinct) {t : Trigger} :
    ofDocument? (.object ms) = some t ↔
      Entries.value? ms "action" = some (.string t.action) ∧
      Entries.value? ms "family" = some (.string t.family) ∧
      (∃ s, Entries.value? ms "type" = some (.string s) ∧ .ofName s = t.kind) ∧
      Parameter.SaysAll (Entries.value? ms "parameters") t.parameters := by
  rw [ofDocument?_eq_some_iff_record, toOption_readRecord (distinct_object.mp h).1,
    ← slot?_string_eq_some_iff, ← slot?_string_eq_some_iff, ← slot?_kind_eq_some_iff,
    ← slot?_parameters_eq_some_iff h]
  constructor
  · rintro ⟨held, hdraft, hheld⟩
    obtain ⟨action, haction, hdraft⟩ := Option.bind_eq_some_iff.mp hdraft
    obtain ⟨family, hfamily, hdraft⟩ := Option.bind_eq_some_iff.mp hdraft
    obtain ⟨kind, hkind, hdraft⟩ := Option.bind_eq_some_iff.mp hdraft
    obtain ⟨ps, hps, hdraft⟩ := Option.map_eq_some_iff.mp hdraft
    cases hdraft
    exact ⟨haction, hfamily, hkind, held, hps, hheld⟩
  · rintro ⟨haction, hfamily, hkind, held, hps, hheld⟩
    refine ⟨held, ?_, hheld⟩
    rw [haction, hfamily, hkind, hps]
    rfl

theorem ofDocument?_array_eq_some_iff {xs : List Document} (h : (Document.array xs).Distinct) {t : Trigger} :
    ofDocument? (.array xs) = some t ↔
      ∃ s parameters, xs = [.string t.action, .string t.family, .string s] ++ Option.toList parameters ∧
        .ofName s = t.kind ∧ Parameter.SaysAll parameters t.parameters := by
  obtain ⟨action, family, kind, ps⟩ := t
  rw [ofDocument?_eq_some_iff_record]
  constructor
  · rintro ⟨held, hdraft, hheld⟩
    rcases xs with _ | ⟨x, xs⟩
    · cases hdraft
    obtain ⟨action, haction, hdraft⟩ := readColumns_cons_of_slot.mp hdraft
    rcases xs with _ | ⟨y, xs⟩
    · cases hdraft
    obtain ⟨family, hfamily, hdraft⟩ := readColumns_cons_of_slot.mp hdraft
    rcases xs with _ | ⟨z, xs⟩
    · cases hdraft
    obtain ⟨kind, hkind, hdraft⟩ := readColumns_cons_of_slot.mp hdraft
    rw [toOption_readString, asString?_eq_some_iff] at haction hfamily
    obtain ⟨s, htype, hs⟩ := Kind.read_eq_some_iff.mp hkind
    rcases xs with _ | ⟨parameters, xs⟩
    · cases hdraft
      cases hheld
      exact ⟨s, none, by rw [haction, hfamily, htype]; rfl, hs, .none⟩
    obtain ⟨ps, hps, hdraft⟩ := readColumns_cons_of_slot.mp hdraft
    rcases xs with _ | ⟨last, xs⟩
    · cases hdraft
      cases hheld
      refine ⟨s, some parameters, by rw [haction, hfamily, htype]; rfl, hs, ?_⟩
      exact (Parameter.readAll_eq_some_iff (distinct_array.mp h parameters (by simp))).mp hps
    · cases hdraft
  · rintro ⟨s, parameters, rfl, rfl, hps⟩
    cases parameters with
    | none =>
      cases hps
      exact ⟨none, rfl, rfl⟩
    | some parameters =>
      have hread := (Parameter.readAll_eq_some_iff (distinct_array.mp h parameters (by simp))).mpr hps
      refine ⟨some ps, ?_, rfl⟩
      exact readColumns_cons_of_slot.mpr ⟨action, rfl, readColumns_cons_of_slot.mpr ⟨family, rfl,
        readColumns_cons_of_slot.mpr ⟨.ofName s, rfl, readColumns_cons_of_slot.mpr ⟨ps, hread, rfl⟩⟩⟩⟩

theorem ofDocument?_eq_some_iff {d : Document} (h : d.Distinct) {t : Trigger} :
    ofDocument? d = some t ↔ Says d t := by
  obtain ⟨action, family, kind, ps⟩ := t
  cases d with
  | object ms =>
    rw [ofDocument?_object_eq_some_iff h]
    constructor
    · rintro ⟨haction, hfamily, ⟨s, hs, rfl⟩, hps⟩
      exact .object haction hfamily hs hps
    · rintro ⟨haction, hfamily, hkind, hps⟩
      exact ⟨haction, hfamily, ⟨_, hkind, rfl⟩, hps⟩
  | array xs =>
    rw [ofDocument?_array_eq_some_iff h]
    constructor
    · rintro ⟨s, parameters, rfl, rfl, hps⟩
      exact .array action family s hps
    · rintro ⟨⟩
      next s parameters hps => exact ⟨s, parameters, rfl, rfl, hps⟩
  | _ =>
    simp only [ofDocument?_eq_some_iff_record, ofDocument, readRecord, toOption_refuse]
    exact iff_of_false (by simp) (by rintro ⟨⟩)

/-- The triggers are those that the documents say, in their order. -/
inductive Picked : List Document → List Trigger → Prop
  | nil : Picked [] []
  | said {d : Document} {ds : List Document} {t : Trigger} {ts : List Trigger} (hd : Says d t)
      (hds : Picked ds ts) : Picked (d :: ds) (t :: ts)
  | unsaid {d : Document} {ds : List Document} {ts : List Trigger} (hd : ∀ t, ¬ Says d t)
      (hds : Picked ds ts) : Picked (d :: ds) ts

theorem picked_filterMap {ds : List Document} (h : ∀ d ∈ ds, d.Distinct) :
    Picked ds (ds.filterMap ofDocument?) := by
  induction ds with
  | nil => exact .nil
  | cons d ds ih =>
    rw [List.forall_mem_cons] at h
    rw [List.filterMap_cons]
    cases hd : ofDocument? d with
    | none =>
      refine .unsaid (fun t ht => ?_) (ih h.2)
      rw [(ofDocument?_eq_some_iff h.1).mpr ht] at hd
      cases hd
    | some t => exact .said ((ofDocument?_eq_some_iff h.1).mp hd) (ih h.2)

end Trigger

namespace Form

theorem Declares.picked {ms : Members} {triggers : List Trigger} {entries : List Document}
    (h : Declares ms triggers) (hms : (Document.object ms).Distinct)
    (hentries : Entries.value? ms "triggers" = some (.array entries)) : Trigger.Picked entries triggers := by
  rw [h.1 entries hentries]
  exact Trigger.picked_filterMap (distinct_array.mp (hms.value hentries))

theorem distinct_of_element? {f : Form} (h : f.layout.Distinct) {field : String} {ms : Members}
    (hms : f.element? field = some ms) : (Document.object ms).Distinct := by
  rw [element?, Document.element?_eq, Option.map_eq_some_iff] at hms
  obtain ⟨c, hc, rfl⟩ := hms
  obtain ⟨-, before, after, hsplit, -⟩ := firstElement?_eq_some_iff.mp hc
  have hmem : c ∈ candidates f.layout := by
    rw [hsplit]
    exact List.mem_append_right before List.mem_cons_self
  exact h.objectAt? (objectAt?_of_mem_candidates f.layout hmem)

/-- The triggers of a field are those that the entries of its element say. -/
theorem picked_triggers {f : Form} (h : f.layout.Distinct) {field : String} {ms : Members}
    {entries : List Document} (hms : f.element? field = some ms)
    (hentries : Entries.value? ms "triggers" = some (.array entries)) :
    Trigger.Picked entries (f.triggers field) :=
  (declares_triggers hms).picked (distinct_of_element? h hms) hentries

end Form
end ComponentForm
