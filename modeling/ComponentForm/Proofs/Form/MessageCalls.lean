import ComponentForm.Proofs.Form.Independence
import Mathlib.Data.List.Induction
import Mathlib.Data.List.Nodup

/-! Messages that are set and cleared, over and over. The last call for a field decides what message it
has. Fields that had one at the start and were never cleared keep their places; all others stand behind
them, in the order of the calls that brought them in last. -/
namespace ComponentForm

namespace Form

inductive MessageCall
  | set (field message : String)
  | clear (field : String)
deriving DecidableEq

namespace MessageCall

def field : MessageCall → String
  | .set field _ => field
  | .clear field => field

/-- The message that the field has after the call. -/
def message? : MessageCall → Option String
  | .set _ message => some message
  | .clear _ => none

end MessageCall

def afterCall (f : Form) : MessageCall → Form
  | .set field message => f.setMessage field message
  | .clear field => (f.clearMessage field).2

def afterCalls (f : Form) (calls : List MessageCall) : Form :=
  calls.foldl afterCall f

@[simp] theorem afterCalls_nil (f : Form) : f.afterCalls [] = f := rfl

@[simp] theorem afterCalls_concat (f : Form) (calls : List MessageCall) (c : MessageCall) :
    f.afterCalls (calls ++ [c]) = (f.afterCalls calls).afterCall c := by
  simp [afterCalls]

section Call
variable (f : Form) (field message : String)

theorem message?_eq_value? :
    f.message? field = (f.messageMembers.value? field).bind Document.asString? := by
  rw [message?, messageMembers]
  cases f.messages with
  | none => rfl
  | some d => cases d <;> rfl

theorem clearMessage_eq :
    f.clearMessage field =
      (f.messageMembers.has field, { f with messages := f.messages.map (withoutMessage field) }) := by
  have habsorb := absorb_checked_ok f field none
  simp only [absorb, Prod.mk.injEq, Except.ok.injEq] at habsorb
  exact Prod.ext habsorb.1 habsorb.2

theorem messageMembers_set :
    (f.afterCall (.set field message)).messageMembers = f.messageMembers.put field (.string message) :=
  rfl

theorem messageMembers_clear :
    (f.afterCall (.clear field)).messageMembers = f.messageMembers.remove field := by
  rw [afterCall, clearMessage_eq, messageMembers_withoutMessage]

theorem clearMessage_fst_iff :
    (f.clearMessage field).1 = true ↔
      ∃ ms : Members, f.messages = some (.object ms) ∧ ms.has field = true := by
  rw [clearMessage_eq, messageMembers]
  cases f.messages with
  | none => simp [Entries.has]
  | some d => cases d <;> simp [Entries.has]

end Call

section Step
variable {f : Form} (hf : f.messageMembers.names.Nodup) (c : MessageCall)
include hf

theorem nodup_afterCall : (f.afterCall c).messageMembers.names.Nodup := by
  cases c with
  | set field message => exact Entries.nodup_names_put hf field _
  | clear field =>
    rw [messageMembers_clear]
    exact Entries.nodup_names_remove hf field

/-- A call decides what message its own field has, and no other. -/
theorem value?_afterCall (k : String) :
    (f.afterCall c).messageMembers.value? k =
      if c.field = k then c.message?.map .string else f.messageMembers.value? k := by
  by_cases hk : c.field = k
  · subst hk
    rw [if_pos rfl]
    cases c with
    | set field message =>
      rw [messageMembers_set]
      exact Entries.value?_put_self _ field _
    | clear field =>
      rw [messageMembers_clear]
      exact Entries.value?_remove_self hf field
  · rw [if_neg hk]
    cases c with
    | set field message =>
      rw [messageMembers_set]
      exact Entries.value?_put_of_ne _ _ hk
    | clear field =>
      rw [messageMembers_clear]
      exact Entries.value?_remove_of_ne _ hk

end Step

def lastCall? (field : String) (calls : List MessageCall) : Option MessageCall :=
  calls.reverse.find? fun c => c.field = field

theorem lastCall?_concat (field : String) (calls : List MessageCall) (c : MessageCall) :
    lastCall? field (calls ++ [c]) = if c.field = field then some c else lastCall? field calls := by
  by_cases hc : c.field = field <;> simp [lastCall?, hc]

section Run
variable {f : Form} (hf : f.messageMembers.names.Nodup)
include hf

theorem nodup_afterCalls (calls : List MessageCall) :
    (f.afterCalls calls).messageMembers.names.Nodup := by
  induction calls using List.reverseRecOn with
  | nil => exact hf
  | append_singleton calls c ih =>
    rw [afterCalls_concat]
    exact nodup_afterCall ih c

theorem value?_afterCalls (calls : List MessageCall) (k : String) :
    (f.afterCalls calls).messageMembers.value? k =
      ((lastCall? k calls).map fun c => c.message?.map .string).getD (f.messageMembers.value? k) := by
  induction calls using List.reverseRecOn with
  | nil => rfl
  | append_singleton calls c ih =>
    rw [afterCalls_concat, value?_afterCall (nodup_afterCalls hf calls), lastCall?_concat]
    by_cases hk : c.field = k <;> simp [hk, ih]

theorem message?_afterCalls (calls : List MessageCall) (k : String) :
    (f.afterCalls calls).message? k =
      ((lastCall? k calls).map MessageCall.message?).getD (f.message? k) := by
  rw [message?_eq_value?, message?_eq_value?, value?_afterCalls hf]
  cases lastCall? k calls with
  | none => rfl
  | some c => cases c <;> rfl

theorem has_afterCalls (calls : List MessageCall) (k : String) :
    (f.afterCalls calls).messageMembers.has k =
      ((lastCall? k calls).map (·.message?.isSome)).getD (f.messageMembers.has k) := by
  rw [Entries.has, Entries.has, value?_afterCalls hf]
  cases lastCall? k calls with
  | none => rfl
  | some c => cases c <;> rfl

end Run

/-- A call with a place among the others brings the field in: it sets a message where there was none. -/
def BringsIn (f : Form) (calls : List MessageCall) (k : String) (i : Nat) : Prop :=
  ∃ message, calls[i]? = some (.set k message) ∧
    (f.afterCalls (calls.take i)).messageMembers.has k = false

def BringsInLast (f : Form) (calls : List MessageCall) (k : String) (i : Nat) : Prop :=
  BringsIn f calls k i ∧ ∀ j, BringsIn f calls k j → j ≤ i

def uncleared (f : Form) (calls : List MessageCall) : List String :=
  f.messageMembers.names.filter fun k => .clear k ∉ calls

/-- The invariant of all calls: behind the fields that were never cleared stand those that were brought
in, in the order in which that happened last. -/
structure Late (f : Form) (calls : List MessageCall) (late : List String) : Prop where
  names_eq : (f.afterCalls calls).messageMembers.names = f.uncleared calls ++ late
  broughtIn : ∀ k ∈ late, ∃ i, BringsInLast f calls k i
  ordered : late.Pairwise fun a b =>
    ∃ i j, BringsInLast f calls a i ∧ BringsInLast f calls b j ∧ i < j

section Order
variable {f : Form} {calls : List MessageCall} {k : String} {i : Nat}

theorem BringsIn.lt_length (h : BringsIn f calls k i) : i < calls.length := by
  obtain ⟨message, hcall, -⟩ := h
  exact (List.getElem?_eq_some_iff.mp hcall).1

theorem bringsIn_concat {c : MessageCall} :
    BringsIn f (calls ++ [c]) k i ↔ BringsIn f calls k i ∨
      (i = calls.length ∧ ∃ message, c = .set k message ∧
        (f.afterCalls calls).messageMembers.has k = false) := by
  rcases Nat.lt_trichotomy i calls.length with hi | hi | hi
  · have hne : i ≠ calls.length := Nat.ne_of_lt hi
    have htake : (calls ++ [c]).take i = calls.take i := List.take_append_of_le_length (Nat.le_of_lt hi)
    simp [BringsIn, List.getElem?_append_left hi, htake, hne]
  · subst hi
    simp [BringsIn]
  · have hne : i ≠ calls.length := Nat.ne_of_gt hi
    have hnone : ∀ {cs : List MessageCall}, cs.length ≤ i → cs[i]? = none := List.getElem?_eq_none
    have hlength : (calls ++ [c]).length ≤ i := by
      rw [List.length_append, List.length_singleton]
      omega
    simp [BringsIn, hnone hlength, hnone (Nat.le_of_lt hi), hne]

theorem bringsInLast_concat_of_has (c : MessageCall)
    (hk : (f.afterCalls calls).messageMembers.has k = true) :
    BringsInLast f (calls ++ [c]) k i ↔ BringsInLast f calls k i := by
  simp [BringsInLast, bringsIn_concat, hk]

theorem bringsInLast_concat_self (message : String)
    (hk : (f.afterCalls calls).messageMembers.has k = false) :
    BringsInLast f (calls ++ [.set k message]) k calls.length := by
  refine ⟨bringsIn_concat.mpr (.inr ⟨rfl, message, rfl, hk⟩), fun j hj => ?_⟩
  have hlt := hj.lt_length
  rw [List.length_append, List.length_singleton] at hlt
  omega

theorem uncleared_concat_set (message : String) :
    f.uncleared (calls ++ [.set k message]) = f.uncleared calls := by
  simp [uncleared]

theorem uncleared_concat_clear :
    f.uncleared (calls ++ [.clear k]) = (f.uncleared calls).filter (· != k) := by
  rw [uncleared, uncleared, List.filter_filter]
  refine List.filter_congr fun name _ => ?_
  rw [Bool.eq_iff_iff]
  simp [and_comm]

namespace Late

variable {late : List String}

theorem has (h : Late f calls late) (hk : k ∈ late) :
    (f.afterCalls calls).messageMembers.has k = true := by
  rw [Entries.has_iff_mem_names, h.names_eq]
  exact List.mem_append_right _ hk

theorem broughtIn_concat (h : Late f calls late) (c : MessageCall) (hk : k ∈ late) :
    ∃ i, BringsInLast f (calls ++ [c]) k i := by
  obtain ⟨i, hi⟩ := h.broughtIn k hk
  exact ⟨i, (bringsInLast_concat_of_has c (h.has hk)).mpr hi⟩

theorem ordered_concat (h : Late f calls late) (c : MessageCall) :
    late.Pairwise fun a b =>
      ∃ i j, BringsInLast f (calls ++ [c]) a i ∧ BringsInLast f (calls ++ [c]) b j ∧ i < j := by
  refine h.ordered.imp_of_mem fun {a b} ha hb hab => ?_
  obtain ⟨i, j, hi, hj, hij⟩ := hab
  exact ⟨i, j, (bringsInLast_concat_of_has c (h.has ha)).mpr hi,
    (bringsInLast_concat_of_has c (h.has hb)).mpr hj, hij⟩

theorem set_of_has (h : Late f calls late) (message : String)
    (hk : (f.afterCalls calls).messageMembers.has k = true) :
    Late f (calls ++ [.set k message]) late where
  names_eq := by
    rw [afterCalls_concat, messageMembers_set, Entries.names_put, if_pos hk, uncleared_concat_set,
      h.names_eq]
  broughtIn _ hmem := h.broughtIn_concat _ hmem
  ordered := h.ordered_concat _

theorem set_of_not_has (h : Late f calls late) (message : String)
    (hk : (f.afterCalls calls).messageMembers.has k = false) :
    Late f (calls ++ [.set k message]) (late ++ [k]) where
  names_eq := by
    rw [afterCalls_concat, messageMembers_set, Entries.names_put, if_neg (Bool.eq_false_iff.mp hk),
      uncleared_concat_set, h.names_eq, List.append_assoc]
  broughtIn a ha := by
    rcases List.mem_append.mp ha with ha | ha
    · exact h.broughtIn_concat _ ha
    · obtain rfl : a = k := List.mem_singleton.mp ha
      exact ⟨_, bringsInLast_concat_self message hk⟩
  ordered := by
    rw [List.pairwise_append]
    refine ⟨h.ordered_concat _, List.pairwise_singleton _ k, fun a ha b hb => ?_⟩
    obtain rfl : b = k := List.mem_singleton.mp hb
    obtain ⟨i, hi⟩ := h.broughtIn a ha
    exact ⟨i, calls.length, (bringsInLast_concat_of_has _ (h.has ha)).mpr hi,
      bringsInLast_concat_self message hk, hi.1.lt_length⟩

theorem clear (h : Late f calls late) (hnames : (f.afterCalls calls).messageMembers.names.Nodup)
    (k : String) : Late f (calls ++ [.clear k]) (late.filter (· != k)) where
  names_eq := by
    rw [afterCalls_concat, messageMembers_clear, Entries.names_remove,
      hnames.erase_eq_filter, h.names_eq, List.filter_append, uncleared_concat_clear]
  broughtIn _ ha := h.broughtIn_concat _ (List.mem_of_mem_filter ha)
  ordered := (h.ordered_concat _).filter _

end Late

theorem exists_late (hf : f.messageMembers.names.Nodup) (calls : List MessageCall) :
    ∃ late, Late f calls late := by
  induction calls using List.reverseRecOn with
  | nil => exact ⟨[], by simp [uncleared], nofun, .nil⟩
  | append_singleton calls c ih =>
    obtain ⟨late, hlate⟩ := ih
    cases c with
    | set k message =>
      cases hk : (f.afterCalls calls).messageMembers.has k with
      | true => exact ⟨late, hlate.set_of_has message hk⟩
      | false => exact ⟨late ++ [k], hlate.set_of_not_has message hk⟩
    | clear k => exact ⟨_, hlate.clear (nodup_afterCalls hf calls) k⟩

theorem lastCall?_eq_none_iff : lastCall? k calls = none ↔ ∀ c ∈ calls, c.field ≠ k := by
  simp [lastCall?]

theorem field_of_lastCall? {c : MessageCall} (h : lastCall? k calls = some c) : c.field = k := by
  have hfind := List.find?_some h
  simpa using hfind

theorem mem_uncleared_of_no_call (hlast : lastCall? k calls = none)
    (hstart : f.messageMembers.has k = true) : k ∈ f.uncleared calls := by
  have hclear : .clear k ∉ calls := fun hmem => lastCall?_eq_none_iff.mp hlast _ hmem rfl
  rw [Entries.has_iff_mem_names] at hstart
  simp [uncleared, hclear, hstart]

theorem Late.mem_iff {late : List String} (h : Late f calls late) (hf : f.messageMembers.names.Nodup) :
    k ∈ late ↔ k ∉ f.uncleared calls ∧ ∃ message, lastCall? k calls = some (.set k message) := by
  have hnames := nodup_afterCalls hf calls
  have hhas := has_afterCalls hf calls k
  rw [h.names_eq, List.nodup_append] at hnames
  constructor
  · intro hk
    have hnot : k ∉ f.uncleared calls := fun hkept => hnames.2.2 k hkept k hk rfl
    rw [h.has hk] at hhas
    refine ⟨hnot, ?_⟩
    cases hlast : lastCall? k calls with
    | none =>
      have hstart : f.messageMembers.has k = true := by simpa [hlast] using hhas.symm
      exact absurd (mem_uncleared_of_no_call hlast hstart) hnot
    | some c =>
      cases c with
      | set field message =>
        obtain rfl : field = k := field_of_lastCall? hlast
        exact ⟨message, rfl⟩
      | clear field => simp [hlast, MessageCall.message?] at hhas
  · rintro ⟨hnot, message, hlast⟩
    have hthere : (f.afterCalls calls).messageMembers.has k = true := by
      simpa [hlast, MessageCall.message?] using hhas
    rw [Entries.has_iff_mem_names, h.names_eq] at hthere
    exact (List.mem_append.mp hthere).resolve_left hnot

theorem exists_messages_of_set {message : String} (h : .set k message ∈ calls) :
    ∃ ms, (f.afterCalls calls).messages = some (.object ms) := by
  induction calls using List.reverseRecOn with
  | nil => cases h
  | append_singleton calls c ih =>
    rw [afterCalls_concat]
    cases c with
    | set field message => exact ⟨_, rfl⟩
    | clear field =>
      have hmem : .set k message ∈ calls := by simpa using h
      obtain ⟨ms, hms⟩ := ih hmem
      rw [afterCall, clearMessage_eq, hms]
      exact ⟨_, rfl⟩

end Order

/-- Whatever messages are set and cleared, the last call for a field decides what message it has, and
where there was none the first message stays. A message is cleared exactly where an object holds one. Once
a message was set there is such an object: the fields that it held at the start and that no call cleared
come first, in their old order, and behind them all others, in the order in which calls brought them in
last. The messages at the start are those of an object that names no field twice. -/
theorem messages_follow_calls {f : Form} (hf : f.messageMembers.names.Nodup)
    (calls : List MessageCall) :
    (∀ k, (f.afterCalls calls).message? k =
      match lastCall? k calls with
      | some (.set _ message) => some message
      | some (.clear _) => none
      | none => f.message? k) ∧
    (∀ before k after, calls = before ++ .clear k :: after →
      (((f.afterCalls before).clearMessage k).1 = true ↔ ∃ ms : Members,
        (f.afterCalls before).messages = some (.object ms) ∧ ms.has k = true)) ∧
    ((∃ k message, .set k message ∈ calls) → ∃ (ms : Members) (late : List String),
      (f.afterCalls calls).messages = some (.object ms) ∧
      ms.names = f.messageMembers.names.filter (fun k => .clear k ∉ calls) ++ late ∧
      (∀ k, k ∈ late ↔ k ∉ f.messageMembers.names.filter (fun k => .clear k ∉ calls) ∧
        ∃ message, lastCall? k calls = some (.set k message)) ∧
      (∀ k ∈ late, ∃ i, BringsInLast f calls k i) ∧
      late.Pairwise fun a b =>
        ∃ i j, BringsInLast f calls a i ∧ BringsInLast f calls b j ∧ i < j) := by
  refine ⟨fun k => ?_, fun before k after _ => ?_, fun hset => ?_⟩
  · rw [message?_afterCalls hf]
    cases lastCall? k calls with
    | none => rfl
    | some c => cases c <;> rfl
  · exact clearMessage_fst_iff (f.afterCalls before) k
  · obtain ⟨k, message, hmem⟩ := hset
    obtain ⟨ms, hms⟩ := exists_messages_of_set (f := f) hmem
    obtain ⟨late, hlate⟩ := exists_late hf calls
    have hmembers : (f.afterCalls calls).messageMembers = ms := by rw [messageMembers, hms]
    have hnames := hlate.names_eq
    rw [hmembers] at hnames
    exact ⟨ms, late, hms, hnames, fun k => hlate.mem_iff hf, hlate.broughtIn, hlate.ordered⟩

/-- A message that is cleared and set again comes back behind one that was set in the meantime; one that
is only set again stays, whatever stood in its place. -/
theorem cleared_message_comes_back_last :
    let f : Form := { (default : Form) with
      messages := some (.object [("a", .string "x"), ("b", .null), ("c", .bool true)]) }
    let calls : List MessageCall := [.clear "a", .set "d" "1", .set "b" "2", .clear "e", .set "a" "3"]
    f.messageMembers.names.Nodup ∧
      (∀ k, (f.afterCalls calls).message? k =
        match lastCall? k calls with
        | some (.set _ message) => some message
        | some (.clear _) => none
        | none => f.message? k) ∧
      (f.afterCalls calls).messageMembers.names = ["b", "c", "d", "a"] := by
  intro f calls
  have hf : f.messageMembers.names.Nodup := by decide
  exact ⟨hf, (messages_follow_calls hf calls).1, rfl⟩

end Form
end ComponentForm
