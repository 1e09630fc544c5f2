import ComponentForm.Proofs.Since
import ComponentForm.Server.Catalog

/-! What a catalog remembers. It is called again and again, for any ids and with any replies, and keeps
a form from the fetch that brought it until the id is given up. So the requests that it sends and the
forms that it answers with can be read off the earlier calls of the same id. -/
namespace ComponentForm

theorem Url.pushId_eq (u : Url) (id : String) : ∃ path, u.pushId id = { u with path := path } := by
  unfold pushId
  split
  · exact ⟨u.path, rfl⟩
  · split <;> exact ⟨_, rfl⟩

namespace Exchange

theorem carried_pushId (u : Url) (id : String) : carried (u.pushId id) = carried u := by
  obtain ⟨path, h⟩ := u.pushId_eq id
  rw [h, carried, carried]

theorem send_of_carried {u : Url} (h : carried u = true) (net : Network) (method : Method)
    (body : String) : ∃ request result, send net method u body = ⟨some request, result⟩ := by
  rw [send, if_pos h]
  split
  · exact ⟨_, _, rfl⟩
  · exact ⟨_, _, rfl⟩

theorem send_of_not_carried {u : Url} (h : carried u = false) (net : Network) (method : Method)
    (body : String) : ∃ reason, send net method u body = ⟨none, .error reason⟩ := by
  rw [send, if_neg (Bool.eq_false_iff.mp h)]
  exact ⟨_, rfl⟩

theorem isSome_sent (net : Network) (method : Method) (u : Url) (body : String) :
    (send net method u body).sent.isSome = carried u := by
  cases h : carried u with
  | true =>
    obtain ⟨request, result, hsend⟩ := send_of_carried h net method body
    rw [hsend, Option.isSome_some]
  | false =>
    obtain ⟨reason, hsend⟩ := send_of_not_carried h net method body
    rw [hsend, Option.isSome_none]

end Exchange

namespace Catalog

variable {c : Catalog} {form : Form}

/-- The exchange that a fetch comes to where the form is not kept. -/
def ask (net : Network) (endpoint : Url) (id : String) : Exchange :=
  Exchange.send net .get (endpoint.pushId id) ""

theorem fetch_of_kept {id : String} (h : Entries.value? c.kept id = some form) (net : Network) :
    c.fetch net id = (⟨none, .ok form⟩, c) := by
  simp only [fetch, h]

theorem fetch_of_not_kept {id : String} (hpath : c.endpoint.isOpaque = false)
    (h : Entries.value? c.kept id = none) (net : Network) :
    c.fetch net id =
      (⟨(ask net c.endpoint id).sent, formOf id (ask net c.endpoint id).result⟩,
        match formOf id (ask net c.endpoint id).result with
        | .ok form => { c with kept := Entries.put c.kept id form }
        | .error _ => c) := by
  have haddress : address c.endpoint id = .ok (c.endpoint.pushId id) := by
    simp [address, hpath]
  simp only [fetch, h, haddress, ask]
  cases formOf id (Exchange.send net .get (c.endpoint.pushId id) "").result <;> rfl

theorem isSome_sent_of_not_kept {id : String} (hpath : c.endpoint.isOpaque = false)
    (h : Entries.value? c.kept id = none) (net : Network) :
    (c.fetch net id).1.sent.isSome = Exchange.carried c.endpoint := by
  rw [fetch_of_not_kept hpath h, ask, Exchange.isSome_sent, Exchange.carried_pushId]

theorem fetch_of_not_carried {id : String} (hpath : c.endpoint.isOpaque = false)
    (h : Entries.value? c.kept id = none) (hcarried : Exchange.carried c.endpoint = false)
    (net : Network) :
    ∃ reason, c.fetch net id = (⟨none, .error (.unreachable id reason)⟩, c) := by
  obtain ⟨reason, hsend⟩ := Exchange.send_of_not_carried
    ((Exchange.carried_pushId c.endpoint id).trans hcarried) net .get ""
  refine ⟨reason, ?_⟩
  rw [fetch_of_not_kept hpath h, ask, hsend, formOf]

theorem fetch_of_error {id : String} (hpath : c.endpoint.isOpaque = false)
    (h : Entries.value? c.kept id = none) {net : Network} {e : LoadError}
    (he : (c.fetch net id).1.result = .error e) : (c.fetch net id).2 = c := by
  rw [fetch_of_not_kept hpath h] at he ⊢
  have hform : formOf id (ask net c.endpoint id).result = .error e := he
  simp only [hform]

/-- How a fetch can go: the form is kept, the server brings it or fails to, or no request can be
carried. -/
inductive Fetches (c : Catalog) (id : String) : Fetched → Catalog → Prop
  | kept {form : Form} (h : Entries.value? c.kept id = some form) : Fetches c id ⟨none, .ok form⟩ c
  | brought {request : Request} {form : Form} (h : Entries.value? c.kept id = none)
      (hcarried : Exchange.carried c.endpoint = true) :
      Fetches c id ⟨some request, .ok form⟩ { c with kept := Entries.put c.kept id form }
  | failed {request : Request} {error : LoadError} (h : Entries.value? c.kept id = none)
      (hcarried : Exchange.carried c.endpoint = true) :
      Fetches c id ⟨some request, .error error⟩ c
  | unable {reason : NoAnswer} (h : Entries.value? c.kept id = none)
      (hcarried : Exchange.carried c.endpoint = false) :
      Fetches c id ⟨none, .error (.unreachable id reason)⟩ c

theorem fetches (hpath : c.endpoint.isOpaque = false) (net : Network) (id : String) :
    Fetches c id (c.fetch net id).1 (c.fetch net id).2 := by
  cases h : Entries.value? c.kept id with
  | some form =>
    rw [fetch_of_kept h]
    exact .kept h
  | none =>
    cases hcarried : Exchange.carried c.endpoint with
    | true =>
      obtain ⟨request, result, hsend⟩ := Exchange.send_of_carried
        ((Exchange.carried_pushId c.endpoint id).trans hcarried) net .get ""
      rw [fetch_of_not_kept hpath h, ask, hsend]
      cases hform : formOf id result with
      | ok form => exact .brought h hcarried
      | error e => exact .failed h hcarried
    | false =>
      obtain ⟨reason, hfetch⟩ := fetch_of_not_carried hpath h hcarried net
      rw [hfetch]
      exact .unable h hcarried

/-- What is asked of a catalog; every fetch finds a network of its own. -/
inductive Call
  | fetch (id : String) (net : Network)
  | forget (id : String)

inductive Event
  | fetched (id : String) (answer : Fetched)
  | forgotten (id : String) (held : Bool)

def Call.id : Call → String
  | .fetch id _ => id
  | .forget id => id

def Event.id : Event → String
  | .fetched id _ => id
  | .forgotten id _ => id

def call (c : Catalog) : Call → Event × Catalog
  | .fetch id net => (.fetched id (c.fetch net id).1, (c.fetch net id).2)
  | .forget id => (.forgotten id (c.forget id).1, (c.forget id).2)

theorem id_call (c : Catalog) (x : Call) : (c.call x).1.id = x.id := by
  cases x <;> rfl

theorem call_congr {c c' : Catalog} {x : Call} (hpath : c.endpoint.isOpaque = false)
    (hendpoint : c'.endpoint = c.endpoint)
    (h : Entries.value? c'.kept x.id = Entries.value? c.kept x.id) :
    (c'.call x).1 = (c.call x).1 := by
  cases x with
  | fetch id net =>
    rw [Call.id] at h
    rw [call, call]
    cases hkept : Entries.value? c.kept id with
    | some form =>
      rw [fetch_of_kept hkept, fetch_of_kept (h.trans hkept)]
    | none =>
      rw [fetch_of_not_kept hpath hkept, fetch_of_not_kept (hendpoint ▸ hpath) (h.trans hkept),
        hendpoint]
  | forget id =>
    rw [Call.id] at h
    simp only [call, forget, Entries.has, h]

structure History where
  log : List Event
  catalog : Catalog

namespace History

def start (endpoint : Url) : History :=
  ⟨[], ofEndpoint endpoint⟩

def step (h : History) (x : Call) : History :=
  ⟨h.log ++ [(h.catalog.call x).1], (h.catalog.call x).2⟩

def run (h : History) (calls : List Call) : History :=
  calls.foldl step h

@[simp] theorem run_nil (h : History) : h.run [] = h := rfl

@[simp] theorem run_concat (h : History) (calls : List Call) (x : Call) :
    h.run (calls ++ [x]) = (h.run calls).step x := by
  simp [run]

end History

/-- The call brought the form of the id, from the server or from what was kept. -/
def Event.Brings (id : String) (form : Form) : Event → Prop
  | .fetched id' answer => id' = id ∧ answer.result = .ok form
  | .forgotten _ _ => False

def Event.GivesUp (id : String) : Event → Prop
  | .fetched _ _ => False
  | .forgotten id' _ => id' = id

/-- A fetch of the id has succeeded, and the id was not given up since. -/
def Obtained (id : String) : List Event → Prop :=
  Since (fun _ e => ∃ form, e.Brings id form) (fun e => ¬ e.GivesUp id)

/-- The last fetch of the id that succeeded brought the form, and the id was not given up since. -/
def Stands (id : String) (form : Form) : List Event → Prop :=
  Since (fun _ e => e.Brings id form) (fun e => (∀ form', ¬ e.Brings id form') ∧ ¬ e.GivesUp id)

variable {id : String}

namespace Event

theorem Brings.id_eq {e : Event} (h : e.Brings id form) : e.id = id := by
  cases e with
  | fetched id' answer => exact h.1
  | forgotten id' held => exact h.elim

theorem GivesUp.id_eq {e : Event} (h : e.GivesUp id) : e.id = id := by
  cases e with
  | fetched id' answer => exact h.elim
  | forgotten id' held => exact h

theorem brings_ok {sent : Option Request} {form' : Form} :
    (fetched id ⟨sent, .ok form'⟩).Brings id form ↔ form' = form := by
  simp [Brings]

end Event

theorem stands_of_other {log : List Event} {e : Event} (he : e.id ≠ id) :
    Stands id form (log ++ [e]) ↔ Stands id form log := by
  have hbrings : ∀ form, ¬ e.Brings id form := fun _ h => he h.id_eq
  have hgivesUp : ¬ e.GivesUp id := fun h => he h.id_eq
  simp [Stands, since_concat, hbrings, hgivesUp]

theorem stands_brought {log : List Event} {sent : Option Request} {form' : Form} :
    Stands id form (log ++ [.fetched id ⟨sent, .ok form'⟩]) ↔ form' = form := by
  simp [Stands, since_concat, Event.brings_ok]

theorem stands_failed {log : List Event} {sent : Option Request} {error : LoadError} :
    Stands id form (log ++ [.fetched id ⟨sent, .error error⟩]) ↔ Stands id form log := by
  simp [Stands, since_concat, Event.Brings, Event.GivesUp]

theorem not_stands_forgotten {log : List Event} {held : Bool} :
    ¬ Stands id form (log ++ [.forgotten id held]) := by
  simp [Stands, since_concat, Event.Brings, Event.GivesUp]

theorem stands_filter (id : String) (form : Form) (log : List Event) :
    Stands id form (log.filter fun e => e.id = id) ↔ Stands id form log := by
  refine since_filter (fun e h => ?_) (fun e h => ?_) log
  · simpa using h.id_eq
  · have he : e.id ≠ id := by simpa using h
    exact ⟨fun _ h => he h.id_eq, fun h => he h.id_eq⟩

theorem obtained_iff (id : String) (log : List Event) :
    Obtained id log ↔ ∃ form, Stands id form log := by
  induction log using List.reverseRecOn with
  | nil => simp [Obtained, Stands, not_since_nil]
  | append_singleton log e ih =>
    rw [Obtained, since_concat]
    by_cases he : ∃ form, e.Brings id form
    · obtain ⟨form, hform⟩ := he
      exact iff_of_true (Or.inl ⟨form, hform⟩) ⟨form, since_concat.mpr (Or.inl hform)⟩
    · have hnone : ∀ form, ¬ e.Brings id form := not_exists.mp he
      rw [Obtained] at ih
      simp [Stands, since_concat, hnone, ih]

/-- The invariant of all calls: exactly the forms that stand are kept. -/
structure Keeps (endpoint : Url) (h : History) : Prop where
  endpoint_eq : h.catalog.endpoint = endpoint
  nodup : (Entries.names h.catalog.kept).Nodup
  carried : ∀ id form, Entries.value? h.catalog.kept id = some form → Exchange.carried endpoint = true
  kept_iff : ∀ id form, Entries.value? h.catalog.kept id = some form ↔ Stands id form h.log

namespace Keeps

variable {endpoint : Url} {h : History}

theorem start (endpoint : Url) : Keeps endpoint (.start endpoint) where
  endpoint_eq := rfl
  nodup := List.nodup_nil
  carried _ _ hform := nomatch hform
  kept_iff _ _ := ⟨fun hform => (nomatch hform), fun hform => absurd hform not_since_nil⟩

theorem fetch (hh : Keeps endpoint h) {answer : Fetched} {c : Catalog}
    (hfetch : Fetches h.catalog id answer c) : Keeps endpoint ⟨h.log ++ [.fetched id answer], c⟩ := by
  have hother : ∀ {id' : String} {form : Form}, id ≠ id' →
      (Stands id' form (h.log ++ [.fetched id answer]) ↔ Stands id' form h.log) :=
    fun hid => stands_of_other hid
  cases hfetch with
  | @kept form hkept =>
    refine ⟨hh.endpoint_eq, hh.nodup, hh.carried, fun id' form' => ?_⟩
    by_cases hid : id = id'
    · subst hid
      rw [stands_brought, hkept, Option.some.injEq]
    · rw [hother hid, hh.kept_iff]
  | @brought request form hkept hcarried =>
    refine ⟨hh.endpoint_eq, Entries.nodup_names_put hh.nodup id form,
      fun _ _ _ => hh.endpoint_eq ▸ hcarried, fun id' form' => ?_⟩
    by_cases hid : id = id'
    · subst hid
      rw [stands_brought, Entries.value?_put_self, Option.some.injEq]
    · rw [hother hid, Entries.value?_put_of_ne _ _ hid, hh.kept_iff]
  | failed _ _ | unable _ _ =>
    refine ⟨hh.endpoint_eq, hh.nodup, hh.carried, fun id' form' => ?_⟩
    by_cases hid : id = id'
    · subst hid
      rw [stands_failed, hh.kept_iff]
    · rw [hother hid, hh.kept_iff]

theorem forget (hh : Keeps endpoint h) (id : String) :
    Keeps endpoint ⟨h.log ++ [.forgotten id (h.catalog.forget id).1], (h.catalog.forget id).2⟩ := by
  have hvalue : ∀ {id' : String}, id ≠ id' →
      Entries.value? (Entries.remove h.catalog.kept id) id' = Entries.value? h.catalog.kept id' :=
    Entries.value?_remove_of_ne h.catalog.kept
  have hgone := Entries.value?_remove_self hh.nodup id
  refine ⟨hh.endpoint_eq, Entries.nodup_names_remove hh.nodup id, fun id' form' hform => ?_,
    fun id' form' => ?_⟩
  all_goals by_cases hid : id = id'
  · subst hid
    exact nomatch hgone.symm.trans hform
  · exact hh.carried id' form' ((hvalue hid).symm.trans hform)
  · subst hid
    exact iff_of_false (fun hform => (nomatch hgone.symm.trans hform)) not_stands_forgotten
  · have hstands : Stands id' form' (h.log ++ [.forgotten id (h.catalog.forget id).1]) ↔
        Stands id' form' h.log := stands_of_other hid
    rw [hstands, ← hh.kept_iff, ← hvalue hid]
    exact Iff.rfl

theorem step (hpath : endpoint.isOpaque = false) (hh : Keeps endpoint h) (x : Call) :
    Keeps endpoint (h.step x) := by
  cases x with
  | fetch id net => exact hh.fetch (fetches (hh.endpoint_eq ▸ hpath) net id)
  | forget id => exact hh.forget id

theorem run (hpath : endpoint.isOpaque = false) (calls : List Call) :
    Keeps endpoint ((History.start endpoint).run calls) := by
  induction calls using List.reverseRecOn with
  | nil => exact start endpoint
  | append_singleton calls x ih =>
    rw [History.run_concat]
    exact ih.step hpath x

end Keeps

/-- The calls of one id come to what they would come to without all the others. -/
theorem log_filter {endpoint : Url} (hpath : endpoint.isOpaque = false) (calls : List Call)
    (id : String) :
    ((History.start endpoint).run calls).log.filter (fun e => e.id = id) =
      ((History.start endpoint).run (calls.filter fun x => x.id = id)).log := by
  induction calls using List.reverseRecOn with
  | nil => rfl
  | append_singleton calls x ih =>
    rw [History.run_concat, History.step, List.filter_append, List.filter_append, ih]
    by_cases hx : x.id = id
    · have hkeeps := Keeps.run hpath calls
      have halone := Keeps.run hpath (calls.filter fun x => x.id = id)
      rw [List.filter_cons_of_pos (by simpa [id_call] using hx), List.filter_nil,
        List.filter_cons_of_pos (by simpa using hx), List.filter_nil, History.run_concat, History.step]
      have hvalue : Entries.value? ((History.start endpoint).run calls).catalog.kept x.id =
          Entries.value? ((History.start endpoint).run
            (calls.filter fun x => x.id = id)).catalog.kept x.id := by
        refine Option.ext fun form => ?_
        rw [hkeeps.kept_iff, halone.kept_iff, ← ih, hx, stands_filter]
      have hcall := call_congr (by rw [halone.endpoint_eq, hpath])
        (hkeeps.endpoint_eq.trans halone.endpoint_eq.symm) hvalue
      rw [hcall]
    · rw [List.filter_cons_of_neg (by simpa [id_call] using hx), List.filter_nil,
        List.filter_cons_of_neg (by simpa using hx), List.filter_nil, List.append_nil, List.append_nil]

/-- What the calls made so far say of the next call on an id. -/
structure Remembers (endpoint : Url) (h : History) (id : String) : Prop where
  /-- A request goes out exactly if there is a way to carry it and the form was not obtained yet. -/
  asks_iff : ∀ net, (h.catalog.fetch net id).1.sent.isSome = true ↔
    Exchange.carried endpoint = true ∧ ¬ Obtained id h.log
  /-- Where one could have gone out and did not, the answer is the form that was brought last, and
  it is so with every network. -/
  answers : ∀ net, Exchange.carried endpoint = true → (h.catalog.fetch net id).1.sent = none →
    ∃ form, Stands id form h.log ∧ ∀ net', h.catalog.fetch net' id = (⟨none, .ok form⟩, h.catalog)
  fails : ∀ net e, (h.catalog.fetch net id).1.result = .error e →
    (h.catalog.fetch net id).2 = h.catalog ∧
      ∀ net', ((h.catalog.fetch net id).2.fetch net' id).1.sent.isSome = Exchange.carried endpoint
  unreachable : Exchange.carried endpoint = false → ∀ net,
    ∃ reason, h.catalog.fetch net id = (⟨none, .error (.unreachable id reason)⟩, h.catalog)
  /-- A form is held exactly if a fetch would have been answered with one and asked nobody. -/
  held_iff : ∀ net, (h.catalog.forget id).1 = true ↔
    ∃ form, (h.catalog.fetch net id).1 = ⟨none, .ok form⟩

namespace Keeps

variable {endpoint : Url} {h : History}

theorem remembers_kept (hh : Keeps endpoint h)
    (hkept : Entries.value? h.catalog.kept id = some form) : Remembers endpoint h id := by
  have hcarried : Exchange.carried endpoint = true := hh.carried id form hkept
  have hstands : Stands id form h.log := (hh.kept_iff id form).mp hkept
  have hobtained : Obtained id h.log := (obtained_iff id h.log).mpr ⟨form, hstands⟩
  have hfetch : ∀ net, h.catalog.fetch net id = (⟨none, .ok form⟩, h.catalog) := fetch_of_kept hkept
  constructor
  case asks_iff =>
    intro net
    simp [hfetch, hobtained]
  case answers => exact fun _ _ _ => ⟨form, hstands, hfetch⟩
  case fails =>
    intro net e he
    simp [hfetch] at he
  case unreachable => simp [hcarried]
  case held_iff =>
    intro net
    simp [Catalog.forget, Entries.has, hkept, hfetch]

theorem remembers_missing (hh : Keeps endpoint h) (hpath : endpoint.isOpaque = false)
    (hkept : Entries.value? h.catalog.kept id = none) : Remembers endpoint h id := by
  obtain rfl := hh.endpoint_eq
  have hobtained : ¬ Obtained id h.log := by
    rw [obtained_iff]
    rintro ⟨form, hstands⟩
    exact nomatch hkept.symm.trans ((hh.kept_iff id form).mpr hstands)
  have hsent : ∀ net, (h.catalog.fetch net id).1.sent.isSome = Exchange.carried h.catalog.endpoint :=
    isSome_sent_of_not_kept hpath hkept
  constructor
  case asks_iff =>
    intro net
    rw [hsent, and_iff_left hobtained]
  case answers =>
    intro net hcarried hnone
    have hsome := (hsent net).trans hcarried
    simp [hnone] at hsome
  case fails =>
    intro net e he
    rw [fetch_of_error hpath hkept he]
    exact ⟨rfl, hsent⟩
  case unreachable => exact fun hcarried net => fetch_of_not_carried hpath hkept hcarried net
  case held_iff =>
    intro net
    refine iff_of_false (by simp [Catalog.forget, Entries.has, hkept]) ?_
    rintro ⟨form, hanswer⟩
    have hcarried : Exchange.carried h.catalog.endpoint = false := by
      rw [← hsent net, hanswer, Option.isSome_none]
    obtain ⟨reason, hfetch⟩ := fetch_of_not_carried hpath hkept hcarried net
    simp [hfetch] at hanswer

theorem remembers (hh : Keeps endpoint h) (hpath : endpoint.isOpaque = false) (id : String) :
    Remembers endpoint h id := by
  cases hkept : Entries.value? h.catalog.kept id with
  | some form => exact hh.remembers_kept hkept
  | none => exact hh.remembers_missing hpath hkept

end Keeps

/-- Whatever was asked of a catalog, what it does with an id follows from the earlier calls of this
id: they decide whether a request is sent and which form is the answer, and without the calls of
other ids they would have come to the same. -/
theorem calls_are_remembered {endpoint : Url} (hpath : endpoint.isOpaque = false)
    (calls : List Call) (id : String) :
    Remembers endpoint ((History.start endpoint).run calls) id ∧
      ((History.start endpoint).run calls).log.filter (fun e => e.id = id) =
        ((History.start endpoint).run (calls.filter fun x => x.id = id)).log :=
  ⟨(Keeps.run hpath calls).remembers hpath id, log_filter hpath calls id⟩

/-- The form of an empty record outlives the network that brought it. -/
theorem brought_form_outlives_network :
    let endpoint : Url :=
      ⟨"http", "", none, some (.name "h.test"), none, .segments ["detail"], none, none⟩
    let bringing : Network := fun _ => .reply 200 [123, 125]
    let h := (History.start endpoint).run [.fetch "a" bringing, .fetch "b" .down]
    endpoint.isOpaque = false ∧ (h.catalog.fetch .down "a").1.sent = none ∧
      (∃ form, Stands "a" form h.log ∧
        ∀ net, h.catalog.fetch net "a" = (⟨none, .ok form⟩, h.catalog)) ∧
      ((h.catalog.fetch .down "b").1.sent.isSome = true ↔ ¬ Obtained "b" h.log) := by
  intro endpoint bringing h
  have hpath : endpoint.isOpaque = false := by decide
  have hsent : (h.catalog.fetch .down "a").1.sent = none := by rfl
  refine ⟨hpath, hsent, ?_, ?_⟩
  · exact (calls_are_remembered hpath _ "a").1.answers .down (by decide) hsent
  · refine ((calls_are_remembered hpath _ "b").1.asks_iff .down).trans (and_iff_right ?_)
    decide

/-- A server of files is never asked, although nothing was obtained from it. -/
theorem file_server_is_not_asked :
    ∃ endpoint, (Url.parse "ftp://h.test/x").toOption = some endpoint ∧
      endpoint.isOpaque = false ∧ ∀ net,
        ¬ ((((History.start endpoint).run []).catalog.fetch net "id 1").1.sent.isSome = true ↔
          ¬ Obtained "id 1" ((History.start endpoint).run []).log) := by
  refine ⟨⟨"ftp", "", none, some (.name "h.test"), none, .segments ["x"], none, none⟩,
    by decide +kernel, by decide, fun net h => ?_⟩
  have hasked := h.mpr not_since_nil
  rw [History.run_nil, isSome_sent_of_not_kept (by decide) rfl] at hasked
  exact absurd hasked (by decide)

end Catalog
end ComponentForm
