import ComponentForm.Proofs.Server.Keeping
import ComponentForm.Proofs.Url.Segment

/-! Where a catalog asks for forms. The request for an id goes to the endpoint with the id at the end of
its path, and two plain ids never share an address. What happens to the other ids is told here as
well: each of them is asked for in the place of a plain one, or of no id at all. -/
namespace ComponentForm

namespace Exchange

theorem web_of_carried {u : Url} (h : carried u = true) :
    (u.scheme = "http" ∨ u.scheme = "https") ∧ u.host.isSome = true := by
  simpa [carried] using h

theorem sent_of_carried {u : Url} (h : carried u = true) (net : Network) (method : Method)
    (body : String) : (send net method u body).sent = some ⟨method, withoutUser u, body⟩ := by
  rw [send, if_pos h]
  split <;> rfl

theorem withoutUser_eq (u : Url) : ∃ username password, ∀ path,
    withoutUser { u with path := path } =
      { u with path := path, username := username, password := password } := by
  by_cases h : (isReadable u.username && (u.username ≠ "" || u.password.any isReadable)) = true
  · refine ⟨"", none, fun path => ?_⟩
    rw [withoutUser, if_pos h]
  · refine ⟨u.username, u.password, fun path => ?_⟩
    rw [withoutUser, if_neg h]

end Exchange

namespace Catalog

def request (endpoint : Url) (id : String) : Request :=
  ⟨.get, Exchange.withoutUser (endpoint.pushId id), ""⟩

theorem request_url_eq (endpoint : Url) : ∃ username password, ∀ id,
    (request endpoint id).url =
      { endpoint with
        path := (endpoint.pushId id).path, username := username, password := password } := by
  obtain ⟨username, password, huser⟩ := Exchange.withoutUser_eq endpoint
  refine ⟨username, password, fun id => ?_⟩
  obtain ⟨path, hpath⟩ := endpoint.pushId_eq id
  rw [request, hpath, huser]

theorem request_path (endpoint : Url) (id : String) :
    (request endpoint id).url.path = (endpoint.pushId id).path := by
  obtain ⟨username, password, hurl⟩ := request_url_eq endpoint
  rw [hurl]

theorem request_eq_of_path {endpoint : Url} {id id' : String}
    (h : (request endpoint id).url.path = (request endpoint id').url.path) :
    request endpoint id = request endpoint id' := by
  rw [request_path, request_path] at h
  obtain ⟨path, hid⟩ := endpoint.pushId_eq id
  obtain ⟨path', hid'⟩ := endpoint.pushId_eq id'
  rw [hid, hid'] at h
  have hpath : path = path' := h
  rw [request, request, hid, hid', hpath]

/-- What is asked for a form: the request for its id, and where it goes. -/
structure Addresses (endpoint : Url) (id : String) : Prop where
  asked : ∀ (c : Catalog) (net : Network), c.endpoint = endpoint →
    Entries.value? c.kept id = none → (c.fetch net id).1.sent = some (request endpoint id)
  /-- Besides the path, all is the endpoint's own, its query too; user and password travel apart. -/
  elsewhere : ∃ path username password, (request endpoint id).url =
    { endpoint with path := path, username := username, password := password }
  /-- A plain id is one more segment of the path, and is what this segment stands for. -/
  segment : Url.Plain id → ∃ segment, Url.IsSegment segment ∧ Url.decoded? segment = some id ∧
    (request endpoint id).url.path = .segments (endpoint.front ++ [segment])
  own : Url.Plain id → ∀ id', Url.Plain id' →
    (request endpoint id').address = (request endpoint id).address → id' = id
  skipped : Url.Plain (Url.withoutSkipped id) →
    request endpoint id = request endpoint (Url.withoutSkipped id)
  /-- One dot or two that are left without them are a way through the path, and end it with a slash. Two
  do not lead out of a drive. -/
  left_dot : id ≠ "." → Url.withoutSkipped id = "." →
    (request endpoint id).url.path = .segments (endpoint.front ++ [""])
  left_dots : id ≠ ".." → Url.withoutSkipped id = ".." →
    (request endpoint id).url.path = .segments
      ((if Url.endsInDrive endpoint.front then endpoint.front else endpoint.front.dropLast) ++ [""])
  dots : id = "." ∨ id = ".." →
    (request endpoint id).url.path = .segments (Url.popEmpty endpoint.pathSegments)

section Request
variable {endpoint : Url}

theorem sent_of_not_kept {c : Catalog} (hpath : c.endpoint.isOpaque = false)
    (hcarried : Exchange.carried c.endpoint = true) {id : String}
    (h : Entries.value? c.kept id = none) (net : Network) :
    (c.fetch net id).1.sent = some (request c.endpoint id) := by
  have hpushed : Exchange.carried (c.endpoint.pushId id) = true := by
    rw [Exchange.carried_pushId, hcarried]
  rw [fetch_of_not_kept hpath h, ask, Exchange.sent_of_carried hpushed, request]

variable (hpath : endpoint.isOpaque = false) (hcarried : Exchange.carried endpoint = true)
include hpath hcarried

theorem path_of_ne {id : String} (hdot : id ≠ ".") (hdots : id ≠ "..") :
    (request endpoint id).url.path = .segments (Url.pushSegment false true endpoint.front
      (Url.segmentOf (Url.withoutSkipped id)).toList) := by
  rw [request_path, Url.pushId_of_ne hpath (Exchange.web_of_carried hcarried).1 hdot hdots]

theorem path_of_plain {id : String} (h : Url.Plain id) :
    (request endpoint id).url.path = .segments (endpoint.front ++ [Url.segmentOf id]) := by
  rw [path_of_ne hpath hcarried h.ne_dot h.ne_dots, h.counts, Url.pushSegment_segmentOf h]

theorem eq_of_address_eq {id id' : String} (h : Url.Plain id) (h' : Url.Plain id')
    (haddress : (request endpoint id').address = (request endpoint id).address) : id' = id := by
  obtain ⟨username, password, hurl⟩ := request_url_eq endpoint
  have hid := path_of_plain hpath hcarried h
  have hid' := path_of_plain hpath hcarried h'
  rw [request_path] at hid hid'
  rw [Request.address, Request.address, hurl, hurl, hid, hid'] at haddress
  have hsegment : Url.segmentOf id' = Url.segmentOf id :=
    Url.text_concat_inj
      (u := { endpoint with username := username, password := password, fragment := none })
      (Exchange.web_of_carried hcarried).2 haddress
  have hdecoded : some id' = some id := by
    rw [← Url.decoded?_segmentOf, hsegment, Url.decoded?_segmentOf]
  exact Option.some.inj hdecoded

end Request

/-- Plain ids are asked for at addresses of their own: the id is the last segment of the path, behind
the endpoint's. Any other id is asked for like the plain one that is left of it, or at a directory. -/
theorem plain_ids_have_own_addresses {endpoint : Url} (hpath : endpoint.isOpaque = false)
    (hcarried : Exchange.carried endpoint = true) (id : String) : Addresses endpoint id := by
  constructor
  case asked =>
    rintro c net rfl h
    exact sent_of_not_kept hpath hcarried h net
  case elsewhere =>
    obtain ⟨username, password, hurl⟩ := request_url_eq endpoint
    exact ⟨_, username, password, hurl id⟩
  case segment =>
    intro h
    exact ⟨Url.segmentOf id, Url.isSegment_segmentOf h, Url.decoded?_segmentOf id,
      path_of_plain hpath hcarried h⟩
  case own => exact fun h id' h' => eq_of_address_eq hpath hcarried h h'
  case skipped =>
    intro h
    have hdot : id ≠ "." := by
      rintro rfl
      exact h.ne_dot rfl
    have hdots : id ≠ ".." := by
      rintro rfl
      exact h.ne_dots rfl
    refine request_eq_of_path ?_
    rw [path_of_ne hpath hcarried hdot hdots, path_of_plain hpath hcarried h,
      Url.pushSegment_segmentOf h]
  case left_dot =>
    intro hdot hleft
    have hdots : id ≠ ".." := by
      rintro rfl
      exact absurd hleft (by decide)
    rw [path_of_ne hpath hcarried hdot hdots, hleft, Url.pushSegment_dot]
  case left_dots =>
    intro hdots hleft
    have hdot : id ≠ "." := by
      rintro rfl
      exact absurd hleft (by decide)
    rw [path_of_ne hpath hcarried hdot hdots, hleft, Url.pushSegment_dots, Url.shorten]
  case dots =>
    intro hid
    rw [request_path, Url.pushId_of_dots hpath hid]

/-- A slash in an id is told from an id that holds the escape of a slash. -/
theorem slash_is_told_from_escape :
    ∃ endpoint, (Url.parse "http://h.test/detail/?v=1").toOption = some endpoint ∧
      endpoint.isOpaque = false ∧ Exchange.carried endpoint = true ∧
      (∀ net, ((ofEndpoint endpoint).fetch net "a/b").1.sent = some (request endpoint "a/b")) ∧
      (∃ segment, Url.decoded? segment = some "a/b" ∧
        (request endpoint "a/b").url.path = .segments ["detail", segment]) ∧
      (request endpoint "a%2Fb").address ≠ (request endpoint "a/b").address := by
  let endpoint : Url :=
    ⟨"http", "", none, some (.name "h.test"), none, .segments ["detail", ""], some "v=1", none⟩
  have hpath : endpoint.isOpaque = false := by decide
  have hcarried : Exchange.carried endpoint = true := by decide
  have hplain : Url.Plain "a/b" := by decide
  have h := plain_ids_have_own_addresses hpath hcarried "a/b"
  refine ⟨endpoint, by decide +kernel, hpath, hcarried, fun net => h.asked _ net rfl rfl, ?_, ?_⟩
  · obtain ⟨segment, -, hdecoded, hsegment⟩ := h.segment hplain
    exact ⟨segment, hdecoded, hsegment⟩
  · intro haddress
    exact absurd (h.own hplain "a%2Fb" (by decide) haddress) (by decide)

/-- A tab in an id is lost: no segment stands for it, and the id without it is asked for at the same
address. A dot is no segment at all. -/
theorem tab_is_lost :
    ∃ endpoint, (Url.parse "http://h.test/detail").toOption = some endpoint ∧
      endpoint.isOpaque = false ∧ Exchange.carried endpoint = true ∧
      (∀ net id, ((ofEndpoint endpoint).fetch net id).1.sent = some (request endpoint id)) ∧
      (¬ ∃ segment, Url.decoded? segment = some "a\tb" ∧
        (request endpoint "a\tb").url.path = .segments ["detail", segment]) ∧
      (request endpoint "a\tb").address = (request endpoint "ab").address ∧
      (request endpoint ".").url.path = .segments ["detail"] := by
  let endpoint : Url :=
    ⟨"http", "", none, some (.name "h.test"), none, .segments ["detail"], none, none⟩
  refine ⟨endpoint, by decide +kernel, by decide, by decide, fun net id => ?_, ?_, ?_, ?_⟩
  · exact sent_of_not_kept (by decide) (by decide) rfl net
  · rintro ⟨segment, hdecoded, hpath⟩
    have hsegments : (request endpoint "a\tb").url.path = .segments ["detail", "ab"] := by
      decide +kernel
    obtain rfl : "ab" = segment := by simpa using hsegments.symm.trans hpath
    exact absurd hdecoded (by decide +kernel)
  · decide +kernel
  · decide +kernel

end Catalog
end ComponentForm
