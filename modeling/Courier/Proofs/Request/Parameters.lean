import Courier.Proofs.Form
import Courier.Proofs.Request
import Courier.Proofs.Url.Again
/-! Parameters of requests. Whatever their names and values are, they can be had back from the request
that was built: from the end of its query, or from its body. Nothing else of the URL depends on them. -/

namespace Courier

namespace Url

def front (url : Url) : List Char :=
  url.scheme.toList ++ ':' :: (url.authority.toList ++ url.path.text.toList)

theorem toList_text_front (url : Url) : url.text.toList = url.front ++ url.afterPath := by
  unfold text target pathText afterPath front
  cases url.query <;> cases url.fragment <;> simp

theorem not_mark_of_mem_front {url : Url} (read : url.IsRead) :
    ∀ c ∈ url.front, c ≠ '#' ∧ c ≠ '?' := by
  obtain ⟨host, hosted, known⟩ := read.host
  have held {c : Char} (host : IsHostChar c) : c ≠ '#' ∧ c ≠ '?' := by
    constructor <;> rintro rfl <;> exact absurd host.2.1 (by decide)
  intro c member
  rw [front, toList_authority hosted] at member
  simp only [List.cons_append, List.mem_append, List.mem_cons] at member
  rcases member with letter | rfl | rfl | rfl | (user | name | port) | path
  · have alpha := isAsciiAlpha_of_mem_scheme read c letter
    constructor <;> rintro rfl <;> cases alpha
  · decide
  · decide
  · decide
  · rcases isHostChar_of_mem_user read c user with host | rfl
    · exact held host
    · decide
  · exact held (isHostChar_of_mem_text known c name)
  · exact held (isHostChar_of_mem_portText c port)
  · exact not_mark_of_mem_path read c path

/-- The query of a URL that was read stands in its text between the first question mark and the number
sign, if there is one. -/
theorem cutTail_text {url : Url} (read : url.IsRead) :
    cutTail url.text.toList =
      (url.front, url.query.map String.toList, url.fragment.map String.toList) := by
  rw [toList_text_front]
  exact cutTail_append_afterPath read (not_mark_of_mem_front read)

end Url

namespace Request

/-- Whether a request has no body and goes to a URL with parameters after its query: all else of the
URL is as it was, and so is its query if there are no parameters. -/
structure InQuery (url : Url) (params : List Pair) (address : String) (body : Option String) :
    Prop where
  bodiless : body = none
  appended : ∃ query : Option String,
    let built := { url with query }
    address = built.text ∧
    Url.cutTail address.toList =
      (url.front, query.map String.toList, url.fragment.map String.toList) ∧
    (¬url.IsOverlong → parseUrl address = .ok built) ∧
    (params = [] → query = url.query) ∧
    Form.decode (Utf8.bytes (query.getD "")) =
      Form.decode (Utf8.bytes (url.query.getD "")) ++ params

structure InBody (url : Url) (params : List Pair) (contentType : MediaType) (address : String)
    (body : Option String) : Prop where
  address_eq : address = url.text
  absent : body = none ↔ params = []
  form : contentType = .notSet ∨ contentType = .form →
    ∀ text, body = some text → Form.decode (Utf8.bytes text) = params
  lone : contentType ≠ .notSet → contentType ≠ .form →
    ∀ value, params = [⟨"", value⟩] → body = some value
  joined : contentType ≠ .notSet → contentType ≠ .form → params ≠ [] →
    (∀ value, params ≠ [⟨"", value⟩]) →
      body = some ("&".intercalate (params.map fun pair => pair.name ++ "=" ++ pair.value))

def Carries (method : Method) (raw : String) (params : List Pair) (contentType : MediaType)
    (request : Request) : Prop :=
  ∃ url, parseUrl raw = .ok url ∧
    (method ∈ [.get, .head, .delete, .options] → InQuery url params request.url request.body) ∧
    (method ∈ [.post, .put, .patch] → InBody url params contentType request.url request.body)

theorem withQuery_query (url : Url) (params : List Pair) :
    withQuery url params = { url with query := (withQuery url params).query } := by
  unfold withQuery
  split <;> rfl

/-- The parameters follow in the query, and an empty query counts as none. -/
theorem decode_withQuery (url : Url) (params : List Pair) :
    Form.decode (Utf8.bytes ((withQuery url params).query.getD "")) =
      Form.decode (Utf8.bytes (url.query.getD "")) ++ params := by
  unfold withQuery
  split
  next none => rw [List.isEmpty_iff.mp none, List.append_nil]
  next =>
    rw [Option.getD_some, Utf8.bytes, String.toList_ofList]
    exact Form.decode_append _ _

theorem inQuery_withQuery {url : Url} (read : url.IsRead) (params : List Pair) :
    InQuery url params (withQuery url params).text none := by
  have known := read.withQuery params
  refine ⟨rfl, (withQuery url params).query, ?_⟩
  rw [← withQuery_query]
  refine ⟨rfl, ?_, ?_, ?_, decode_withQuery url params⟩
  · have same : (withQuery url params).front = url.front ∧
        (withQuery url params).fragment = url.fragment := by
      rw [withQuery_query]
      exact ⟨rfl, rfl⟩
    rw [Url.cutTail_text known, same.1, same.2]
  · intro short
    have same : ¬(withQuery url params).IsOverlong :=
      mt (isOverlong_addressed .get url params).mp short
    exact (parseUrl_text known).1 same
  · intro none
    rw [none]
    rfl

theorem verbatim_of_joined {params : List Pair} (several : ∀ value, params ≠ [⟨"", value⟩]) :
    verbatim params = "&".intercalate (params.map fun pair => pair.name ++ "=" ++ pair.value) := by
  rw [← joinTexts_eq_intercalate]
  unfold verbatim
  split
  next only =>
    split
    next unnamed =>
      obtain ⟨name, value⟩ := only
      obtain rfl := String.isEmpty_iff.mp unnamed
      exact absurd rfl (several value)
    next => exact (joinTexts_singleton "&" _).symm
  next => rfl

theorem bodyOf_of_form {contentType : MediaType} (form : contentType = .notSet ∨ contentType = .form)
    {params : List Pair} (given : params ≠ []) :
    bodyOf contentType params = some (Form.text params) := by
  rcases form with rfl | rfl
  · simp [bodyOf, given]
  · simp [bodyOf, given]

theorem bodyOf_of_other {contentType : MediaType} (unset : contentType ≠ .notSet)
    (other : contentType ≠ .form) {params : List Pair} (given : params ≠ []) :
    bodyOf contentType params = some (verbatim params) := by
  cases contentType with
  | notSet => exact absurd rfl unset
  | form => exact absurd rfl other
  | html | plain | json | jsonUtf8 | tar | zip | octets => simp [bodyOf, given]

theorem bodyOf_eq_none_iff (contentType : MediaType) (params : List Pair) :
    bodyOf contentType params = none ↔ params = [] := by
  cases params with
  | nil => simp [bodyOf]
  | cons first rest => cases contentType <;> simp [bodyOf]

theorem inBody_bodyOf (url : Url) (params : List Pair) (contentType : MediaType) :
    InBody url params contentType url.text (bodyOf contentType params) where
  address_eq := rfl
  absent := bodyOf_eq_none_iff contentType params
  form := by
    intro form text held
    have given : params ≠ [] := by
      intro none
      rw [(bodyOf_eq_none_iff contentType params).mpr none] at held
      cases held
    rw [bodyOf_of_form form given] at held
    rw [← Option.some.inj held, Form.decode_text]
  lone := by
    intro unset other value alone
    rw [bodyOf_of_other unset other (by simp [alone]), alone]
    rfl
  joined := by
    intro unset other given several
    rw [bodyOf_of_other unset other given, verbatim_of_joined several]

section

variable {method : Method} {raw : String} {url : Url} {params : List Pair} {contentType : MediaType}
  {request : Request}

theorem encode_of_sending (read : parseUrl raw = .ok url) (sends : method.sendsBody = true)
    (made : encode method raw params contentType = .ok request) :
    request.url = url.text ∧ request.body = bodyOf contentType params := by
  simp only [encode, read, sends, ↓reduceIte] at made
  obtain rfl := Except.ok.inj made
  exact ⟨rfl, rfl⟩

theorem encode_of_asking (read : parseUrl raw = .ok url) (asks : method.sendsBody = false)
    (made : encode method raw params contentType = .ok request) :
    request.url = (withQuery url params).text ∧ request.body = none := by
  simp only [encode, read, asks, Bool.false_eq_true, ↓reduceIte] at made
  obtain rfl := Except.ok.inj made
  exact ⟨rfl, rfl⟩

theorem carries_encode (made : encode method raw params contentType = .ok request) :
    Carries method raw params contentType request := by
  have asking : ∀ method ∈ [Method.get, .head, .delete, .options], method.sendsBody = false := by
    decide
  have sending : ∀ method ∈ [Method.post, .put, .patch], method.sendsBody = true := by decide
  cases read : parseUrl raw with
  | error error =>
    rw [encode_of_unread read] at made
    cases made
  | ok url =>
    refine ⟨url, read, ?_, ?_⟩
    · intro member
      obtain ⟨address, body⟩ := encode_of_asking read (asking method member) made
      rw [address, body]
      exact inQuery_withQuery (isRead_of_parseUrl read) params
    · intro member
      obtain ⟨address, body⟩ := encode_of_sending read (sending method member) made
      rw [address, body]
      exact inBody_bodyOf url params contentType

end

/-- The fields of a job change nothing of where its request goes and what its body is. -/
theorem exists_encode_of_ofJob {job : Job} {request : Request} (made : ofJob job = .ok request) :
    ∃ encoded, encode job.method job.url job.params job.contentType = .ok encoded ∧
      encoded.url = request.url ∧ encoded.body = request.body := by
  rw [ofJob, Outcome.bind_eq_ok_iff] at made
  obtain ⟨encoded, encoding, made⟩ := made
  split at made
  · cases made
  · obtain rfl := Except.ok.inj made
    exact ⟨encoded, encoding, rfl, rfl⟩

/-- Parameters survive being encoded, in a job and in a step of a login alike: a step carries them as a
job does that sets no content type. -/
theorem parameters_survive :
    (∀ job request, ofJob job = .ok request →
      Carries job.method job.url job.params job.contentType request) ∧
    ∀ step request, ofStep step = .ok request →
      Carries step.method step.url step.params .notSet request := by
  refine ⟨?_, fun step request made => carries_encode made⟩
  intro job request made
  obtain ⟨encoded, encoding, address, body⟩ := exists_encode_of_ofJob made
  have carried := carries_encode encoding
  rwa [Carries, address, body] at carried

def search : Job where
  url := "http://u:p@[::1]:8080/a?x=1#f"
  params := [⟨"", "a&b="⟩, ⟨"é +", ""⟩]

theorem search_survives :
    (∃ url, parseUrl search.url = .ok url ∧
      InQuery url search.params "http://u:p@[::1]:8080/a?x=1&=a%26b%3D&%C3%A9+%2B=#f" none) ∧
    ∃ text, ofStep ⟨search.url, .post, search.params⟩ =
        .ok ⟨.post, search.url, [("Content-Type", "application/x-www-form-urlencoded")], some text⟩ ∧
      Form.decode (Utf8.bytes text) = search.params := by
  have made : ofJob search =
      .ok ⟨.get, "http://u:p@[::1]:8080/a?x=1&=a%26b%3D&%C3%A9+%2B=#f", [], none⟩ := by
    decide +kernel
  have posted : ofStep ⟨search.url, .post, search.params⟩ =
      .ok ⟨.post, search.url, [("Content-Type", "application/x-www-form-urlencoded")],
        some "=a%26b%3D&%C3%A9+%2B="⟩ := by
    decide +kernel
  obtain ⟨jobs, steps⟩ := parameters_survive
  obtain ⟨url, read, asked, _⟩ := jobs search _ made
  obtain ⟨_, _, _, sent⟩ := steps _ _ posted
  exact ⟨⟨url, read, asked (by decide)⟩, _, posted, (sent (by decide)).form (Or.inl rfl) _ rfl⟩

end Request
end Courier
