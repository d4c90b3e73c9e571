import Courier.Proofs.Header
import Courier.Proofs.Outcome
import Courier.Request
/-! Requests as they are built. The fields of every request that is built are legal, and those of a
login step say nothing but what its body is. -/

namespace Courier.Request

theorem parseUrl_eq_ok_iff (raw : String) (url : Url) :
    parseUrl raw = .ok url ↔ Url.parse (String.ofList (trim raw.toList)) = .ok url ∧
      (url.scheme = "http" ∨ url.scheme = "https") ∧ ∃ host, url.host = some host := by
  unfold parseUrl
  cases read : Url.parse (String.ofList (trim raw.toList)) with
  | error error => simp
  | ok known =>
    simp only [Except.ok.injEq]
    constructor
    · intro parsed
      split at parsed
      · cases parsed
      next web =>
        split at parsed
        · cases parsed
        next hosted =>
          obtain rfl := Except.ok.inj parsed
          refine ⟨rfl, ?_, Option.ne_none_iff_exists'.mp (by simpa using hosted)⟩
          by_cases plain : known.scheme = "http"
          · exact Or.inl plain
          · exact Or.inr (by simpa [plain] using web)
    · rintro ⟨rfl, web, host, hosted⟩
      have schemes : ¬(known.scheme ≠ "http" ∧ known.scheme ≠ "https") := by
        rintro ⟨other, another⟩
        exact web.elim other another
      simp only [schemes, hosted, ↓reduceIte, Option.isNone_some, Bool.false_eq_true]

theorem parseUrl_quotes {raw : String} {error : ConfigurationError}
    (refused : parseUrl raw = .error error) : ∃ reason, error = .invalidUrl raw reason := by
  unfold parseUrl at refused
  split at refused
  · exact ⟨_, (Except.error.inj refused).symm⟩
  · split at refused
    · exact ⟨_, (Except.error.inj refused).symm⟩
    · split at refused
      · exact ⟨_, (Except.error.inj refused).symm⟩
      · cases refused

def addressed (method : Method) (url : Url) (params : List Pair) : Url :=
  if method.sendsBody then url else withQuery url params

theorem encode_of_read {raw : String} {url : Url} (read : parseUrl raw = .ok url) (method : Method)
    (params : List Pair) (contentType : MediaType) :
    ∃ request, encode method raw params contentType = .ok request ∧
      request.url = (addressed method url params).text := by
  simp only [encode, addressed, read]
  split
  · exact ⟨_, rfl, rfl⟩
  · exact ⟨_, rfl, rfl⟩

theorem encode_of_unread {raw : String} {error : ConfigurationError}
    (unread : parseUrl raw = .error error) (method : Method) (params : List Pair)
    (contentType : MediaType) : encode method raw params contentType = .error error := by
  simp only [encode, unread]
  rfl

def Sound (request : Request) : Prop := ∀ header ∈ request.headers, Header.fault? header = none

theorem encode_headers {method : Method} {raw : String} {params : List Pair}
    {contentType : MediaType} {request : Request}
    (made : encode method raw params contentType = .ok request) :
    ∀ header ∈ request.headers, header = ("Content-Type", "application/x-www-form-urlencoded") := by
  rw [encode, Outcome.bind_eq_ok_iff] at made
  obtain ⟨url, _, made⟩ := made
  split at made
  · obtain rfl := Except.ok.inj made
    intro header member
    dsimp only at member
    split at member
    · exact List.mem_singleton.mp member
    · cases member
  · obtain rfl := Except.ok.inj made
    simp

theorem sound_ofStep {step : LoginStep} {request : Request} (made : ofStep step = .ok request) :
    request.Sound := by
  intro header member
  rw [encode_headers made header member]
  decide

theorem bare_ofStep {step : LoginStep} {request : Request} (made : ofStep step = .ok request) :
    Header.Bare request.headers := by
  intro header member
  rw [encode_headers made header member]
  decide

theorem sound_mediaHeader {name : String} (named : Header.isName name = true) (media : MediaType) :
    ∀ header ∈ mediaHeader name media, Header.fault? header = none := by
  have legal : ∀ value ∈ media.value?, Header.isValue value = true := by
    cases media <;> decide
  intro header member
  unfold mediaHeader at member
  split at member
  next value given =>
    obtain rfl := List.mem_singleton.mp member
    simp only [Header.fault?, named, legal value given, Bool.not_true, Bool.false_eq_true,
      ↓reduceIte]
  next => cases member

theorem headerError?_eq_none {headers : List Pair} (fine : headerError? headers = none) :
    ∀ header ∈ headers, Header.fault? (header.name, header.value) = none := by
  simpa only [headerError?, List.findSome?_eq_none_iff, Option.map_eq_none_iff] using fine

theorem headerError?_eq_some_iff (headers : List Pair) (error : ConfigurationError) :
    headerError? headers = some error ↔
      ∃ before header after fault, headers = before ++ header :: after ∧
        (∀ earlier ∈ before, Header.fault? (earlier.name, earlier.value) = none) ∧
        Header.fault? (header.name, header.value) = some fault ∧
        error = .invalidHeader header.name fault := by
  rw [headerError?, List.findSome?_eq_some_iff]
  simp only [Option.map_eq_some_iff, Option.map_eq_none_iff]
  constructor
  · rintro ⟨before, header, after, split, ⟨fault, faulty, rfl⟩, legal⟩
    exact ⟨before, header, after, fault, split, legal, faulty, rfl⟩
  · rintro ⟨before, header, after, fault, split, legal, faulty, rfl⟩
    exact ⟨before, header, after, split, ⟨fault, faulty, rfl⟩, legal⟩

theorem legal_of_ofJob {job : Job} {request : Request} (made : ofJob job = .ok request) :
    ∀ header ∈ job.headers, Header.fault? (header.name, header.value) = none := by
  rw [ofJob, Outcome.bind_eq_ok_iff] at made
  obtain ⟨encoded, _, made⟩ := made
  split at made
  · cases made
  next fine => exact headerError?_eq_none fine

theorem sound_ofJob {job : Job} {request : Request} (made : ofJob job = .ok request) :
    request.Sound := by
  rw [ofJob, Outcome.bind_eq_ok_iff] at made
  obtain ⟨encoded, encoding, made⟩ := made
  split at made
  · cases made
  next fine =>
    obtain rfl := Except.ok.inj made
    intro header member
    simp only [List.mem_append, List.mem_map] at member
    rcases member with ((media | own) | accepted) | ⟨pair, given, rfl⟩
    · exact sound_mediaHeader (by decide) _ header media
    · rw [encode_headers encoding header own]
      decide
    · exact sound_mediaHeader (by decide) _ header accepted
    · exact headerError?_eq_none fine pair given

end Courier.Request
