import Courier.Proofs.Header
import Courier.Proofs.Outcome
import Courier.Request
/-! Fields of requests. A request says at most one content type and one accepted type by itself, and then
what its job says, whatever the names are; for each name the values come in that order. A login step
is a job that says nothing. -/

namespace Courier

namespace Header

theorem values_append (name : String) (front back : List Header) :
    values name (front ++ back) = values name front ++ values name back := by
  simp only [values, List.filter_append, List.map_append]

theorem values_optional (name own : String) (value? : Option String) :
    values name (value?.toList.map fun value => (own, value)) =
      if asciiLowerText name = asciiLowerText own then value?.toList else [] := by
  cases value? with
  | none => simp [values]
  | some value =>
    by_cases same : asciiLowerText own = asciiLowerText name
    · simp [values, (sameIgnoringCase_iff own name).mpr same, same]
    · have other := mt (sameIgnoringCase_iff own name).mp same
      simp [values, other, Ne.symm same]

end Header

namespace Request

/-- The content type that the request of a job says by itself: the one that is set or, when parameters
travel in a body of no set type, that of a form. -/
def namedType? (job : Job) : Option String :=
  if job.contentType ≠ .notSet then job.contentType.value?
  else if job.params ≠ [] ∧ job.method ∈ [.post, .put, .patch] then
    some "application/x-www-form-urlencoded"
  else none

def convenience? (job : Job) (name : String) : Option String :=
  if asciiLowerText name = "content-type" then namedType? job
  else if asciiLowerText name = "accept" then job.acceptType.value?
  else none

theorem mediaHeader_eq (name : String) (media : MediaType) :
    mediaHeader name media = media.value?.toList.map fun value => (name, value) := by
  unfold mediaHeader
  cases media.value? <;> rfl

theorem headers_encode {method : Method} {raw : String} {params : List Pair}
    {contentType : MediaType} {request : Request}
    (made : encode method raw params contentType = .ok request) :
    request.headers =
      if contentType = .notSet ∧ params ≠ [] ∧ method ∈ [.post, .put, .patch] then
        [("Content-Type", "application/x-www-form-urlencoded")]
      else [] := by
  have sends : method.sendsBody = true ↔ method ∈ [.post, .put, .patch] := by
    cases method <;> decide
  rw [encode, Outcome.bind_eq_ok_iff] at made
  obtain ⟨url, _, made⟩ := made
  split at made
  next sending =>
    obtain rfl := Except.ok.inj made
    simp [sends.mp sending, MediaType.value?]
  next asking =>
    obtain rfl := Except.ok.inj made
    rw [if_neg fun named => asking (sends.mpr named.2.2)]

theorem headers_ofJob {job : Job} {request : Request} (made : ofJob job = .ok request) :
    request.headers = (namedType? job).toList.map (fun value => ("Content-Type", value)) ++
      job.acceptType.value?.toList.map (fun value => ("Accept", value)) ++
      job.headers.map fun header => (header.name, header.value) := by
  rw [ofJob, Outcome.bind_eq_ok_iff] at made
  obtain ⟨encoded, encoding, made⟩ := made
  split at made
  · cases made
  obtain rfl := Except.ok.inj made
  -- What is set is not said again for the body.
  have front : mediaHeader "Content-Type" job.contentType ++ encoded.headers =
      (namedType? job).toList.map fun value => ("Content-Type", value) := by
    rw [headers_encode encoding, mediaHeader_eq, namedType?]
    by_cases unset : job.contentType = .notSet
    · simp only [unset, MediaType.value?, Option.toList_none, List.map_nil, List.nil_append, true_and,
        ne_eq, not_true_eq_false, ↓reduceIte]
      split <;> rfl
    · simp only [unset, false_and, ↓reduceIte, List.append_nil, ne_eq, not_false_eq_true]
  simp only [front, mediaHeader_eq "Accept"]

theorem values_ofJob {job : Job} {request : Request} (made : ofJob job = .ok request)
    (name : String) :
    Header.values name request.headers = (convenience? job name).toList ++
      (job.headers.filter fun header => asciiLowerText header.name = asciiLowerText name).map
        Pair.value := by
  have named (header : Pair) : sameIgnoringCase header.name name =
      decide (asciiLowerText header.name = asciiLowerText name) := by
    rw [Bool.eq_iff_iff, Header.sameIgnoringCase_iff, decide_eq_true_iff]
  have own : Header.values name (job.headers.map fun header => (header.name, header.value)) =
      (job.headers.filter fun header => asciiLowerText header.name = asciiLowerText name).map
        Pair.value := by
    simp only [Header.values, List.filter_map, List.map_map, Function.comp_def, named]
  rw [headers_ofJob made, Header.values_append, Header.values_append, own, Header.values_optional,
    Header.values_optional, convenience?]
  have content : asciiLowerText "Content-Type" = "content-type" := by decide
  have accept : asciiLowerText "Accept" = "accept" := by decide
  rw [content, accept]
  by_cases typed : asciiLowerText name = "content-type"
  · simp [typed]
  · by_cases accepted : asciiLowerText name = "accept"
    · simp [accepted]
    · simp [typed, accepted]

theorem value?_eq_none_iff (media : MediaType) : media.value? = none ↔ media = .notSet := by
  cases media <;> decide

theorem namedType?_eq_none_iff (job : Job) :
    namedType? job = none ↔ job.contentType = .notSet ∧
      (job.params = [] ∨ job.method ∉ [.post, .put, .patch]) := by
  unfold namedType?
  split
  next set => simp only [value?_eq_none_iff, set, false_and]
  next unset =>
    rw [ite_eq_right_iff, not_not.mp unset]
    simp only [reduceCtorEq, imp_false, Decidable.not_and_iff_or_not, not_not, true_and]

theorem ofStep_eq_ofJob (step : LoginStep) :
    ofStep step = ofJob { url := step.url, method := step.method, params := step.params } := by
  unfold ofStep ofJob
  cases encode step.method step.url step.params .notSet with
  | error error => rfl
  | ok request => simp [headerError?, mediaHeader, MediaType.value?]

/-- The fields of a request are what it says by itself, which is a type exactly when one is set or
parameters travel in a body, and then those of its job, all of them and as they stand: so each name has
the value that the request says by itself, if any, and then those of the job. A step of a login is built
as a job is that says no more. -/
theorem headers_are_conveniences_then_own :
    (∀ job request, ofJob job = .ok request →
      request.headers = (namedType? job).toList.map (fun value => ("Content-Type", value)) ++
        job.acceptType.value?.toList.map (fun value => ("Accept", value)) ++
        job.headers.map (fun header => (header.name, header.value)) ∧
      ∀ name, Header.values name request.headers = (convenience? job name).toList ++
        (job.headers.filter fun header => asciiLowerText header.name = asciiLowerText name).map
          Pair.value) ∧
    (∀ job, namedType? job = none ↔ job.contentType = .notSet ∧
      (job.params = [] ∨ job.method ∉ [.post, .put, .patch])) ∧
    (∀ media : MediaType, media.value? = none ↔ media = .notSet) ∧
    ∀ step, ofStep step = ofJob { url := step.url, method := step.method, params := step.params } :=
  ⟨fun _ _ made => ⟨headers_ofJob made, values_ofJob made⟩, namedType?_eq_none_iff,
    value?_eq_none_iff, ofStep_eq_ofJob⟩

def crowd : Job where
  url := "http://[::1]/"
  method := .post
  acceptType := .html
  headers := [⟨"content-type", "a"⟩, ⟨"X", "1"⟩, ⟨"CONTENT-TYPE", "b"⟩, ⟨"x", "1"⟩, ⟨"accept", "c"⟩]
  params := [⟨"q", "1"⟩]

theorem crowd_says_all :
    ∃ request, ofJob crowd = .ok request ∧ request.headers =
        [("Content-Type", "application/x-www-form-urlencoded"), ("Accept", "text/html"),
          ("content-type", "a"), ("X", "1"), ("CONTENT-TYPE", "b"), ("x", "1"), ("accept", "c")] ∧
      Header.values "Content-type" request.headers = ["application/x-www-form-urlencoded", "a", "b"] ∧
      Header.values "ACCEPT" request.headers = ["text/html", "c"] ∧
      Header.values "x" request.headers = ["1", "1"] := by
  have found : (ofJob crowd).isOk = true := by decide +kernel
  cases made : ofJob crowd with
  | error error =>
    rw [made] at found
    cases found
  | ok request =>
    obtain ⟨headers, values⟩ := headers_are_conveniences_then_own.1 crowd request made
    exact ⟨request, rfl, headers.trans (by decide +kernel), (values _).trans (by decide +kernel),
      (values _).trans (by decide +kernel), (values _).trans (by decide +kernel)⟩

end Request
end Courier
