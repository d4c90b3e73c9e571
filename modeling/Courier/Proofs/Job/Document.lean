import Courier.Proofs.Json.Document
/-! Job definitions as documents. A document has to name only what a job has different from the
defaults: each job is decoded from any document of it, the one that is written among them. -/

namespace Courier

open Json (Part IsPlain IsDocument IsRecord IsListOf)

variable {extra : Json → Prop}

/-! ### Pairs -/

namespace Pair

def parts (pair : Pair) : List Part := [
  .only "name" (.string pair.name),
  .only "value" (.string pair.value)]

def IsShown (extra : Json → Prop) (pair : Pair) (json : Json) : Prop :=
  json.IsRecord extra pair.parts ["name", "value"]

def partly (pair : Pair) (given : String → Bool) : Pair where
  name := if given "name" then pair.name else ""
  value := if given "value" then pair.value else ""

theorem takes (source : Source) (pair : Pair) : shape.Takes source pair.parts pair.partly where
  start := rfl
  distinct := show ["name", "value"].Nodup by decide
  each := .cons (Field.of_takes rfl fun given => by simp [partly]) <|
    .cons (Field.of_takes rfl fun given => by simp [partly]) .nil

theorem decode_of_isShown (passed : ∀ value, extra value → value.reading.passFlaw? = none)
    (source : Source) (pair : Pair) (json : Json) (shown : pair.IsShown extra json) :
    decode source json.reading = .ok pair := by
  refine Shape.decode_of_isRecord (pair.takes source) passed ?_ ?_ ?_ shown
  · simp [shape, Field.of]
  · simp [parts, Part.only]
  · intro given all
    simp [partly, all]

theorem isShown_toJson (extra : Json → Prop) (pair : Pair) : pair.IsShown extra pair.toJson :=
  ⟨_, rfl, Json.isDocument_of_forall₂ (pair.takes .text).distinct (fun _ => id)
    (.cons ⟨rfl, rfl⟩ <| .cons ⟨rfl, rfl⟩ .nil)⟩

theorem forall_parts_iff (pair : Pair) {holds : Json → Prop} :
    (∀ part ∈ pair.parts, ∀ value, part.shows value → holds value) ↔
      holds (.string pair.name) ∧ holds (.string pair.value) := by
  simp [parts, Part.only]

theorem isWhole_of_isShown (whole : ∀ value, extra value → value.IsWhole) (pair : Pair) (json : Json)
    (shown : pair.IsShown extra json) : json.IsWhole :=
  shown.isWhole (pair.forall_parts_iff.mpr ⟨.string _, .string _⟩) whole

end Pair

/-! ### Jobs -/

namespace Job

def parts (extra : Json → Prop) (job : Job) : List Part := [
  .only "url" (.string job.url),
  .only "method" (.string job.method.name),
  .only "content_type" (.string job.contentType.name),
  .only "accept_type" (.string job.acceptType.name),
  ⟨"custom_headers", IsListOf (Pair.IsShown extra) job.headers⟩,
  ⟨"body_params", IsListOf (Pair.IsShown extra) job.params⟩,
  .only "timeout_secs" (.nat job.timeoutSeconds),
  .only "authentication_key" (.ofText? job.authenticationKey),
  .only "valid_response_codes" (.string job.acceptedCodes),
  .only "valid_response_content" (.ofText? job.requiredContent),
  .only "console_log_response_body" (.bool job.logBody),
  .only "capture_body" (.bool job.captureBody),
  .only "output_file" (.ofText? job.outputFile),
  .only "max_body_bytes" (.nat job.maxBodyBytes)]

def partly (job : Job) (given : String → Bool) : Job where
  url := if given "url" then job.url else ""
  method := if given "method" then job.method else .get
  contentType := if given "content_type" then job.contentType else .notSet
  acceptType := if given "accept_type" then job.acceptType else .notSet
  headers := if given "custom_headers" then job.headers else []
  params := if given "body_params" then job.params else []
  timeoutSeconds := if given "timeout_secs" then job.timeoutSeconds else 0
  authenticationKey := if given "authentication_key" then job.authenticationKey else none
  acceptedCodes := if given "valid_response_codes" then job.acceptedCodes else defaultAcceptedCodes
  requiredContent := if given "valid_response_content" then job.requiredContent else none
  logBody := if given "console_log_response_body" then job.logBody else false
  captureBody := if given "capture_body" then job.captureBody else true
  outputFile := if given "output_file" then job.outputFile else none
  maxBodyBytes := if given "max_body_bytes" then job.maxBodyBytes else 0

structure Fits (job : Job) : Prop where
  timeout : job.timeoutSeconds < 2 ^ 64
  limit : job.maxBodyBytes < 2 ^ 64

theorem distinct_parts (job : Job) : ((job.parts extra).map Part.name).Nodup :=
  show ["url", "method", "content_type", "accept_type", "custom_headers", "body_params",
    "timeout_secs", "authentication_key", "valid_response_codes", "valid_response_content",
    "console_log_response_body", "capture_body", "output_file", "max_body_bytes"].Nodup by decide

theorem takes {job : Job} (fits : job.Fits)
    (passed : ∀ value, extra value → value.reading.passFlaw? = none) (source : Source) :
    shape.Takes source (job.parts extra) job.partly where
  start := rfl
  distinct := distinct_parts job
  each :=
    have pairs (pairs : List Pair) (value : Json) (shown : value.IsListOf (Pair.IsShown extra) pairs) :
        Pair.decodeList source value.reading = .ok pairs :=
      Decode.list_of_isListOf (Pair.decode_of_isShown passed source) shown
    .cons (Field.of_takes rfl fun given => by simp [partly]) <|
    .cons (Field.by_takes_only (Decode.variant_method source _) fun given => by simp [partly]) <|
    .cons (Field.by_takes_only (Decode.variant_media source _) fun given => by simp [partly]) <|
    .cons (Field.by_takes_only (Decode.variant_media source _) fun given => by simp [partly]) <|
    .cons (Field.by_takes (pairs job.headers) fun given => by simp [partly]) <|
    .cons (Field.by_takes (pairs job.params) fun given => by simp [partly]) <|
    .cons (Field.of_takes (Decode.natural_nat fits.timeout) fun given => by simp [partly]) <|
    .cons (Field.of_takes (Decode.optional_ofText? _ _) fun given => by simp [partly]) <|
    .cons (Field.of_takes rfl fun given => by simp [partly]) <|
    .cons (Field.of_takes (Decode.optional_ofText? _ _) fun given => by simp [partly]) <|
    .cons (Field.of_takes rfl fun given => by simp [partly]) <|
    .cons (Field.of_takes rfl fun given => by simp [partly]) <|
    .cons (Field.of_takes (Decode.optional_ofText? _ _) fun given => by simp [partly]) <|
    .cons (Field.of_takes (Decode.natural_nat fits.limit) fun given => by simp [partly]) .nil

theorem isWhole_of_isRecord (whole : ∀ value, extra value → value.IsWhole) {job : Job}
    {needed : List String} {json : Json} (shown : json.IsRecord extra (job.parts extra) needed) :
    json.IsWhole := by
  have pairs (pairs : List Pair) (value : Json) (shown : value.IsListOf (Pair.IsShown extra) pairs) :
      value.IsWhole := shown.isWhole (Pair.isWhole_of_isShown whole)
  refine shown.isWhole ?_ whole
  simp only [parts, Part.only, List.forall_mem_cons, List.not_mem_nil, false_implies, implies_true,
    forall_eq, and_true]
  exact ⟨.string _, .string _, .string _, .string _, pairs job.headers, pairs job.params, .natural _,
    Json.isWhole_ofText? _, .string _, Json.isWhole_ofText? _, .bool _, .bool _,
    Json.isWhole_ofText? _, .natural _⟩

/-- A job is decoded from the text of each document of it that has what is not as at the start. -/
theorem decodeText_of_isRecord {job : Job} (fits : job.Fits) {needed : List String}
    (url : "url" ∈ needed) (known : ∀ name ∈ needed, name ∈ (job.parts IsPlain).map Part.name)
    (full : ∀ given : String → Bool, (∀ name ∈ needed, given name = true) → job.partly given = job)
    {json : Json} (shown : json.IsRecord IsPlain (job.parts IsPlain) needed) :
    decodeText decode json.text = .ok job := by
  have passed (value : Json) (plain : IsPlain value) : value.reading.passFlaw? = none :=
    plain.passFlaw?
  rw [decodeText_text (isWhole_of_isRecord (fun _ plain => plain.isWhole) shown)]
  refine Shape.decode_of_isRecord (takes fits passed .text) passed ?_ known full shown
  simpa [shape, Field.of, Field.by] using url

theorem isRecord_toJson (extra : Json → Prop) (job : Job) :
    job.toJson.IsRecord extra (job.parts extra) ((job.parts extra).map Part.name) := by
  have pairs := Json.isListOf_map (Pair.isShown_toJson extra)
  refine ⟨_, rfl, Json.isDocument_of_forall₂ (distinct_parts job) (fun _ => id) ?_⟩
  exact .cons ⟨rfl, rfl⟩ <| .cons ⟨rfl, rfl⟩ <| .cons ⟨rfl, rfl⟩ <| .cons ⟨rfl, rfl⟩ <|
    .cons ⟨rfl, pairs job.headers⟩ <| .cons ⟨rfl, pairs job.params⟩ <| .cons ⟨rfl, rfl⟩ <|
    .cons ⟨rfl, rfl⟩ <| .cons ⟨rfl, rfl⟩ <| .cons ⟨rfl, rfl⟩ <| .cons ⟨rfl, rfl⟩ <|
    .cons ⟨rfl, rfl⟩ <| .cons ⟨rfl, rfl⟩ <| .cons ⟨rfl, rfl⟩ .nil

/-! ### Jobs as they are written -/

def Edit.field : Edit → String
  | .method _ => "method"
  | .contentType _ => "content_type"
  | .acceptType _ => "accept_type"
  | .header _ _ => "custom_headers"
  | .param _ _ => "body_params"
  | .timeoutSeconds _ => "timeout_secs"
  | .authentication _ => "authentication_key"
  | .acceptedCodes _ => "valid_response_codes"
  | .requiredContent _ => "valid_response_content"
  | .logBody _ => "console_log_response_body"
  | .captureBody _ => "capture_body"
  | .outputFile _ => "output_file"
  | .maxBodyBytes _ => "max_body_bytes"

def Edit.Fits : Edit → Prop
  | .timeoutSeconds seconds => seconds < 2 ^ 64
  | .maxBodyBytes limit => limit < 2 ^ 64
  | _ => True

/-- The job of some edits: headers and parameters are those that were added, in order, and every
other field is what was set last, or its default. -/
structure IsBuilt (url : String) (edits : List Edit) (job : Job) : Prop where
  url : job.url = url
  method : job.method = (edits.filterMap fun
    | .method method => some method
    | _ => none).getLastD .get
  contentType : job.contentType = (edits.filterMap fun
    | .contentType media => some media
    | _ => none).getLastD .notSet
  acceptType : job.acceptType = (edits.filterMap fun
    | .acceptType media => some media
    | _ => none).getLastD .notSet
  headers : job.headers = edits.filterMap fun
    | .header name value => some ⟨name, value⟩
    | _ => none
  params : job.params = edits.filterMap fun
    | .param name value => some ⟨name, value⟩
    | _ => none
  timeoutSeconds : job.timeoutSeconds = (edits.filterMap fun
    | .timeoutSeconds seconds => some seconds
    | _ => none).getLastD 0
  authenticationKey : job.authenticationKey = (edits.filterMap fun
    | .authentication key => some (some key)
    | _ => none).getLastD none
  acceptedCodes : job.acceptedCodes = (edits.filterMap fun
    | .acceptedCodes codes => some codes
    | _ => none).getLastD "100:399"
  requiredContent : job.requiredContent = (edits.filterMap fun
    | .requiredContent content => some (some content)
    | _ => none).getLastD none
  logBody : job.logBody = (edits.filterMap fun
    | .logBody enabled => some enabled
    | _ => none).getLastD false
  captureBody : job.captureBody = (edits.filterMap fun
    | .captureBody enabled => some enabled
    | _ => none).getLastD true
  outputFile : job.outputFile = (edits.filterMap fun
    | .outputFile path => some (some path)
    | _ => none).getLastD none
  maxBodyBytes : job.maxBodyBytes = (edits.filterMap fun
    | .maxBodyBytes limit => some limit
    | _ => none).getLastD 0

section Edits

variable {β : Type} (get : Job → β)

theorem foldl_edit_last {pick : Edit → Option β}
    (sets : ∀ (job : Job) (edit : Edit), get (job.edit edit) = (pick edit).getD (get job))
    (job : Job) (edits : List Edit) :
    get (edits.foldl edit job) = (edits.filterMap pick).getLastD (get job) := by
  induction edits generalizing job with
  | nil => rfl
  | cons first rest ih =>
    rw [List.foldl_cons, ih, sets]
    cases picked : pick first with
    | none => rw [List.filterMap_cons_none picked, Option.getD_none]
    | some value => rw [List.filterMap_cons_some picked, List.getLastD_cons, Option.getD_some]

theorem foldl_edit_all (get : Job → List β) {pick : Edit → Option β}
    (adds : ∀ (job : Job) (edit : Edit), get (job.edit edit) = get job ++ (pick edit).toList)
    (job : Job) (edits : List Edit) :
    get (edits.foldl edit job) = get job ++ edits.filterMap pick := by
  induction edits generalizing job with
  | nil => rw [List.foldl_nil, List.filterMap_nil, List.append_nil]
  | cons first rest ih =>
    rw [List.foldl_cons, ih, adds, List.append_assoc]
    cases picked : pick first with
    | none => rw [List.filterMap_cons_none picked, Option.toList_none, List.nil_append]
    | some value => rw [List.filterMap_cons_some picked, Option.toList_some, List.singleton_append]

theorem foldl_edit_untouched {name : String}
    (keeps : ∀ (job : Job) (edit : Edit), edit.field ≠ name → get (job.edit edit) = get job)
    (job : Job) {edits : List Edit} (untouched : name ∉ edits.map Edit.field) :
    get (edits.foldl edit job) = get job := by
  induction edits generalizing job with
  | nil => rfl
  | cons first rest ih =>
    rw [List.map_cons, List.mem_cons, not_or] at untouched
    rw [List.foldl_cons, ih _ untouched.2, keeps job first (Ne.symm untouched.1)]

end Edits

theorem url_not_mem_fields (edits : List Edit) : "url" ∉ edits.map Edit.field := by
  rw [List.mem_map]
  rintro ⟨edit, _, same⟩
  cases edit <;> simp [Edit.field] at same

theorem isBuilt_build (url : String) (edits : List Edit) : IsBuilt url edits (build url edits) where
  url := foldl_edit_untouched Job.url (fun _ edit _ => by cases edit <;> rfl) _
    (url_not_mem_fields edits)
  method := foldl_edit_last Job.method (fun _ edit => by cases edit <;> rfl) _ edits
  contentType := foldl_edit_last Job.contentType (fun _ edit => by cases edit <;> rfl) _ edits
  acceptType := foldl_edit_last Job.acceptType (fun _ edit => by cases edit <;> rfl) _ edits
  headers := foldl_edit_all Job.headers (fun _ edit => by cases edit <;> simp [edit]) _ edits
  params := foldl_edit_all Job.params (fun _ edit => by cases edit <;> simp [edit]) _ edits
  timeoutSeconds := foldl_edit_last Job.timeoutSeconds (fun _ edit => by cases edit <;> rfl) _ edits
  authenticationKey :=
    foldl_edit_last Job.authenticationKey (fun _ edit => by cases edit <;> rfl) _ edits
  acceptedCodes := foldl_edit_last Job.acceptedCodes (fun _ edit => by cases edit <;> rfl) _ edits
  requiredContent := foldl_edit_last Job.requiredContent (fun _ edit => by cases edit <;> rfl) _ edits
  logBody := foldl_edit_last Job.logBody (fun _ edit => by cases edit <;> rfl) _ edits
  captureBody := foldl_edit_last Job.captureBody (fun _ edit => by cases edit <;> rfl) _ edits
  outputFile := foldl_edit_last Job.outputFile (fun _ edit => by cases edit <;> rfl) _ edits
  maxBodyBytes := foldl_edit_last Job.maxBodyBytes (fun _ edit => by cases edit <;> rfl) _ edits

theorem fits_build (url : String) {edits : List Edit} (fits : ∀ edit ∈ edits, edit.Fits) :
    (build url edits).Fits := by
  have start : ({ url } : Job).Fits := ⟨Nat.two_pow_pos 64, Nat.two_pow_pos 64⟩
  refine List.foldlRecOn edits Job.edit start ?_
  intro job small edit member
  have fit := fits edit member
  cases edit with
  | timeoutSeconds seconds => exact ⟨fit, small.limit⟩
  | maxBodyBytes limit => exact ⟨small.timeout, fit⟩
  | _ => exact ⟨small.timeout, small.limit⟩

/-- What is not touched is as at the start, so a document need not have it. -/
theorem partly_build (url : String) (edits : List Edit) {given : String → Bool}
    (all : ∀ name ∈ "url" :: edits.map Edit.field, given name = true) :
    (build url edits).partly given = build url edits := by
  have kept {β : Type} (get : Job → β) (name : String)
      (keeps : ∀ (job : Job) (edit : Edit), edit.field ≠ name → get (job.edit edit) = get job) :
      (if given name then get (build url edits) else get { url }) = get (build url edits) := by
    refine given_or_default fun other => ?_
    by_cases touched : name ∈ edits.map Edit.field
    · exact all name (List.mem_cons_of_mem _ touched)
    · exact absurd (foldl_edit_untouched get keeps { url } touched) other
  have url : (if given "url" then (build url edits).url else "") = (build url edits).url := by
    rw [if_pos (all "url" List.mem_cons_self)]
  refine (Job.mk.injEq ..).mpr ⟨url, kept Job.method "method" ?_,
    kept Job.contentType "content_type" ?_,
    kept Job.acceptType "accept_type" ?_,
    kept Job.headers "custom_headers" ?_,
    kept Job.params "body_params" ?_,
    kept Job.timeoutSeconds "timeout_secs" ?_,
    kept Job.authenticationKey "authentication_key" ?_,
    kept Job.acceptedCodes "valid_response_codes" ?_,
    kept Job.requiredContent "valid_response_content" ?_,
    kept Job.logBody "console_log_response_body" ?_,
    kept Job.captureBody "capture_body" ?_,
    kept Job.outputFile "output_file" ?_,
    kept Job.maxBodyBytes "max_body_bytes" ?_⟩
  all_goals
    intro _ edit other
    cases edit <;> first | rfl | exact absurd rfl other

/-- A document needs to have only the URL and what was touched: any such document, with fields that
were not touched or not, is decoded into the job that was written; and so is, for every job, the
document that has all fields. -/
theorem decode_documents :
    (∀ (url : String) (edits : List Edit), (∀ edit ∈ edits, edit.Fits) →
      IsBuilt url edits (build url edits) ∧
      ∀ json : Json, json.IsRecord IsPlain ((build url edits).parts IsPlain)
          ("url" :: edits.map Edit.field) →
        decodeText decode json.text = .ok (build url edits)) ∧
    ∀ job : Job, job.Fits → decodeText decode job.toJson.text = .ok job := by
  refine ⟨fun url edits fits => ⟨isBuilt_build url edits, fun json shown => ?_⟩, fun job fits => ?_⟩
  · refine decodeText_of_isRecord (fits_build url fits) List.mem_cons_self ?_ ?_ shown
    · intro name member
      rcases List.mem_cons.mp member with rfl | touched
      · simp [parts, Part.only]
      · obtain ⟨edit, _, rfl⟩ := List.mem_map.mp touched
        cases edit <;> simp [parts, Part.only, Edit.field]
    · intro given all
      exact partly_build url edits all
  · refine decodeText_of_isRecord fits ?_ (fun _ => id) ?_ (isRecord_toJson IsPlain job)
    · simp [parts, Part.only]
    · intro given all
      simp [parts, Part.only] at all
      simp [partly, all]

def visit : List Edit :=
  [.method .post, .header "x" "a\"\u0007", .timeoutSeconds (2 ^ 64 - 1), .method .put]

def visitDocument : Json := .object [
  ("note", .number (.negative 1000000000000000000000000000000)),
  ("capture_body", .bool true),
  ("custom_headers", .array [.object [("value", .string "a\"\u0007"), ("name", .string "x")]]),
  ("method", .string "PUT"),
  ("Method", .null),
  ("url", .string "http://hall.example/"),
  ("timeout_secs", .nat (2 ^ 64 - 1))]

theorem visit_decoded :
    (∀ edit ∈ visit, edit.Fits) ∧
    visitDocument.IsRecord IsPlain ((build "http://hall.example/" visit).parts IsPlain)
      ("url" :: visit.map Edit.field) ∧
    (build "http://hall.example/" visit).method = .put ∧
    decodeText decode visitDocument.text = .ok (build "http://hall.example/" visit) ∧
    decodeText decode (build "http://hall.example/" visit).toJson.text =
      .ok (build "http://hall.example/" visit) := by
  have fits : ∀ edit ∈ visit, edit.Fits := by simp [visit, Edit.Fits]
  have header : (Json.array [.object [("value", .string "a\"\u0007"), ("name", .string "x")]]).IsListOf
      (Pair.IsShown IsPlain) [⟨"x", "a\"\u0007"⟩] :=
    ⟨_, rfl, .cons ⟨_, rfl, by decide, by decide, by simp [Pair.parts, Part.only]⟩ .nil⟩
  have shown : visitDocument.IsRecord IsPlain ((build "http://hall.example/" visit).parts IsPlain)
      ("url" :: visit.map Edit.field) := by
    refine ⟨_, rfl, by decide, by decide, ?_⟩
    simpa [parts, Part.only, build, edit, visit, Method.name] using
      And.intro (IsPlain.negative 1000000000000000000000000000000) (And.intro header IsPlain.null)
  have built := decode_documents.1 "http://hall.example/" visit fits
  exact ⟨fits, shown, built.1.method, built.2 visitDocument shown,
    decode_documents.2 _ (fits_build _ fits)⟩

end Job
end Courier
