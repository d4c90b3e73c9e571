import Courier.Proofs.Executor.Choice
import Courier.Proofs.Executor.Limit
import Courier.Proofs.Executor.Precedence
import Courier.Proofs.Executor.Target
import Courier.Proofs.Status.Grammar
/-! What the console is told. The lines of a run depend on how far it gets: nothing is told of a job
whose accepted codes are no ranges; of any other its method and URL, then what it sends once all of that
is known, then what becomes of the body once it is there, and last which range holds the status. -/

namespace Courier

def RangeSet.FirstHolds (set : RangeSet) (status : Nat) (range : StatusRange) : Prop :=
  ∃ before after, set.ranges = before ++ range :: after ∧
    (range.low ≤ status ∧ status ≤ range.high) ∧
    ∀ earlier ∈ before, ¬(earlier.low ≤ status ∧ status ≤ earlier.high)

namespace Executor

/-! ### The lines -/

def heading (job : Job) : List String := ["HttpMode: " ++ job.method.name, "URL: " ++ job.url]

def notices (job : Job) (entry : Option Authentication) : List String :=
  job.contentType.value?.toList.map (fun value => "Content-type: " ++ value) ++
    job.acceptType.value?.toList.map (fun value => "Accept: " ++ value) ++
    job.headers.map (fun header => header.name ++ ": " ++ header.value) ++
    entry.toList.map fun entry => "Using authentication: " ++ entry.key

def bodyNotices (job : Job) (raw : List UInt8) : List String :=
  (if job.logBody = true then ["Response: \n" ++ Utf8.lossyText raw] else []) ++
    job.outputFile.toList.map fun path => "Saving response to " ++ path

/-! ### The stages -/

/-- Whether a job logs in with this entry: none if its key is blank or missing, and otherwise the entry
of its key. -/
inductive Chooses (registry : Registry) (job : Job) : Option Authentication → Prop where
  | nothing (blank : ∀ key, job.authenticationKey = some key → isBlankText key = true) :
      Chooses registry job none
  | entry {key : String} {entry : Authentication} (asks : job.authenticationKey = some key)
      (named : isBlankText key = false) (found : registry.lookup? key = some entry) :
      Chooses registry job (some entry)

/-- Whether all is known that a job sends: its entry and its request, whose URL can be read once more
because no label of its host became too long. -/
structure Ready (registry : Registry) (job : Job) (entry : Option Authentication) : Prop where
  chosen : Chooses registry job entry
  built : ∃ request, Request.ofJob job = .ok request
  short : ∀ error, ¬HasOverlongHost job error

def Responds (executor : Executor) (network : Network) (job : Job) (response : Response) : Prop :=
  ∃ plan session after, Executor.plan executor.registry job = .ok plan ∧
    (Session.start (job.timeout * 1000) network).prepare executor.around plan.target plan.entry =
      (.ok (), session) ∧
    session.send executor.around plan.request = (.ok response, after)

section

variable [BodyReader] {Files : Type} [FileSystem Files]

/-- Whether a job gets this response and, if it has the body read at once or asks for it, these bytes
as its body. -/
structure Delivers (executor : Executor) (network : Network) (job : Job) (response : Response)
    (raw : List UInt8) : Prop where
  responds : Responds executor network job response
  read : job.captureBody = true ∨ AsksForBody job →
    BodyReader.read response.delivery job.bodyLimit = .ok raw

def Stored (files : Files) (job : Job) (raw : List UInt8) : Prop :=
  ∀ path, job.outputFile = some path → (FileSystem.write files path raw).1 = .ok ()

inductive Announces (registry : Registry) (job : Job) : List String → Prop where
  | unready (unready : ∀ entry, ¬Ready registry job entry) : Announces registry job (heading job)
  | ready {entry : Option Authentication} (ready : Ready registry job entry) :
      Announces registry job (heading job ++ notices job entry)

inductive Transcript (executor : Executor) (network : Network) (files : Files) (job : Job) :
    List String → Prop where
  | unranged {error : RangeError} (unranged : RangeSet.parse (some job.acceptedCodes) = .error error) :
      Transcript executor network files job []
  | unready {accepted : RangeSet} (ranged : RangeSet.parse (some job.acceptedCodes) = .ok accepted)
      (unready : ∀ entry, ¬Ready executor.registry job entry) :
      Transcript executor network files job (heading job)
  | undelivered {accepted : RangeSet} {entry : Option Authentication}
      (ranged : RangeSet.parse (some job.acceptedCodes) = .ok accepted)
      (ready : Ready executor.registry job entry)
      (undelivered : ∀ response raw, ¬Delivers executor network job response raw) :
      Transcript executor network files job (heading job ++ notices job entry)
  | unfinished {accepted : RangeSet} {entry : Option Authentication} {response : Response}
      {raw : List UInt8} (ranged : RangeSet.parse (some job.acceptedCodes) = .ok accepted)
      (ready : Ready executor.registry job entry)
      (delivers : Delivers executor network job response raw)
      (unfinished : ¬Stored files job raw ∨ accepted.Excludes response.status) :
      Transcript executor network files job (heading job ++ notices job entry ++ bodyNotices job raw)
  | accepted {accepted : RangeSet} {entry : Option Authentication} {response : Response}
      {raw : List UInt8} {range : StatusRange}
      (ranged : RangeSet.parse (some job.acceptedCodes) = .ok accepted)
      (ready : Ready executor.registry job entry)
      (delivers : Delivers executor network job response raw) (stored : Stored files job raw)
      (first : accepted.FirstHolds response.status range) :
      Transcript executor network files job
        (heading job ++ notices job entry ++ bodyNotices job raw ++
          ["Success code from " ++ range.text])

end

/-! ### Getting ready -/

section

variable {registry : Registry} {job : Job}

theorem chooses_iff (entry : Option Authentication) :
    Chooses registry job entry ↔ authentication registry job = .ok entry := by
  constructor
  · rintro (blank | ⟨asks, named, found⟩)
    · exact (authentication_eq_none_iff registry job).mpr blank
    · exact authentication_of_named asks named found
  · intro chosen
    cases entry with
    | none => exact .nothing ((authentication_eq_none_iff registry job).mp chosen)
    | some entry =>
      unfold authentication at chosen
      split at chosen
      · cases chosen
      next key asked =>
        obtain ⟨asks, named⟩ := (authentication?_eq_some_iff key).mp asked
        split at chosen
        next found =>
          obtain rfl := Option.some.inj (Except.ok.inj chosen)
          exact .entry asks named found
        next => cases chosen

/-- A request that was built goes to a URL that can be read once more unless its host is too long. -/
theorem exists_target_iff {request : Request} (made : Request.ofJob job = .ok request) :
    (∃ target, Request.parseUrl request.url = .ok target) ↔ ∀ error, ¬HasOverlongHost job error := by
  obtain ⟨url, built, read, leads⟩ := Request.leadsTo_of_ofJob made
  have settled := (Request.isRead_of_parseUrl read).isSettled_iff
  constructor
  · rintro ⟨target, again⟩ error ⟨other, other_read, overlong, _⟩
    obtain rfl := Except.ok.inj (read.symm.trans other_read)
    rw [leads.refused fun fine => settled.mp fine overlong] at again
    cases again
  · intro short
    exact ⟨built, leads.again (settled.mpr fun overlong => short _ ⟨url, read, overlong, rfl⟩)⟩

theorem ready_iff (entry : Option Authentication) :
    Ready registry job entry ↔
      ∃ plan, Executor.plan registry job = .ok plan ∧ plan.entry = entry := by
  constructor
  · rintro ⟨chosen, ⟨request, made⟩, short⟩
    obtain ⟨target, read⟩ := (exists_target_iff made).mpr short
    exact ⟨⟨entry, request, target⟩,
      (plan_eq_ok_iff _ _ _).mpr ⟨(chooses_iff entry).mp chosen, made, read⟩, rfl⟩
  · rintro ⟨plan, planned, rfl⟩
    obtain ⟨chosen, made, read⟩ := (plan_eq_ok_iff _ _ _).mp planned
    exact ⟨(chooses_iff _).mpr chosen, ⟨_, made⟩, (exists_target_iff made).mp ⟨_, read⟩⟩

theorem planLines_eq (job : Job) (plan : Plan) : planLines job plan = notices job plan.entry := by
  have line (name : String) (media : MediaType) :
      mediaLine name media = media.value?.toList.map fun value => name ++ ": " ++ value := by
    unfold mediaLine
    cases media.value? <;> rfl
  rw [planLines, notices, line, line]
  cases plan.entry <;> rfl

end

section

variable [BodyReader] {Files : Type} [FileSystem Files]

/-! ### Getting a response -/

section

variable {executor : Executor} {network : Network} {job : Job} {plan : Plan} {response : Response}
  {session : Session} {raw : List UInt8}

theorem lines_execute_of_ready {entry : Option Authentication}
    (ready : Ready executor.registry job entry) :
    (executor.execute network job).lines = heading job ++ notices job entry := by
  obtain ⟨plan, planned, rfl⟩ := (ready_iff entry).mp ready
  simp only [execute, planned, planLines_eq, openingLines, heading]

theorem lines_execute_of_unready (unready : ∀ entry, ¬Ready executor.registry job entry) :
    (executor.execute network job).lines = heading job := by
  cases planned : Executor.plan executor.registry job with
  | error error =>
    rw [execute_of_unplanned job planned]
    rfl
  | ok plan => exact absurd ((ready_iff _).mpr ⟨plan, planned, rfl⟩) (unready plan.entry)

omit [BodyReader] in
theorem responds_iff :
    Responds executor network job response ↔
      ∃ plan session, Executor.plan executor.registry job = .ok plan ∧
        sendPlan executor.around (Session.start (job.timeout * 1000) network) plan =
          (.ok response, session) := by
  constructor
  · rintro ⟨plan, ready, after, planned, prepared, sent⟩
    exact ⟨plan, after, planned, by rw [sendPlan, prepared]; exact sent⟩
  · rintro ⟨plan, after, planned, sent⟩
    unfold sendPlan at sent
    split at sent
    · cases sent
    next ready prepared => exact ⟨plan, ready, after, planned, prepared, sent⟩

theorem capture_eq (job : Job) (request : Request) (response : Response) :
    capture job request response =
      if job.captureBody = true then
        (onItsWay job request response).read.map fun payload => captureWith response (.present payload)
      else .ok (captureWith response (.deferred (onItsWay job request response))) := by
  split
  next eager =>
    have made := capture_eager job request response
    rwa [withCapture, ← eager] at made
  next deferred =>
    have made := capture_deferred job request response
    rwa [withCapture, ← Bool.eq_false_iff.mpr deferred] at made

theorem captured_of_delivers (delivers : Delivers executor network job response raw) :
    ∃ capture, (executor.execute network job).outcome = .ok capture ∧
      capture.status = response.status ∧
      (AsksForBody job → capture.load.1 = .ok (some (.decode raw))) := by
  obtain ⟨plan, session, planned, sent⟩ := responds_iff.mp delivers.responds
  have outcome := congrArg Report.outcome (execute_of_answered job planned sent)
  have read (due : job.captureBody = true ∨ AsksForBody job) :
      (onItsWay job plan.request response).read = .ok (.decode raw) :=
    PendingBody.read_of_taken (delivers.read due)
  rw [capture_eq] at outcome
  split at outcome
  next eager =>
    rw [read (.inl eager)] at outcome
    exact ⟨_, outcome, rfl, fun _ => rfl⟩
  next =>
    refine ⟨_, outcome, rfl, fun asks => ?_⟩
    rw [load_deferred response (read (.inr asks))]

/-- A capture whose body can be read, if the job asks for it, was delivered. -/
theorem delivers_of_captured {capture : Capture}
    (captured : (executor.execute network job).outcome = .ok capture)
    (read : ∀ error, ¬Unread job capture error) :
    ∃ response raw, Delivers executor network job response raw := by
  obtain ⟨plan, response, session, planned, sent, made⟩ := exists_response_of_captured captured
  have responds := responds_iff.mpr ⟨plan, session, planned, sent⟩
  by_cases due : job.captureBody = true ∨ AsksForBody job
  · rw [capture_eq] at made
    have loaded : ∃ payload, (onItsWay job plan.request response).read = .ok payload := by
      cases loading : (onItsWay job plan.request response).read with
      | ok payload => exact ⟨payload, rfl⟩
      | error error =>
        split at made
        · rw [loading] at made
          cases made
        next deferred =>
          obtain rfl := Except.ok.inj made
          exact absurd ⟨due.resolve_left deferred, _, rfl, loading⟩ (read error)
    obtain ⟨payload, loaded⟩ := loaded
    obtain ⟨raw, taken, _⟩ := (PendingBody.read_eq_ok_iff _ _).mp loaded
    exact ⟨response, raw, responds, fun _ => taken⟩
  · exact ⟨response, [], responds, fun given => absurd given due⟩

end

/-! ### Judging it -/

section

variable {job : Job} {accepted : RangeSet} {files : Files} {capture : Capture} {raw : List UInt8}

/-- The text of a body that is logged is there, so it is never missing. -/
theorem bodyLines_eq (held : AsksForBody job → looked job capture = some (.decode raw)) :
    bodyLines job (looked job capture) = bodyNotices job raw := by
  have text : Payload.content (.decode raw) = Utf8.lossyText raw := Payload.content_decode raw
  unfold bodyLines bodyNotices
  congr 1
  · split
    next logged =>
      rw [held (.inl logged)]
      simp only [Option.elim_some, text]
    next => rfl
  · cases named : job.outputFile with
    | none => rfl
    | some path => rw [held (.inr (.inl ⟨path, named⟩))]; rfl

theorem stored_iff (held : AsksForBody job → looked job capture = some (.decode raw)) :
    Stored files job raw ↔ (save job (looked job capture) files).1 = .ok () := by
  cases named : job.outputFile with
  | none => simp [Stored, save, named]
  | some path =>
    have written : (save job (looked job capture) files).1 =
        (FileSystem.write files path raw).1.mapError (Error.output path) := by
      rw [held (.inr (.inl ⟨path, named⟩))]
      simp only [save, named, Payload.bytes_decode]
    simp only [Stored, named, Option.some.injEq, forall_eq', written, Outcome.mapError_eq_ok_iff]

omit [BodyReader] in
theorem verdict_fst (job : Job) (accepted : RangeSet) (status : Nat) (payload : Option Payload) :
    (verdict job accepted status payload).1 = accepted.matching? status := by
  unfold verdict Validation.checkStatus
  cases accepted.matching? status <;> rfl

/-- What is told of a body that is there, if it is not saved or its status is refused. -/
theorem lines_conclude_of_unfinished (read : ∀ error, ¬Unread job capture error)
    (held : AsksForBody job → looked job capture = some (.decode raw))
    (unfinished : ¬Stored files job raw ∨ accepted.Excludes capture.status) :
    (conclude job accepted capture files).2.1 = bodyNotices job raw := by
  rcases saving : save job (looked job capture) files with ⟨error | _, after⟩
  · rw [conclude_of_unsaved read saving, bodyLines_eq held]
  · have stored : Stored files job raw := (stored_iff held).mpr (by rw [saving])
    have unmatched := (accepted.matching?_eq_none_iff _).mpr
      (unfinished.resolve_left (not_not.mpr stored))
    rw [conclude_of_saved read saving, bodyLines_eq held, verdict_fst, unmatched]
    exact List.append_nil _

/-- What is told of a body that is saved with a status that is accepted, whatever its text lacks. -/
theorem lines_conclude_of_accepted (read : ∀ error, ¬Unread job capture error)
    (held : AsksForBody job → looked job capture = some (.decode raw))
    (stored : Stored files job raw) {range : StatusRange}
    (first : accepted.FirstHolds capture.status range) :
    (conclude job accepted capture files).2.1 =
      bodyNotices job raw ++ ["Success code from " ++ range.text] := by
  have saving := (stored_iff held).mp stored
  have matched := (accepted.matching?_eq_some_iff _ range).mpr first
  rw [conclude_of_saved read (Prod.ext saving rfl), bodyLines_eq held, verdict_fst, matched]
  rfl

end

/-! ### The whole -/

section

variable {executor : Executor} {network : Network} {files : Files} {job : Job}
  {entry : Option Authentication} {accepted : RangeSet} {response : Response} {raw : List UInt8}

/-- A job that is not ready, or gets no body that it asks for, is told of as when it is fetched. -/
theorem lines_perform_of_undelivered (files : Files)
    (ranged : RangeSet.parse (some job.acceptedCodes) = .ok accepted)
    (undelivered : ∀ response raw, ¬Delivers executor network job response raw) :
    (executor.perform network files job).1.lines = (executor.execute network job).lines := by
  cases captured : (executor.execute network job).outcome with
  | error error => rw [perform_of_failed files job ranged captured]
  | ok capture =>
    have unread : ∃ error, Unread job capture error := by
      by_contra read
      obtain ⟨response, raw, delivers⟩ := delivers_of_captured captured (not_exists.mp read)
      exact undelivered response raw delivers
    obtain ⟨error, unread⟩ := unread
    rw [perform_of_captured files job ranged captured, conclude_of_unread unread, List.append_nil]

/-- A body that is delivered is held against the accepted codes. -/
theorem exists_capture_of_delivers (files : Files)
    (ranged : RangeSet.parse (some job.acceptedCodes) = .ok accepted)
    (delivers : Delivers executor network job response raw) :
    ∃ capture, capture.status = response.status ∧ (∀ error, ¬Unread job capture error) ∧
      (AsksForBody job → looked job capture = some (.decode raw)) ∧
      (executor.perform network files job).1.lines =
        (executor.execute network job).lines ++ (conclude job accepted capture files).2.1 := by
  obtain ⟨capture, captured, status, loaded⟩ := captured_of_delivers delivers
  refine ⟨capture, status, ?_, ?_, ?_⟩
  · rintro error ⟨asks, fails⟩
    rw [(capture.load_eq_error_iff error).mpr fails] at loaded
    cases loaded asks
  · exact fun asks => looked_of_load ((needsBody_iff job).mpr asks) (loaded asks)
  · rw [perform_of_captured files job ranged captured]

/-- What is told of a run is what the stage that it gets to tells. -/
theorem lines_of_transcript {lines : List String}
    (told : Transcript executor network files job lines) :
    (executor.perform network files job).1.lines = lines := by
  cases told with
  | unranged unranged => rw [perform_of_unranged files job unranged]
  | unready ranged unready =>
    have undelivered : ∀ response raw, ¬Delivers executor network job response raw := by
      rintro response raw ⟨⟨plan, _, _, planned, _⟩, _⟩
      exact unready _ ((ready_iff _).mpr ⟨plan, planned, rfl⟩)
    rw [lines_perform_of_undelivered files ranged undelivered, lines_execute_of_unready unready]
  | undelivered ranged ready undelivered =>
    rw [lines_perform_of_undelivered files ranged undelivered, lines_execute_of_ready ready]
  | unfinished ranged ready delivers unfinished =>
    obtain ⟨capture, status, read, held, lines⟩ := exists_capture_of_delivers files ranged delivers
    rw [← status] at unfinished
    rw [lines, lines_execute_of_ready ready, lines_conclude_of_unfinished read held unfinished]
  | accepted ranged ready delivers stored first =>
    obtain ⟨capture, status, read, held, lines⟩ := exists_capture_of_delivers files ranged delivers
    rw [← status] at first
    rw [lines, lines_execute_of_ready ready, lines_conclude_of_accepted read held stored first,
      ← List.append_assoc]

/-- Every run gets to one of the stages. -/
theorem exists_transcript (executor : Executor) (network : Network) (files : Files) (job : Job) :
    ∃ lines, Transcript executor network files job lines := by
  cases ranged : RangeSet.parse (some job.acceptedCodes) with
  | error error => exact ⟨_, .unranged ranged⟩
  | ok accepted =>
    by_cases known : ∃ entry, Ready executor.registry job entry
    · obtain ⟨entry, ready⟩ := known
      by_cases answered : ∃ response raw, Delivers executor network job response raw
      · obtain ⟨response, raw, delivers⟩ := answered
        by_cases stored : Stored files job raw
        · cases matched : accepted.matching? response.status with
          | none =>
            have outside := (accepted.matching?_eq_none_iff _).mp matched
            exact ⟨_, .unfinished ranged ready delivers (.inr outside)⟩
          | some range =>
            have first := (accepted.matching?_eq_some_iff _ range).mp matched
            exact ⟨_, .accepted ranged ready delivers stored first⟩
        · exact ⟨_, .unfinished ranged ready delivers (.inl stored)⟩
      · exact ⟨_, .undelivered ranged ready (by simpa using answered)⟩
    · exact ⟨_, .unready ranged (not_exists.mp known)⟩

end

/-- What a run tells the console is what the stage tells that it gets to: a job that is fetched tells no
more than what is known of it, and one that is judged goes on from there. -/
theorem console_tells_stage (executor : Executor) (network : Network) (files : Files) (job : Job)
    (lines : List String) :
    ((executor.execute network job).lines = lines ↔ Announces executor.registry job lines) ∧
      ((executor.perform network files job).1.lines = lines ↔
        Transcript executor network files job lines) := by
  constructor
  · constructor
    · rintro rfl
      by_cases known : ∃ entry, Ready executor.registry job entry
      · obtain ⟨entry, ready⟩ := known
        rw [lines_execute_of_ready ready]
        exact .ready ready
      · rw [lines_execute_of_unready (not_exists.mp known)]
        exact .unready (not_exists.mp known)
    · rintro (unready | ready)
      · exact lines_execute_of_unready unready
      · exact lines_execute_of_ready ready
  · constructor
    · rintro rfl
      obtain ⟨lines, told⟩ := exists_transcript executor network files job
      rwa [lines_of_transcript told]
    · exact lines_of_transcript

end

attribute [local instance] BodyReader.strict

def meander : Job where
  url := String.ofList (Url.shown (Url.ladder 800))
  headers := [⟨"Ink", "black"⟩]

/-- It asks for no entry and its request can be built, but nothing more is told than its method and its
URL, not even its header: the URL of the request cannot be read. -/
theorem meander_tells_heading_only :
    let executor : Executor := ⟨{}, ⟨0, "c"⟩⟩
    let network := Network.scripted [.answer welcome]
    Chooses executor.registry meander none ∧
      (∃ request, Request.ofJob meander = .ok request) ∧
      (∃ accepted, RangeSet.parse (some meander.acceptedCodes) = .ok accepted) ∧
      (executor.execute network meander).lines = heading meander ∧
      (executor.perform network ({} : Folder) meander).1.lines = heading meander ∧
      "Ink: black" ∈ notices meander none ∧ heading meander ≠ heading meander ++ notices meander none := by
  intro executor network
  obtain ⟨shown, overlong⟩ := Url.isOverlong_ladder (show 800 ≤ 800 by omega) (by omega)
  have read : Request.parseUrl meander.url = .ok (Url.ofLabel (Url.ladder 800)) := shown
  have legal : ∀ error, ¬HasIllegalHeader meander error := by
    intro error illegal
    have fine : Request.headerError? meander.headers = none := by decide +kernel
    rw [(Request.headerError?_eq_some_iff _ error).mpr illegal] at fine
    cases fine
  obtain ⟨request, made, -⟩ := ofJob_of_legal read legal
  have ranged : RangeSet.parse (some meander.acceptedCodes) = .ok ⟨[⟨100, 399, by decide⟩]⟩ :=
    Outcome.eq_ok_of_toOption (by decide +kernel)
  have unready : ∀ entry, ¬Ready executor.registry meander entry :=
    fun entry ready => ready.short _ ⟨_, read, overlong, rfl⟩
  have told : "Ink: black" ∈ notices meander none := by decide +kernel
  have bare : ∀ key, meander.authenticationKey = some key → isBlankText key = true := by
    intro key asks
    cases asks
  refine ⟨.nothing bare, ⟨request, made⟩, ⟨_, ranged⟩,
    lines_execute_of_unready unready, lines_of_transcript (.unready ranged unready), told, fun same => ?_⟩
  rw [List.self_eq_append_right.mp same] at told
  cases told

end Executor
end Courier
