import Courier.Proofs.Capture.Reading
import Courier.Proofs.Session.Login
import Courier.Proofs.Validation
/-! Jobs that are judged. A judged job sends what a job that is only fetched sends, and then comes to
a verdict on the capture: its body is read if anything asks for it, saved, and held against the
accepted codes and the required text, in this order. The verdict changes nothing of the response. -/

namespace Courier.Executor

section

variable [BodyReader] {Files : Type} [FileSystem Files]

/-! ### From the fetched job to the judged one -/

section

variable {executor : Executor} {network : Network} (files : Files) (job : Job) {plan : Plan}
  {accepted : RangeSet}

theorem execute_of_unplanned {error : ConfigurationError}
    (unplanned : Executor.plan executor.registry job = .error error) :
    executor.execute network job =
      { outcome := .error (.configuration error), lines := openingLines job, traces := [],
        network } := by
  simp only [execute, unplanned]

theorem execute_of_unanswered {error : Error} {session : Session}
    (planned : Executor.plan executor.registry job = .ok plan)
    (sent : sendPlan executor.around (Session.start (job.timeout * 1000) network) plan =
      (.error error, session)) :
    executor.execute network job = {
      outcome := .error error
      lines := openingLines job ++ planLines job plan
      traces := session.wire.traces
      network := session.wire.network } := by
  simp only [execute, planned, runPlan, sent]

theorem execute_of_answered {response : Response} {session : Session}
    (planned : Executor.plan executor.registry job = .ok plan)
    (sent : sendPlan executor.around (Session.start (job.timeout * 1000) network) plan =
      (.ok response, session)) :
    executor.execute network job = {
      outcome := (capture job plan.request response).mapError Error.transport
      lines := openingLines job ++ planLines job plan
      traces := session.wire.traces
      network := session.wire.network } := by
  simp only [execute, planned, runPlan, sent]

theorem perform_of_unranged {error : RangeError}
    (unranged : RangeSet.parse (some job.acceptedCodes) = .error error) :
    executor.perform network files job =
      ({ outcome := .error (.configuration (.invalidRange error)), lines := [], traces := [],
          network }, files) := by
  simp only [perform, unranged]

theorem perform_of_failed {error : Error}
    (ranged : RangeSet.parse (some job.acceptedCodes) = .ok accepted)
    (failed : (executor.execute network job).outcome = .error error) :
    executor.perform network files job = (executor.execute network job, files) := by
  simp only [perform, ranged, failed]

theorem perform_of_captured {capture : Capture}
    (ranged : RangeSet.parse (some job.acceptedCodes) = .ok accepted)
    (captured : (executor.execute network job).outcome = .ok capture) :
    executor.perform network files job =
      ({ executor.execute network job with
          outcome := (conclude job accepted capture files).1
          lines := (executor.execute network job).lines ++
            (conclude job accepted capture files).2.1 },
        (conclude job accepted capture files).2.2) := by
  simp only [perform, ranged, captured]

end

theorem body_of_capture {job : Job} {request : Request} {response : Response} {capture : Capture}
    (made : Executor.capture job request response = .ok capture) : capture.body ≠ .absent := by
  unfold Executor.capture Capture.ofResponse at made
  dsimp only at made
  split at made
  · obtain ⟨payload, _, made⟩ := (Outcome.bind_eq_ok_iff _ _ _).mp made
    obtain rfl := Except.ok.inj made
    simp
  · obtain rfl := Except.ok.inj made
    simp

theorem exists_response_of_captured {executor : Executor} {network : Network} {job : Job}
    {capture : Capture} (captured : (executor.execute network job).outcome = .ok capture) :
    ∃ plan response session, Executor.plan executor.registry job = .ok plan ∧
      sendPlan executor.around (Session.start (job.timeout * 1000) network) plan =
        (.ok response, session) ∧
      Executor.capture job plan.request response = .ok capture := by
  cases planned : Executor.plan executor.registry job with
  | error error =>
    rw [execute_of_unplanned job planned] at captured
    cases captured
  | ok plan =>
    rcases sent : sendPlan executor.around (Session.start (job.timeout * 1000) network) plan with
      ⟨error | response, session⟩
    · rw [execute_of_unanswered job planned sent] at captured
      cases captured
    · rw [execute_of_answered job planned sent] at captured
      exact ⟨plan, response, session, rfl, sent, (Outcome.mapError_eq_ok_iff _ _ _).mp captured⟩

/-- Every capture of a job that is fetched has a body or is still to read it. -/
theorem body_of_execute {executor : Executor} {network : Network} {job : Job} {capture : Capture}
    (captured : (executor.execute network job).outcome = .ok capture) :
    capture.body ≠ .absent := by
  obtain ⟨_, _, _, _, _, made⟩ := exists_response_of_captured captured
  exact body_of_capture made

/-! ### The verdict -/

def AsksForBody (job : Job) : Prop :=
  job.logBody = true ∨ (∃ path, job.outputFile = some path) ∨
    ∃ text, job.requiredContent = some text ∧ text ≠ ""

omit [BodyReader] in
theorem needsBody_iff (job : Job) : needsBody job = true ↔ AsksForBody job := by
  simp only [needsBody, AsksForBody, Bool.or_eq_true, Option.isSome_iff_exists,
    Validation.requirement?_eq_some_iff, or_assoc]

/-- The capture that a job ends with: its body is read when something asks for it. -/
def settled (job : Job) (capture : Capture) : Capture :=
  if needsBody job then capture.load.2 else capture

/-- Whether two captures are of one response: a read of the body gives the same for both, too. -/
structure SameResponse (before after : Capture) : Prop where
  status : after.status = before.status
  headers : after.headers = before.headers
  body : after.load.1 = before.load.1

def Unread (job : Job) (capture : Capture) (error : TransportError) : Prop :=
  AsksForBody job ∧ capture.Fails error

def Unsaved (job : Job) (files : Files) (capture : Capture) (path : String) (cause : FileError) :
    Prop :=
  job.outputFile = some path ∧ ∃ payload, capture.load.1 = .ok (some payload) ∧
    (FileSystem.write files path payload.bytes).1 = .error cause

def Incomplete (job : Job) (capture : Capture) (content text : String) : Prop :=
  (∃ payload, capture.load.1 = .ok (some payload) ∧ payload.content = content) ∧
    Validation.Lacks job.requiredContent content text

/-- What a job comes to with a capture, and when: each line of the list holds only if none of those
before it does. -/
inductive Verdict (job : Job) (accepted : RangeSet) (files : Files) (capture : Capture) :
    Except Error Capture → Prop where
  | unread {error : TransportError} (unread : Unread job capture error) :
      Verdict job accepted files capture (.error (.transport error))
  | unsaved {path : String} {cause : FileError} (read : ∀ error, ¬Unread job capture error)
      (unsaved : Unsaved job files capture path cause) :
      Verdict job accepted files capture (.error (.output path cause))
  | refused (read : ∀ error, ¬Unread job capture error)
      (saved : ∀ path cause, ¬Unsaved job files capture path cause)
      (outside : accepted.Excludes capture.status) :
      Verdict job accepted files capture
        (.error (.validation (.status capture.status accepted) (settled job capture)))
  | incomplete {content text : String} (read : ∀ error, ¬Unread job capture error)
      (saved : ∀ path cause, ¬Unsaved job files capture path cause)
      (inside : ¬accepted.Excludes capture.status) (lacks : Incomplete job capture content text) :
      Verdict job accepted files capture
        (.error (.validation (.content content.length text) (settled job capture)))
  | passed (read : ∀ error, ¬Unread job capture error)
      (saved : ∀ path cause, ¬Unsaved job files capture path cause)
      (inside : ¬accepted.Excludes capture.status)
      (full : ∀ content text, ¬Incomplete job capture content text) :
      Verdict job accepted files capture (.ok (settled job capture))

section

variable {job : Job} {accepted : RangeSet} {files : Files} {capture : Capture}

theorem Unread.unique {error other : TransportError} (first : Unread job capture error)
    (second : Unread job capture other) : error = other := by
  have one := (capture.load_eq_error_iff error).mpr first.2
  have two := (capture.load_eq_error_iff other).mpr second.2
  exact Except.error.inj (one.symm.trans two)

theorem Unsaved.unique {path other : String} {cause reason : FileError}
    (first : Unsaved job files capture path cause)
    (second : Unsaved job files capture other reason) : path = other ∧ cause = reason := by
  obtain ⟨named, payload, loaded, written⟩ := first
  obtain ⟨named', payload', loaded', written'⟩ := second
  obtain rfl := Option.some.inj (named.symm.trans named')
  obtain rfl := Option.some.inj (Except.ok.inj (loaded.symm.trans loaded'))
  exact ⟨rfl, Except.error.inj (written.symm.trans written')⟩

theorem Incomplete.unique {content other text required : String}
    (first : Incomplete job capture content text)
    (second : Incomplete job capture other required) : content = other ∧ text = required := by
  obtain ⟨⟨payload, loaded, rfl⟩, asked, _⟩ := first
  obtain ⟨⟨payload', loaded', rfl⟩, asked', _⟩ := second
  obtain rfl := Option.some.inj (Except.ok.inj (loaded.symm.trans loaded'))
  exact ⟨rfl, Option.some.inj (asked.symm.trans asked')⟩

theorem Verdict.unique {outcome other : Except Error Capture}
    (first : Verdict job accepted files capture outcome)
    (second : Verdict job accepted files capture other) : outcome = other := by
  cases first with
  | unread here =>
    cases second with
    | unread there => rw [here.unique there]
    | unsaved read | refused read | incomplete read | passed read => exact absurd here (read _)
  | unsaved read here =>
    cases second with
    | unread there => exact absurd there (read _)
    | unsaved _ there =>
      obtain ⟨rfl, rfl⟩ := here.unique there
      rfl
    | refused _ saved | incomplete _ saved | passed _ saved => exact absurd here (saved _ _)
  | refused read saved outside =>
    cases second with
    | unread there => exact absurd there (read _)
    | unsaved _ there => exact absurd there (saved _ _)
    | refused => rfl
    | incomplete _ _ inside | passed _ _ inside => exact absurd outside inside
  | incomplete read saved inside here =>
    cases second with
    | unread there => exact absurd there (read _)
    | unsaved _ there => exact absurd there (saved _ _)
    | refused _ _ outside => exact absurd outside inside
    | incomplete _ _ _ there =>
      obtain ⟨rfl, rfl⟩ := here.unique there
      rfl
    | passed _ _ _ full => exact absurd here (full _ _)
  | passed read saved inside full =>
    cases second with
    | unread there => exact absurd there (read _)
    | unsaved _ there => exact absurd there (saved _ _)
    | refused _ _ outside => exact absurd outside inside
    | incomplete _ _ _ there => exact absurd there (full _ _)
    | passed => rfl

theorem sameResponse_settled (read : ∀ error, ¬Unread job capture error) :
    SameResponse capture (settled job capture) := by
  unfold settled
  split
  next needed =>
    refine ⟨capture.load_status, capture.load_headers, ?_⟩
    rcases loaded : capture.load with ⟨outcome, after⟩
    cases outcome with
    | error error =>
      have fails := (capture.load_eq_error_iff error).mp (by rw [loaded])
      exact absurd ⟨(needsBody_iff job).mp needed, fails⟩ (read error)
    | ok payload => rw [Capture.load_of_load_ok loaded]
  next => exact ⟨rfl, rfl, rfl⟩

/-! ### Coming to it -/

theorem readBody_of_unread {error : TransportError} (unread : Unread job capture error) :
    readBody job capture = (.error error, { capture with body := .absent }) := by
  simp only [readBody, (needsBody_iff job).mpr unread.1, ↓reduceIte, Capture.load_of_fails unread.2]

theorem readBody_of_read (read : ∀ error, ¬Unread job capture error) :
    readBody job capture = (.ok (), settled job capture) := by
  unfold readBody settled
  split
  next needed =>
    rcases loaded : capture.load with ⟨outcome, after⟩
    cases outcome with
    | error error =>
      have fails := (capture.load_eq_error_iff error).mp (by rw [loaded])
      exact absurd ⟨(needsBody_iff job).mp needed, fails⟩ (read error)
    | ok payload => rfl
  next => rfl

def looked (job : Job) (capture : Capture) : Option Payload :=
  if needsBody job then (settled job capture).loadQuietly.1 else none

theorem looked_of_load {payload : Option Payload} (needed : needsBody job = true)
    (loaded : capture.load.1 = .ok payload) : looked job capture = payload := by
  have again := Capture.load_of_load_ok (Prod.ext loaded rfl : capture.load = (_, _))
  simp only [looked, settled, needed, ↓reduceIte, Capture.loadQuietly, again]

theorem looked_eq (present : capture.body ≠ .absent) (read : ∀ error, ¬Unread job capture error)
    (needed : needsBody job = true) :
    ∃ payload, looked job capture = some payload ∧ capture.load.1 = .ok (some payload) := by
  cases loaded : capture.load.1 with
  | error error =>
    have fails := (capture.load_eq_error_iff error).mp loaded
    exact absurd ⟨(needsBody_iff job).mp needed, fails⟩ (read error)
  | ok payload =>
    cases payload with
    | none => exact absurd (Capture.absent_of_load_none loaded) present
    | some payload => exact ⟨payload, looked_of_load needed loaded, rfl⟩

theorem conclude_of_unread {error : TransportError} (unread : Unread job capture error) :
    conclude job accepted capture files = (.error (.transport error), [], files) := by
  rw [conclude, readBody_of_unread unread]

theorem conclude_of_unsaved {error : Error} {after : Files}
    (read : ∀ error, ¬Unread job capture error)
    (unsaved : save job (looked job capture) files = (.error error, after)) :
    conclude job accepted capture files = (.error error, bodyLines job (looked job capture), after) := by
  rw [looked] at unsaved
  simp only [conclude, readBody_of_read read, looked, unsaved]

theorem conclude_of_saved {after : Files} (read : ∀ error, ¬Unread job capture error)
    (saved : save job (looked job capture) files = (.ok (), after)) :
    conclude job accepted capture files =
      (match (verdict job accepted capture.status (looked job capture)).2 with
        | .error error => .error (.validation error (settled job capture))
        | .ok () => .ok (settled job capture),
        bodyLines job (looked job capture) ++
          verdictLines (verdict job accepted capture.status (looked job capture)).1, after) := by
  have status : (settled job capture).status = capture.status := (sameResponse_settled read).status
  rw [looked] at saved
  simp only [conclude, readBody_of_read read, looked, saved, status]
  rcases verdict job accepted capture.status
    (if needsBody job then (settled job capture).loadQuietly.1 else none) with ⟨range, _ | _⟩
  · rfl
  · rfl

theorem save_of_unsaved {path : String} {cause : FileError} (present : capture.body ≠ .absent)
    (read : ∀ error, ¬Unread job capture error) (unsaved : Unsaved job files capture path cause) :
    (save job (looked job capture) files).1 = .error (.output path cause) := by
  obtain ⟨named, payload, loaded, written⟩ := unsaved
  have needed : needsBody job = true := (needsBody_iff job).mpr (Or.inr (Or.inl ⟨path, named⟩))
  obtain ⟨shown, same, known⟩ := looked_eq present read needed
  obtain rfl := Option.some.inj (Except.ok.inj (loaded.symm.trans known))
  simp only [save, named, same, written, Except.mapError]

theorem save_of_saved (present : capture.body ≠ .absent)
    (read : ∀ error, ¬Unread job capture error)
    (saved : ∀ path cause, ¬Unsaved job files capture path cause) :
    (save job (looked job capture) files).1 = .ok () := by
  cases named : job.outputFile with
  | none => simp only [save, named]
  | some path =>
    have needed : needsBody job = true := (needsBody_iff job).mpr (Or.inr (Or.inl ⟨path, named⟩))
    obtain ⟨payload, same, loaded⟩ := looked_eq present read needed
    cases written : (FileSystem.write files path payload.bytes).1 with
    | error cause => exact absurd ⟨named, payload, loaded, written⟩ (saved path cause)
    | ok _ => simp only [save, named, same, written, Except.mapError]

theorem lacks_looked_iff (present : capture.body ≠ .absent)
    (read : ∀ error, ¬Unread job capture error) (text : String) :
    Validation.Lacks job.requiredContent ((looked job capture).elim "" Payload.content) text ↔
      Incomplete job capture ((looked job capture).elim "" Payload.content) text := by
  refine ⟨fun lacks => ⟨?_, lacks⟩, And.right⟩
  have needed : needsBody job = true :=
    (needsBody_iff job).mpr (Or.inr (Or.inr ⟨text, lacks.1, lacks.2.1⟩))
  obtain ⟨payload, same, loaded⟩ := looked_eq present read needed
  exact ⟨payload, loaded, by rw [same]; rfl⟩

/-- The verdict that a job comes to is the one whose condition holds. -/
theorem verdict_of_conclude (job : Job) (accepted : RangeSet) (files : Files)
    (present : capture.body ≠ .absent) :
    Verdict job accepted files capture (conclude job accepted capture files).1 := by
  by_cases unread : ∃ error, Unread job capture error
  · obtain ⟨error, unread⟩ := unread
    rw [conclude_of_unread unread]
    exact .unread unread
  have read : ∀ error, ¬Unread job capture error := not_exists.mp unread
  by_cases unsaved : ∃ path cause, Unsaved job files capture path cause
  · obtain ⟨path, cause, unsaved⟩ := unsaved
    have failed := save_of_unsaved present read unsaved
    rw [conclude_of_unsaved read (Prod.ext failed rfl)]
    exact .unsaved read unsaved
  have saved : ∀ path cause, ¬Unsaved job files capture path cause := by simpa using unsaved
  have written := save_of_saved present read saved
  rw [conclude_of_saved read (Prod.ext written rfl)]
  by_cases outside : accepted.Excludes capture.status
  · rw [verdict, Validation.checkStatus_of_excluded outside]
    exact .refused read saved outside
  obtain ⟨range, matched⟩ := Validation.checkStatus_of_included outside
  rw [verdict, matched]
  dsimp only
  by_cases lacking : ∃ text, Validation.Lacks job.requiredContent
      ((looked job capture).elim "" Payload.content) text
  · obtain ⟨text, lacks⟩ := lacking
    rw [Validation.checkContent_of_lacking lacks]
    exact .incomplete read saved outside ((lacks_looked_iff present read text).mp lacks)
  · have full := not_exists.mp lacking
    rw [Validation.checkContent_of_full full]
    refine .passed read saved outside fun content text incomplete => full text ?_
    -- What is required is looked at, so the content that lacks it is the one that is judged.
    obtain ⟨⟨payload, loaded, rfl⟩, lacks⟩ := incomplete
    have needed : needsBody job = true :=
      (needsBody_iff job).mpr (Or.inr (Or.inr ⟨text, lacks.1, lacks.2.1⟩))
    obtain ⟨shown, same, known⟩ := looked_eq present read needed
    obtain rfl := Option.some.inj (Except.ok.inj (loaded.symm.trans known))
    rw [same]
    exact lacks

end

/-- A judged job sends what the job sends that is only fetched and fails as that does. Otherwise it
comes to a verdict on what was captured, and what it ends with is the same response. -/
theorem perform_fetches_and_judges (executor : Executor) (network : Network) (files : Files)
    (job : Job) (accepted : RangeSet)
    (ranged : RangeSet.parse (some job.acceptedCodes) = .ok accepted) :
    let fetched := executor.execute network job
    let judged := (executor.perform network files job).1
    judged.traces = fetched.traces ∧ judged.network = fetched.network ∧
      (∀ error, fetched.outcome = .error error → judged.outcome = .error error) ∧
      ∀ capture, fetched.outcome = .ok capture →
        (∀ outcome, judged.outcome = outcome ↔ Verdict job accepted files capture outcome) ∧
          ∀ last, judged.outcome = .ok last ∨
              (∃ error, judged.outcome = .error (.validation error last)) →
            SameResponse capture last := by
  intro fetched judged
  cases outcome : fetched.outcome with
  | error error =>
    have same : judged = fetched := congrArg Prod.fst (perform_of_failed files job ranged outcome)
    rw [same]
    exact ⟨rfl, rfl, fun other failed => outcome.trans failed, by simp⟩
  | ok capture =>
    have report := congrArg Prod.fst (perform_of_captured files job ranged outcome)
    have given : judged.outcome = (conclude job accepted capture files).1 :=
      congrArg Report.outcome report
    have verdict := verdict_of_conclude job accepted files (body_of_execute outcome)
    rw [← given] at verdict
    refine ⟨congrArg (·.traces) report, congrArg (·.network) report, by simp, ?_⟩
    intro known captured
    obtain rfl := Except.ok.inj captured
    refine ⟨fun other => ⟨fun same => same ▸ verdict, verdict.unique⟩, ?_⟩
    rintro last (passed | ⟨error, refused⟩)
    · rw [passed] at verdict
      cases verdict with
      | passed read => exact sameResponse_settled read
    · rw [refused] at verdict
      cases verdict with
      | refused read => exact sameResponse_settled read
      | incomplete read => exact sameResponse_settled read

end

attribute [local instance] BodyReader.strict

def inquiry : Job where
  url := "http://[::1]/"
  requiredContent := some "well"
  captureBody := false

def evasion : Capture where
  status := 200
  headers := []
  body := .deferred ⟨.whole [0x69, 0x6C, 0x6C], "http://[::1]/", 60000, 268435456⟩

theorem incomplete_evasion : Incomplete inquiry evasion "ill" "well" := by
  refine ⟨⟨.text "ill", by decide +kernel, rfl⟩, rfl, by decide, ?_⟩
  rw [standsIn_iff]
  decide

theorem inquiry_misses_the_word :
    let network := Network.scripted [.answer ⟨200, [], .whole [0x69, 0x6C, 0x6C]⟩]
    RangeSet.parse (some inquiry.acceptedCodes) = .ok ⟨[⟨100, 399, by decide⟩]⟩ ∧
      (Executor.perform ⟨{}, ⟨0, "c"⟩⟩ network ({} : Folder) inquiry).1.outcome =
        .error (.validation (.content 3 "well") { evasion with body := .present (.text "ill") }) := by
  intro network
  have ranged : RangeSet.parse (some inquiry.acceptedCodes) = .ok ⟨[⟨100, 399, by decide⟩]⟩ :=
    Outcome.eq_ok_of_toOption (by decide +kernel)
  have captured : (Executor.execute ⟨{}, ⟨0, "c"⟩⟩ network inquiry).outcome = .ok evasion :=
    Outcome.eq_ok_of_toOption (by decide +kernel)
  obtain ⟨_, _, _, judged⟩ :=
    perform_fetches_and_judges ⟨{}, ⟨0, "c"⟩⟩ network ({} : Folder) inquiry _ ranged
  have loaded : evasion.load =
      (.ok (some (.text "ill")), { evasion with body := .present (.text "ill") }) := by
    decide +kernel
  have read : ∀ error, ¬Unread inquiry evasion error := by
    rintro error ⟨_, fails⟩
    rw [← Capture.load_eq_error_iff, loaded] at fails
    cases fails
  have saved : ∀ path cause, ¬Unsaved inquiry ({} : Folder) evasion path cause := by
    rintro path cause ⟨named, _⟩
    cases named
  have inside : ¬RangeSet.Excludes ⟨[⟨100, 399, by decide⟩]⟩ evasion.status := by
    simp [RangeSet.Excludes, evasion]
  have verdict := ((judged evasion captured).1 _).mpr
    (.incomplete read saved inside incomplete_evasion)
  have needed : needsBody inquiry = true := rfl
  rw [settled, needed, if_pos rfl, loaded] at verdict
  exact ⟨ranged, verdict⟩

end Courier.Executor
